import OpticalTiming.Proofs.Footprint
import OpticalTiming.Proofs.Handles
import OpticalTiming.Proofs.Replaying

/-!
# Registers that are left alone

What a register shows on a read can change in three ways: a value is stored in it, past the queue or
by a write, its reads are scripted, or the hook of another register stores a value in it. Uses of a
register space that do none of this to some registers are `SparedBy`: these may write any other
register as long as all of its hooks spare the registers in question, whatever their past
(`Hook.Spares`).

`Shows` is the invariant: the registers have certain contents and no scripts, and the only registers
that are written have sparing hooks. A write keeps which hooks there are (`reacts_commitWrite`), so
every commit keeps the invariant (`Shows.commit`), and with it every dispatch (`Shows.foldl_commit`)
and every use (`Shows.act`). As long as it holds, every read of such a register finds its content
(`Shows.nextRead_eq`), also the reads of a procedure (`Procedure.shows_run`).

A dispatch that is refused leaves all registers alone (`Procedure.registers_run`).
-/

namespace OpticalTiming

/-- Whether a hook leaves registers alone, whatever it has answered before. -/
def Hook.Spares (hook : Hook) (paths : List String) : Prop :=
  ∀ past stimulus, ∀ path ∈ paths,
    (hook past stimulus).get? path = stimulus.registers.get? path

namespace AttachedHook

/-- Hooks that answer a write remember it, and stay the same hooks otherwise. -/
theorem map_react_fireAll (value : UInt32) (hooks : List AttachedHook)
    (registers : RegisterFile) :
    (fireAll value hooks registers).1.map react = hooks.map react := by
  induction hooks generalizing registers with
  | nil => rfl
  | cons hook rest ih => exact congrArg (hook.react :: ·) (ih _)

/-- Registers that every single hook spares are spared by all of them together. -/
theorem get?_fireAll {hooks : List AttachedHook} {paths : List String} {path : String}
    (h : ∀ hook ∈ hooks, hook.react.Spares paths) (hpath : path ∈ paths) (value : UInt32)
    (registers : RegisterFile) :
    (fireAll value hooks registers).2.get? path = registers.get? path := by
  induction hooks generalizing registers with
  | nil => rfl
  | cons hook rest ih =>
    have hrest := ih (fun other hmem => h other (List.mem_cons_of_mem _ hmem))
      (hook.fire value registers).2
    exact hrest.trans (h hook List.mem_cons_self _ _ path hpath)

end AttachedHook

namespace Bus

variable {bus : Bus} {time : Nat}

/-! ### The hooks of a register -/

/-- The hooks of a register without what they remember. -/
def reacts (bus : Bus) (key : String) : List Hook := (bus.hooksOf key).map AttachedHook.react

theorem spares_of_reacts {paths : List String} {key : String}
    (h : ∀ hook ∈ bus.reacts key, hook.Spares paths) :
    ∀ hook ∈ bus.hooksOf key, hook.react.Spares paths :=
  fun hook hmem => h hook.react (List.mem_map_of_mem hmem)

/-- A write makes its hooks remember it, and attaches or removes none. -/
theorem reacts_commitWrite (bus : Bus) (time : Nat) (path : String) (value : UInt32)
    (key : String) : (bus.commitWrite time path value).reacts key = bus.reacts key := by
  rw [reacts, hooksOf_commitWrite]
  split
  case isTrue hkey => rw [AttachedHook.map_react_fireAll, hkey, reacts]
  case isFalse => rfl

theorem reacts_onWrite (bus : Bus) (path : String) (hook : Hook) (key : String) :
    (bus.onWrite path hook).reacts key =
      bus.reacts key ++ if key = path then [hook] else [] := by
  rw [reacts, hooksOf_onWrite, List.map_append]
  split <;> rfl

/-- A register that is not the written one and that the hooks of the written one spare keeps its
content. -/
theorem get?_commitWrite {paths : List String} {path key : String}
    (h : ∀ hook ∈ bus.reacts key, hook.Spares paths) (hpath : path ∈ paths) (hkey : key ∉ paths)
    (value : UInt32) :
    (bus.commitWrite time key value).registers.get? path = bus.registers.get? path := by
  have hne : path ≠ key := fun heq => hkey (heq ▸ hpath)
  refine (AttachedHook.get?_fireAll (spares_of_reacts h) hpath value _).trans ?_
  rw [NameMap.get?_set, if_neg hne]

/-! ### The invariant -/

/-- Some registers show certain contents: their reads are not scripted, and whatever is queued or
will be queued to be written has hooks that spare them. -/
structure Shows (bus : Bus) (contents : List (String × UInt32)) (written : String → Prop) :
    Prop where
  registers : ∀ pair ∈ contents, bus.registers.get? pair.1 = some pair.2
  scripts : ∀ pair ∈ contents, bus.script pair.1 = []
  queue : ∀ key value, .write key value ∈ bus.queue → written key
  apart : ∀ key, written key → key ∉ contents.map Prod.fst
  hooks : ∀ key, written key → ∀ hook ∈ bus.reacts key, hook.Spares (contents.map Prod.fst)

/-- Whether a use leaves registers alone, given which registers are written. -/
def Use.Spares (paths : List String) (written : String → Prop) : Use → Prop
  | call (.setRegister path _) => path ∉ paths
  | call (.scriptReads path _) => path ∉ paths
  | call (.onWrite path hook) => written path → hook.Spares paths
  | call (.write path _) => written path
  | _ => True

namespace Shows

variable {contents : List (String × UInt32)} {written : String → Prop}

/-- A read finds what a register shows. -/
theorem nextRead_eq (h : Shows bus contents written) {path : String} {value : UInt32}
    (hpath : (path, value) ∈ contents) : bus.nextRead path = value := by
  have hscript : bus.script path = [] := h.scripts _ hpath
  have hcontent : bus.registers.get? path = some value := h.registers _ hpath
  rw [nextRead, hscript, List.headD_nil, RegisterFile.read, hcontent, Option.getD_some]

/-- Whatever a commit carries out, the registers go on showing their contents. -/
theorem commit (h : Shows bus contents written) {queued : Queued}
    (hqueued : ∀ key value, queued = .write key value → written key) :
    Shows (commit time bus queued) contents written := by
  cases queued with
  | read path slot =>
    refine ⟨h.registers, fun pair hpair => ?_, h.queue, h.apart, h.hooks⟩
    have hscript := script_commitRead bus time path slot pair.1
    have hnone := h.scripts pair hpair
    -- A read uses up a scripted value of its own register only, and these registers have none.
    refine hscript.trans ?_
    by_cases hpath : pair.1 = path
    · rw [if_pos hpath, ← hpath, hnone, List.tail_nil]
    · rw [if_neg hpath, hnone]
  | write key value =>
    have hkey := hqueued key value rfl
    refine ⟨fun pair hpair => ?_, h.scripts, h.queue, h.apart, fun other hother => ?_⟩
    · have hpath : pair.1 ∈ contents.map Prod.fst := List.mem_map_of_mem hpair
      have hkept : (bus.commitWrite time key value).registers.get? pair.1 =
          bus.registers.get? pair.1 :=
        get?_commitWrite (h.hooks key hkey) hpath (h.apart key hkey) value
      exact hkept.trans (h.registers pair hpair)
    · have hreacts := reacts_commitWrite bus time key value other
      rw [Bus.commit, hreacts]
      exact h.hooks other hother

/-- A row of commits leaves the registers alone, and each read of one of them finds its content. -/
theorem foldl_commit {queue : List Queued} (h : Shows bus contents written)
    (hqueue : ∀ key value, .write key value ∈ queue → written key) :
    Shows (queue.foldl (Bus.commit time) bus) contents written ∧
      ∀ a ∈ entries time bus queue, a.kind = .read →
        ∀ value, (a.path, value) ∈ contents → a.value = value := by
  induction queue generalizing bus with
  | nil => exact ⟨h, fun a hmem => by cases hmem⟩
  | cons queued rest ih =>
    have hnext : Shows (Bus.commit time bus queued) contents written :=
      h.commit fun key value heq => hqueue key value (heq ▸ List.mem_cons_self)
    obtain ⟨hlast, hreads⟩ :=
      ih hnext fun key value hmem => hqueue key value (List.mem_cons_of_mem _ hmem)
    refine ⟨hlast, fun a hmem hkind value hvalue => ?_⟩
    rcases List.mem_cons.mp hmem with rfl | hlater
    · cases queued with
      | read path slot => exact h.nextRead_eq hvalue
      | write path value => cases hkind
    · exact hreads a hlater hkind value hvalue

/-- What a dispatch starts with. -/
theorem start (h : Shows bus contents written) :
    Shows { bus with queue := [], dispatches := bus.dispatches + 1 } contents written :=
  ⟨h.registers, h.scripts, fun _ _ hmem => (by cases hmem), h.apart, h.hooks⟩

theorem flush (h : Shows bus contents written) (time : Nat) :
    Shows (bus.flush time) contents written :=
  (h.start.foldl_commit h.queue).1

/-- Each read of one of the registers that a dispatch commits finds its content. -/
theorem value_eq_of_mem_flushed (h : Shows bus contents written) {a : Access}
    (ha : a ∈ bus.flushed time) (hkind : a.kind = .read) {value : UInt32}
    (hvalue : (a.path, value) ∈ contents) : a.value = value :=
  (h.start.foldl_commit h.queue).2 a ha hkind value hvalue

/-- A use that spares the registers leaves them as they are. -/
theorem act (h : Shows bus contents written) {use : Use}
    (huse : use.Spares (contents.map Prod.fst) written) :
    Shows (use.act bus) contents written := by
  -- What is stored, scripted, attached or written goes elsewhere; only a dispatch makes hooks run.
  have hpath : ∀ {pair : String × UInt32}, pair ∈ contents → pair.1 ∈ contents.map Prod.fst :=
    fun hpair => List.mem_map_of_mem hpair
  rcases use with operation | _
  · cases operation with
    | setRegister path value =>
      refine ⟨fun pair hpair => ?_, h.scripts, h.queue, h.apart, h.hooks⟩
      have hne : pair.1 ≠ path := fun heq => huse (heq ▸ hpath hpair)
      refine (NameMap.get?_set _ _ _ _).trans ?_
      rw [if_neg hne]
      exact h.registers pair hpair
    | scriptReads path values =>
      refine ⟨h.registers, fun pair hpair => ?_, h.queue, h.apart, h.hooks⟩
      have hne : pair.1 ≠ path := fun heq => huse (heq ▸ hpath hpair)
      refine (script_scriptReads bus path values pair.1).trans ?_
      rw [if_neg hne, List.append_nil]
      exact h.scripts pair hpair
    | onWrite path hook =>
      refine ⟨h.registers, h.scripts, h.queue, h.apart, fun key hkey other hmem => ?_⟩
      have hreacts : other ∈ (bus.onWrite path hook).reacts key := hmem
      rw [reacts_onWrite] at hreacts
      rcases List.mem_append.mp hreacts with hold | hnew
      · exact h.hooks key hkey other hold
      · split at hnew
        case isTrue heq =>
          rw [List.mem_singleton.mp hnew]
          exact huse (heq ▸ hkey)
        case isFalse => cases hnew
    | write key value =>
      refine ⟨h.registers, h.scripts, fun other stored hmem => ?_, h.apart, h.hooks⟩
      rcases List.mem_append.mp hmem with hold | hnew
      · exact h.queue other stored hold
      · cases List.mem_singleton.mp hnew
        exact huse
    | read path =>
      refine ⟨h.registers, h.scripts, fun other stored hmem => ?_, h.apart, h.hooks⟩
      rcases List.mem_append.mp hmem with hold | hnew
      · exact h.queue other stored hold
      · cases List.mem_singleton.mp hnew
    | dispatch time =>
      show Shows (bus.dispatch time).2 contents written
      rcases bus.dispatch_cases time with ⟨message, -, hdispatch⟩ | ⟨-, hdispatch⟩
      · rw [hdispatch]
        exact ⟨h.registers, h.scripts, fun _ _ hmem => (by cases hmem), h.apart, h.hooks⟩
      · rw [hdispatch]
        have hflush := h.flush time
        exact ⟨hflush.registers, hflush.scripts, hflush.queue, hflush.apart, hflush.hooks⟩
    | _ => exact ⟨h.registers, h.scripts, h.queue, h.apart, h.hooks⟩
  · exact ⟨h.registers, h.scripts, h.queue, h.apart, h.hooks⟩

/-- So do all uses of a history. -/
theorem foldl_act (h : Shows bus contents written) {uses : List Use}
    (huses : ∀ use ∈ uses, use.Spares (contents.map Prod.fst) written) :
    Shows (uses.foldl Use.act bus) contents written :=
  List.foldlRecOn (motive := fun next => Shows next contents written) uses Use.act h
    fun _ h use hmem => h.act (huses use hmem)

end Shows

/-! ### Uses that leave registers alone -/

/-- Whether uses of a register space leave registers alone: none of them is stored to or scripted,
and each register that is written is another one, with hooks that spare them, be it that these were
attached before or are attached in the meantime. -/
structure SparedBy (bus : Bus) (paths : List String) (uses : List Use) : Prop where
  stored : ∀ path value, .call (.setRegister path value) ∈ uses → path ∉ paths
  scripted : ∀ path values, .call (.scriptReads path values) ∈ uses → path ∉ paths
  written : ∀ key value, .call (.write key value) ∈ uses → key ∉ paths ∧
    (∀ hook ∈ bus.reacts key, hook.Spares paths) ∧
    ∀ hook, .call (.onWrite key hook) ∈ uses → hook.Spares paths

/-- Registers go on showing their contents through uses that leave them alone. -/
theorem SparedBy.shows {uses : List Use} {contents : List (String × UInt32)}
    (h : SparedBy bus (contents.map Prod.fst) uses) (hqueue : bus.queue = [])
    (hregisters : ∀ pair ∈ contents, bus.registers.get? pair.1 = some pair.2)
    (hscripts : ∀ pair ∈ contents, bus.script pair.1 = []) :
    ∃ written, Shows (uses.foldl Use.act bus) contents written := by
  -- The registers that may be written are those for which the uses have a write.
  let written : String → Prop := fun key => ∃ value, .call (.write key value) ∈ uses
  have hstart : Shows bus contents written := by
    refine ⟨hregisters, hscripts, fun key value hmem => ?_, ?_, ?_⟩
    · rw [hqueue] at hmem
      cases hmem
    · rintro key ⟨value, hmem⟩
      exact (h.written key value hmem).1
    · rintro key ⟨value, hmem⟩
      exact (h.written key value hmem).2.1
  refine ⟨written, hstart.foldl_act fun use hmem => ?_⟩
  rcases use with operation | _
  · cases operation with
    | setRegister path value => exact h.stored path value hmem
    | scriptReads path values => exact h.scripted path values hmem
    | onWrite path hook =>
      rintro ⟨value, hwrite⟩
      exact (h.written path value hwrite).2.2 hook hmem
    | write key value => exact ⟨value, hmem⟩
    | _ => trivial
  · trivial

end Bus

/-! ### Procedures -/

namespace Procedure

variable {α : Type} {bench : Bench} {contents : List (String × UInt32)} {written : String → Prop}

/-- No reply takes away what registers show, as long as no register is written but those that may
be. -/
theorem shows_answer {request : Request} (h : bench.bus.Shows contents written)
    (hrequest : ∀ key value, request = .write key value → written key) :
    (bench.answer request).2.bus.Shows contents written := by
  have hact : ∀ use : Bus.Use, use.Spares (contents.map Prod.fst) written →
      (use.act bench.bus).Shows contents written := fun use huse => h.act huse
  cases request with
  | read path => exact hact (.call (.read path)) trivial
  | write key value => exact hact (.call (.write key value)) (hrequest key value rfl)
  | dispatch =>
    show bench.dispatch.2.bus.Shows contents written
    have hdispatch := hact (.call (.dispatch bench.clock)) trivial
    have hbus : bench.dispatch.2.bus = (bench.bus.dispatch bench.clock).2 := by
      unfold Bench.dispatch
      rcases bench.bus.dispatch bench.clock with ⟨e | ⟨⟩, bus⟩ <;> rfl
    rw [hbus]
    exact hdispatch
  | wait ms =>
    show (bench.wait ms).2.bus.Shows contents written
    rw [bench.bus_wait]
    exact h
  | value handle => exact h
  | now => exact h
  | wallClock => exact h

/-- What registers show lasts through any procedure that writes no others than it may, and each read
of them that the procedure commits finds it. -/
theorem shows_run {p : Procedure α} {footprint : Footprint} (hp : p.Within footprint)
    (hwrites : ∀ key ∈ footprint.writes, written key) (h : bench.bus.Shows contents written) :
    (p.run bench).2.bus.Shows contents written ∧ ∀ a ∈ p.commits bench, a.kind = .read →
      ∀ value, (a.path, value) ∈ contents → a.value = value := by
  induction p generalizing bench with
  | done a => exact ⟨h, fun a hmem => by rw [commits_done] at hmem; cases hmem⟩
  | fail e => exact ⟨h, fun a hmem => by rw [commits_fail] at hmem; cases hmem⟩
  | ask request next ih =>
    have hnext : (bench.answer request).2.bus.Shows contents written := by
      refine shows_answer h fun key value heq => hwrites key ?_
      have hallowed := hp.1
      rw [heq] at hallowed
      exact hallowed
    obtain ⟨hlast, hreads⟩ := ih _ (hp.2 _) hnext
    refine ⟨hlast, fun a hmem hkind value hvalue => ?_⟩
    rw [commits_ask] at hmem
    rcases List.mem_append.mp hmem with hnow | hlater
    · -- What the first request commits was queued, and the registers showed their contents then.
      rcases commits_answer request bench with hnone | hflushed
      · rw [hnone] at hnow
        cases hnow
      · rw [hflushed] at hnow
        exact h.value_eq_of_mem_flushed hnow hkind hvalue
    · exact hreads a hlater hkind value hvalue

/-- Registers change in no other way than by a dispatch that is granted. -/
theorem registers_run {p : Procedure α}
    (h : (p.run bench).2.bus.dispatches = bench.bus.dispatches) :
    (p.run bench).2.bus.registers = bench.bus.registers := by
  let Steady : Bench → Bench → Prop := fun before after =>
    before.bus.dispatches ≤ after.bus.dispatches ∧
      (after.bus.dispatches = before.bus.dispatches → after.bus.registers = before.bus.registers)
  have hsteady : Steady bench (p.run bench).2 := by
    refine run_rel (fun before => ⟨Nat.le_refl _, fun _ => rfl⟩) ?trans ?answer p bench
    case trans =>
      intro first second third hfirst hsecond
      refine ⟨Nat.le_trans hfirst.1 hsecond.1, fun heq => ?_⟩
      -- The count does not go back, so it has not moved in either part.
      have hle := hfirst.1
      have hle' := hsecond.1
      exact (hsecond.2 (by omega)).trans (hfirst.2 (by omega))
    case answer =>
      intro before request
      refine ⟨(Bench.Leads.answer before request).dispatches_le, fun heq => ?_⟩
      cases request with
      | dispatch =>
        rcases before.dispatch_cases with ⟨message, -, hdispatch⟩ | ⟨-, hdispatch⟩
        · exact congrArg (fun reply => reply.2.bus.registers) hdispatch
        · have hnumber := congrArg (fun reply => reply.2.bus.dispatches) hdispatch
          have hcount : before.dispatch.2.bus.dispatches = before.bus.dispatches := heq
          rw [Bench.dispatches_dispatched] at hnumber
          omega
      | wait ms => exact congrArg Bus.registers (before.bus_wait ms)
      | _ => rfl
  exact hsteady.2 h

/-- What is known of a procedure whose only dispatch is refused. -/
structure RefusedWith (p : Procedure α) (bench : Bench) (message : String) : Prop where
  result : (p.run bench).1 = .error (.bus message)
  registers : (p.run bench).2.bus.registers = bench.bus.registers
  commits : p.commits bench = []

theorem refusedWith_of_exchange {p : Procedure α} {Outcome : Except Error α → List Access → Prop}
    (h : Exchange p bench Outcome) {message : String}
    (hdue : bench.bus.fault = some { remaining := 0, message }) : RefusedWith p bench message := by
  cases h with
  | refused other after fault run refused commits =>
    have hmessage : other = message := by
      rw [hdue] at fault
      exact (Fault.mk.inj (Option.some.inj fault)).2.symm
    refine ⟨?_, registers_run ?_, commits⟩
    · rw [run, hmessage]
    · rw [run]
      exact refused.dispatches
  | committed result accesses after fault => exact absurd hdue (fault message)

end Procedure

end OpticalTiming
