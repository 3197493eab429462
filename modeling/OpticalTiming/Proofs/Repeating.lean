import OpticalTiming.Proofs.Sending

/-!
# Calls that take no notice of the device

An application that does not measure, and the configuration of a design, read nothing. So two runs
of such a call agree on any two benches: `Procedure.SameRuns` compares what the runs end with and
what they commit, with dispatches and times counted from the start of each run.

`Procedure.Blind` also speaks of calls in a row. One call leaves a bench that is as good as the one
it began with (`ready_afterCalls`), so every call of the row agrees with the first one.
`blind_of_delivers` derives all this from batches that are known beforehand, and
`Design.actsBlindly` is the result for both kinds of calls.
-/

namespace OpticalTiming

open Procedure

/-! ### Writes as seen from the start of a run -/

/-- An access with its dispatch and its time counted from a bench. -/
def Bench.view (bench : Bench) (a : Access) : Access :=
  { a with dispatch := a.dispatch - bench.bus.dispatches, time := a.time - bench.clock }

/-- Seen from the start, the same batches look the same on all benches. -/
theorem Bench.map_view_sent (bench : Bench) (batches : List (List (String × UInt32))) (k : Nat) :
    (Access.sent bench.clock (bench.bus.dispatches + k) batches).map bench.view =
      Access.sent 0 k batches := by
  induction batches generalizing k with
  | nil => rfl
  | cons pairs rest ih =>
    have hview : ∀ pair : String × UInt32,
        bench.view (.written (bench.bus.dispatches + k) bench.clock pair) = .written k 0 pair := by
      intro pair
      simp [Bench.view, Access.written]
    rw [Access.sent, List.map_append, List.map_map, Nat.add_assoc, ih (k + 1), Access.sent]
    exact congrArg (· ++ _) (List.map_congr_left fun pair _ => hview pair)

/-- Batches consist of writes. -/
theorem Access.exists_of_mem_sent {time number : Nat} {batches : List (List (String × UInt32))}
    {a : Access} (h : a ∈ Access.sent time number batches) :
    ∃ batch ∈ batches, ∃ pair ∈ batch, ∃ number, a = .written number time pair := by
  induction batches generalizing number with
  | nil => cases h
  | cons pairs rest ih =>
    rcases List.mem_append.mp h with hpairs | hrest
    · obtain ⟨pair, hpair, rfl⟩ := List.mem_map.mp hpairs
      exact ⟨pairs, List.mem_cons_self, pair, hpair, number, rfl⟩
    · obtain ⟨batch, hbatch, hwritten⟩ := ih hrest
      exact ⟨batch, List.mem_cons_of_mem _ hbatch, hwritten⟩

/-! ### Comparing runs -/

namespace Procedure

variable {α : Type} {p : Procedure α} {first second bench : Bench} {result : Except Error α}
  {batches : List (List (String × UInt32))}

/-- Two runs with the same end that commit the same accesses in the same dispatches, counted from
the start of each run. -/
structure SameRuns (p : Procedure α) (first second : Bench) : Prop where
  result : (p.run first).1 = (p.run second).1
  commits : (p.commits first).map first.view = (p.commits second).map second.view

/-- The bench after calls in a row, each with a token of its own. -/
def afterCalls (p : Procedure α) : List Cancellation → Bench → Bench
  | [], bench => bench
  | token :: rest, bench => p.afterCalls rest (p.run { bench with token }).2

/-- What is known of a call that cannot tell two benches apart: it ends and writes alike on both,
also when it is repeated; it reads nothing, takes no time and does not look at its token. -/
structure Blind (p : Procedure α) (first second : Bench) : Prop where
  same : p.SameRuns first second
  again : ∀ tokens token, p.SameRuns first { p.afterCalls tokens first with token }
  writes : ∀ a ∈ p.commits first, a.kind = .write
  clock : (p.run first).2.clock = first.clock
  uncancelled : (p.run first).1 ≠ .error .cancelled

theorem Delivers.map_view (h : p.Delivers result batches bench) :
    (p.commits bench).map bench.view = Access.sent 0 1 batches := by
  rw [h.commits, bench.map_view_sent]

/-- Runs that deliver the same batches agree. -/
theorem Delivers.sameRuns (h : p.Delivers result batches first)
    (h' : p.Delivers result batches second) : p.SameRuns first second where
  result := h.result_eq.trans h'.result_eq.symm
  commits := h.map_view.trans h'.map_view.symm

/-- No run changes the reading of the wall clock. -/
theorem wallClock_run (p : Procedure α) (bench : Bench) :
    (p.run bench).2.wallClock = bench.wallClock := by
  have hanswer : ∀ (bench : Bench) request,
      (bench.answer request).2.wallClock = bench.wallClock := by
    intro bench request
    cases request with
    | dispatch =>
      show bench.dispatch.2.wallClock = bench.wallClock
      rcases bench.dispatch_cases with ⟨message, -, h⟩ | ⟨-, h⟩ <;> rw [h] <;> rfl
    | wait ms =>
      show (bench.wait ms).2.wallClock = bench.wallClock
      rcases bench.wait_cases ms with h | h | ⟨deadline, h⟩ <;> rw [h]
      rfl
    | _ => rfl
  exact run_rel (R := fun bench after => after.wallClock = bench.wallClock) (fun _ => rfl)
    (fun h h' => h'.trans h) hanswer p bench

/-- Calls that deliver leave a bench on which they deliver again. -/
theorem ready_afterCalls
    (hp : ∀ bench : Bench, bench.Ready → bench.wallClock = first.wallClock →
      p.Delivers result batches bench)
    (tokens : List Cancellation) (hready : bench.Ready)
    (hwall : bench.wallClock = first.wallClock) :
    (p.afterCalls tokens bench).Ready ∧
      (p.afterCalls tokens bench).wallClock = first.wallClock := by
  induction tokens generalizing bench with
  | nil => exact ⟨hready, hwall⟩
  | cons token rest ih =>
    have hready' : Bench.Ready { bench with token } := ⟨hready.queue, hready.fault⟩
    exact ih (hp _ hready' hwall).ready ((wallClock_run p _).trans hwall)

/-- A call whose end and whose batches are known beforehand is blind. -/
theorem blind_of_delivers (hraises : Raises result)
    (hp : ∀ bench : Bench, bench.Ready → bench.wallClock = first.wallClock →
      p.Delivers result batches bench)
    (hfirst : first.Ready) (hsecond : p.Delivers result batches second) :
    p.Blind first second := by
  have hdelivers := hp first hfirst rfl
  constructor
  · exact hdelivers.sameRuns hsecond
  · intro tokens token
    obtain ⟨hready, hwall⟩ := ready_afterCalls hp tokens hfirst rfl
    have hagain : p.Delivers result batches { p.afterCalls tokens first with token } :=
      hp _ ⟨hready.queue, hready.fault⟩ hwall
    exact hdelivers.sameRuns hagain
  · intro a ha
    rw [hdelivers.commits] at ha
    obtain ⟨batch, -, pair, -, number, rfl⟩ := Access.exists_of_mem_sent ha
    rfl
  · exact hdelivers.clock
  · intro hcancelled
    have hraised := hraises .cancelled (hdelivers.result_eq.symm.trans hcancelled)
    cases hraised

/-- Looking at the wall clock first does not show in what is delivered. -/
theorem Delivers.of_wallClock {next : UtcTime → Procedure α}
    (h : (next bench.wallClock).Delivers result batches bench) :
    (wallClock >>= next).Delivers result batches bench := by
  have hrun : (wallClock >>= next).run bench = (next bench.wallClock).run bench :=
    run_bind_of_ok (run_wallClock bench) next
  have hcommits : (wallClock >>= next).commits bench = (next bench.wallClock).commits bench := by
    rw [commits_bind_of_ok (run_wallClock bench), commits_wallClock, List.nil_append]
  constructor
  · rw [hrun, h.result_eq]
  · rw [hrun]
    exact h.ready
  · rw [hrun, h.clock]
  · rw [hcommits, h.commits]

end Procedure

namespace Design

variable {first second : Bench}

/-- An application that does not measure takes no notice of the bench. -/
theorem blind_apply (design : Design) (settings : CalibrationSettings) (address : EndpointAddress)
    (delay : DelayParameters) (controlSfp : Bool) (channel? : Option MuxChannel)
    (hfirst : first.Ready) (hsecond : second.Ready) :
    ((design.calibrationWith settings).apply address delay false controlSfp channel?).Blind
      first second := by
  obtain ⟨result, batches, hraises, hdelivers⟩ :=
    (design.onlySends_apply settings address delay controlSfp channel?).delivers
  exact blind_of_delivers hraises (fun bench h _ => hdelivers bench h) hfirst
    (hdelivers second hsecond)

/-- The configuration of a design takes no notice of the bench, its wall clock apart. -/
theorem blind_configure (design : Design) (hfirst : first.Ready) (hsecond : second.Ready)
    (hwall : first.wallClock = second.wallClock) : design.configure.Blind first second := by
  obtain ⟨result, batches, hraises, hdelivers⟩ :=
    (design.onlySends_configureAt first.wallClock).delivers
  have hconfigure : ∀ bench : Bench, bench.Ready → bench.wallClock = first.wallClock →
      design.configure.Delivers result batches bench := by
    intro bench hready hbench
    rw [configure_eq]
    apply Delivers.of_wallClock
    rw [hbench]
    exact hdelivers bench hready
  exact blind_of_delivers hraises hconfigure hfirst (hconfigure second hsecond hwall.symm)

/-- No call that does not measure can tell one bench from another, but for a configuration that sees
another time on the wall clock. -/
structure ActsBlindly (design : Design) (settings : CalibrationSettings) (first second : Bench) :
    Prop where
  apply : ∀ address delay controlSfp channel?,
    ((design.calibrationWith settings).apply address delay false controlSfp channel?).Blind
      first second
  applyStored : ∀ endpoint,
    ((design.calibrationWith settings).applyStored endpoint false).Blind first second
  configure : first.wallClock = second.wallClock → design.configure.Blind first second

/-- The calls are blind wherever nothing is queued and no dispatch is to fail, whatever the registers
hold, however the device behaves, and whether a token is cancelled or not. -/
theorem actsBlindly (design : Design) (settings : CalibrationSettings) (hfirst : first.Ready)
    (hsecond : second.Ready) : design.ActsBlindly settings first second where
  apply address delay controlSfp channel? :=
    design.blind_apply settings address delay controlSfp channel? hfirst hsecond
  applyStored endpoint :=
    design.blind_apply settings endpoint.address endpoint.delay true endpoint.muxChannel hfirst
      hsecond
  configure hwall := design.blind_configure hfirst hsecond hwall

/-- What a measurement of the reference system leaves behind, with a cancelled token. -/
def leftover : Bench :=
  { ((reference.calibration.measure ⟨7⟩ true (some ⟨2⟩)).run (answering 0)).2 with
    token := { isCancelled := true } }

/-- A device that has not been used and one that has are the same to the reference system. -/
theorem actsBlindly_leftover :
    ((answering 0).Ready ∧ leftover.Ready) ∧
      reference.ActsBlindly (.ofConfig .standard) (answering 0) leftover := by
  have hunused : (answering 0).Ready := ⟨rfl, rfl⟩
  have hused : leftover.Ready := ⟨by decide +kernel, by decide +kernel⟩
  exact ⟨⟨hunused, hused⟩, actsBlindly reference _ hunused hused⟩

/-- The cancelled token does not stop an application that does not measure. -/
example : ((reference.calibration.apply ⟨7⟩ ⟨1, 2, 3⟩ false true (some ⟨2⟩)).run leftover).1 =
    .ok none := by rfl

end Design

end OpticalTiming
