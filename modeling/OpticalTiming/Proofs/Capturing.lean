import OpticalTiming.Proofs.Foretelling
import OpticalTiming.Proofs.Issuing
import OpticalTiming.Proofs.RegisterPath
import OpticalTiming.Proofs.Sparing

/-!
# What a snapshot holds

A snapshot reads a list of leaves, which may be empty or have a leaf more than once. It queues a
read for every place of the list and attempts one dispatch (`issues_snapshot`); `exchange_snapshot`
then has the values that are journaled, one for each place.

`captured_snapshot` says what they are and what becomes of them. Reads find what is upcoming for
their register, and within a block the reads of a register are those of one leaf
(`length_readsOf_fetched`), so a place finds the upcoming value that the number of places before it
with the same leaf tells (`value_eq_upcoming`). The values are stored by leaf, so the last place of
a leaf counts (`RegisterFile.get?_storeAll_of_last`), and a leaf that is not in the list has no
value (`RegisterFile.get?_storeAll_of_notMem`).
-/

namespace OpticalTiming

open Procedure

/-! ### The last of several values -/

namespace RegisterFile

/-- Storing pairs leaves the other names alone. -/
theorem get?_storeAll_of_notMem (registers : RegisterFile) {pairs : List (String × UInt32)}
    {name : String} (h : name ∉ pairs.map Prod.fst) :
    (storeAll registers pairs).get? name = registers.get? name := by
  induction pairs generalizing registers with
  | nil => rfl
  | cons pair rest ih =>
    have hne : name ≠ pair.1 := fun heq => h (heq ▸ List.mem_cons_self)
    have hrest : name ∉ rest.map Prod.fst := fun hmem => h (List.mem_cons_of_mem _ hmem)
    refine (ih (registers.set pair.1 pair.2) hrest).trans ?_
    rw [NameMap.get?_set, if_neg hne]

/-- Of several values for a name, the last one stays. -/
theorem get?_storeAll_of_last (registers : RegisterFile) (before : List (String × UInt32))
    (name : String) (value : UInt32) {after : List (String × UInt32)}
    (h : name ∉ after.map Prod.fst) :
    (storeAll registers (before ++ (name, value) :: after)).get? name = some value := by
  rw [storeAll, List.foldl_append, List.foldl_cons]
  refine (get?_storeAll_of_notMem _ h).trans ?_
  rw [NameMap.get?_set, if_pos rfl]

end RegisterFile

/-- A register that was never stored shows zero once its script is used up. -/
theorem Bus.upcoming_eq_zero {bus : Bus} {path : String} {index : Nat}
    (hnone : bus.registers.get? path = none) (hused : (bus.script path).length ≤ index) :
    bus.upcoming path index = 0 := by
  rw [upcoming, List.getElem?_eq_none hused, RegisterFile.read, hnone]
  rfl

namespace RegisterBlock

variable {block : RegisterBlock} {leaves front back : List String} {leaf : String}
  {values : List UInt32} {bench : Bench} {number time : Nat}

/-! ### The one dispatch -/

theorem issues_readAll (block : RegisterBlock) (leaves : List String) (bench : Bench) :
    (block.readAll leaves).issues bench = [] := by
  induction leaves generalizing bench with
  | nil => rfl
  | cons leaf rest ih =>
    rw [readAll, issues_bind_of_ok (block.run_read_leaf leaf bench),
      issues_bind_of_ok (block.run_readAll rest _), ih]
    rfl

theorem issues_collect (map : NameMap UInt32) (handles : List (String × Handle)) (bench : Bench) :
    (collect map handles).issues bench = [] := by
  induction handles generalizing map with
  | nil => rfl
  | cons pair rest ih =>
    rw [collect, issues_bind, issues_value, run_value]
    cases bench.bus.value pair.2 with
    | error e => rfl
    | ok value => exact ih (map.set pair.1 value)

/-- A snapshot attempts one dispatch, with a read for every place of the list. -/
theorem issues_snapshot (block : RegisterBlock) (leaves : List String) (bench : Bench) :
    (block.snapshot leaves).issues bench = [block.reading bench leaves] := by
  rw [snapshot, issues_bind_of_ok (block.run_readAll leaves bench), issues_readAll,
    List.nil_append]
  -- What follows the dispatch only looks at the handles.
  refine (issues_bind_of_nil dispatch (fun _ after => ?_) _).trans (issues_dispatch _)
  exact (issues_bind_of_nil _ (fun _ _ => rfl) after).trans (issues_collect _ _ after)

/-! ### The values of a list of leaves -/

/-- Whatever is read for a list with a leaf at some place, there is a value for this place. -/
theorem exists_values_split (h : values.length = (front ++ leaf :: back).length) :
    ∃ earlier value later, values = earlier ++ value :: later ∧
      earlier.length = front.length ∧ later.length = back.length ∧
      values[front.length]? = some value := by
  rw [List.length_append, List.length_cons] at h
  have hdrop : (values.drop front.length).length = back.length + 1 := by
    rw [List.length_drop]
    omega
  obtain ⟨value, later, hlater⟩ := List.exists_cons_of_length_eq_add_one hdrop
  refine ⟨values.take front.length, value, later, ?_, List.length_take_of_le (by omega), ?_, ?_⟩
  · rw [← hlater, List.take_append_drop]
  · rw [hlater] at hdrop
    exact Nat.succ.inj hdrop
  · rw [← List.head?_drop, hlater, List.head?_cons]

/-- A leaf of a list has a last place. -/
theorem exists_last_place (h : leaf ∈ leaves) :
    ∃ front back, leaves = front ++ leaf :: back ∧ leaf ∉ back := by
  induction leaves with
  | nil => cases h
  | cons other rest ih =>
    by_cases hrest : leaf ∈ rest
    · obtain ⟨front, back, rfl, hlast⟩ := ih hrest
      exact ⟨other :: front, back, rfl, hlast⟩
    · have hother : leaf = other := (List.mem_cons.mp h).resolve_right hrest
      exact ⟨[], rest, congrArg (· :: rest) hother.symm, hrest⟩

theorem withValues_append {earlier later : List UInt32} {value : UInt32}
    (hlength : earlier.length = front.length) :
    block.withValues (front ++ leaf :: back) (earlier ++ value :: later) =
      block.withValues front earlier ++
        (block.path leaf, value) :: block.withValues back later := by
  have hzip : (front.map block.path).length = earlier.length := by
    rw [List.length_map, hlength]
  rw [withValues, List.map_append, List.zip_append hzip]
  rfl

/-- As many reads of a register are journaled for a list of leaves as its leaf has places. -/
theorem length_readsOf_fetched (leaf : String) (h : values.length = leaves.length) :
    (Access.readsOf (block.path leaf)
      ((block.withValues leaves values).map (.fetched number time))).length =
        leaves.count leaf := by
  induction leaves generalizing values with
  | nil => rfl
  | cons other rest ih =>
    obtain ⟨value, values, rfl⟩ := List.exists_cons_of_length_eq_add_one h
    have hrest := ih (Nat.succ.inj h)
    show (Access.readsOf (block.path leaf) (.fetched number time (block.path other, value) ::
      (block.withValues rest values).map (.fetched number time))).length = _
    rw [Access.readsOf_cons, List.count_cons, ← hrest]
    by_cases hleaf : other = leaf
    · rw [if_pos ⟨rfl, congrArg block.path hleaf⟩, if_pos (beq_iff_eq.mpr hleaf), List.length_cons]
    · -- The path of another leaf is another path.
      have hpath : ¬ (Access.fetched number time (block.path other, value)).IsReadOf
          (block.path leaf) := fun hread => hleaf (block.leaf_injective hread.2)
      rw [if_neg hpath, if_neg fun heq => hleaf (beq_iff_eq.mp heq), Nat.add_zero]

/-- A place finds what is upcoming for its leaf after the reads for the places before it. -/
theorem value_eq_upcoming {bus next : Bus} {earlier later : List UInt32} {value : UInt32}
    (hlength : earlier.length = front.length)
    (h : bus.Foretold next ((block.withValues (front ++ leaf :: back)
      (earlier ++ value :: later)).map (.fetched number time))) :
    value = bus.upcoming (block.path leaf) (front.count leaf) := by
  refine h.values (block.path leaf) (front.count leaf)
    (.fetched number time (block.path leaf, value)) ?_
  -- Of the reads of the register, those before this one are for the places before this one.
  have hbefore : (Access.readsOf (block.path leaf)
      ((block.withValues front earlier).map (.fetched number time))).length = front.count leaf :=
    length_readsOf_fetched leaf hlength
  have hself : (Access.fetched number time (block.path leaf, value)).IsReadOf (block.path leaf) :=
    ⟨rfl, rfl⟩
  rw [withValues_append hlength, List.map_append, List.map_cons, Access.readsOf_append,
    Access.readsOf_cons, if_pos hself, List.getElem?_append_right (Nat.le_of_eq hbefore), hbefore,
    Nat.sub_self, List.getElem?_cons_zero]

/-- Nothing but reads is committed by a snapshot, so what they find is settled beforehand. -/
theorem found_of_commits
    (hcommits : (block.snapshot leaves).commits bench =
      (block.withValues leaves values).map (.fetched number time))
    (hlength : values.length = leaves.length) (hsplit : leaves = front ++ leaf :: back) :
    values[front.length]? = some (bench.bus.upcoming (block.path leaf) (front.count leaf)) := by
  have hreads : ∀ a ∈ (block.snapshot leaves).commits bench, a.kind = .read := by
    intro a ha
    rw [hcommits] at ha
    obtain ⟨pair, -, rfl⟩ := List.mem_map.mp ha
    rfl
  have hforetold := foretold_run hreads
  rw [hcommits] at hforetold
  subst hsplit
  obtain ⟨earlier, value, later, rfl, hearlier, -, hvalue⟩ := exists_values_split hlength
  rw [hvalue, value_eq_upcoming hearlier hforetold]

/-! ### Leaves that are left unfilled -/

theorem unfilledLeaf?_eq_none {unfilled : List String}
    (h : ∀ leaf ∈ leaves, block.path leaf ∉ unfilled) :
    block.unfilledLeaf? unfilled leaves = none :=
  List.find?_eq_none.mpr fun leaf hmem hunfilled =>
    h leaf hmem (List.contains_iff_mem.mp hunfilled)

/-- The first unfilled leaf is found. -/
theorem unfilledLeaf?_eq_some {unfilled : List String}
    (hfront : ∀ other ∈ front, block.path other ∉ unfilled) (hleaf : block.path leaf ∈ unfilled)
    (back : List String) :
    block.unfilledLeaf? unfilled (front ++ leaf :: back) = some leaf := by
  rw [unfilledLeaf?, List.find?_append]
  have hnone := unfilledLeaf?_eq_none hfront
  rw [unfilledLeaf?] at hnone
  rw [hnone, Option.none_or]
  exact List.find?_cons_of_pos (List.contains_iff_mem.mpr hleaf)

/-- A snapshot keeps the values by leaf. -/
theorem eq_of_snapshotOf_ok {unfilled : List String} {snapshot : Snapshot}
    (h : block.snapshotOf unfilled leaves values = .ok snapshot) :
    snapshot.values = RegisterFile.storeAll .empty (leaves.zip values) := by
  unfold snapshotOf at h
  split at h
  · cases h
  · cases h
    rfl

/-- The last value of a leaf stays. -/
theorem get_of_last {snapshot : Snapshot}
    (hvalues : snapshot.values =
      RegisterFile.storeAll .empty ((front ++ leaf :: back).zip values))
    (hlength : values.length = (front ++ leaf :: back).length) (hlast : leaf ∉ back) :
    ∃ value, values[front.length]? = some value ∧ snapshot.get leaf = .ok value := by
  obtain ⟨earlier, value, later, rfl, hearlier, hlater, hvalue⟩ := exists_values_split hlength
  refine ⟨value, hvalue, ?_⟩
  have hnames : leaf ∉ (back.zip later).map Prod.fst := by
    rw [List.map_fst_zip (Nat.le_of_eq hlater.symm)]
    exact hlast
  have hstored := RegisterFile.get?_storeAll_of_last .empty (front.zip earlier) leaf value hnames
  rw [List.zip_append hearlier.symm, List.zip_cons_cons] at hvalues
  rw [Snapshot.get, hvalues, hstored]

/-- A leaf that was not read has no value. -/
theorem get_of_notMem {snapshot : Snapshot}
    (hvalues : snapshot.values = RegisterFile.storeAll .empty (leaves.zip values))
    (hlength : values.length = leaves.length) (hleaf : leaf ∉ leaves) :
    snapshot.get leaf = .error (.protocol s!"register {leaf} not in snapshot") := by
  have hnames : leaf ∉ (leaves.zip values).map Prod.fst := by
    rw [List.map_fst_zip (Nat.le_of_eq hlength.symm)]
    exact hleaf
  rw [Snapshot.get, hvalues, RegisterFile.get?_storeAll_of_notMem _ hnames, NameMap.get?_empty]

/-! ### What a snapshot holds -/

/-- What is known of a snapshot whose dispatch is granted, when `values` were read for the places of
its list. -/
structure Holds (block : RegisterBlock) (leaves : List String) (bench : Bench)
    (values : List UInt32) : Prop where
  /-- There is one read for each place, in order. -/
  commits : (block.snapshot leaves).commits bench =
    (block.withValues leaves values).map (.fetched (bench.bus.dispatches + 1) bench.clock)
  length : values.length = leaves.length
  /-- A read finds what is upcoming for its register after the places before it. -/
  found : ∀ front leaf back, leaves = front ++ leaf :: back →
    values[front.length]? = some (bench.bus.upcoming (block.path leaf) (front.count leaf))
  /-- The first place whose register is left unfilled decides. -/
  unfilled : ∀ front leaf back, leaves = front ++ leaf :: back →
    (∀ other ∈ front, block.path other ∉ bench.bus.unfilled) →
    block.path leaf ∈ bench.bus.unfilled →
    ((block.snapshot leaves).run bench).1 = .error (.notDispatched (block.path leaf))
  /-- If there is no such place, there is a snapshot. -/
  filled : (∀ leaf ∈ leaves, block.path leaf ∉ bench.bus.unfilled) →
    ∃ snapshot, ((block.snapshot leaves).run bench).1 = .ok snapshot
  /-- A snapshot has for each leaf of the list the value that was read for its last place. -/
  present : ∀ snapshot, ((block.snapshot leaves).run bench).1 = .ok snapshot →
    ∀ front leaf back, leaves = front ++ leaf :: back → leaf ∉ back →
      ∃ value, values[front.length]? = some value ∧ snapshot.get leaf = .ok value
  /-- All other leaves are refused by name. -/
  absent : ∀ snapshot, ((block.snapshot leaves).run bench).1 = .ok snapshot →
    ∀ leaf, snapshot.get leaf = .error (.protocol s!"register {leaf} not in snapshot") ↔
      leaf ∉ leaves
  /-- A register that was never stored and has no script left for its last place shows zero. -/
  unknown : ∀ snapshot, ((block.snapshot leaves).run bench).1 = .ok snapshot →
    ∀ leaf ∈ leaves, bench.bus.registers.get? (block.path leaf) = none →
      (bench.bus.script (block.path leaf)).length < leaves.count leaf → snapshot.get leaf = .ok 0

/-- What is known of a snapshot on a bench. -/
structure Captured (block : RegisterBlock) (leaves : List String) (bench : Bench) : Prop where
  /-- One dispatch is attempted, whatever comes of it. -/
  attempted : (block.snapshot leaves).issues bench = [block.reading bench leaves]
  /-- If it is refused, so is the snapshot, and nothing is committed. -/
  refused : ∀ message, bench.bus.fault = some { remaining := 0, message } →
    RefusedWith (block.snapshot leaves) bench message
  granted : (∀ message, bench.bus.fault ≠ some { remaining := 0, message }) →
    ∃ values, block.Holds leaves bench values

/-- Snapshots of any leaves hold what was read last for them. -/
theorem captured_snapshot (block : RegisterBlock) (leaves : List String)
    (hidle : bench.bus.queue = []) : block.Captured leaves bench := by
  refine ⟨block.issues_snapshot leaves bench, ?refused, ?granted⟩
  case refused =>
    intro message hdue
    exact refusedWith_of_exchange (block.exchange_snapshot leaves hidle) hdue
  case granted =>
    intro hnone
    cases block.exchange_snapshot leaves hidle with
    | refused message after fault => exact absurd fault (hnone message)
    | committed result accesses after fault run dispatched commits outcome =>
      obtain ⟨values, hlength, rfl, rfl⟩ := outcome
      rw [Bus.flushed_of_queue_nil hidle, List.nil_append] at commits
      have hresult := congrArg Prod.fst run
      have hfound : ∀ front leaf back, leaves = front ++ leaf :: back → values[front.length]? =
          some (bench.bus.upcoming (block.path leaf) (front.count leaf)) :=
        fun front leaf back hsplit => found_of_commits commits hlength hsplit
      -- That a leaf is absent, or that it shows zero, is told from what its last place has.
      have hpresent : ∀ snapshot, ((block.snapshot leaves).run bench).1 = .ok snapshot →
          ∀ front leaf back, leaves = front ++ leaf :: back → leaf ∉ back →
            ∃ value, values[front.length]? = some value ∧ snapshot.get leaf = .ok value := by
        rintro snapshot hok front leaf back rfl hlast
        exact get_of_last (eq_of_snapshotOf_ok (hresult.symm.trans hok)) hlength hlast
      refine ⟨values, commits, hlength, hfound, ?unfilled, ?filled, hpresent, ?absent, ?unknown⟩
      case unfilled =>
        rintro front leaf back rfl hfront hleaf
        rw [hresult, snapshotOf, unfilledLeaf?_eq_some hfront hleaf]
      case filled =>
        intro hfilled
        rw [hresult, snapshotOf, unfilledLeaf?_eq_none hfilled]
        exact ⟨_, rfl⟩
      case absent =>
        intro snapshot hok leaf
        have hvalues := eq_of_snapshotOf_ok (hresult.symm.trans hok)
        refine ⟨fun herror hmem => ?_, get_of_notMem hvalues hlength⟩
        obtain ⟨front, back, hsplit, hlast⟩ := exists_last_place hmem
        obtain ⟨value, -, hvalue⟩ := hpresent snapshot hok front leaf back hsplit hlast
        cases hvalue.symm.trans herror
      case unknown =>
        intro snapshot hok leaf hmem hnone hscript
        obtain ⟨front, back, hsplit, hlast⟩ := exists_last_place hmem
        obtain ⟨value, hvalue, hget⟩ := hpresent snapshot hok front leaf back hsplit hlast
        rw [hfound front leaf back hsplit, Option.some.injEq] at hvalue
        have hcount : leaves.count leaf = front.count leaf + 1 := by
          rw [hsplit, List.count_append, List.count_cons_self, List.count_eq_zero.mpr hlast]
        rw [hget, ← hvalue, Bus.upcoming_eq_zero hnone (by omega)]

/-- A bench with a register that is scripted, one that is stored and one that is neither. -/
def furnished : Bench where
  bus := (({} : Bus).scriptReads "master.echo.csr.stat.rx_done" [0, 1]).setRegister
    "master.echo.csr.rx_l" 61
  wallClock := (Design.answering 0).wallClock

/-- Leaves of the echo monitor, one of them twice. -/
def echoLeaves : List String := ["csr.stat.rx_done", "csr.rx_l", "csr.stat.rx_done", "csr.rx_h"]

theorem captured_furnished : furnished.bus.queue = [] ∧
    (RegisterBlock.mk "master.echo").Captured echoLeaves furnished :=
  ⟨rfl, captured_snapshot _ _ rfl⟩

/-- The second value of the script stays, and the register that is neither shows zero. -/
example :
    ((do
      let snapshot ← (RegisterBlock.mk "master.echo").snapshot echoLeaves
      Procedure.ofExcept (["csr.stat.rx_done", "csr.rx_l", "csr.rx_h"].mapM snapshot.get)).run
        furnished).1 = .ok [1, 61, 0] := by decide

end RegisterBlock

end OpticalTiming
