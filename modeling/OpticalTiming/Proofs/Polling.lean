import OpticalTiming.Proofs.Keeping

/-!
# Polling a register

A check that never waits takes no time (`Procedure.Instant`), so that a round of a poll takes as
long as its wait (`clock_of_round`). A poll that ends satisfied ends with a check that held,
whatever else happens on the way (`exists_check_of_satisfied`).

On a calm bench, where nothing goes wrong and nothing is cancelled, a poll of a register is known
exactly: `Looked` says which values it reads and how it ends, and `run_pollUntil_check` that it
reads them one interval apart and at most `pollLimit` of them.
-/

namespace OpticalTiming

open Procedure

/-- Reads a leaf once and tells whether its value is accepted. -/
def RegisterBlock.check (block : RegisterBlock) (leaf : String) (accept : UInt32 → Bool) :
    Procedure Bool := do
  let value ← block.fetch leaf
  pure (accept value)

theorem Stable.keeps_check {I : Bench → Prop} {E : Error → Prop} (h : Stable I E)
    (block : RegisterBlock) (leaf : String) (accept : UInt32 → Bool) :
    (block.check leaf accept).Keeps I E :=
  (h.fetch block leaf).bind fun _ => keeps_done _

/-! ### Procedures that never wait -/

namespace Procedure

variable {α β : Type}

/-- Whether a procedure never waits, whatever the replies are. -/
def Instant : Procedure α → Prop
  | done _ => True
  | fail _ => True
  | ask request next => (∀ ms, request ≠ .wait ms) ∧ ∀ reply, (next reply).Instant

theorem instant_done (a : α) : (done a).Instant := trivial

theorem instant_ofExcept (result : Except Error α) : (ofExcept result).Instant := by
  cases result <;> trivial

theorem Instant.bind {p : Procedure α} {f : α → Procedure β} (hp : p.Instant)
    (hf : ∀ a, (f a).Instant) : (p >>= f).Instant := by
  induction p with
  | done a => exact hf a
  | fail e => trivial
  | ask request next ih => exact ⟨hp.1, fun reply => ih reply (hp.2 reply)⟩

theorem sequential_instant : Sequential fun _ p => p.Instant where
  done := instant_done
  bind := Instant.bind

theorem instant_read (path : String) : (read path).Instant :=
  ⟨by rintro ms ⟨⟩, fun _ => trivial⟩

theorem instant_dispatch : dispatch.Instant :=
  ⟨by rintro ms ⟨⟩, instant_ofExcept⟩

theorem instant_value (handle : Handle) : (value handle).Instant :=
  ⟨by rintro ms ⟨⟩, instant_ofExcept⟩

theorem instant_now : now.Instant :=
  ⟨by rintro ms ⟨⟩, fun _ => trivial⟩

/-- A look at a register takes no time. -/
theorem instant_check (block : RegisterBlock) (leaf : String) (accept : UInt32 → Bool) :
    (block.check leaf accept).Instant :=
  (sequential_instant.fetch (instant_read _) instant_dispatch instant_value).bind
    fun value => instant_done (accept value)

/-- Only a wait moves the clock. -/
theorem clock_answer {request : Request} (h : ∀ ms, request ≠ .wait ms) (bench : Bench) :
    (bench.answer request).2.clock = bench.clock := by
  cases request with
  | wait ms => exact absurd rfl (h ms)
  | dispatch =>
    change bench.dispatch.2.clock = bench.clock
    rcases bench.dispatch_cases with ⟨message, -, hrun⟩ | ⟨-, hrun⟩ <;> rw [hrun]
    · rfl
    · rfl
  | _ => rfl

theorem Instant.clock_run {p : Procedure α} (h : p.Instant) (bench : Bench) :
    (p.run bench).2.clock = bench.clock := by
  induction p generalizing bench with
  | done a => rfl
  | fail e => rfl
  | ask request next ih =>
    rw [run_ask, ih _ (h.2 _), clock_answer h.1]

end Procedure

/-- A wait that ends by itself takes its whole length. -/
theorem clock_of_wait_ok {interval : Nat} {bench after : Bench}
    (h : (wait interval).run bench = (.ok (), after)) :
    after.clock = bench.clock + waitLength interval := by
  rw [run_wait] at h
  rcases bench.wait_cases interval with hw | hw | ⟨deadline, hw⟩ <;> rw [hw] at h <;> cases h
  rfl

/-- A round of a poll takes as long as its wait. -/
theorem clock_of_round {interval : Nat} {check : Procedure Bool} (hinstant : check.Instant)
    {bench waited checked : Bench} {result : Except Error Bool}
    (hwait : (wait interval).run bench = (.ok (), waited))
    (hlook : check.run waited = (result, checked)) :
    checked.clock = bench.clock + waitLength interval := by
  have hsame := hinstant.clock_run waited
  rw [hlook] at hsame
  exact hsame.trans (clock_of_wait_ok hwait)

/-! ### Rounds -/

/-- The ways in which a round of a poll can end. Only the last one leads to another round, so the
others end the poll, however many rounds were left. -/
inductive PollRound (interval timeout start : Nat) (check : Procedure Bool) (attempts : UInt32)
    (bench : Bench) : Prop
  /-- The wait is refused. -/
  | refused (e : Error) (after : Bench)
      (wait : (Procedure.wait interval).run bench = (.error e, after))
      (run : ∀ rounds, (pollRounds interval timeout start check (rounds + 1) attempts).run bench =
        (.error e, after))
      (commits : ∀ rounds,
        (pollRounds interval timeout start check (rounds + 1) attempts).commits bench = [])
  /-- The check fails, or it holds, or the timeout has passed. -/
  | ended (waited checked : Bench) (result : Except Error Bool)
      (wait : (Procedure.wait interval).run bench = (.ok (), waited))
      (look : check.run waited = (result, checked))
      (time : result = .ok false → start + timeout ≤ checked.clock)
      (run : ∀ rounds, (pollRounds interval timeout start check (rounds + 1) attempts).run bench =
        (result.map fun satisfied => { satisfied, attempts := attempts + 1 }, checked))
      (commits : ∀ rounds, (pollRounds interval timeout start check (rounds + 1) attempts).commits
        bench = check.commits waited)
  /-- The check does not hold, and there is time for another round. -/
  | next (waited checked : Bench)
      (wait : (Procedure.wait interval).run bench = (.ok (), waited))
      (look : check.run waited = (.ok false, checked))
      (time : ¬ start + timeout ≤ checked.clock)
      (run : ∀ rounds, (pollRounds interval timeout start check (rounds + 1) attempts).run bench =
        (pollRounds interval timeout start check rounds (attempts + 1)).run checked)
      (commits : ∀ rounds, (pollRounds interval timeout start check (rounds + 1) attempts).commits
        bench = check.commits waited ++
          (pollRounds interval timeout start check rounds (attempts + 1)).commits checked)

/-- A round of a poll ends in one of these ways, on any bench. -/
theorem pollRound (interval timeout start : Nat) (check : Procedure Bool) (attempts : UInt32)
    (bench : Bench) : PollRound interval timeout start check attempts bench := by
  cases hwait : (wait interval).run bench with
  | mk granted waited =>
    cases granted with
    | error e =>
      refine .refused e waited hwait (fun _ => run_bind_of_error hwait _) fun _ => ?_
      rw [pollRounds, commits_bind_of_error hwait, commits_wait]
    | ok u =>
      cases hlook : check.run waited with
      | mk result checked =>
        cases result with
        | error e =>
          refine .ended waited checked (.error e) hwait hlook (by rintro ⟨⟩) (fun _ => ?_)
            fun _ => ?_
          · rw [pollRounds, run_bind_of_ok hwait, run_bind_of_error hlook]
            rfl
          · rw [pollRounds, commits_bind_of_ok hwait, commits_bind_of_error hlook, commits_wait,
              List.nil_append]
        | ok holds =>
          cases holds with
          | true =>
            refine .ended waited checked (.ok true) hwait hlook (by rintro ⟨⟩) (fun _ => ?_)
              fun _ => ?_
            · rw [pollRounds, run_bind_of_ok hwait, run_bind_of_ok hlook, if_pos rfl]
              rfl
            · rw [pollRounds, commits_bind_of_ok hwait, commits_bind_of_ok hlook, if_pos rfl,
                commits_wait, pure_eq, commits_done, List.nil_append, List.append_nil]
          | false =>
            -- The clock decides whether the poll goes on.
            have hnow : now.run checked = (.ok checked.clock, checked) := run_now checked
            by_cases hover : start + timeout ≤ checked.clock
            · refine .ended waited checked (.ok false) hwait hlook (fun _ => hover) (fun _ => ?_)
                fun _ => ?_
              · rw [pollRounds, run_bind_of_ok hwait, run_bind_of_ok hlook,
                  if_neg Bool.false_ne_true, run_bind_of_ok hnow, if_pos hover]
                rfl
              · rw [pollRounds, commits_bind_of_ok hwait, commits_bind_of_ok hlook,
                  if_neg Bool.false_ne_true, commits_bind_of_ok hnow, if_pos hover, commits_wait,
                  commits_now, pure_eq, commits_done, List.nil_append, List.append_nil,
                  List.append_nil]
            · refine .next waited checked hwait hlook hover (fun _ => ?_) fun _ => ?_
              · rw [pollRounds, run_bind_of_ok hwait, run_bind_of_ok hlook,
                  if_neg Bool.false_ne_true, run_bind_of_ok hnow, if_neg hover]
              · rw [pollRounds, commits_bind_of_ok hwait, commits_bind_of_ok hlook,
                  if_neg Bool.false_ne_true, commits_bind_of_ok hnow, if_neg hover, commits_wait,
                  commits_now, List.nil_append, List.nil_append]

/-! ### Polls that end satisfied -/

section

variable {I : Bench → Prop} {E : Error → Prop} {interval timeout : Nat} {check : Procedure Bool}
  {bench after : Bench} {outcome : PollOutcome}

theorem exists_check_of_satisfied_rounds (hwait : (wait interval).Keeps I E)
    (hcheck : check.Keeps I E) {start rounds : Nat} {attempts : UInt32}
    (h : I bench)
    (hrun : (pollRounds interval timeout start check rounds attempts).run bench =
      (.ok outcome, after))
    (hsatisfied : outcome.satisfied = true) :
    ∃ last earlier, I last ∧ check.run last = (.ok true, after) ∧
      (pollRounds interval timeout start check rounds attempts).commits bench =
        earlier ++ check.commits last := by
  -- A poll without rounds is not satisfied, so there is a last round, and its check held.
  induction rounds generalizing bench attempts with
  | zero =>
    cases hrun
    cases hsatisfied
  | succ rounds ih =>
    cases pollRound interval timeout start check attempts bench with
    | refused e stopped wait run commits =>
      rw [run] at hrun
      cases hrun
    | ended waited checked result wait look time run commits =>
      have hwaited := (hwait bench h).1
      rw [wait] at hwaited
      rw [run] at hrun
      rw [commits]
      cases result with
      | error e => cases hrun
      | ok holds =>
        cases hrun
        obtain rfl : holds = true := hsatisfied
        exact ⟨waited, [], hwaited, look, rfl⟩
    | next waited checked wait look time run commits =>
      have hwaited := (hwait bench h).1
      rw [wait] at hwaited
      have hchecked := (hcheck waited hwaited).1
      rw [look] at hchecked
      rw [run] at hrun
      obtain ⟨last, earlier, hlast, hheld, hsplit⟩ := ih hchecked hrun
      refine ⟨last, check.commits waited ++ earlier, hlast, hheld, ?_⟩
      rw [commits, hsplit, List.append_assoc]

/-- A poll that ends satisfied ends with a check that held. -/
theorem exists_check_of_satisfied (hwait : (wait interval).Keeps I E) (hcheck : check.Keeps I E)
    (h : I bench)
    (hrun : (pollUntil interval timeout check).run bench = (.ok outcome, after))
    (hsatisfied : outcome.satisfied = true) :
    ∃ last earlier, I last ∧ check.run last = (.ok true, after) ∧
      (pollUntil interval timeout check).commits bench = earlier ++ check.commits last :=
  exists_check_of_satisfied_rounds hwait hcheck h hrun hsatisfied

end

/-- A check that holds has read a value that is accepted. -/
theorem exists_read_of_check_true {block : RegisterBlock} {leaf : String}
    {accept : UInt32 → Bool} {bench after : Bench} (hidle : bench.bus.queue = [])
    (hrun : (block.check leaf accept).run bench = (.ok true, after)) :
    ∃ a, (block.check leaf accept).commits bench = [a] ∧ a.IsReadOf (block.path leaf) ∧
      accept a.value = true := by
  obtain ⟨value, fetched, hfetch, hdone, hcommits⟩ := exists_of_run_bind_ok hrun
  have haccept : accept value = true := Except.ok.inj (congrArg Prod.fst hdone)
  cases block.exchange_fetch leaf hidle with
  | refused message _ fault run =>
    rw [run] at hfetch
    cases hfetch
  | committed result accesses _ fault run dispatched commits outcome =>
    rw [run] at hfetch
    cases hfetch
    obtain ⟨_, rfl, hresult⟩ := outcome
    split at hresult
    · cases hresult
    · cases hresult
      refine ⟨.fetched (bench.bus.dispatches + 1) bench.clock (block.path leaf, value),
        hcommits.trans ?_, ⟨rfl, rfl⟩, haccept⟩
      rw [pure_eq, commits_done, List.append_nil, commits, Bus.flushed_of_queue_nil hidle]
      rfl

/-! ### Calm benches -/

/-- A token that is not cancelled and never will be. -/
structure Cancellation.Quiet (token : Cancellation) : Prop where
  isCancelled : token.isCancelled = false
  deadline : token.deadline = none
  dispatchesLeft : token.dispatchesLeft = none ∨ token.dispatchesLeft = some 0

theorem Cancellation.Quiet.afterDispatch {token : Cancellation} (h : token.Quiet) :
    token.afterDispatch = token := by
  unfold Cancellation.afterDispatch
  rcases h.dispatchesLeft with hleft | hleft <;> rw [hleft]

/-- A bench on which nothing is arranged to go wrong and nothing will be cancelled. -/
structure Bench.Calm (bench : Bench) : Prop where
  healthy : bench.Healthy
  token : bench.token.Quiet

theorem Bench.Calm.of_dispatched {bench after : Bench} (h : bench.Calm)
    (hdispatched : bench.Dispatched after) : after.Calm where
  healthy := .of_dispatched hdispatched h.healthy.fault h.healthy.unfilled
  token := by
    rw [hdispatched.token, h.token.afterDispatch]
    exact h.token

theorem Bench.Calm.later {bench : Bench} (h : bench.Calm) (ms : Nat) :
    Bench.Calm { bench with clock := bench.clock + ms } :=
  ⟨⟨h.healthy.queue, h.healthy.fault, h.healthy.unfilled⟩, h.token⟩

/-- With a quiet token a wait only lets time pass. -/
theorem Bench.wait_of_quiet {bench : Bench} (h : bench.token.Quiet) (ms : Nat) :
    bench.wait ms = (.ok (), { bench with clock := bench.clock + waitLength ms }) := by
  unfold Bench.wait
  rw [h.isCancelled, h.deadline, if_neg Bool.false_ne_true]
  split
  case isTrue hms =>
    rw [hms]
    rfl
  case isFalse => rfl

/-- On a calm bench a wait only lets time pass. -/
theorem Bench.Calm.wait {bench : Bench} (h : bench.Calm) (ms : Nat) :
    bench.wait ms = (.ok (), { bench with clock := bench.clock + waitLength ms }) :=
  Bench.wait_of_quiet h.token ms

/-! ### Polls on calm benches -/

/-- How often a poll looks before it gives up: as often as the interval fits into the timeout,
rounded up, and at least once. -/
def pollLimit (interval timeout : Nat) : Nat :=
  max 1 ((timeout + waitLength interval - 1) / waitLength interval)

/-- A poll has looked often enough once the timeout has passed. -/
theorem pollLimit_le_iff {interval timeout n : Nat} (hinterval : 0 < interval) :
    pollLimit interval timeout ≤ n + 1 ↔ timeout ≤ (n + 1) * waitLength interval := by
  have hpos : 0 < waitLength interval := waitLength_pos hinterval
  unfold pollLimit
  rw [Nat.max_le, Nat.div_le_iff_le_mul_add_pred hpos, Nat.mul_comm]
  omega

/-- A poll that goes on after a look has not looked often enough. -/
theorem lt_pollLimit_of_not_le {interval timeout start time k : Nat} (hinterval : 0 < interval)
    (htime : time = start + (k + 1) * waitLength interval) (h : ¬ start + timeout ≤ time) :
    k + 1 < pollLimit interval timeout := by
  refine Nat.lt_of_not_le fun hle => h ?_
  have hpassed := (pollLimit_le_iff hinterval).mp hle
  omega

/-- The reads of a register in as many dispatches, each after one more step of time. -/
def Access.looks (path : String) (step : Nat) :
    (number time : Nat) → List UInt32 → List Access
  | _, _, [] => []
  | number, time, value :: rest =>
    .fetched (number + 1) (time + step) (path, value) ::
      looks path step (number + 1) (time + step) rest

/-- What a poll that looks at most `limit` times has read when it ends: all values but the last were
refused, and the last one was accepted or there were `limit` of them. -/
inductive Looked (accept : UInt32 → Bool) (limit : Nat) : List UInt32 → Bool → Prop
  | found (refused : List UInt32) (value : UInt32) (hrefused : ∀ v ∈ refused, accept v = false)
      (haccepted : accept value = true) (hlength : refused.length < limit) :
      Looked accept limit (refused ++ [value]) true
  | gaveUp (values : List UInt32) (hrefused : ∀ v ∈ values, accept v = false)
      (hlength : values.length = limit) : Looked accept limit values false

theorem Looked.cons {accept : UInt32 → Bool} {limit : Nat} {values : List UInt32} {found : Bool}
    (h : Looked accept limit values found) {value : UInt32} (hvalue : accept value = false) :
    Looked accept (limit + 1) (value :: values) found := by
  have hcons : ∀ rest : List UInt32, (∀ v ∈ rest, accept v = false) →
      ∀ v ∈ value :: rest, accept v = false := by
    intro rest hrest v hv
    rcases List.mem_cons.mp hv with rfl | hv
    · exact hvalue
    · exact hrest v hv
  cases h with
  | found refused last hrefused haccepted hlength =>
    exact .found (value :: refused) last (hcons refused hrefused) haccepted
      (Nat.succ_lt_succ hlength)
  | gaveUp values hrefused hlength =>
    exact .gaveUp (value :: values) (hcons values hrefused) (congrArg Nat.succ hlength)

theorem Looked.found_iff {accept : UInt32 → Bool} {limit : Nat} {values : List UInt32}
    {found : Bool} (h : Looked accept limit values found) :
    found = true ↔ ∃ value, values.getLast? = some value ∧ accept value = true := by
  cases h with
  | found refused value hrefused haccepted hlength =>
    exact iff_of_true rfl ⟨value, List.getLast?_concat, haccepted⟩
  | gaveUp _ hrefused hlength =>
    refine iff_of_false Bool.false_ne_true ?_
    rintro ⟨value, hlast, haccepted⟩
    rw [hrefused value (List.mem_of_getLast? hlast)] at haccepted
    cases haccepted

theorem Looked.found_iff_exists {accept : UInt32 → Bool} {limit : Nat} {values : List UInt32}
    {found : Bool} (h : Looked accept limit values found) :
    found = true ↔ ∃ value ∈ values, accept value = true := by
  cases h with
  | found refused value hrefused haccepted hlength =>
    exact iff_of_true rfl ⟨value, List.mem_append_right _ (List.mem_singleton_self value), haccepted⟩
  | gaveUp _ hrefused hlength =>
    refine iff_of_false Bool.false_ne_true ?_
    rintro ⟨value, hvalue, haccepted⟩
    rw [hrefused value hvalue] at haccepted
    cases haccepted

/-- The number of looks is the place of the first accepted value, or the limit. -/
theorem Looked.length_eq {accept : UInt32 → Bool} {limit : Nat} {values : List UInt32}
    {found : Bool} (h : Looked accept limit values found) :
    values.length = match values.findIdx? accept with
      | some index => index + 1
      | none => limit := by
  cases h with
  | found refused value hrefused haccepted hlength =>
    have hnone : refused.findIdx? accept = none := List.findIdx?_eq_none_iff.mpr hrefused
    rw [List.findIdx?_append, hnone, List.findIdx?_cons, haccepted, List.length_append]
    show refused.length + 1 = 0 + refused.length + 1
    omega
  | gaveUp _ hrefused hlength =>
    rw [List.findIdx?_eq_none_iff.mpr hrefused]
    exact hlength

theorem run_check_of_calm (block : RegisterBlock) (leaf : String) (accept : UInt32 → Bool)
    {bench : Bench} (h : bench.Calm) :
    ∃ value after, (block.check leaf accept).run bench = (.ok (accept value), after) ∧
      bench.Dispatched after ∧
      (block.check leaf accept).commits bench =
        [.fetched (bench.bus.dispatches + 1) bench.clock (block.path leaf, value)] := by
  obtain ⟨value, after, hfetch, hdispatched, hcommits⟩ :=
    run_fetch_of_healthy block leaf h.healthy
  refine ⟨value, after, run_bind_of_ok hfetch _, hdispatched, ?_⟩
  refine (commits_bind_of_ok hfetch _).trans ?_
  rw [pure_eq, commits_done, List.append_nil, hcommits]

/-- What is known of a poll on a calm bench that read the given values: how it ended, what it
committed, and how far the bench has come. -/
structure Polled (path : String) (accept : UInt32 → Bool) (interval limit : Nat)
    (bench after : Bench) (accesses : List Access) (values : List UInt32) (found : Bool) :
    Prop where
  calm : after.Calm
  looked : Looked accept limit values found
  accesses_eq : accesses =
    Access.looks path (waitLength interval) bench.bus.dispatches bench.clock values
  clock : after.clock = bench.clock + values.length * waitLength interval
  dispatches : after.bus.dispatches = bench.bus.dispatches + values.length

namespace Polled

variable {path : String} {accept : UInt32 → Bool} {interval limit : Nat}
  {bench looked after : Bench} {value : UInt32} {values : List UInt32} {accesses : List Access}
  {found : Bool}

/-- A poll that ends with its first look. -/
theorem once (h : bench.Calm)
    (hlook : Bench.Dispatched { bench with clock := bench.clock + waitLength interval } looked)
    (hlooked : Looked accept limit [value] found) :
    Polled path accept interval limit bench looked
      [.fetched (bench.bus.dispatches + 1) (bench.clock + waitLength interval) (path, value)]
      [value] found where
  calm := (h.later _).of_dispatched hlook
  looked := hlooked
  accesses_eq := rfl
  clock := by rw [hlook.clock, List.length_singleton, Nat.one_mul]
  dispatches := hlook.dispatches

/-- A poll whose first look is refused and that goes on from there. -/
theorem cons
    (hlook : Bench.Dispatched { bench with clock := bench.clock + waitLength interval } looked)
    (hrefused : accept value = false)
    (hrest : Polled path accept interval limit looked after accesses values found) :
    Polled path accept interval (limit + 1) bench after
      (.fetched (bench.bus.dispatches + 1) (bench.clock + waitLength interval) (path, value) ::
        accesses)
      (value :: values) found where
  calm := hrest.calm
  looked := hrest.looked.cons hrefused
  accesses_eq := by
    rw [hrest.accesses_eq, hlook.dispatches, hlook.clock]
    rfl
  clock := by
    rw [hrest.clock, hlook.clock, List.length_cons, Nat.succ_mul]
    show bench.clock + waitLength interval + _ = _
    omega
  dispatches := by
    rw [hrest.dispatches, hlook.dispatches, List.length_cons]
    show bench.bus.dispatches + 1 + _ = _
    omega

end Polled

section

variable (block : RegisterBlock) (leaf : String) (accept : UInt32 → Bool) {interval timeout : Nat}

/-- The rounds of a poll after `k` looks, with enough of them left to reach the limit. -/
theorem run_pollRounds_check (hinterval : 0 < interval) {start rounds k : Nat}
    (attempts : UInt32) {bench : Bench} (h : bench.Calm)
    (hclock : bench.clock = start + k * waitLength interval)
    (hk : k < pollLimit interval timeout) (hrounds : pollLimit interval timeout ≤ k + rounds) :
    ∃ values outcome after,
      (pollRounds interval timeout start (block.check leaf accept) rounds attempts).run bench =
        (.ok outcome, after) ∧
      Polled (block.path leaf) accept interval (pollLimit interval timeout - k) bench after
        ((pollRounds interval timeout start (block.check leaf accept) rounds attempts).commits
          bench) values outcome.satisfied := by
  -- The clock tells how many looks there have been, and thereby how many are left.
  induction rounds generalizing k attempts bench with
  | zero => omega
  | succ rounds ih =>
    have hwait : (wait interval).run bench =
        (.ok (), { bench with clock := bench.clock + waitLength interval }) := by
      rw [run_wait, h.wait]
    obtain ⟨value, looked, hlook, hdispatched, hread⟩ :=
      run_check_of_calm block leaf accept (h.later (waitLength interval))
    have hlater : looked.clock = start + (k + 1) * waitLength interval := by
      rw [hdispatched.clock, Nat.succ_mul]
      show bench.clock + waitLength interval = _
      omega
    cases pollRound interval timeout start (block.check leaf accept) attempts bench with
    | refused e stopped wait run commits => cases wait.symm.trans hwait
    | ended waited checked result wait look time run commits =>
      cases wait.symm.trans hwait
      cases look.symm.trans hlook
      refine ⟨[value], _, looked, run rounds, ?_⟩
      rw [commits, hread]
      cases haccept : accept value with
      | true =>
        exact .once h hdispatched
          (.found [] value (fun _ hv => by cases hv) haccept (Nat.sub_pos_of_lt hk))
      | false =>
        -- The timeout has passed with this look.
        have hlimit : pollLimit interval timeout ≤ k + 1 := by
          have hover := time (congrArg Except.ok haccept)
          rw [pollLimit_le_iff hinterval]
          omega
        have hrefused : ∀ v ∈ [value], accept v = false := by
          intro v hv
          rw [List.mem_singleton.mp hv, haccept]
        refine .once h hdispatched (.gaveUp [value] hrefused ?_)
        rw [List.length_singleton]
        omega
    | next waited checked wait look time run commits =>
      cases wait.symm.trans hwait
      obtain ⟨haccept, rfl⟩ := Prod.mk.inj (look.symm.trans hlook)
      have hmore := lt_pollLimit_of_not_le hinterval hlater time
      have hlimit : pollLimit interval timeout - k =
          pollLimit interval timeout - (k + 1) + 1 := by omega
      have hcalm : checked.Calm := (h.later _).of_dispatched hdispatched
      obtain ⟨values, outcome, after, hrun, hpolled⟩ :=
        ih (attempts + 1) hcalm hlater hmore (by omega)
      rw [run, commits, hread, hlimit]
      exact ⟨value :: values, outcome, after, hrun,
        .cons hdispatched (Except.ok.inj haccept).symm hpolled⟩

/-- A poll has rounds enough to reach its limit. -/
theorem pollLimit_le_pollBound (timeout : Nat) (hinterval : 0 < interval) :
    pollLimit interval timeout ≤ pollBound interval timeout := by
  have hpos : 0 < waitLength interval := waitLength_pos hinterval
  have hdiv := Nat.div_add_mod timeout (waitLength interval)
  have hmod := Nat.mod_lt timeout hpos
  unfold pollBound
  rw [if_neg (Nat.ne_of_gt hinterval), pollLimit_le_iff hinterval, Nat.succ_mul, Nat.mul_comm]
  omega

/-- On a calm bench a poll of a register reads it one interval apart until a value is accepted or
the limit is reached. -/
theorem run_pollUntil_check (timeout : Nat) (hinterval : 0 < interval) {bench : Bench}
    (h : bench.Calm) :
    ∃ values outcome after,
      (pollUntil interval timeout (block.check leaf accept)).run bench = (.ok outcome, after) ∧
      Polled (block.path leaf) accept interval (pollLimit interval timeout) bench after
        ((pollUntil interval timeout (block.check leaf accept)).commits bench) values
        outcome.satisfied := by
  have hbound : pollLimit interval timeout ≤ 0 + pollBound interval timeout := by
    rw [Nat.zero_add]
    exact pollLimit_le_pollBound timeout hinterval
  have hlimit : 0 < pollLimit interval timeout := Nat.le_max_left 1 _
  have hclock : bench.clock = bench.clock + 0 * waitLength interval := by
    rw [Nat.zero_mul, Nat.add_zero]
  have hnow : now.run bench = (.ok bench.clock, bench) := run_now bench
  rw [pollUntil, run_bind_of_ok hnow, commits_bind_of_ok hnow, commits_now, List.nil_append]
  exact run_pollRounds_check block leaf accept hinterval 0 h hclock hlimit hbound

end

end OpticalTiming
