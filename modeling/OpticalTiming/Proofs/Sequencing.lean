import OpticalTiming.Procedure.Poll
import OpticalTiming.Proofs.Exchange

/-!
# From the parts of a procedure to the whole

A property of procedures is `Sequential` if a sequence has it as soon as its parts have it. Then an
exchange has it because its requests have it (`Sequential.send`, `Sequential.fetch`,
`Sequential.snapshot`), and a poll because its checks and waits have it (`Sequential.pollUntil`).
-/

namespace OpticalTiming

open Procedure

/-- A property of procedures that passes from the parts of a sequence to the whole. -/
structure Sequential (P : (α : Type) → Procedure α → Prop) : Prop where
  done : ∀ {α} (a : α), P α (done a)
  bind : ∀ {α β} {p : Procedure α} {f : α → Procedure β}, P α p → (∀ a, P β (f a)) → P β (p >>= f)

namespace Sequential

variable {P : (α : Type) → Procedure α → Prop} (h : Sequential P)
include h

/-! ### Exchanges -/

theorem send {pairs : List (String × UInt32)}
    (hwrite : ∀ pair ∈ pairs, P Unit (write pair.1 pair.2)) (hdispatch : P Unit dispatch) :
    P Unit (Procedure.send pairs) := by
  have hwrites : P Unit (pairs.forM fun pair => write pair.1 pair.2) := by
    induction pairs with
    | nil => exact h.done ()
    | cons pair rest ih =>
      exact h.bind (hwrite pair List.mem_cons_self) fun _ =>
        ih fun other hmem => hwrite other (List.mem_cons_of_mem _ hmem)
  exact h.bind hwrites fun _ => hdispatch

theorem fetch {block : RegisterBlock} {leaf : String} (hread : P Handle (read (block.path leaf)))
    (hdispatch : P Unit dispatch) (hvalue : ∀ handle, P UInt32 (value handle)) :
    P UInt32 (block.fetch leaf) :=
  h.bind hread fun handle => h.bind hdispatch fun _ => hvalue handle

theorem collect (hvalue : ∀ handle, P UInt32 (value handle)) (handles : List (String × Handle))
    (values : NameMap UInt32) : P (NameMap UInt32) (RegisterBlock.collect values handles) := by
  induction handles generalizing values with
  | nil => exact h.done values
  | cons pair rest ih => exact h.bind (hvalue pair.2) fun value => ih (values.set pair.1 value)

theorem snapshot {block : RegisterBlock} {leaves : List String}
    (hread : ∀ leaf ∈ leaves, P Handle (read (block.path leaf))) (hdispatch : P Unit dispatch)
    (hvalue : ∀ handle, P UInt32 (value handle)) : P Snapshot (block.snapshot leaves) := by
  have hreads : P (List (String × Handle)) (block.readAll leaves) := by
    induction leaves with
    | nil => exact h.done []
    | cons leaf rest ih =>
      exact h.bind (hread leaf List.mem_cons_self) fun handle =>
        h.bind (ih fun other hmem => hread other (List.mem_cons_of_mem _ hmem)) fun handles =>
          h.done ((leaf, handle) :: handles)
  exact h.bind hreads fun handles => h.bind hdispatch fun _ =>
    h.bind (h.collect hvalue handles .empty) fun values => h.done (Snapshot.mk values)

/-! ### Polls -/

/-- A round of a poll is a wait, a check and a look at the clock. -/
theorem pollUntil {interval timeout : Nat} {check : Procedure Bool} (hwait : P Unit (wait interval))
    (hnow : P Nat now) (hcheck : P Bool check) :
    P PollOutcome (OpticalTiming.pollUntil interval timeout check) := by
  refine h.bind hnow fun start => ?_
  generalize (0 : UInt32) = attempts
  induction pollBound interval timeout generalizing attempts with
  | zero => exact h.done _
  | succ rounds ih =>
    refine h.bind hwait fun _ => h.bind hcheck fun holds => ?_
    split
    · exact h.done _
    · refine h.bind hnow fun time => ?_
      split
      · exact h.done _
      · exact ih _

end Sequential

end OpticalTiming
