import OpticalTiming.Proofs.Storing
import OpticalTiming.Proofs.Ticking

/-!
# Spans of time as numbers of milliseconds

A span has a number of whole milliseconds that may need more than 64 bits. Two conversions bring it
down to 64, both from a count in a word of 128 bits that is exact (`toNat_wideMillis`): `toMillis`
is checked and stops at the largest number (`toMillis_eq`), `storedMillis` cuts off what does not
fit (`storedMillis_eq`).

`convertsToMillis` says what this means for every span. Below 2^64 milliseconds the two agree, keep
the order of spans, and reading a stored number back loses less than a millisecond. Beyond that the
stored number starts again from zero (`stored_from_zero`), so that it loses the order and all
multiples of 2^64 milliseconds, while what is read back is still no longer than the span.
-/

namespace OpticalTiming.Duration

open TimestampWord (wide toNat_wide toNat_wide_mul)

variable {d e : Duration}

/-! ### The count in 128 bits -/

/-- Nanoseconds of a millisecond. -/
def nanosPerMilli : Nat := 1000000

/-- The number of whole milliseconds is the exact quotient, rounded down once. -/
theorem wholeMillis_eq (d : Duration) : d.wholeMillis = d.totalNanos / nanosPerMilli := by
  unfold wholeMillis totalNanos nanosPerMilli
  omega

/-- The whole milliseconds of a span, counted in words of 128 bits. -/
def wideMillis (d : Duration) : BitVec 128 :=
  wide d.secs * wide 1000 + wide (d.nanos / nanosPerMilli)

/-- Words of 128 bits count the milliseconds as numbers without bounds do. -/
theorem toNat_wideMillis (d : Duration) : d.wideMillis.toNat = d.wholeMillis := by
  have hsecs : d.secs < 2 ^ 64 := d.secs_lt
  have hnanos := d.nanos_lt
  have hmillis : d.nanos / nanosPerMilli < 2 ^ 10 := by
    unfold nanosPerMilli
    omega
  have hproduct : (wide d.secs * wide 1000).toNat = d.secs * 1000 :=
    toNat_wide_mul hsecs (show 1000 < 2 ^ 10 by decide) (by decide)
  have hpart : (wide (d.nanos / nanosPerMilli)).toNat = d.nanos / nanosPerMilli :=
    toNat_wide hmillis (by decide)
  rw [wideMillis, BitVec.toNat_add, hproduct, hpart, Nat.mod_eq_of_lt (by omega)]
  rfl

/-- The number in a word of 128 bits, if it fits 64 bits. -/
def narrow? (n : BitVec 128) : Option UInt64 :=
  if n.toNat < UInt64.size then some ⟨n.setWidth 64⟩ else none

/-! ### The two conversions -/

theorem toNat_toMillis (d : Duration) :
    d.toMillis.toNat = min d.wholeMillis (UInt64.size - 1) := by
  have hlt : min d.wholeMillis (UInt64.size - 1) < UInt64.size :=
    (Nat.min_le_right _ _).trans_lt (by decide)
  rw [toMillis, UInt64.toNat_ofNat_of_lt' hlt]

theorem toNat_storedMillis (d : Duration) :
    d.storedMillis.toNat = d.wholeMillis % UInt64.size :=
  UInt64.toNat_ofNat'

/-- The plain conversion keeps the low 64 bits. -/
theorem storedMillis_eq (d : Duration) : d.storedMillis = ⟨d.wideMillis.setWidth 64⟩ := by
  refine UInt64.toNat_inj.mp ?_
  rw [toNat_storedMillis, ← toNat_wideMillis]
  exact (BitVec.toNat_setWidth 64 d.wideMillis).symm

/-- The checked conversion puts the largest number in the place of one that does not fit. -/
theorem toMillis_eq (d : Duration) :
    d.toMillis = (narrow? d.wideMillis).getD (UInt64.ofNat (UInt64.size - 1)) := by
  unfold narrow? toMillis
  rw [toNat_wideMillis]
  split
  case isTrue hfits =>
    rw [Nat.min_eq_left (Nat.le_sub_one_of_lt hfits), Option.getD_some, ← storedMillis_eq]
    rfl
  case isFalse hlarge =>
    rw [Nat.min_eq_right (Nat.sub_le_of_le_add (by omega)), Option.getD_none]

/-! ### Order -/

theorem wholeMillis_mono (h : d.totalNanos ≤ e.totalNanos) : d.wholeMillis ≤ e.wholeMillis := by
  rw [wholeMillis_eq, wholeMillis_eq]
  exact Nat.div_le_div_right h

theorem toMillis_mono (h : d.totalNanos ≤ e.totalNanos) : d.toMillis ≤ e.toMillis := by
  rw [UInt64.le_iff_toNat_le, toNat_toMillis, toNat_toMillis]
  have hwhole := wholeMillis_mono h
  omega

/-- Among spans whose milliseconds fit, the stored numbers have the order of the spans. -/
theorem storedMillis_mono (h : d.totalNanos ≤ e.totalNanos) (hfits : e.wholeMillis < UInt64.size) :
    d.storedMillis ≤ e.storedMillis := by
  have hwhole := wholeMillis_mono h
  rw [UInt64.le_iff_toNat_le, toNat_storedMillis, toNat_storedMillis, Nat.mod_eq_of_lt hfits,
    Nat.mod_eq_of_lt (hwhole.trans_lt hfits)]
  exact hwhole

/-- The conversions agree where the number fits 64 bits, and where its low 64 bits are all set. -/
theorem storedMillis_eq_toMillis_iff :
    d.storedMillis = d.toMillis ↔
      d.wholeMillis < UInt64.size ∨ UInt64.size ∣ d.wholeMillis + 1 := by
  rw [← UInt64.toNat_inj, toNat_storedMillis, toNat_toMillis]
  unfold UInt64.size
  omega

/-! ### Storing and reading back -/

theorem totalNanos_ofMillis (ms : UInt64) :
    (ofMillis ms).totalNanos = ms.toNat * nanosPerMilli := by
  unfold totalNanos ofMillis nanosPerMilli
  dsimp only
  omega

/-- What is read back of a stored span. -/
theorem ofJson?_toJson_eq (d : Duration) : ofJson? d.toJson = some (ofMillis d.storedMillis) := by
  rw [ofJson?, toJson, Json.word64?_word64]
  rfl

/-- A span is what is read back of it, what did not fit 64 bits, and the part of a millisecond. -/
theorem totalNanos_eq (d : Duration) :
    d.totalNanos = (ofMillis d.storedMillis).totalNanos +
      d.wholeMillis / UInt64.size * UInt64.size * nanosPerMilli + d.totalNanos % nanosPerMilli := by
  have hsplit : d.wholeMillis =
      d.wholeMillis % UInt64.size + d.wholeMillis / UInt64.size * UInt64.size := by
    rw [Nat.mul_comm]
    exact (Nat.mod_add_div _ _).symm
  rw [totalNanos_ofMillis, toNat_storedMillis, ← Nat.add_mul, ← hsplit, wholeMillis_eq,
    Nat.mul_comm]
  exact (Nat.div_add_mod _ _).symm

/-- What becomes of a span when it is converted to milliseconds, and when it is stored and read
back. -/
structure ConvertsToMillis (d : Duration) : Prop where
  /-- The whole milliseconds are counted exactly, in words of 128 bits. -/
  counted : d.wideMillis.toNat = d.wholeMillis ∧ d.wholeMillis = d.totalNanos / nanosPerMilli
  /-- One conversion of this word is checked, the other one keeps its low 64 bits. -/
  narrowed : d.toMillis = (narrow? d.wideMillis).getD (UInt64.ofNat (2 ^ 64 - 1)) ∧
    d.storedMillis = ⟨d.wideMillis.setWidth 64⟩
  /-- So the one number stops at the largest that fits. -/
  stops : d.toMillis.toNat = min d.wholeMillis (2 ^ 64 - 1)
  /-- The stored number starts again from zero. -/
  startsAgain : d.storedMillis.toNat = d.wholeMillis % 2 ^ 64
  /-- The two agree below 2^64 milliseconds, and beyond that only where the stored number happens to
  be the largest one. -/
  agree_iff : d.storedMillis = d.toMillis ↔ d.wholeMillis < 2 ^ 64 ∨ 2 ^ 64 ∣ d.wholeMillis + 1
  /-- The number keeps the order of spans, the stored one among spans below 2^64 milliseconds. -/
  mono : ∀ e : Duration, d.totalNanos ≤ e.totalNanos →
    d.toMillis ≤ e.toMillis ∧ (e.wholeMillis < 2 ^ 64 → d.storedMillis ≤ e.storedMillis)
  /-- What is read back is no longer than the span. It lacks the part of a millisecond and the
  multiple of 2^64 milliseconds, so less than a millisecond if there is no such multiple. -/
  readBack : ∃ s : Duration, ofJson? d.toJson = some s ∧ s.totalNanos ≤ d.totalNanos ∧
    d.totalNanos = s.totalNanos + d.wholeMillis / 2 ^ 64 * 2 ^ 64 * nanosPerMilli +
      d.totalNanos % nanosPerMilli ∧
    (d.wholeMillis < 2 ^ 64 → d.totalNanos < s.totalNanos + nanosPerMilli)

/-- Every span of time is converted in this way. -/
theorem convertsToMillis (d : Duration) : ConvertsToMillis d where
  counted := ⟨d.toNat_wideMillis, d.wholeMillis_eq⟩
  narrowed := ⟨d.toMillis_eq, d.storedMillis_eq⟩
  stops := d.toNat_toMillis
  startsAgain := d.toNat_storedMillis
  agree_iff := storedMillis_eq_toMillis_iff
  mono e h := ⟨toMillis_mono h, storedMillis_mono h⟩
  readBack := by
    have hsplit := d.totalNanos_eq
    refine ⟨_, d.ofJson?_toJson_eq, by omega, hsplit, fun hfits => ?_⟩
    have hpart : d.totalNanos % nanosPerMilli < nanosPerMilli := Nat.mod_lt _ (by decide)
    have hnone : d.wholeMillis / UInt64.size = 0 := Nat.div_eq_of_lt hfits
    rw [hnone, Nat.zero_mul, Nat.zero_mul, Nat.add_zero] at hsplit
    omega

/-- The last whole second whose milliseconds fit 64 bits. -/
def lastFitting : Duration := ⟨18446744073709551, 0, by decide, by decide⟩

/-- The second after it. -/
def firstBeyond : Duration := ⟨18446744073709552, 0, by decide, by decide⟩

/-- A span of just over 2^64 milliseconds is stored as 384 of them, less than a shorter one is. -/
theorem stored_from_zero :
    firstBeyond.toMillis = 18446744073709551615 ∧ firstBeyond.storedMillis = 384 ∧
    ¬ (∀ d : Duration, d.storedMillis = d.toMillis) ∧
    ¬ ∀ d e : Duration, d.totalNanos ≤ e.totalNanos → d.storedMillis ≤ e.storedMillis := by
  refine ⟨by decide, by decide, fun hagree => ?_, fun hmono => ?_⟩
  · exact absurd (hagree firstBeyond) (by decide)
  · exact absurd (hmono lastFitting firstBeyond (by decide)) (by decide)

end OpticalTiming.Duration
