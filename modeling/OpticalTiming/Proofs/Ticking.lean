import Mathlib.Data.Rat.Floor
import OpticalTiming.Timestamp

/-!
# Counter values and times, exactly

A conversion between times and counter values treats the seconds and what is below a second apart,
each with a rounding of its own, in words of 128 bits. `ticksAt_eq` and `nanos_eq` say that nothing
is lost by this: what comes out is the exact value rounded down once. `TicksFit` says that no step
needs more than 128 bits, and `toNat_wideTicks` that counting in such words gives the same.

`convertsExactly` is the result, for every time of the calendar, every counter value and every
frequency: which values come out, and when and with which error there is none.
-/

namespace OpticalTiming

/-- Nanoseconds from the start of 1970 to `t`. The nanoseconds of a leap second count as they are,
so that they are those of the second after it as well. -/
def UtcTime.elapsed (t : UtcTime) : Int := t.secs * nanosPerSecond + t.nanos

/-- A time is less than two seconds past the start of its second. -/
theorem UtcTime.nanos_lt_two_seconds (t : UtcTime) : t.nanos < 2 * nanosPerSecond := by
  have hsubsecond := t.isSubsecond
  unfold IsSubsecond at hsubsecond
  omega

theorem UtcTime.natCast_toNat_elapsed {t : UtcTime} (h : 0 ≤ t.secs) :
    (t.elapsed.toNat : Int) = t.elapsed := by
  refine Int.toNat_of_nonneg ?_
  unfold UtcTime.elapsed nanosPerSecond
  omega

theorem UtcTime.toNat_elapsed {t : UtcTime} (h : 0 ≤ t.secs) :
    t.elapsed.toNat = t.secs.toNat * nanosPerSecond + t.nanos := by
  unfold UtcTime.elapsed nanosPerSecond
  omega

theorem UtcTime.ofUnix?_eq_some_iff {secs : Int} {nanos : Nat} {t : UtcTime} :
    UtcTime.ofUnix? secs nanos = some t ↔ t.secs = secs ∧ t.nanos = nanos := by
  unfold UtcTime.ofUnix?
  constructor
  · intro h
    split_ifs at h
    cases h
    exact ⟨rfl, rfl⟩
  · rintro ⟨rfl, rfl⟩
    rw [dif_pos ⟨t.first_le, t.le_last, t.isSubsecond⟩]

namespace TimestampWord

variable {t : UtcTime} {w : TimestampWord} {hz : UInt64}

/-! ### Exact values -/

/-- The ticks of a counter of `hz` ticks a second from the start of 1970 to `t`. -/
def exactTicks (t : UtcTime) (hz : UInt64) : ℚ := t.elapsed * hz.toNat / nanosPerSecond

/-- The nanoseconds in which a counter of `hz` ticks a second gets to `w`. -/
def exactNanos (w : TimestampWord) (hz : UInt64) : ℚ := w.value.toNat * nanosPerSecond / hz.toNat

/-- Rounding the parts of a second alone rounds the whole. -/
theorem ticksAt_eq (h : 0 ≤ t.secs) (hz : UInt64) :
    ticksAt t hz = t.elapsed.toNat * hz.toNat / nanosPerSecond := by
  rw [ticksAt, UtcTime.toNat_elapsed h, Nat.add_comm (_ * nanosPerSecond), Nat.add_mul,
    Nat.mul_right_comm, Nat.add_mul_div_right _ _ (by decide), Nat.add_comm]

theorem floor_exactTicks (h : 0 ≤ t.secs) (hz : UInt64) :
    ⌊exactTicks t hz⌋ = (ticksAt t hz : Int) := by
  have helapsed : (t.elapsed : ℚ) = (t.elapsed.toNat : Nat) := by
    exact_mod_cast (UtcTime.natCast_toNat_elapsed h).symm
  have hexact : exactTicks t hz =
      ((t.elapsed.toNat * hz.toNat : Nat) : ℚ) / (nanosPerSecond : Nat) := by
    rw [exactTicks, helapsed, Nat.cast_mul]
  rw [hexact, Rat.floor_natCast_div_natCast, ticksAt_eq h, Int.natCast_div]

/-- The nanoseconds below the second at which a counter gets to `w`. -/
def subsecond (w : TimestampWord) (hz : UInt64) : Nat :=
  w.value.toNat % hz.toNat * nanosPerSecond / hz.toNat

theorem subsecond_lt (h : hz ≠ 0) : w.subsecond hz < nanosPerSecond := by
  have hpos : 0 < hz.toNat := UInt64.pos_iff_ne_zero.mpr h
  unfold subsecond
  rw [Nat.div_lt_iff_lt_mul hpos, Nat.mul_comm nanosPerSecond]
  exact Nat.mul_lt_mul_of_pos_right (Nat.mod_lt _ hpos) (by decide)

/-- Rounding the parts of a second alone rounds the whole. -/
theorem nanos_eq (h : hz ≠ 0) :
    w.value.toNat * nanosPerSecond / hz.toNat =
      w.value.toNat / hz.toNat * nanosPerSecond + w.subsecond hz := by
  have hpos : 0 < hz.toNat := UInt64.pos_iff_ne_zero.mpr h
  have hsplit : w.value.toNat * nanosPerSecond =
      w.value.toNat % hz.toNat * nanosPerSecond +
        w.value.toNat / hz.toNat * nanosPerSecond * hz.toNat := by
    conv_lhs => rw [← Nat.mod_add_div w.value.toNat hz.toNat]
    ring
  rw [hsplit, Nat.add_mul_div_right _ _ hpos, Nat.add_comm]
  rfl

theorem floor_exactNanos (h : hz ≠ 0) :
    ⌊exactNanos w hz⌋ =
      ((w.value.toNat / hz.toNat * nanosPerSecond + w.subsecond hz : Nat) : Int) := by
  have hexact : exactNanos w hz =
      ((w.value.toNat * nanosPerSecond : Nat) : ℚ) / (hz.toNat : Nat) := by
    rw [exactNanos, Nat.cast_mul]
  rw [hexact, Rat.floor_natCast_div_natCast, ← nanos_eq h, Int.natCast_div]

theorem toUtc?_eq (h : hz ≠ 0) :
    w.toUtc? hz = UtcTime.ofUnix? (w.value.toNat / hz.toNat : Nat) (w.subsecond hz) := if_neg h

/-! ### Words of 128 bits -/

/-- A number as a word of 128 bits. -/
def wide (n : Nat) : BitVec 128 := BitVec.ofNat 128 n

theorem toNat_wide {n k : Nat} (h : n < 2 ^ k) (hk : k ≤ 128) : (wide n).toNat = n := by
  have hlt : n < 2 ^ 128 := h.trans_le (Nat.pow_le_pow_right (by decide) hk)
  rw [wide, BitVec.toNat_ofNat, Nat.mod_eq_of_lt hlt]

/-- Two numbers that have 128 bits together can be multiplied. -/
theorem not_umulOverflow_wide {a b j k : Nat} (ha : a < 2 ^ j) (hb : b < 2 ^ k)
    (hbits : j + k ≤ 128) : ¬ (wide a).umulOverflow (wide b) := by
  have hproduct : a * b < 2 ^ 128 := calc
    a * b < 2 ^ j * 2 ^ k := Nat.mul_lt_mul'' ha hb
    _ = 2 ^ (j + k) := (Nat.pow_add 2 j k).symm
    _ ≤ 2 ^ 128 := Nat.pow_le_pow_right (by decide) hbits
  unfold BitVec.umulOverflow
  rw [toNat_wide ha (by omega), toNat_wide hb (by omega), decide_eq_true_eq]
  exact not_le.mpr hproduct

theorem toNat_wide_mul {a b j k : Nat} (ha : a < 2 ^ j) (hb : b < 2 ^ k) (hbits : j + k ≤ 128) :
    (wide a * wide b).toNat = a * b := by
  rw [BitVec.toNat_mul_of_not_umulOverflow (not_umulOverflow_wide ha hb hbits),
    toNat_wide ha (by omega), toNat_wide hb (by omega)]

theorem toNat_wide_nanosPerSecond : (wide nanosPerSecond).toNat = nanosPerSecond := rfl

/-- The ticks up to `t`, counted in words of 128 bits. -/
def wideTicks (t : UtcTime) (hz : UInt64) : BitVec 128 :=
  wide t.secs.toNat * wide hz.toNat + wide t.nanos * wide hz.toNat / wide nanosPerSecond

/-- The nanoseconds of `w` below the second, counted in words of 128 bits. -/
def wideSubsecond (w : TimestampWord) (hz : UInt64) : BitVec 128 :=
  wide (w.value.toNat % hz.toNat) * wide nanosPerSecond / wide hz.toNat

/-- No step of `wideTicks` goes beyond 128 bits. -/
structure TicksFit (t : UtcTime) (hz : UInt64) : Prop where
  whole : ¬ (wide t.secs.toNat).umulOverflow (wide hz.toNat)
  part : ¬ (wide t.nanos).umulOverflow (wide hz.toNat)
  sum : ¬ (wide t.secs.toNat * wide hz.toNat).uaddOverflow
    (wide t.nanos * wide hz.toNat / wide nanosPerSecond)

theorem secs_lt (t : UtcTime) : t.secs.toNat < 2 ^ 43 := by
  have hlast := t.le_last
  unfold lastSecond at hlast
  omega

theorem nanos_lt (t : UtcTime) : t.nanos < 2 ^ 31 := by
  have hnanos := t.nanos_lt_two_seconds
  unfold nanosPerSecond at hnanos
  omega

theorem toNat_wide_secs_mul (t : UtcTime) (hz : UInt64) :
    (wide t.secs.toNat * wide hz.toNat).toNat = t.secs.toNat * hz.toNat :=
  toNat_wide_mul (secs_lt t) hz.toNat_lt (by decide)

theorem toNat_wide_nanos_mul_div (t : UtcTime) (hz : UInt64) :
    (wide t.nanos * wide hz.toNat / wide nanosPerSecond).toNat =
      t.nanos * hz.toNat / nanosPerSecond := by
  rw [BitVec.toNat_udiv, toNat_wide_mul (nanos_lt t) hz.toNat_lt (by decide),
    toNat_wide_nanosPerSecond]

theorem ticksFit (t : UtcTime) (hz : UInt64) : TicksFit t hz where
  whole := not_umulOverflow_wide (secs_lt t) hz.toNat_lt (by decide)
  part := not_umulOverflow_wide (nanos_lt t) hz.toNat_lt (by decide)
  sum := by
    have hwhole : t.secs.toNat * hz.toNat < 2 ^ 43 * 2 ^ 64 :=
      Nat.mul_lt_mul'' (secs_lt t) hz.toNat_lt
    have hpart : t.nanos * hz.toNat / nanosPerSecond < 2 ^ 31 * 2 ^ 64 :=
      (Nat.div_le_self _ _).trans_lt (Nat.mul_lt_mul'' (nanos_lt t) hz.toNat_lt)
    unfold BitVec.uaddOverflow
    rw [toNat_wide_secs_mul, toNat_wide_nanos_mul_div, decide_eq_true_eq]
    omega

/-- Words of 128 bits count the ticks as numbers without bounds do. -/
theorem toNat_wideTicks (t : UtcTime) (hz : UInt64) : (wideTicks t hz).toNat = ticksAt t hz := by
  rw [wideTicks, BitVec.toNat_add_of_not_uaddOverflow (ticksFit t hz).sum, toNat_wide_secs_mul,
    toNat_wide_nanos_mul_div, ticksAt]

theorem subsecond_fits (w : TimestampWord) (hz : UInt64) :
    ¬ (wide (w.value.toNat % hz.toNat)).umulOverflow (wide nanosPerSecond) :=
  not_umulOverflow_wide ((Nat.mod_le _ _).trans_lt w.value.toNat_lt)
    (show nanosPerSecond < 2 ^ 30 by decide) (by decide)

theorem toNat_wideSubsecond (w : TimestampWord) (hz : UInt64) :
    (wideSubsecond w hz).toNat = w.subsecond hz := by
  have hrest : w.value.toNat % hz.toNat < 2 ^ 64 := (Nat.mod_le _ _).trans_lt w.value.toNat_lt
  rw [wideSubsecond, BitVec.toNat_udiv,
    toNat_wide_mul hrest (show nanosPerSecond < 2 ^ 30 by decide) (by decide),
    toNat_wide hz.toNat_lt (by decide), subsecond]

/-- Nothing is cut off where the nanoseconds of a time are kept in 32 bits. -/
theorem toNat_setWidth_wideSubsecond (h : hz ≠ 0) :
    ((wideSubsecond w hz).setWidth 32).toNat = w.subsecond hz := by
  have hlt : w.subsecond hz < 2 ^ 32 := (subsecond_lt h).trans (by decide)
  rw [BitVec.toNat_setWidth, toNat_wideSubsecond, Nat.mod_eq_of_lt hlt]

/-! ### Times to counter values -/

/-- What becomes of a time on a counter of `hz` ticks a second. -/
structure ConvertsTime (t : UtcTime) (hz : UInt64) : Prop where
  /-- Times from the start of 1970 on have a value, as long as it has no more than 64 bits. -/
  exists_iff : (∃ w, ofUtc t hz = .ok w) ↔ 0 ≤ t.secs ∧ ⌊exactTicks t hz⌋ < 2 ^ 64
  /-- The value is the exact one, rounded down. -/
  value_eq : ∀ w, ofUtc t hz = .ok w → (w.value.toNat : Int) = ⌊exactTicks t hz⌋
  early_iff : ofUtc t hz = .error (.protocol s!"{t.text} is before the counter epoch") ↔
    t.secs < 0
  late_iff : ofUtc t hz = .error (.protocol s!"{t.text} at {hz} Hz overflows the counter") ↔
    0 ≤ t.secs ∧ 2 ^ 64 ≤ ⌊exactTicks t hz⌋
  /-- Words of 128 bits are enough for every step of the count. -/
  fits : TicksFit t hz
  wide_eq : 0 ≤ t.secs → ((wideTicks t hz).toNat : Int) = ⌊exactTicks t hz⌋

/-- The two texts of a refusal differ right after the time. -/
theorem early_ne_late (t : UtcTime) (hz : UInt64) :
    s!"{t.text} is before the counter epoch" ≠ s!"{t.text} at {hz} Hz overflows the counter" := by
  intro h
  have hrest : " is before the counter epoch" =
      " at " ++ (toString hz ++ " Hz overflows the counter") := by
    refine (String.append_right_inj t.text).mp ?_
    rw [← String.append_assoc, ← String.append_assoc]
    exact h
  have hchars := congrArg String.toList hrest
  rw [String.toList_append] at hchars
  exact absurd (congrArg (·[1]?) hchars) (by simp)

theorem ofUtc_eq_ok_iff :
    ofUtc t hz = .ok w ↔ 0 ≤ t.secs ∧ w.value.toNat = ticksAt t hz := by
  have hlt := w.value.toNat_lt
  unfold ofUtc
  split_ifs with hearly hfits
  · exact iff_of_false (by rintro ⟨⟩) fun h => hearly.not_ge h.1
  · constructor
    · rintro ⟨⟩
      exact ⟨not_lt.mp hearly, UInt64.toNat_ofNat_of_lt' hfits⟩
    · rintro ⟨-, hvalue⟩
      rw [← hvalue, UInt64.ofNat_toNat]
  · exact iff_of_false (by rintro ⟨⟩) fun h => hfits (h.2 ▸ hlt)

theorem exists_ofUtc_eq_ok_iff :
    (∃ w, ofUtc t hz = .ok w) ↔ 0 ≤ t.secs ∧ ticksAt t hz < 2 ^ 64 := by
  constructor
  · rintro ⟨w, h⟩
    obtain ⟨hsecs, hvalue⟩ := ofUtc_eq_ok_iff.mp h
    exact ⟨hsecs, hvalue ▸ w.value.toNat_lt⟩
  · rintro ⟨hsecs, hlt⟩
    exact ⟨⟨UInt64.ofNat (ticksAt t hz)⟩,
      ofUtc_eq_ok_iff.mpr ⟨hsecs, UInt64.toNat_ofNat_of_lt' hlt⟩⟩

theorem ofUtc_eq_early_iff :
    ofUtc t hz = .error (.protocol s!"{t.text} is before the counter epoch") ↔ t.secs < 0 := by
  unfold ofUtc
  split_ifs with hearly hfits
  · exact iff_of_true rfl hearly
  · exact iff_of_false (by rintro ⟨⟩) hearly
  · refine iff_of_false (fun h => ?_) hearly
    exact early_ne_late t hz (Error.protocol.inj (Except.error.inj h)).symm

theorem ofUtc_eq_late_iff :
    ofUtc t hz = .error (.protocol s!"{t.text} at {hz} Hz overflows the counter") ↔
      0 ≤ t.secs ∧ 2 ^ 64 ≤ ticksAt t hz := by
  unfold ofUtc
  split_ifs with hearly hfits
  · refine iff_of_false (fun h => ?_) fun h => hearly.not_ge h.1
    exact early_ne_late t hz (Error.protocol.inj (Except.error.inj h))
  · exact iff_of_false (by rintro ⟨⟩) fun h => hfits.not_ge h.2
  · exact iff_of_true rfl ⟨not_lt.mp hearly, not_lt.mp hfits⟩

theorem convertsTime (t : UtcTime) (hz : UInt64) : ConvertsTime t hz where
  exists_iff := by
    rw [exists_ofUtc_eq_ok_iff]
    refine and_congr_right fun hsecs => ?_
    rw [floor_exactTicks hsecs]
    norm_cast
  value_eq w h := by
    obtain ⟨hsecs, hvalue⟩ := ofUtc_eq_ok_iff.mp h
    rw [hvalue, floor_exactTicks hsecs]
  early_iff := ofUtc_eq_early_iff
  late_iff := by
    rw [ofUtc_eq_late_iff]
    refine and_congr_right fun hsecs => ?_
    rw [floor_exactTicks hsecs]
    norm_cast
  fits := ticksFit t hz
  wide_eq hsecs := by rw [toNat_wideTicks, floor_exactTicks hsecs]

/-! ### Counter values to times -/

/-- What becomes of a value of a counter of `hz` ticks a second. -/
structure ConvertsWord (w : TimestampWord) (hz : UInt64) : Prop where
  /-- A counter that runs has a time for each value up to the last second of the calendar. -/
  eq_none_iff : w.toUtc? hz = none ↔ hz = 0 ∨
    ¬ (firstSecond ≤ ⌊(w.value.toNat / hz.toNat : ℚ)⌋ ∧
      ⌊(w.value.toNat / hz.toNat : ℚ)⌋ ≤ lastSecond)
  /-- It is the exact one, rounded down to nanoseconds, and never in a leap second. -/
  eq_some_iff : ∀ t, w.toUtc? hz = some t ↔
    hz ≠ 0 ∧ t.elapsed = ⌊exactNanos w hz⌋ ∧ t.nanos < nanosPerSecond
  /-- Words of 128 bits are enough for the nanoseconds below the second. -/
  fits : ¬ (wide (w.value.toNat % hz.toNat)).umulOverflow (wide nanosPerSecond)
  /-- Less than a second of them is left, so that 32 bits hold them. -/
  narrow : hz ≠ 0 → (wideSubsecond w hz).toNat < nanosPerSecond ∧
    ((wideSubsecond w hz).setWidth 32).toNat = (wideSubsecond w hz).toNat
  narrow_eq : hz ≠ 0 → w.toUtc? hz =
    UtcTime.ofUnix? (w.value.toNat / hz.toNat : Nat) ((wideSubsecond w hz).setWidth 32).toNat

theorem toUtc?_eq_none_iff (h : hz ≠ 0) :
    w.toUtc? hz = none ↔ ¬ (firstSecond ≤ (w.value.toNat / hz.toNat : Nat) ∧
      ((w.value.toNat / hz.toNat : Nat) : Int) ≤ lastSecond) := by
  rw [toUtc?_eq h]
  unfold UtcTime.ofUnix?
  have hsubsecond : IsSubsecond (w.value.toNat / hz.toNat : Nat) (w.subsecond hz) :=
    .inl (subsecond_lt h)
  split_ifs with hrange
  · exact iff_of_false (by rintro ⟨⟩) (not_not_intro ⟨hrange.1, hrange.2.1⟩)
  · exact iff_of_true rfl fun hboth => hrange ⟨hboth.1, hboth.2, hsubsecond⟩

theorem toUtc?_eq_some_iff :
    w.toUtc? hz = some t ↔
      hz ≠ 0 ∧ t.secs = (w.value.toNat / hz.toNat : Nat) ∧ t.nanos = w.subsecond hz := by
  by_cases h : hz = 0
  · exact iff_of_false (by simp [toUtc?, h]) fun hall => hall.1 h
  · rw [toUtc?_eq h, UtcTime.ofUnix?_eq_some_iff]
    exact (and_iff_right h).symm

theorem convertsWord (w : TimestampWord) (hz : UInt64) : ConvertsWord w hz where
  eq_none_iff := by
    by_cases h : hz = 0
    · exact iff_of_true (by simp [toUtc?, h]) (.inl h)
    · rw [toUtc?_eq_none_iff h, Rat.floor_natCast_div_natCast, ← Int.natCast_div, or_iff_right h]
  eq_some_iff t := by
    rw [toUtc?_eq_some_iff]
    refine and_congr_right fun h => ?_
    have hlt := subsecond_lt (w := w) h
    rw [floor_exactNanos h]
    unfold UtcTime.elapsed
    unfold nanosPerSecond at hlt ⊢
    omega
  fits := subsecond_fits w hz
  narrow h := by
    rw [toNat_setWidth_wideSubsecond h, toNat_wideSubsecond]
    exact ⟨subsecond_lt h, rfl⟩
  narrow_eq h := by rw [toNat_setWidth_wideSubsecond h, toUtc?_eq h]

/-- The conversions between times and counter values are exact up to one rounding, in either
direction and at every frequency, and none of their steps overflows. -/
theorem convertsExactly (hz : UInt64) :
    (∀ t : UtcTime, ConvertsTime t hz) ∧ ∀ w : TimestampWord, ConvertsWord w hz :=
  ⟨fun t => convertsTime t hz, fun w => convertsWord w hz⟩

end TimestampWord

end OpticalTiming
