import OpticalTiming.Config.Basic
import OpticalTiming.Proofs.Ticking

/-!
# Conversions undone

The counter moves on a grid of `hz` steps a second, the calendar on one of nanoseconds. A conversion
goes to the place of the other grid that lies at or right before the given one (`regrid`), so that
the way there and back never gets beyond where it started (`regrid_regrid_le`) and loses less than
one step of either grid (`lt_regrid_regrid_add`). It loses nothing where the first grid is a part of
the other one.

`undone` says what this means for a counter value that is turned into a time and back, and for a time
that is turned into a counter value and back.
-/

namespace OpticalTiming

/-! ### Grids -/

/-- The last place of a grid of `b` steps a second that does not lie beyond place `n` of a grid of
`a` steps. -/
def regrid (a b n : Nat) : Nat := n * b / a

section Grids

variable {a b n : Nat}

theorem regrid_regrid_le (a b n : Nat) : regrid b a (regrid a b n) ≤ n :=
  Nat.div_le_of_le_mul ((Nat.div_mul_le_self (n * b) a).trans_eq (Nat.mul_comm n b))

/-- What is lost on the way there and back is less than one step of each grid. -/
theorem lt_regrid_regrid_add (ha : 0 < a) (hb : 0 < b) :
    n * b < regrid b a (regrid a b n) * b + (a + b) := by
  have hthere : n * b < regrid a b n * a + a := Nat.lt_div_mul_add ha
  have hback : regrid a b n * a < regrid b a (regrid a b n) * b + b := Nat.lt_div_mul_add hb
  omega

/-- Counted in steps of the first grid, that is at most one step of the other one, rounded up. -/
theorem sub_ceil_le {m n : Nat} (hb : 0 < b) (h : n * b < m * b + (a + b)) :
    (n : Int) - ⌈(a / b : ℚ)⌉ ≤ m := by
  have hpos : (0 : ℚ) < b := Nat.cast_pos.mpr hb
  have hcast : (n * b : ℚ) < m * b + (a + b) := by exact_mod_cast h
  have hlost : ((n - m - 1 : Int) : ℚ) < ⌈(a / b : ℚ)⌉ := calc
    ((n - m - 1 : Int) : ℚ) = n - m - 1 := by push_cast; ring
    _ < a / b := by rw [lt_div_iff₀ hpos]; linarith
    _ ≤ ⌈(a / b : ℚ)⌉ := Int.le_ceil _
  have hwhole : (n - m - 1 : Int) < ⌈(a / b : ℚ)⌉ := Int.cast_lt.mp hlost
  omega

/-- A place of a grid is found again if the other grid has it as well. -/
theorem regrid_regrid_of_dvd (hb : 0 < b) (h : a ∣ n * b) : regrid b a (regrid a b n) = n := by
  unfold regrid
  rw [Nat.div_mul_cancel h, Nat.mul_div_cancel _ hb]

end Grids

/-- Within one second, the nanoseconds between two times are those between their parts below it. -/
theorem UtcTime.elapsed_sub_elapsed {s t : UtcTime} (h : s.secs = t.secs) :
    t.elapsed - s.elapsed = t.nanos - s.nanos := by
  unfold UtcTime.elapsed
  rw [h]
  omega

theorem UtcTime.eq_of_parts {s t : UtcTime} (hsecs : s.secs = t.secs) (hnanos : s.nanos = t.nanos) :
    s = t := by
  cases s
  cases t
  cases hsecs
  cases hnanos
  rfl

namespace TimestampWord

variable {hz : UInt64} {v w : TimestampWord} {t : UtcTime}

/-! ### What is found again -/

/-- A counter value `w` found again in place of `v`. -/
structure Recovers (hz : UInt64) (v w : TimestampWord) : Prop where
  le : w.value.toNat ≤ v.value.toNat
  /-- It is less by at most the ticks of one nanosecond, rounded up. -/
  sub_ceil_le : (v.value.toNat : Int) - ⌈(hz.toNat / nanosPerSecond : ℚ)⌉ ≤ w.value.toNat
  eq_of_dvd : hz.toNat ∣ nanosPerSecond → w = v

/-- A time `s` found again in place of `t`. -/
structure RecoversTime (hz : UInt64) (t s : UtcTime) : Prop where
  secs_eq : s.secs = t.secs
  le : s.le t
  /-- It is earlier by less than one tick and one nanosecond. -/
  sub_lt : ((t.elapsed - s.elapsed : Int) : ℚ) < nanosPerSecond / hz.toNat + 1
  eq_of_dvd : hz.toNat ∣ nanosPerSecond → nanosPerSecond / hz.toNat ∣ t.nanos → s = t

/-! ### Both conversions on the grids -/

theorem elapsed_of_toUtc? (h : v.toUtc? hz = some t) :
    t.elapsed.toNat = regrid hz.toNat nanosPerSecond v.value.toNat := by
  obtain ⟨hrunning, hsecs, hnanos⟩ := toUtc?_eq_some_iff.mp h
  rw [regrid, nanos_eq hrunning, ← hnanos]
  unfold UtcTime.elapsed nanosPerSecond
  omega

theorem value_of_ofUtc (h : ofUtc t hz = .ok v) :
    v.value.toNat = regrid nanosPerSecond hz.toNat t.elapsed.toNat := by
  obtain ⟨hsecs, hvalue⟩ := ofUtc_eq_ok_iff.mp h
  rw [hvalue, ticksAt_eq hsecs, regrid]

/-! ### Counter values -/

/-- A counter value that has a time is found again from it. -/
theorem recovers_of_toUtc? (hrunning : 1 ≤ hz) (h : v.toUtc? hz = some t) :
    ∃ w, ofUtc t hz = .ok w ∧ Recovers hz v w := by
  have hpos : 0 < hz.toNat := UInt64.le_iff_toNat_le.mp hrunning
  have hsecs : 0 ≤ t.secs := by
    rw [(toUtc?_eq_some_iff.mp h).2.1]
    exact Int.natCast_nonneg _
  have hticks : ticksAt t hz =
      regrid nanosPerSecond hz.toNat (regrid hz.toNat nanosPerSecond v.value.toNat) := by
    rw [← elapsed_of_toUtc? h, ticksAt_eq hsecs, regrid]
  have hle : ticksAt t hz ≤ v.value.toNat := hticks ▸ regrid_regrid_le _ _ _
  obtain ⟨w, hw⟩ := exists_ofUtc_eq_ok_iff.mpr ⟨hsecs, hle.trans_lt v.value.toNat_lt⟩
  have hvalue : w.value.toNat = ticksAt t hz := (ofUtc_eq_ok_iff.mp hw).2
  refine ⟨w, hw, hvalue ▸ hle, ?_, fun hdvd => ?_⟩
  · refine sub_ceil_le (by decide) ?_
    rw [hvalue, hticks]
    exact lt_regrid_regrid_add hpos (by decide)
  · have hsame : w.value.toNat = v.value.toNat := by
      rw [hvalue, hticks, regrid_regrid_of_dvd (by decide) (hdvd.mul_left _)]
    cases w
    exact congrArg TimestampWord.mk (UInt64.toNat_inj.mp hsame)

/-! ### Times -/

/-- Less than a second of ticks comes on top of the whole seconds, so that the counter value of a
time outside of a leap second lies in the same second. -/
theorem value_div_of_ofUtc (hpos : 0 < hz.toNat) (hnanos : t.nanos < nanosPerSecond)
    (h : ofUtc t hz = .ok v) : ((v.value.toNat / hz.toNat : Nat) : Int) = t.secs := by
  obtain ⟨hsecs, hvalue⟩ := ofUtc_eq_ok_iff.mp h
  have hpart : t.nanos * hz.toNat / nanosPerSecond < hz.toNat := by
    rw [Nat.div_lt_iff_lt_mul (by decide), Nat.mul_comm hz.toNat]
    exact Nat.mul_lt_mul_of_pos_right hnanos hpos
  rw [hvalue, ticksAt, Nat.add_comm, Nat.add_mul_div_right _ _ hpos, Nat.div_eq_of_lt hpart,
    Nat.zero_add, Int.toNat_of_nonneg hsecs]

theorem exists_toUtc?_of_ofUtc (hpos : 0 < hz.toNat) (hnanos : t.nanos < nanosPerSecond)
    (h : ofUtc t hz = .ok v) : ∃ s, v.toUtc? hz = some s ∧ s.secs = t.secs := by
  have hsecond := value_div_of_ofUtc hpos hnanos h
  have hrunning : hz ≠ 0 := UInt64.pos_iff_ne_zero.mp hpos
  cases hs : v.toUtc? hz with
  | none =>
    have hrange := (toUtc?_eq_none_iff hrunning).mp hs
    rw [hsecond] at hrange
    exact absurd ⟨t.first_le, t.le_last⟩ hrange
  | some s => exact ⟨s, rfl, (toUtc?_eq_some_iff.mp hs).2.1.trans hsecond⟩

/-- A time whose nanoseconds fall on a tick lies on both grids. -/
theorem dvd_elapsed_mul (hsecs : 0 ≤ t.secs) (hdvd : hz.toNat ∣ nanosPerSecond)
    (htick : nanosPerSecond / hz.toNat ∣ t.nanos) :
    nanosPerSecond ∣ t.elapsed.toNat * hz.toNat := by
  have hstep : nanosPerSecond / hz.toNat ∣ t.elapsed.toNat := by
    rw [UtcTime.toNat_elapsed hsecs]
    exact ((Nat.div_dvd_of_dvd hdvd).mul_left _).add htick
  calc nanosPerSecond = nanosPerSecond / hz.toNat * hz.toNat := (Nat.div_mul_cancel hdvd).symm
    _ ∣ t.elapsed.toNat * hz.toNat := Nat.mul_dvd_mul_right hstep _

/-- A time outside of a leap second that has a counter value is found again from it. -/
theorem recoversTime_of_ofUtc (hrunning : 1 ≤ hz) (hnanos : t.nanos < nanosPerSecond)
    (h : ofUtc t hz = .ok v) : ∃ s, v.toUtc? hz = some s ∧ RecoversTime hz t s := by
  have hpos : 0 < hz.toNat := UInt64.le_iff_toNat_le.mp hrunning
  have hsecs : 0 ≤ t.secs := (ofUtc_eq_ok_iff.mp h).1
  obtain ⟨s, hs, hsame⟩ := exists_toUtc?_of_ofUtc hpos hnanos h
  have ht := UtcTime.natCast_toNat_elapsed hsecs
  have hs' := UtcTime.natCast_toNat_elapsed (hsame ▸ hsecs)
  have hsub := UtcTime.elapsed_sub_elapsed hsame
  have hplace : s.elapsed.toNat =
      regrid hz.toNat nanosPerSecond (regrid nanosPerSecond hz.toNat t.elapsed.toNat) := by
    rw [elapsed_of_toUtc? hs, value_of_ofUtc h]
  refine ⟨s, hs, hsame, .inr ⟨hsame, ?_⟩, ?_, fun hdvd htick => ?_⟩
  · have hle : s.elapsed.toNat ≤ t.elapsed.toNat := hplace ▸ regrid_regrid_le _ _ _
    omega
  · have hlost := lt_regrid_regrid_add (n := t.elapsed.toNat)
      (show 0 < nanosPerSecond by decide) hpos
    rw [← hplace] at hlost
    have hposCast : (0 : ℚ) < hz.toNat := Nat.cast_pos.mpr hpos
    have hlostCast : (t.elapsed.toNat * hz.toNat : ℚ) <
        s.elapsed.toNat * hz.toNat + (nanosPerSecond + hz.toNat) := by exact_mod_cast hlost
    calc ((t.elapsed - s.elapsed : Int) : ℚ) = t.elapsed.toNat - s.elapsed.toNat := by
          rw [← ht, ← hs']
          push_cast
          rfl
      _ < nanosPerSecond / hz.toNat + 1 := by
          rw [div_add_one hposCast.ne', lt_div_iff₀ hposCast]
          linarith
  · rw [regrid_regrid_of_dvd hpos (dvd_elapsed_mul hsecs hdvd htick)] at hplace
    exact UtcTime.eq_of_parts hsame (by omega)

/-- On a counter that runs, turning a counter value into a time and back, or a time outside of a
leap second into a counter value and back, loses no more than the two roundings make unavoidable.
Nothing is lost where every tick falls on a nanosecond, as it does in the reference system. -/
theorem undone (hrunning : 1 ≤ hz) :
    (∀ v t, toUtc? v hz = some t → ∃ w, ofUtc t hz = .ok w ∧ Recovers hz v w) ∧
    (∀ t v, t.nanos < nanosPerSecond → ofUtc t hz = .ok v →
      ∃ s, toUtc? v hz = some s ∧ RecoversTime hz t s) ∧
    standardClockHz.toNat ∣ nanosPerSecond :=
  ⟨fun _ _ h => recovers_of_toUtc? hrunning h,
    fun _ _ hnanos h => recoversTime_of_ofUtc hrunning hnanos h, by decide⟩

/-- The start of the second second of 1970. -/
def secondStart : UtcTime := ⟨1, 0, by decide, by decide, by decide⟩

/-- The last nanosecond before a seventh of that second has passed. -/
def beforeSeventh : UtcTime := ⟨1, 142857142, by decide, by decide, by decide⟩

/-- At seven ticks a second, tick 8 falls between two nanoseconds. The earlier one of them still
belongs to value 7, and that is found again at the start of the second. -/
theorem undone_sevenHertz :
    (1 : UInt64) ≤ 7 ∧ toUtc? ⟨8⟩ 7 = some beforeSeventh ∧ ofUtc beforeSeventh 7 = .ok ⟨7⟩ ∧
      toUtc? ⟨7⟩ 7 = some secondStart ∧ Recovers 7 ⟨8⟩ ⟨7⟩ ∧
      RecoversTime 7 beforeSeventh secondStart := by
  have hthere : toUtc? ⟨8⟩ 7 = some beforeSeventh := by rfl
  have hback : ofUtc beforeSeventh 7 = .ok ⟨7⟩ := by rfl
  have hthere' : toUtc? ⟨7⟩ 7 = some secondStart := by rfl
  obtain ⟨hwords, htimes, -⟩ := undone (show (1 : UInt64) ≤ 7 by decide)
  obtain ⟨w, hw, hrecovers⟩ := hwords ⟨8⟩ beforeSeventh hthere
  obtain ⟨s, hs, hrecovers'⟩ := htimes beforeSeventh ⟨7⟩ (by decide) hback
  cases hback.symm.trans hw
  cases hthere'.symm.trans hs
  exact ⟨by decide, hthere, hback, hthere', hrecovers, hrecovers'⟩

end TimestampWord

end OpticalTiming
