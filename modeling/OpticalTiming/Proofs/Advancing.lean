import OpticalTiming.Proofs.Ticking

/-!
# A counter that follows the calendar

The order of times puts a leap second before the second that follows it, while the counter goes by
the nanoseconds that have elapsed, and by those the leap second lies beside that second. So a time
in a leap second may overrun a later one (`UtcTime.Overruns`), and these are the only times whose
order the counter does not keep (`elapsed_le_iff_not_overruns`).

`advances` says what holds for any two times in order. Unless the first one overruns the second, the
counter values are in order, and the first time has one if the second has. Otherwise the counter falls
back, though by no more than the ticks of one second.
-/

namespace OpticalTiming

variable {s t : UtcTime} {hz : UInt64} {v w : TimestampWord}

/-! ### The order of times -/

/-- `s` is further past the end of its second than `t` is into the next one, as only a leap second
can be. -/
def UtcTime.Overruns (s t : UtcTime) : Prop :=
  t.secs = s.secs + 1 ∧ t.nanos + nanosPerSecond < s.nanos

/-- Less has elapsed at the earlier one of two times, unless it overruns the other one. -/
theorem UtcTime.elapsed_le_iff_not_overruns (h : s.le t) :
    s.elapsed ≤ t.elapsed ↔ ¬ s.Overruns t := by
  have hs := s.nanos_lt_two_seconds
  unfold UtcTime.le at h
  unfold UtcTime.Overruns UtcTime.elapsed
  unfold nanosPerSecond at hs ⊢
  omega

/-- A time that overruns a later one is less than a second ahead of it. -/
theorem UtcTime.Overruns.elapsed_bounds (h : s.Overruns t) :
    t.elapsed ≤ s.elapsed ∧ s.elapsed ≤ t.elapsed + nanosPerSecond := by
  have hs := s.nanos_lt_two_seconds
  unfold UtcTime.Overruns at h
  unfold UtcTime.elapsed
  unfold nanosPerSecond at hs h ⊢
  omega

namespace TimestampWord

/-! ### The order of counter values -/

/-- The counter keeps the order of two times. -/
structure InOrder (hz : UInt64) (s t : UtcTime) : Prop where
  value_le : ∀ v w, ofUtc s hz = .ok v → ofUtc t hz = .ok w → v.value ≤ w.value
  /-- The first time has a counter value if the second one has. -/
  accepted : ∀ w, ofUtc t hz = .ok w → 0 ≤ s.secs → ∃ v, ofUtc s hz = .ok v

/-- What holds on a counter of `hz` ticks a second for a time `s` that is not after `t`. -/
structure Advances (hz : UInt64) (s t : UtcTime) : Prop where
  inOrder : ¬ s.Overruns t → InOrder hz s t
  /-- The counter falls back by no more than one second. -/
  setBack : s.Overruns t → ∀ v w, ofUtc s hz = .ok v → ofUtc t hz = .ok w →
    w.value ≤ v.value ∧ v.value.toNat ≤ w.value.toNat + hz.toNat
  /-- An overrunning time has a counter value unless the counter is in its last second. -/
  accepted : s.Overruns t → ∀ w, ofUtc t hz = .ok w → 0 ≤ s.secs →
    w.value.toNat + hz.toNat < 2 ^ 64 → ∃ v, ofUtc s hz = .ok v

/-- The more has elapsed, the more ticks were made. -/
theorem ticksAt_mono (hs : 0 ≤ s.secs) (ht : 0 ≤ t.secs) (h : s.elapsed ≤ t.elapsed) (hz : UInt64) :
    ticksAt s hz ≤ ticksAt t hz := by
  rw [ticksAt_eq hs, ticksAt_eq ht]
  exact Nat.div_le_div_right (Nat.mul_le_mul_right _ (Int.toNat_le_toNat h))

/-- A second more of nanoseconds is a second more of ticks. -/
theorem ticksAt_le_add (hs : 0 ≤ s.secs) (ht : 0 ≤ t.secs)
    (h : s.elapsed ≤ t.elapsed + nanosPerSecond) (hz : UInt64) :
    ticksAt s hz ≤ ticksAt t hz + hz.toNat := by
  have helapsed : s.elapsed.toNat ≤ t.elapsed.toNat + nanosPerSecond := by omega
  rw [ticksAt_eq hs, ticksAt_eq ht]
  calc s.elapsed.toNat * hz.toNat / nanosPerSecond
      ≤ (t.elapsed.toNat + nanosPerSecond) * hz.toNat / nanosPerSecond :=
        Nat.div_le_div_right (Nat.mul_le_mul_right _ helapsed)
    _ = t.elapsed.toNat * hz.toNat / nanosPerSecond + hz.toNat := by
        rw [Nat.add_mul, Nat.mul_comm nanosPerSecond, Nat.add_mul_div_right _ _ (by decide)]

/-- Times in the order of the nanoseconds elapsed have their counter values in order. -/
theorem inOrder_of_elapsed_le (h : s.elapsed ≤ t.elapsed) : InOrder hz s t where
  value_le v w hv hw := by
    obtain ⟨hs, hvalue⟩ := ofUtc_eq_ok_iff.mp hv
    obtain ⟨ht, hvalue'⟩ := ofUtc_eq_ok_iff.mp hw
    rw [UInt64.le_iff_toNat_le, hvalue, hvalue']
    exact ticksAt_mono hs ht h hz
  accepted w hw hs := by
    obtain ⟨ht, hlt⟩ := exists_ofUtc_eq_ok_iff.mp ⟨w, hw⟩
    exact exists_ofUtc_eq_ok_iff.mpr ⟨hs, (ticksAt_mono hs ht h hz).trans_lt hlt⟩

/-- For any two times in order, the counter keeps their order unless the first one overruns the
second. Then it falls back, by no more than the ticks of one second. -/
theorem advances (h : s.le t) (hz : UInt64) : Advances hz s t where
  inOrder hkept := inOrder_of_elapsed_le ((UtcTime.elapsed_le_iff_not_overruns h).mpr hkept)
  setBack hover v w hv hw := by
    obtain ⟨hback, hahead⟩ := hover.elapsed_bounds
    obtain ⟨hs, hvalue⟩ := ofUtc_eq_ok_iff.mp hv
    obtain ⟨ht, hvalue'⟩ := ofUtc_eq_ok_iff.mp hw
    rw [UInt64.le_iff_toNat_le, hvalue, hvalue']
    exact ⟨ticksAt_mono ht hs hback hz, ticksAt_le_add hs ht hahead hz⟩
  accepted hover w hw hs hroom := by
    obtain ⟨ht, hvalue⟩ := ofUtc_eq_ok_iff.mp hw
    have hle := ticksAt_le_add hs ht hover.elapsed_bounds.2 hz
    exact exists_ofUtc_eq_ok_iff.mpr ⟨hs, (hvalue ▸ hle).trans_lt hroom⟩

/-- The middle of a leap second at the end of the first minute of 1970. -/
def leapTime : UtcTime := ⟨59, 1500000000, by decide, by decide, by decide⟩

/-- The start of the second minute of 1970. -/
def minuteTime : UtcTime := ⟨60, 0, by decide, by decide, by decide⟩

/-- At two ticks a second, the middle of a leap second is one tick ahead of the minute after it. -/
theorem advances_leapTime :
    leapTime.le minuteTime ∧ leapTime.Overruns minuteTime ∧ Advances 2 leapTime minuteTime := by
  have hle : leapTime.le minuteTime := .inl (by decide)
  exact ⟨hle, ⟨by decide, by decide⟩, advances hle 2⟩

/-- So the counter does run back, and near its end it has a value for a minute but none for the leap
second before it. -/
theorem runs_back_after_leapTime :
    leapTime.le minuteTime ∧
    ofUtc leapTime 2 = .ok ⟨121⟩ ∧ ofUtc minuteTime 2 = .ok ⟨120⟩ ∧ ¬ InOrder 2 leapTime minuteTime ∧
    0 ≤ leapTime.secs ∧ (∃ w, ofUtc minuteTime 307445734561825860 = .ok w) ∧
    ¬ ∃ v, ofUtc leapTime 307445734561825860 = .ok v := by
  have hleap : ofUtc leapTime 2 = .ok ⟨121⟩ := by rfl
  have hminute : ofUtc minuteTime 2 = .ok ⟨120⟩ := by rfl
  refine ⟨.inl (by decide), hleap, hminute, fun hkept => ?_, by decide, ?_, ?_⟩
  · exact absurd (hkept.value_le _ _ hleap hminute) (by decide)
  · exact exists_ofUtc_eq_ok_iff.mpr ⟨by decide, by decide⟩
  · exact fun hsome => absurd (exists_ofUtc_eq_ok_iff.mp hsome).2 (by decide)

end TimestampWord

end OpticalTiming
