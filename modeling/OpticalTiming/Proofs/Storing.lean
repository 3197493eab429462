import OpticalTiming.Proofs.Completing
import OpticalTiming.Time.Duration

/-!
# Stored values are read back

Reading inverts writing for every type with a stored form (`ofJson?_toJson`). For configurations
this is the case of the lemma on partial forms in which nothing is missing. A span of time is stored
as a number of milliseconds, and a whole number of them that fits 64 bits is read back as it was.

A configuration may come from a form that differs from the written one: from an array, with fields
in another order, left out or added. `stored_and_read` says that writing it once settles its form.
-/

namespace OpticalTiming

/-! ### Spans of time -/

namespace Duration

theorem wholeMillis_ofMillis (ms : UInt64) : (ofMillis ms).wholeMillis = ms.toNat := by
  unfold wholeMillis ofMillis
  dsimp only
  omega

theorem storedMillis_ofMillis (ms : UInt64) : (ofMillis ms).storedMillis = ms := by
  rw [storedMillis, wholeMillis_ofMillis, UInt64.ofNat_toNat]

/-- Whether a span is a whole number of milliseconds that fits 64 bits. -/
def IsStorable (d : Duration) : Prop :=
  d.nanos % 1000000 = 0 ∧ d.wholeMillis < UInt64.size

theorem isStorable_ofMillis (ms : UInt64) : (ofMillis ms).IsStorable := by
  refine ⟨Nat.mul_mod_left _ _, ?_⟩
  rw [wholeMillis_ofMillis]
  exact ms.toNat_lt

/-- Nothing of such a span is lost. -/
theorem ofMillis_storedMillis {d : Duration} (h : d.IsStorable) : ofMillis d.storedMillis = d := by
  obtain ⟨hwhole, hfits⟩ := h
  have hstored : d.storedMillis.toNat = d.wholeMillis := by
    rw [storedMillis, UInt64.toNat_ofNat_of_lt' hfits]
  have hnanos := d.nanos_lt
  obtain ⟨secs, nanos, _, _⟩ := d
  simp only [ofMillis, hstored, wholeMillis] at hwhole hnanos ⊢
  congr 1 <;> omega

end Duration

/-! ### Words, alternatives and measurements -/

theorem TimestampWord.ofJson?_toJson (w : TimestampWord) : ofJson? w.toJson = some w := by
  rw [ofJson?, toJson, Json.word64?_word64]
  rfl

theorem FixedLengthCommand.ofJson?_toJson (c : FixedLengthCommand) : ofJson? c.toJson = some c := by
  cases c <;> decide

theorem RoundTrip.ofJson?_toJson (r : RoundTrip) : ofJson? r.toJson = some r := by
  have hticks : Json.required? [("round_trip_ticks", .word32 r.ticks)] "round_trip_ticks"
      Json.word32? = some r.ticks := Json.word32?_word32 r.ticks
  have hrecord : r.toJson.record? fieldNames = some [("round_trip_ticks", .word32 r.ticks)] := rfl
  rw [ofJson?, hrecord]
  simp only [Option.bind_eq_bind, Option.bind_some, hticks]
  rfl

/-! ### Records -/

theorem DelayParameters.ofJson?_toJson (d : DelayParameters) : ofJson? d.toJson = some d := by
  rw [toJson_eq, ofJson?_of_form (Json.formOf_record_self d.fields), if_pos (by decide)]

theorem StoredCalibration.ofJson?_toJson (e : StoredCalibration) : ofJson? e.toJson = some e :=
  ofJson?_of_written e.written_toJson

theorem RegisterMap.without_nil (r : RegisterMap) : r.without [] = r := rfl

theorem RegisterMap.ofJson?_toJson (r : RegisterMap) : ofJson? r.toJson = some r := by
  rw [toJson_eq, ofJson?_of_form (Json.formOf_record_self r.fields), without_nil]

namespace DesignConfig

theorem without_nil (c : DesignConfig) : c.without [] [] = c := rfl

theorem ofJson?_toJson (c : DesignConfig) : ofJson? c.toJson = some c := by
  have hwritten := writtenWithout_of_form (Json.formOf_record_self c.fields)
  rw [toJson_eq, ofJson?_of_writtenWithout hwritten, without_nil]

/-- A configuration with the numbers that four spans of time are stored as. -/
def withSpans (c : DesignConfig) (echo poll lock settle : Duration) : DesignConfig :=
  { c with
    echoTimeout := echo.storedMillis
    pollInterval := poll.storedMillis
    lockTimeout := lock.storedMillis
    muxSettle := settle.storedMillis }

/-- A configuration is read back from its stored form in every field. Whatever form it was first
read from, another round of writing and reading changes neither it nor its stored form. The same
holds of the spans of time that its numbers stand for. -/
theorem stored_and_read :
    (∀ c : DesignConfig, ofJson? c.toJson = some c) ∧
      (∀ json c, ofJson? json = some c →
        ofJson? c.toJson = some c ∧ (ofJson? c.toJson).map toJson = some c.toJson) ∧
      (∀ (c : DesignConfig) (echo poll lock settle : Duration),
        echo.IsStorable → poll.IsStorable → lock.IsStorable → settle.IsStorable →
        ∃ c', ofJson? (c.withSpans echo poll lock settle).toJson = some c' ∧
          c' = c.withSpans echo poll lock settle ∧
          Duration.ofMillis c'.echoTimeout = echo ∧ Duration.ofMillis c'.pollInterval = poll ∧
          Duration.ofMillis c'.lockTimeout = lock ∧ Duration.ofMillis c'.muxSettle = settle) ∧
      ∀ ms : UInt64,
        (Duration.ofMillis ms).IsStorable ∧ (Duration.ofMillis ms).storedMillis = ms := by
  refine ⟨ofJson?_toJson, fun json c _ => ⟨c.ofJson?_toJson, ?_⟩, ?_, ?_⟩
  · rw [ofJson?_toJson]
    rfl
  · intro c echo poll lock settle hecho hpoll hlock hsettle
    exact ⟨_, ofJson?_toJson _, rfl, Duration.ofMillis_storedMillis hecho,
      Duration.ofMillis_storedMillis hpoll, Duration.ofMillis_storedMillis hlock,
      Duration.ofMillis_storedMillis hsettle⟩
  · exact fun ms => ⟨Duration.isStorable_ofMillis ms, Duration.storedMillis_ofMillis ms⟩

end DesignConfig

end OpticalTiming
