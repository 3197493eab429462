import OpticalTiming.Config.Format
import OpticalTiming.Proofs.Fields

/-!
# Configurations that mention only a part

`WrittenWithout` lists the stored forms of a value from which some fields are missing, and `without`
is the value that is read from them: in a `DesignConfig` and its `RegisterMap` each missing field
takes the value of the reference system and no other field changes, in a `StoredCalibration` only
the channel may be missing. Each reader has one lemma that says so. The forms of a record contain
forms of the records inside it, so the lemmas follow the nesting of the types.

`completes` draws the conclusions for a configuration.
-/

namespace OpticalTiming

open Json (FormOf)

variable {missing missingDelay missingBlocks : List String} {json : Json}

/-! ### Words and alternatives -/

theorem EndpointAddress.ofJson?_toJson (a : EndpointAddress) : ofJson? a.toJson = some a := by
  rw [ofJson?, toJson, Json.word32?_word32]
  rfl

theorem MuxChannel.ofJson?_toJson (c : MuxChannel) : ofJson? c.toJson = some c := by
  rw [ofJson?, toJson, Json.word32?_word32]
  rfl

theorem MuxChannel.nullable?_toJson (channel? : Option MuxChannel) :
    Json.nullable? ofJson? (channel?.elim .null toJson) = some channel? := by
  cases channel? with
  | none => rfl
  | some channel =>
    change (ofJson? channel.toJson).map some = _
    rw [ofJson?_toJson]
    rfl

theorem ReleasePolicy.ofJson?_toJson (r : ReleasePolicy) : ofJson? r.toJson = some r := by
  cases r <;> decide

/-! ### Delay settings -/

namespace DelayParameters

/-- The stored fields of delay settings. -/
def fields (d : DelayParameters) : List (String × Json) :=
  [("coarse", .word32 d.coarse), ("fine", .word32 d.fine), ("phase", .word32 d.phase)]

theorem toJson_eq (d : DelayParameters) : d.toJson = .record d.fields := rfl

/-- Delay settings are read if none of their fields is missing. -/
theorem ofJson?_of_form {d : DelayParameters} (h : FormOf d.fields missing json) :
    ofJson? json = if ∀ name ∈ fieldNames, name ∉ missing then some d else none := by
  obtain ⟨read, hrecord, hlookup⟩ : json.HasFields fieldNames _ := h.hasFields rfl (by decide)
  have hnumber : ∀ name (n : UInt32), d.fields.lookup name = some (.word32 n) →
      Json.required? read name Json.word32? = if name ∈ missing then none else some n :=
    fun name n hfield => Json.required?_of_lookup hlookup hfield (Json.word32?_word32 n)
  unfold ofJson?
  simp only [hrecord, Option.bind_eq_bind, Option.bind_some, hnumber "coarse" d.coarse rfl,
    hnumber "fine" d.fine rfl, hnumber "phase" d.phase rfl]
  by_cases hcoarse : "coarse" ∈ missing <;> by_cases hfine : "fine" ∈ missing <;>
    by_cases hphase : "phase" ∈ missing <;> simp [fieldNames, hcoarse, hfine, hphase]

end DelayParameters

/-! ### Stored calibrations -/

namespace StoredCalibration

/-- The stored fields of a calibration, given the form of its delay settings. -/
def fieldsWith (e : StoredCalibration) (delay : Json) : List (String × Json) :=
  [("id", .text e.id), ("address", e.address.toJson), ("delay", delay),
    ("mux_channel", e.muxChannel.elim .null MuxChannel.toJson)]

theorem toJson_eq (e : StoredCalibration) : e.toJson = .record (e.fieldsWith e.delay.toJson) := rfl

/-- The fields that may not be missing. -/
def requiredNames : List String := ["id", "address", "delay"]

/-- The stored forms of a calibration that lacks some of its own fields and some of its delay
settings. -/
def WrittenWithout (e : StoredCalibration) (missing missingDelay : List String) (json : Json) :
    Prop :=
  ∃ delay, FormOf e.delay.fields missingDelay delay ∧ FormOf (e.fieldsWith delay) missing json

/-- What is left of a calibration. -/
def without (e : StoredCalibration) (missing : List String) : StoredCalibration :=
  { e with muxChannel := if "mux_channel" ∈ missing then none else e.muxChannel }

/-- Whether all that has to be there is there. -/
def HasRequired (missing missingDelay : List String) : Prop :=
  (∀ name ∈ requiredNames, name ∉ missing) ∧
    ∀ name ∈ DelayParameters.fieldNames, name ∉ missingDelay

instance (missing missingDelay : List String) : Decidable (HasRequired missing missingDelay) :=
  inferInstanceAs (Decidable (_ ∧ _))

/-- A calibration is read if nothing but its channel is missing. -/
theorem ofJson?_of_writtenWithout {e : StoredCalibration}
    (h : e.WrittenWithout missing missingDelay json) :
    ofJson? json =
      if HasRequired missing missingDelay then some (e.without missing) else none := by
  obtain ⟨delay, hdelay, hform⟩ := h
  obtain ⟨read, hrecord, hlookup⟩ : json.HasFields fieldNames _ := hform.hasFields rfl (by decide)
  have hid : Json.required? read "id" Json.text? =
      if "id" ∈ missing then none else some e.id :=
    Json.required?_of_lookup hlookup rfl rfl
  have haddress : Json.required? read "address" EndpointAddress.ofJson? =
      if "address" ∈ missing then none else some e.address :=
    Json.required?_of_lookup hlookup rfl (EndpointAddress.ofJson?_toJson e.address)
  have hsettings : Json.required? read "delay" DelayParameters.ofJson? =
      if "delay" ∈ missing then none
      else if ∀ name ∈ DelayParameters.fieldNames, name ∉ missingDelay then some e.delay
      else none :=
    Json.required?_of_lookup hlookup rfl (DelayParameters.ofJson?_of_form hdelay)
  have hchannel : Json.optional? read "mux_channel" none (Json.nullable? MuxChannel.ofJson?) =
      some (if "mux_channel" ∈ missing then none else e.muxChannel) :=
    Json.optional?_of_lookup hlookup rfl (MuxChannel.nullable?_toJson e.muxChannel)
  unfold ofJson?
  simp only [hrecord, Option.bind_eq_bind, Option.bind_some, hid, haddress, hsettings, hchannel]
  by_cases hrequired : HasRequired missing missingDelay
  · rw [if_neg (hrequired.1 "id" (by decide)), if_neg (hrequired.1 "address" (by decide)),
      if_neg (hrequired.1 "delay" (by decide)), if_pos hrequired.2, if_pos hrequired]
    rfl
  · -- One of the conditions fails, and with it the first step that depends on it.
    rw [if_neg hrequired]
    by_cases hid' : "id" ∈ missing
    · rw [if_pos hid']
      rfl
    by_cases haddress' : "address" ∈ missing
    · rw [if_neg hid', if_pos haddress']
      rfl
    by_cases hdelay' : "delay" ∈ missing
    · rw [if_neg hid', if_neg haddress', if_pos hdelay']
      rfl
    have hnames : ∀ name ∈ requiredNames, name ∉ missing := by
      simp [requiredNames, hid', haddress', hdelay']
    rw [if_neg hid', if_neg haddress', if_neg hdelay',
      if_neg fun hfull => hrequired ⟨hnames, hfull⟩]
    rfl

/-- The stored forms of a calibration: nothing is missing, except that no channel may be left
out. -/
def Written (e : StoredCalibration) (json : Json) : Prop :=
  e.WrittenWithout [] [] json ∨ (e.muxChannel = none ∧ e.WrittenWithout ["mux_channel"] [] json)

theorem written_toJson (e : StoredCalibration) : e.Written e.toJson := by
  rw [toJson_eq, DelayParameters.toJson_eq]
  exact .inl ⟨_, Json.formOf_record_self e.delay.fields, Json.formOf_record_self _⟩

theorem ofJson?_of_written {e : StoredCalibration} (h : e.Written json) :
    ofJson? json = some e := by
  rcases h with h | ⟨hchannel, h⟩
  · rw [ofJson?_of_writtenWithout h, if_pos (by decide)]
    rfl
  · rw [ofJson?_of_writtenWithout h, if_pos (by decide), without, if_pos (by decide), ← hchannel]

end StoredCalibration

/-! ### Register maps -/

namespace RegisterMap

/-- The stored fields of a register map. -/
def fields (r : RegisterMap) : List (String × Json) :=
  [("timestamp", .text r.timestamp), ("echo", .text r.echo), ("sfp", .text r.sfp),
    ("delay", .text r.delay), ("commands", .text r.commands), ("upstream", .text r.upstream),
    ("mux", .text r.mux)]

theorem toJson_eq (r : RegisterMap) : r.toJson = .record r.fields := rfl

/-- The register map in which the missing names are those of the reference system. -/
def without (r : RegisterMap) (missing : List String) : RegisterMap where
  timestamp := if "timestamp" ∈ missing then standard.timestamp else r.timestamp
  echo := if "echo" ∈ missing then standard.echo else r.echo
  sfp := if "sfp" ∈ missing then standard.sfp else r.sfp
  delay := if "delay" ∈ missing then standard.delay else r.delay
  commands := if "commands" ∈ missing then standard.commands else r.commands
  upstream := if "upstream" ∈ missing then standard.upstream else r.upstream
  mux := if "mux" ∈ missing then standard.mux else r.mux

/-- A register map is read whatever is missing. -/
theorem ofJson?_of_form {r : RegisterMap} (h : FormOf r.fields missing json) :
    ofJson? json = some (r.without missing) := by
  obtain ⟨read, hrecord, hlookup⟩ : json.HasFields fieldNames _ := h.hasFields rfl (by decide)
  have hblock : ∀ name default (block : String), r.fields.lookup name = some (.text block) →
      Json.optional? read name default Json.text? =
        some (if name ∈ missing then default else block) :=
    fun name default block hfield => Json.optional?_of_lookup hlookup hfield rfl
  unfold ofJson?
  simp only [hrecord, Option.bind_eq_bind, Option.bind_some, hblock "timestamp" _ r.timestamp rfl,
    hblock "echo" _ r.echo rfl, hblock "sfp" _ r.sfp rfl, hblock "delay" _ r.delay rfl,
    hblock "commands" _ r.commands rfl, hblock "upstream" _ r.upstream rfl,
    hblock "mux" _ r.mux rfl]
  rfl

end RegisterMap

/-! ### Configurations -/

namespace DesignConfig

/-- The stored fields of a configuration, given the forms of its register map and of its
endpoints. -/
def fieldsWith (c : DesignConfig) (registers : Json) (endpoints : List Json) :
    List (String × Json) :=
  [("family", .text c.family), ("registers", registers),
    ("clock_frequency_hz", .word64 c.clockHz), ("echo_timeout", .word64 c.echoTimeout),
    ("poll_interval", .word64 c.pollInterval), ("lock_timeout", .word64 c.lockTimeout),
    ("mux_settle", .word64 c.muxSettle), ("mux_channel_count", .word32 c.muxChannelCount),
    ("command_channel_count", .word32 c.commandChannelCount),
    ("sfp_restore", c.releasePolicy.toJson), ("endpoints", .array endpoints)]

/-- The stored fields of a configuration. -/
def fields (c : DesignConfig) : List (String × Json) :=
  c.fieldsWith c.registers.toJson (c.endpoints.map StoredCalibration.toJson)

theorem toJson_eq (c : DesignConfig) : c.toJson = .record c.fields := rfl

/-- The configuration in which the missing parts are those of the reference system; if the register
map is not missing, this holds for the missing names in it. -/
def without (c : DesignConfig) (missing missingBlocks : List String) : DesignConfig where
  family := if "family" ∈ missing then standard.family else c.family
  registers :=
    if "registers" ∈ missing then standard.registers else c.registers.without missingBlocks
  clockHz := if "clock_frequency_hz" ∈ missing then standard.clockHz else c.clockHz
  echoTimeout := if "echo_timeout" ∈ missing then standard.echoTimeout else c.echoTimeout
  pollInterval := if "poll_interval" ∈ missing then standard.pollInterval else c.pollInterval
  lockTimeout := if "lock_timeout" ∈ missing then standard.lockTimeout else c.lockTimeout
  muxSettle := if "mux_settle" ∈ missing then standard.muxSettle else c.muxSettle
  muxChannelCount :=
    if "mux_channel_count" ∈ missing then standard.muxChannelCount else c.muxChannelCount
  commandChannelCount :=
    if "command_channel_count" ∈ missing then standard.commandChannelCount
    else c.commandChannelCount
  releasePolicy := if "sfp_restore" ∈ missing then standard.releasePolicy else c.releasePolicy
  endpoints := if "endpoints" ∈ missing then standard.endpoints else c.endpoints

/-- A configuration is read from every form in which its register map and its endpoints can be
read. -/
theorem ofJson?_of_form {c : DesignConfig} {registers : Json} {items : List Json}
    (h : FormOf (c.fieldsWith registers items) missing json)
    (hregisters : RegisterMap.ofJson? registers = some (c.registers.without missingBlocks))
    (hitems : items.mapM StoredCalibration.ofJson? = some c.endpoints) :
    ofJson? json = some (c.without missing missingBlocks) := by
  obtain ⟨read, hrecord, hlookup⟩ : json.HasFields fieldNames _ := h.hasFields rfl (by decide)
  have hspan : ∀ name default (n : UInt64),
      (c.fieldsWith registers items).lookup name = some (.word64 n) →
        Json.optional? read name default Json.word64? =
          some (if name ∈ missing then default else n) :=
    fun name default n hfield => Json.optional?_of_lookup hlookup hfield (Json.word64?_word64 n)
  have hcount : ∀ name default (n : UInt32),
      (c.fieldsWith registers items).lookup name = some (.word32 n) →
        Json.optional? read name default Json.word32? =
          some (if name ∈ missing then default else n) :=
    fun name default n hfield => Json.optional?_of_lookup hlookup hfield (Json.word32?_word32 n)
  have hfamily : Json.optional? read "family" standard.family Json.text? =
      some (c.without missing missingBlocks).family :=
    Json.optional?_of_lookup hlookup rfl rfl
  have hmap : Json.optional? read "registers" standard.registers RegisterMap.ofJson? =
      some (c.without missing missingBlocks).registers :=
    Json.optional?_of_lookup hlookup rfl hregisters
  have hpolicy : Json.optional? read "sfp_restore" standard.releasePolicy ReleasePolicy.ofJson? =
      some (c.without missing missingBlocks).releasePolicy :=
    Json.optional?_of_lookup hlookup rfl (ReleasePolicy.ofJson?_toJson c.releasePolicy)
  have hendpoints : Json.optional? read "endpoints" standard.endpoints endpointsOfJson? =
      some (c.without missing missingBlocks).endpoints :=
    Json.optional?_of_lookup hlookup rfl hitems
  unfold ofJson?
  simp only [hrecord, Option.bind_eq_bind, Option.bind_some, hfamily, hmap,
    hspan "clock_frequency_hz" _ c.clockHz rfl, hspan "echo_timeout" _ c.echoTimeout rfl,
    hspan "poll_interval" _ c.pollInterval rfl, hspan "lock_timeout" _ c.lockTimeout rfl,
    hspan "mux_settle" _ c.muxSettle rfl, hcount "mux_channel_count" _ c.muxChannelCount rfl,
    hcount "command_channel_count" _ c.commandChannelCount rfl, hpolicy, hendpoints]
  rfl

/-- One endpoint that cannot be read is enough to refuse a configuration, in every form and whatever
the other fields hold. -/
theorem ofJson?_eq_none_of_mem {fields : List (String × Json)} {items : List Json} {entry : Json}
    (h : FormOf fields missing json) (hnames : fields.map Prod.fst = fieldNames)
    (hitems : fields.lookup "endpoints" = some (.array items)) (hkept : "endpoints" ∉ missing)
    (hmem : entry ∈ items) (hentry : StoredCalibration.ofJson? entry = none) :
    ofJson? json = none := by
  obtain ⟨read, hrecord, hlookup⟩ : json.HasFields fieldNames _ := h.hasFields hnames (by decide)
  have hrefused : Json.optional? read "endpoints" standard.endpoints endpointsOfJson? = none := by
    unfold Json.optional?
    rw [hlookup, Json.lookup_without, if_neg hkept, hitems]
    exact Json.mapM_eq_none_of_mem hentry hmem
  -- The other fields are read or refused before it; either way nothing comes out.
  unfold ofJson?
  simp only [hrecord, Option.bind_eq_bind, Option.bind_some, hrefused, Option.bind_none,
    Option.bind_fun_none]

/-- The stored forms of a configuration from which some parts are missing, and some names from its
register map. -/
def WrittenWithout (c : DesignConfig) (missing missingBlocks : List String) (json : Json) : Prop :=
  ∃ registers items, FormOf c.registers.fields missingBlocks registers ∧
    List.Forall₂ StoredCalibration.Written c.endpoints items ∧
    FormOf (c.fieldsWith registers items) missing json

theorem ofJson?_of_writtenWithout {c : DesignConfig}
    (h : c.WrittenWithout missing missingBlocks json) :
    ofJson? json = some (c.without missing missingBlocks) := by
  obtain ⟨registers, items, hregisters, hitems, hform⟩ := h
  refine ofJson?_of_form hform (RegisterMap.ofJson?_of_form hregisters) ?_
  exact Json.mapM_eq_some_of_forall₂ (hitems.imp fun _ _ => StoredCalibration.ofJson?_of_written)

/-- The forms that are made of the values a configuration is stored with. -/
theorem writtenWithout_of_form {c : DesignConfig} (h : FormOf c.fields missing json) :
    c.WrittenWithout missing [] json := by
  unfold fields at h
  rw [RegisterMap.toJson_eq] at h
  refine ⟨_, _, Json.formOf_record_self c.registers.fields, ?_, h⟩
  rw [List.forall₂_map_right_iff, List.forall₂_same]
  exact fun e _ => e.written_toJson

/-! ### Partial configurations -/

/-- How the stored forms of a configuration are read when parts of them are missing. -/
structure Completes (c : DesignConfig) : Prop where
  /-- Exactly the missing parts are those of the reference system. -/
  forms : ∀ missing missingBlocks json, c.WrittenWithout missing missingBlocks json →
    ofJson? json = some (c.without missing missingBlocks)
  /-- The first values in an array are read as the object that holds them, and the fields behind
  them are missing. -/
  array : ∀ k,
    ofJson? (.array ((c.fields.take k).map Prod.snd)) = ofJson? (.record (c.fields.take k)) ∧
      ofJson? (.record (c.fields.take k)) = some (c.without (fieldNames.drop k) [])
  /-- An endpoint without a channel is read as one whose channel is null. -/
  channel : ∀ (e : StoredCalibration) json, e.WrittenWithout ["mux_channel"] [] json →
    StoredCalibration.ofJson? json = some { e with muxChannel := none } ∧
      ∀ json', { e with muxChannel := none }.WrittenWithout [] [] json' →
        StoredCalibration.ofJson? json' = StoredCalibration.ofJson? json
  /-- An endpoint from which anything else is missing, in itself or in its delay settings, makes the
  configuration unreadable. -/
  refuses : ∀ (e : StoredCalibration) missing missingDelay entry,
    e.WrittenWithout missing missingDelay entry →
      (∃ name ∈ StoredCalibration.requiredNames, name ∈ missing) ∨
        (∃ name ∈ DelayParameters.fieldNames, name ∈ missingDelay) →
      ∀ registers items missing' json, entry ∈ items → "endpoints" ∉ missing' →
        FormOf (c.fieldsWith registers items) missing' json → ofJson? json = none

/-- Missing parts of a configuration are completed, and missing parts of an endpoint are not. -/
theorem completes (c : DesignConfig) : c.Completes where
  forms missing missingBlocks json h := ofJson?_of_writtenWithout h
  array k := by
    have hnodup : (c.fields.map Prod.fst).Nodup := by
      change fieldNames.Nodup
      decide
    have hrecord : FormOf c.fields (fieldNames.drop k) (.record (c.fields.take k)) := by
      rw [Json.take_eq_without hnodup]
      exact Json.formOf_record _ _
    have harray : FormOf c.fields (fieldNames.drop k) (.array ((c.fields.take k).map Prod.snd)) :=
      .array k rfl
    rw [ofJson?_of_writtenWithout (writtenWithout_of_form hrecord),
      ofJson?_of_writtenWithout (writtenWithout_of_form harray)]
    exact ⟨rfl, rfl⟩
  channel e json h := by
    have hnone : StoredCalibration.ofJson? json = some { e with muxChannel := none } := by
      rw [StoredCalibration.ofJson?_of_writtenWithout h, if_pos (by decide)]
      rfl
    refine ⟨hnone, fun json' h' => ?_⟩
    rw [hnone]
    exact StoredCalibration.ofJson?_of_written (.inl h')
  refuses e missing missingDelay entry h hlacks registers items missing' json hmem hkept hform := by
    have hincomplete : ¬ StoredCalibration.HasRequired missing missingDelay := by
      rintro ⟨hentry, hdelay⟩
      rcases hlacks with ⟨name, hname, hmissing⟩ | ⟨name, hname, hmissing⟩
      · exact hentry name hname hmissing
      · exact hdelay name hname hmissing
    have hentry : StoredCalibration.ofJson? entry = none := by
      rw [StoredCalibration.ofJson?_of_writtenWithout h, if_neg hincomplete]
    exact ofJson?_eq_none_of_mem hform rfl rfl hkept hmem hentry

/-- An object that mentions four parts, one of them an endpoint, out of order and beside a field of
another name. -/
example :
    let entry : Json := .record
      [("mux_channel", .word32 4), ("address", .word32 5), ("id", .text "crp0"),
        ("delay", .array [.word32 3, .word32 1, .word32 2])]
    let json : Json := .record
      [("sfp_restore", .text "always"), ("comment", .null), ("echo_timeout", .word64 300),
        ("endpoints", .array [entry]), ("family", .text "master-mux")]
    ofJson? json = some
      { standard with
        family := "master-mux"
        echoTimeout := 300
        releasePolicy := .always
        endpoints :=
          [{ id := "crp0", address := ⟨5⟩, delay := { coarse := 3, fine := 1, phase := 2 },
             muxChannel := some ⟨4⟩ }] } := by
  decide

end DesignConfig

end OpticalTiming
