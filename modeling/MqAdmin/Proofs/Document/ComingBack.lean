import MqAdmin.Ensure.Target
import MqAdmin.Proofs.Document.Decoding
import MqAdmin.Proofs.Document.Finite
import MqAdmin.Proofs.Document.Reading
import MqAdmin.Proofs.Mapping.Troubles
import MqAdmin.Settings.File

namespace MqAdmin

open Document

/-- Whether a value comes back from its encoding, as a document and as a text of either form. -/
structure ComesBack {α : Type} (encode : α → Json) (decode : Document → Option α) (value : α) :
    Prop where
  document : decode (encode value).document = some value
  compact : (ofJsonText? (encode value).compact).bind decode = some value
  pretty : (ofJsonText? (encode value).pretty).bind decode = some value

theorem ComesBack.of_legible {α : Type} {encode : α → Json} {decode : Document → Option α}
    {value : α} (legible : (encode value).Legible)
    (back : decode (encode value).document = some value) : ComesBack encode decode value where
  document := back
  compact := by rw [ofJsonText?_compact legible, Option.bind_some, back]
  pretty := by rw [ofJsonText?_pretty legible, Option.bind_some, back]

namespace Mapping

theorem WirePair.decode?_json (pair : WirePair) : decode? pair.json.document = some pair := by
  rw [json, decode?, Record.of?_document (by decide) (by simp)]
  rfl

theorem WirePair.json_legible (pair : WirePair) : pair.json.Legible :=
  ⟨trivial, trivial, trivial⟩

theorem CommandEntry.decode?_json (entry : CommandEntry) :
    decode? entry.json.document = some entry := by
  obtain ⟨qualifier, macros⟩ := entry
  cases macros with
  | nil =>
    rw [json, decode?, Record.of?_document (by decide) (by simp)]
    rfl
  | cons first macros =>
    rw [json, decode?, Record.of?_document (by decide) (by simp)]
    simp [Record.required, Record.withDefault, list?_ofStrings, Json.document, string?]

theorem CommandEntry.json_legible (entry : CommandEntry) : entry.json.Legible := by
  rw [json]
  split
  · exact ⟨trivial, trivial⟩
  · exact ⟨trivial, Json.legible_ofStrings _, trivial⟩

theorem map?_textsJson (map : KeyMap String) : map? string? (textsJson map).document = some map :=
  map?_mapValues (fun _ => rfl) map

theorem map?_nestedJson {α : Type} {decode : Document → Option (KeyMap α)}
    {inner : KeyMap α → Json} (back : ∀ map, decode (inner map).document = some map)
    (map : KeyMap (KeyMap α)) : map? decode (nestedJson inner map).document = some map :=
  map?_mapValues back map

theorem QualifierTable.decode?_json (table : QualifierTable) :
    decode? table.json.document = some table := by
  rw [json, decode?, Record.of?_document (by decide) (by simp)]
  have pairs (map : KeyMap WirePair) := map?_mapValues WirePair.decode?_json map
  simp [Record.withDefault, map?_textsJson,
    map?_nestedJson map?_textsJson, map?_nestedJson pairs]

theorem legible_textsJson (map : KeyMap String) : (textsJson map).Legible :=
  Json.legible_mapValues .string (fun _ => trivial) map

theorem legible_nestedJson {α : Type} {inner : KeyMap α → Json}
    (each : ∀ map, (inner map).Legible) (map : KeyMap (KeyMap α)) :
    (nestedJson inner map).Legible :=
  Json.legible_mapValues inner each map

theorem QualifierTable.json_legible (table : QualifierTable) : table.json.Legible :=
  ⟨legible_textsJson _, legible_nestedJson legible_textsJson _,
    legible_nestedJson (Json.legible_mapValues _ WirePair.json_legible) _, legible_textsJson _,
    legible_nestedJson legible_textsJson _, trivial⟩

theorem Table.decode?_json (table : Table) : decode? table.json.document = some table := by
  obtain ⟨commands, qualifiers, version⟩ := table
  have commandsBack := map?_mapValues CommandEntry.decode?_json commands
  have qualifiersBack := map?_mapValues QualifierTable.decode?_json qualifiers
  cases version with
  | none =>
    rw [json, decode?, Record.of?_document (by decide) (by simp)]
    simp [Record.withDefault, commandsBack, qualifiersBack]
  | some version =>
    have word := naturalBelow?_ofNat (UInt32.toNat_lt version)
    have number : Document.optional? version? (Json.ofNat version.toNat).document =
        some (some version) := by
      rw [optional?_ofNat, version?, word, Option.map_some, Option.map_some, UInt32.ofNat_toNat]
    rw [json, decode?, Record.of?_document (by decide) (by simp)]
    simp [Record.withDefault, commandsBack, qualifiersBack, number]

theorem Table.json_legible (table : Table) : table.json.Legible := by
  obtain ⟨commands, qualifiers, version⟩ := table
  have commandsLegible := Json.legible_mapValues _ CommandEntry.json_legible commands
  have qualifiersLegible := Json.legible_mapValues _ QualifierTable.json_legible qualifiers
  cases version with
  | none => exact ⟨commandsLegible, qualifiersLegible, trivial⟩
  | some version =>
    have word : version.toNat < twoTo 64 :=
      Nat.lt_trans (UInt32.toNat_lt version) (by decide)
    exact ⟨commandsLegible, qualifiersLegible, Json.legible_ofNat word, trivial⟩

end Mapping

namespace Ensure.Outcome

theorem decode?_json (outcome : Outcome) : decode? outcome.json.document = some outcome := by
  obtain ⟨action, changed⟩ := outcome
  have action : variant? .json [("created", Action.created), ("updated", .updated),
      ("unchanged", .unchanged)] (Json.string action.name).document = some action := by
    cases action <;> rfl
  cases changed with
  | nil =>
    rw [json, decode?, Record.of?_document (by decide) (by simp)]
    simp [Record.required, Record.withDefault, action]
  | cons first changed =>
    rw [json, decode?, Record.of?_document (by decide) (by simp)]
    simp [Record.required, Record.withDefault, action, list?_ofStrings]

theorem json_legible (outcome : Outcome) : outcome.json.Legible := by
  rw [json]
  split
  · exact ⟨trivial, trivial⟩
  · exact ⟨trivial, Json.legible_ofStrings _, trivial⟩

end Ensure.Outcome

namespace Credentials

theorem decode?_json (credentials : Credentials) :
    decode? credentials.json.document = some credentials := by
  cases credentials with
  | basic username password => rfl
  | ltpa username password => rfl
  | certificate certificatePath keyPath => cases keyPath <;> rfl

theorem json_legible (credentials : Credentials) : credentials.json.Legible := by
  cases credentials with
  | basic username password => exact ⟨trivial, trivial, trivial, trivial⟩
  | ltpa username password => exact ⟨trivial, trivial, trivial, trivial⟩
  | certificate certificatePath keyPath =>
    cases keyPath <;> exact ⟨trivial, trivial, trivial, trivial⟩

end Credentials

namespace Settings

variable {settings : Settings}

theorem decode?_json (token : settings.csrfToken ≠ some "")
    (word : settings.timeoutSeconds < twoTo 64) :
    decode? .json settings.json.document = some settings := by
  obtain ⟨baseUrl, queueManager, gateway, verifyTls, timeoutSeconds, mapAttributes, mappingStrict,
    csrfToken, mappingOverrides, overrideMode, syncTimeout, pollInterval⟩ := settings
  have seconds := naturalBelow?_ofNat word
  have tokenBack : csrfToken? (optionJson csrfToken).document = some csrfToken := by
    cases csrfToken with
    | none => rfl
    | some text =>
      have filled : text ≠ "" := fun empty => token (congrArg some empty)
      simp [csrfToken?, optionJson, Json.document, Document.optional?, string?, filled]
  have mode : Mapping.OverrideMode.decode? .json overrideMode.json.document =
      some overrideMode := by
    cases overrideMode <;> rfl
  cases gateway <;> cases mappingOverrides <;>
  · rw [json, decode?, Record.of?_document (by decide) (by simp), Option.bind_eq_bind,
      Option.bind_some]
    simp [Record.required, Record.withDefault, seconds, tokenBack, mode, Json.document, string?,
      bool?, binary64?, Document.optional?, Number.toBinary64]

theorem json_legible (word : settings.timeoutSeconds < twoTo 64)
    (timeout : (Number.real settings.syncTimeout).Legible)
    (interval : (Number.real settings.pollInterval).Legible) : settings.json.Legible := by
  have token : (optionJson settings.csrfToken).Legible := by
    cases settings.csrfToken <;> trivial
  have seconds := Json.legible_ofNat word
  have mode : settings.overrideMode.json.Legible := trivial
  rw [json, Json.Legible, Json.legibleFields_iff]
  cases settings.gateway <;> cases settings.mappingOverrides <;>
    simp [token, seconds, mode, timeout, interval, Json.Legible]

/-- What the decoder finds in a document: the fields with a rule of their own. -/
theorem exists_record {form : VariantForm} {document : Document}
    (read : decode? form document = some settings) :
    ∃ known record, Record.of? known document = some record ∧
      record.withDefault "timeout_secs" (naturalBelow? (twoTo 64)) 30 =
        some settings.timeoutSeconds ∧
      record.withDefault "csrf_token" csrfToken? (some "local") = some settings.csrfToken ∧
      record.withDefault "sync_timeout_secs" binary64? (.ofNat 30) = some settings.syncTimeout ∧
      record.withDefault "poll_interval_secs" binary64? (.ofNat 1) =
        some settings.pollInterval := by
  rw [decode?] at read
  -- The fields come in the order in which the decoder looks for them.
  obtain ⟨record, known, read⟩ := Option.bind_eq_some_iff.mp read
  iterate 4 obtain ⟨_, _, read⟩ := Option.bind_eq_some_iff.mp read
  obtain ⟨_, seconds, read⟩ := Option.bind_eq_some_iff.mp read
  iterate 2 obtain ⟨_, _, read⟩ := Option.bind_eq_some_iff.mp read
  obtain ⟨_, token, read⟩ := Option.bind_eq_some_iff.mp read
  iterate 2 obtain ⟨_, _, read⟩ := Option.bind_eq_some_iff.mp read
  obtain ⟨_, timeout, read⟩ := Option.bind_eq_some_iff.mp read
  obtain ⟨_, interval, read⟩ := Option.bind_eq_some_iff.mp read
  cases read
  exact ⟨_, record, known, seconds, token, timeout, interval⟩

theorem decoded {form : VariantForm} {document : Document}
    (read : decode? form document = some settings) :
    settings.csrfToken ≠ some "" ∧ settings.timeoutSeconds < twoTo 64 := by
  obtain ⟨_, record, _, seconds, token, _⟩ := exists_record read
  constructor
  · rcases Record.withDefault_cases token with usual | ⟨field, _, given⟩
    · rw [usual]
      decide
    · obtain ⟨token, _, same⟩ := Option.bind_eq_some_iff.mp given
      rw [← Option.some.inj same]
      intro empty
      have kept := (Option.filter_eq_some_iff.mp empty).2
      simp at kept
  · rcases Record.withDefault_cases seconds with usual | ⟨field, _, given⟩
    · rw [usual]
      decide
    · exact lt_of_naturalBelow? given

theorem decoded_isFinite {form : VariantForm} {document : Document} (finite : document.Finite)
    (read : decode? form document = some settings) :
    settings.syncTimeout.isFinite = true ∧ settings.pollInterval.isFinite = true := by
  obtain ⟨_, record, known, _, _, timeout, interval⟩ := exists_record read
  have fields := Record.of?_finite finite known
  have usualTimeout : (Binary64.ofNat 30).isFinite = true :=
    (Binary64.ofRatio_moderate (by decide)).isFinite
  have usualInterval : (Binary64.ofNat 1).isFinite = true :=
    (Binary64.ofRatio_moderate (by decide)).isFinite
  exact ⟨Record.withDefault_isFinite fields usualTimeout timeout,
    Record.withDefault_isFinite fields usualInterval interval⟩

end Settings

namespace Mapping

/-- Whether an issue comes out of mapping a record, a list of records or a list of names. A list has
no more records than a machine word can number. -/
inductive Issue.Emitted (issue : Issue) : Prop where
  | request {table : Table} {qualifier : String} {attributes : Attributes}
      (member : issue ∈ (table.mapRequest qualifier attributes).issues)
  | response {table : Table} {qualifier : String} {attributes : Attributes}
      (member : issue ∈ (table.mapResponse qualifier attributes).issues)
  | responses {table : Table} {qualifier : String} {records : List Attributes}
      (fits : records.length ≤ twoTo 64)
      (member : issue ∈ (table.mapResponses qualifier records).issues)
  | names {table : Table} {qualifier : String} {names : List String}
      (member : issue ∈ (table.mapNames qualifier names).issues)

/-- Whether an issue's value is a text, if it has one, and a word holds its position. -/
structure Issue.Plain (issue : Issue) : Prop where
  textual : ∀ value ∈ issue.attributeValue, ∃ text, value = .string text
  word : ∀ index ∈ issue.objectIndex, index < twoTo 64

theorem Table.plain_of_mem_mapRecord {table : Table} {qualifier : String} {direction : Direction}
    {index : Option Nat} {attributes : Attributes} {issue : Issue}
    (word : ∀ position ∈ index, position < twoTo 64)
    (member : issue ∈ (table.mapRecord qualifier direction index attributes).issues) :
    issue.Plain := by
  simp only [mapRecord] at member
  split at member
  · exact absurd member List.not_mem_nil
  · split at member
    · cases List.mem_singleton.mp member
      exact ⟨by simp, word⟩
    · rename_i maps _
      obtain ⟨entry, _, member⟩ := List.mem_flatMap.mp member
      obtain ⟨troubles, _, same⟩ := maps.exists_troubled direction entry.1 entry.2
      rw [same] at member
      obtain ⟨trouble, _, rfl⟩ := List.mem_map.mp member
      cases trouble with
      | name => exact ⟨by simp [Trouble.issue], word⟩
      | text unknown => exact ⟨by simp [Trouble.issue], word⟩

theorem Issue.Emitted.plain {issue : Issue} (emitted : issue.Emitted) : issue.Plain := by
  cases emitted with
  | request member => exact Table.plain_of_mem_mapRecord (by simp) member
  | response member => exact Table.plain_of_mem_mapRecord (by simp) member
  | responses fits member =>
    obtain ⟨outcome, listed, member⟩ := List.mem_flatMap.mp member
    obtain ⟨⟨record, position⟩, place, rfl⟩ := List.mem_map.mp listed
    refine Table.plain_of_mem_mapRecord (fun index same => ?_) member
    cases same
    exact Nat.lt_of_lt_of_le (List.snd_lt_of_mem_zipIdx place) (by simpa using fits)
  | names member =>
    simp only [Table.mapNames] at member
    split at member
    · exact absurd member List.not_mem_nil
    · obtain ⟨name, _, rfl⟩ := List.mem_map.mp member
      exact ⟨by simp, by simp⟩

theorem Issue.decode?_json {issue : Issue} (plain : issue.Plain) :
    decode? issue.json.document = some issue := by
  obtain ⟨direction, reason, attributeName, attributeValue, objectIndex, qualifier⟩ := issue
  obtain ⟨textual, word⟩ := plain
  have directionBack : variant? .json [("request", Direction.request), ("response", .response)]
      (.string (some direction.name)) = some direction := by
    cases direction <;> rfl
  have reasonBack : variant? .json [("unknown_key", Reason.unknownKey),
      ("unknown_value", .unknownValue), ("unknown_qualifier", .unknownQualifier)]
      (.string (some reason.name)) = some reason := by
    cases reason <;> rfl
  have valueBack (value : Json) (held : attributeValue = some value) :
      Document.optional? (json? (deepest - 1)) value.document = some (some value) := by
    obtain ⟨text, rfl⟩ := textual value held
    rfl
  have indexBack (index : Nat) (held : objectIndex = some index) :
      Document.optional? (naturalBelow? (twoTo 64)) (Json.ofNat index).document =
        some (some index) := by
    rw [optional?_ofNat, naturalBelow?_ofNat (word index held), Option.map_some]
  cases attributeValue <;> cases objectIndex <;>
  · rw [json, decode?, Record.of?_document (by decide) (by simp)]
    simp [Record.required, Record.option, directionBack, reasonBack, valueBack, indexBack,
      Json.document, string?]

theorem Issue.json_legible {issue : Issue} (plain : issue.Plain) : issue.json.Legible := by
  obtain ⟨direction, reason, attributeName, attributeValue, objectIndex, qualifier⟩ := issue
  obtain ⟨textual, word⟩ := plain
  have value (given : Json) (held : attributeValue = some given) : given.Legible := by
    obtain ⟨text, rfl⟩ := textual given held
    trivial
  have index (position : Nat) (held : objectIndex = some position) :=
    Json.legible_ofNat (word position held)
  rw [json, Json.Legible, Json.legibleFields_iff]
  cases attributeValue <;> cases objectIndex <;> simp [value, index, Json.Legible]

end Mapping

/-- Whatever is written as a document comes back: every table, its parts, every outcome and all
credentials; settings that were decoded from a JSON text, if the texts of finite numbers are read as
the numbers; settings that were decoded from a document of any other form, which may say `inf`, if
their numbers are finite as well; and every issue of a mapping. -/
theorem encodings_come_back :
    (∀ table, ComesBack Mapping.Table.json Mapping.Table.decode? table) ∧
    (∀ maps, ComesBack Mapping.QualifierTable.json Mapping.QualifierTable.decode? maps) ∧
    (∀ entry, ComesBack Mapping.CommandEntry.json Mapping.CommandEntry.decode? entry) ∧
    (∀ pair, ComesBack Mapping.WirePair.json Mapping.WirePair.decode? pair) ∧
    (∀ outcome, ComesBack Ensure.Outcome.json Ensure.Outcome.decode? outcome) ∧
    (∀ credentials, ComesBack Credentials.json Credentials.decode? credentials) ∧
    (∀ text settings, (ofJsonText? text).bind (Settings.decode? .json) = some settings →
      (∀ x ∈ [settings.syncTimeout, settings.pollInterval], x.isFinite = true → x.ReadsBack) →
      ComesBack Settings.json (Settings.decode? .json) settings) ∧
    (∀ form document settings, Settings.decode? form document = some settings →
      (∀ x ∈ [settings.syncTimeout, settings.pollInterval], x.isFinite = true ∧ x.ReadsBack) →
      ComesBack Settings.json (Settings.decode? .json) settings) ∧
    ∀ issue : Mapping.Issue, issue.Emitted →
      ComesBack Mapping.Issue.json Mapping.Issue.decode? issue := by
  have settingsBack (form : VariantForm) (document : Document) (settings : Settings)
      (read : Settings.decode? form document = some settings)
      (numbers : ∀ x ∈ [settings.syncTimeout, settings.pollInterval],
        x.isFinite = true ∧ x.ReadsBack) :
      ComesBack Settings.json (Settings.decode? .json) settings := by
    obtain ⟨token, word⟩ := Settings.decoded read
    exact .of_legible
      (Settings.json_legible word (numbers _ (by simp)) (numbers _ (by simp)))
      (Settings.decode?_json token word)
  refine ⟨fun table => .of_legible table.json_legible table.decode?_json,
    fun maps => .of_legible maps.json_legible maps.decode?_json,
    fun entry => .of_legible entry.json_legible entry.decode?_json,
    fun pair => .of_legible pair.json_legible pair.decode?_json,
    fun outcome => .of_legible outcome.json_legible outcome.decode?_json,
    fun credentials => .of_legible credentials.json_legible credentials.decode?_json,
    fun text settings read back => ?_, settingsBack,
    fun issue emitted => .of_legible (Mapping.Issue.json_legible emitted.plain)
      (Mapping.Issue.decode?_json emitted.plain)⟩
  obtain ⟨document, parsed, read⟩ := Option.bind_eq_some_iff.mp read
  have finite : ∀ x ∈ [settings.syncTimeout, settings.pollInterval], x.isFinite = true := by
    simp [Settings.decoded_isFinite (ofJsonText?_finite parsed) read]
  exact settingsBack .json document settings read fun x member =>
    ⟨finite x member, back x member (finite x member)⟩

def persistence : Mapping.Table where
  qualifiers := .ofList [("queue",
    { requestKeys := .ofList [("def_persistence", "DEFPSIST")]
      requestValues := .ofList [("DEFPSIST", .ofList [("def", "DEF")])] })]

/-- Settings in a JSON text and in another document, with an empty token, come back, and so does
the issue of a value that is not known. -/
theorem usual_settings_come_back :
    ComesBack Settings.json (Settings.decode? .json)
      { baseUrl := "https://localhost:9443", queueManager := "QM1" } ∧
    ComesBack Settings.json (Settings.decode? .json)
      { baseUrl := "https://localhost:9443", queueManager := "QM1", csrfToken := none } ∧
    ComesBack Mapping.Issue.json Mapping.Issue.decode?
      { direction := .request, reason := .unknownValue, attributeName := "def_persistence",
        attributeValue := some (.string "maybe"), qualifier := "queue" } := by
  obtain ⟨_, _, _, _, _, _, fromText, fromDocument, emitted⟩ := encodings_come_back
  refine ⟨fromText
      "\x7b\"base_url\":\"https://localhost:9443\",\"qmgr_name\":\"QM1\"\x7d" _
      (by decide +kernel) (by decide +kernel),
    fromDocument .file (.object [(some "base_url", .string (some "https://localhost:9443")),
      (some "qmgr_name", .string (some "QM1")), (some "csrf_token", .string (some ""))]) _
      (by decide +kernel) (by decide +kernel), emitted _ ?_⟩
  have member : _ ∈ (persistence.mapRequest "queue"
      (.ofList [("def_persistence", .string "maybe")])).issues := List.mem_of_mem_head? rfl
  exact .request member

end MqAdmin
