import MqAdmin.Proofs.Command.Payload
import MqAdmin.Proofs.Command.Records
import MqAdmin.Proofs.Session.Program

namespace MqAdmin

/-- Whether a name asks for all attributes, in any letter case. -/
def AsksForAll (name : String) : Prop := Text.asciiLower name = "all"

/-- How a name that is asked for stands in a document, given the wire names of callers' names. -/
inductive AskedAs (names : KeyMap String) (name : String) : String → Prop where
  | all (all : AsksForAll name) : AskedAs names name name
  | renamed (single : ¬ AsksForAll name) (found : names.get? name = some wire) :
      AskedAs names name wire
  | kept (single : ¬ AsksForAll name) (absent : names.get? name = none) : AskedAs names name name

inductive Command.Names (command : Command) : List String → Prop where
  | given (named : command.responseParameters = some list) : Names command list
  | usual (unnamed : command.responseParameters = none) (display : command.display = true) :
      Names command ["all"]
  | none (unnamed : command.responseParameters = none) (display : command.display = false) :
      Names command []

namespace Session

/-- What the session's table knows about a command, found by the verb and the qualifier. -/
def listing? (session : Session) (command : Command) : Option Mapping.CommandEntry :=
  session.mapper.bind fun table =>
    table.commands.get? (Text.upper command.verb ++ " " ++ Text.upper command.qualifier)

/-- The wire names of callers' names for the kind of object that a command concerns. -/
def wireNames (session : Session) (command : Command) : KeyMap String :=
  ((session.mapper.bind fun table => table.qualifier?
    (table.resolveQualifier (Text.upper command.verb) (Text.upper command.qualifier))).map
      (·.requestKeys)).getD ∅

inductive Adds (session : Session) (command : Command) (names : List String) :
    List String → Prop where
  | macros (listed : session.listing? command = some entry)
      (all : ∃ name ∈ names, AsksForAll name) :
      Adds session command names entry.macros
  | unlisted (absent : session.listing? command = none) : Adds session command names []
  | single (single : ∀ name ∈ names, ¬ AsksForAll name) : Adds session command names []

inductive Asks (session : Session) (command : Command) : List String → Prop where
  | intro (asked : command.Names names)
      (renamed : List.Forall₂ (AskedAs (session.wireNames command)) names wire)
      (adds : session.Adds command wire more) : Asks session command (wire ++ more)

inductive Translates (session : Session) (command : Command) : Attributes → Prop where
  | unmapped (plain : session.mapper = none) : Translates session command command.parameters
  | empty (none : command.parameters = ∅) : Translates session command ∅
  | mapped (mapper : session.mapper = some table) : Translates session command
      (table.mapRequest (table.resolveQualifier (Text.upper command.verb)
        (Text.upper command.qualifier)) command.parameters).mapped

/-- The parameters of a document: those of the command in wire names, and over them the condition,
if there is one, with its first word in wire names. -/
structure Says (session : Session) (command : Command) (parameters : Attributes) : Prop where
  translated : ∃ wire, session.Translates command wire ∧ ∀ name,
    (command.whereClause = none ∨ name ≠ "WHERE") → parameters.get? name = wire.get? name
  condition : ∀ clause, command.whereClause = some clause → parameters.get? "WHERE" =
    some (.string (Command.mapClause (session.wireNames command) clause))

/-- The field of a document for names; it is left out if there are none. -/
def namesField (names : List String) : Option Json :=
  if names = [] then none else some (.ofStrings names)

/-- Whether a document is that of a command. -/
structure Documents (session : Session) (command : Command) (payload : Json) : Prop where
  record : ∃ fields : Attributes, payload = .ofAttributes fields
  nothingElse : ∀ name, name ∉ ["command", "name", "parameters", "qualifier",
    "responseParameters", "type"] → payload.get? name = none
  type : payload.get? "type" = some (.string "runCommandJSON")
  verb : payload.get? "command" = some (.string (Text.upper command.verb))
  qualifier : payload.get? "qualifier" = some (.string (Text.upper command.qualifier))
  name : payload.get? "name" = command.name.map .string
  parameters : ∃ parameters, session.Says command parameters ∧
    payload.get? "parameters" = parametersField parameters
  responseParameters : ∃ names, session.Asks command names ∧
    payload.get? "responseParameters" = namesField names

end Session

section Names

variable {name : String} {command : Command}

theorem isAll_iff : Mapping.Table.isAll name = true ↔ AsksForAll name := by
  have small : Text.asciiLower "all" = "all" := by decide +kernel
  rw [Mapping.Table.isAll, Text.sameIgnoringCase, small, beq_iff_eq, AsksForAll]

def wireName (names : KeyMap String) (name : String) : String :=
  if Mapping.Table.isAll name then name else (names.get? name).getD name

theorem askedAs_iff (names : KeyMap String) (name wire : String) :
    AskedAs names name wire ↔ wire = wireName names name := by
  unfold wireName
  by_cases all : AsksForAll name
  · rw [if_pos (isAll_iff.mpr all)]
    constructor
    · intro asked
      cases asked with
      | all => rfl
      | renamed single | kept single => exact absurd all single
    · rintro rfl
      exact .all all
  · rw [if_neg (mt isAll_iff.mp all)]
    constructor
    · intro asked
      cases asked with
      | all yes => exact absurd yes all
      | renamed _ found => simp [found]
      | kept _ absent => simp [absent]
    · rintro rfl
      cases found : names.get? name with
      | some wire => exact .renamed all found
      | none => exact .kept all found

theorem Command.names_iff {asked : List String} :
    command.Names asked ↔ asked = command.names.getD [] := by
  unfold Command.names
  constructor
  · intro names
    cases names with
    | given named => simp [named]
    | usual unnamed display => simp [unnamed, display]
    | none unnamed display => simp [unnamed, display]
  · rintro rfl
    cases named : command.responseParameters with
    | some names => exact .given named
    | none =>
      cases display : command.display with
      | true => exact .usual named display
      | false => exact .none named display

end Names

namespace Session

variable {session : Session} {command : Command} {names more : List String}

def macros (session : Session) (command : Command) (names : List String) : List String :=
  if names.any Mapping.Table.isAll then ((session.listing? command).map (·.macros)).getD [] else []

theorem adds_iff : session.Adds command names more ↔ more = session.macros command names := by
  unfold macros
  have any_iff : names.any Mapping.Table.isAll = true ↔ ∃ name ∈ names, AsksForAll name := by
    simp only [List.any_eq_true, isAll_iff]
  by_cases all : ∃ name ∈ names, AsksForAll name
  · rw [if_pos (any_iff.mpr all)]
    constructor
    · intro adds
      cases adds with
      | macros listed => simp [listed]
      | unlisted absent => simp [absent]
      | single single =>
        obtain ⟨name, member, asks⟩ := all
        exact absurd asks (single name member)
    · rintro rfl
      cases listed : session.listing? command with
      | some entry => exact .macros listed all
      | none => exact .unlisted listed
  · rw [if_neg (mt any_iff.mp all)]
    constructor
    · intro adds
      cases adds with
      | macros _ asked => exact absurd asked all
      | unlisted | single => rfl
    · rintro rfl
      exact .single fun name member asks => all ⟨name, member, asks⟩

/-- The names that a command asks for in wire names, and the others that this brings with it. -/
def askedNames (session : Session) (command : Command) : List String :=
  let wire := (command.names.getD []).map (wireName (session.wireNames command))
  wire ++ session.macros command wire

theorem asks_iff : session.Asks command names ↔ names = session.askedNames command := by
  constructor
  · intro asks
    obtain ⟨asked, renamed, adds⟩ := asks
    rw [Command.names_iff] at asked
    rw [forall₂_iff_eq_map (askedAs_iff _)] at renamed
    rw [adds_iff] at adds
    subst asked renamed adds
    rfl
  · rintro rfl
    exact .intro (Command.names_iff.mpr rfl)
      ((forall₂_iff_eq_map (askedAs_iff _)).mpr rfl) (adds_iff.mpr rfl)

theorem translates_iff {wire : Attributes} :
    session.Translates command wire ↔ wire = (session.wireParameters command).mapped := by
  constructor
  · intro translates
    cases translates with
    | unmapped plain => simp [wireParameters, plain]
    | empty none => rw [wireParameters_of_empty none]
    | mapped mapper => simp [wireParameters, mapper]
  · rintro rfl
    unfold wireParameters
    cases mapper : session.mapper with
    | none => exact .unmapped mapper
    | some table => exact .mapped mapper

theorem says_iff {parameters : Attributes} : session.Says command parameters ↔
    parameters = Command.withClause (session.wireParameters command).mapped
      (command.whereClause.map (Command.mapClause (session.wireNames command))) := by
  constructor
  · rintro ⟨⟨wire, translates, others⟩, condition⟩
    rw [translates_iff] at translates
    subst translates
    refine KeyMap.ext_get? fun name => ?_
    cases given : command.whereClause with
    | none => exact others name (.inl given)
    | some clause =>
      by_cases own : name = "WHERE"
      · subst own
        simp [Command.withClause, condition clause given]
      · simp [Command.withClause, own, others name (.inr own)]
  · rintro rfl
    refine ⟨⟨_, translates_iff.mpr rfl, fun name other => ?_⟩, fun clause given => ?_⟩
    · rcases other with none | apart
      · simp [none, Command.withClause]
      · cases command.whereClause <;> simp [Command.withClause, apart]
    · simp [given, Command.withClause]

@[simp] theorem wireName_empty : wireName ∅ = id := by
  funext name
  unfold wireName
  split <;> rfl

section Mapper

variable {table : Mapping.Table}

theorem wireNames_of_mapper (mapper : session.mapper = some table) :
    session.wireNames command = ((table.qualifier? (table.resolveQualifier
      (Text.upper command.verb) (Text.upper command.qualifier))).map (·.requestKeys)).getD ∅ := by
  rw [wireNames, mapper, Option.bind_some]

/-- Without a table for the kind of object the names stay, as they do with an empty one. -/
theorem mapNames_mapped (mapper : session.mapper = some table) (names : List String) :
    (table.mapNames (table.resolveQualifier (Text.upper command.verb)
      (Text.upper command.qualifier)) names).mapped =
      names.map (wireName (session.wireNames command)) := by
  rw [wireNames_of_mapper mapper, Mapping.Table.mapNames]
  cases table.qualifier? (table.resolveQualifier (Text.upper command.verb)
      (Text.upper command.qualifier)) with
  | none => simp
  | some maps => rfl

theorem expandMacros_eq (mapper : session.mapper = some table) (names : List String) :
    table.expandMacros (Text.upper command.verb) (Text.upper command.qualifier) names =
      names ++ session.macros command names := by
  have same : session.listing? command =
      table.command? (Text.upper command.verb) (Text.upper command.qualifier) := by
    simp [listing?, mapper, Mapping.Table.command?]
  rw [macros, same, Mapping.Table.expandMacros]
  cases table.command? (Text.upper command.verb) (Text.upper command.qualifier) with
  | none => simp
  | some entry =>
    dsimp only
    split <;> simp

end Mapper

theorem payload_of_ready {prepared : Prepared}
    (ready : command.prepare session.mapper session.settings.mappingStrict = .ok prepared) :
    ∃ names, names.getD [] = session.askedNames command ∧ prepared.payload =
      Command.payload (Text.upper command.verb) (Text.upper command.qualifier) command.name
        (Command.withClause (session.wireParameters command).mapped
          (command.whereClause.map (Command.mapClause (session.wireNames command)))) names := by
  unfold Command.prepare at ready
  cases mapper : session.mapper with
  | none =>
    simp only [mapper] at ready
    cases ready
    refine ⟨command.names, ?_, ?_⟩
    · simp [askedNames, wireNames, macros, listing?, mapper]
    · simp [wireParameters, wireNames, mapper]
  | some table =>
    simp only [mapper, mapNames_mapped mapper, expandMacros_eq mapper] at ready
    split at ready
    · cases ready
    · cases ready
      -- The further names come with those that are asked for, and without these there are none.
      have asked : (command.names.map fun _ => session.askedNames command) =
          command.names.map fun names => names.map (wireName (session.wireNames command)) ++
            session.macros command (names.map (wireName (session.wireNames command))) := by
        cases named : command.names <;> simp [askedNames, named]
      refine ⟨command.names.map fun _ => session.askedNames command, ?_, ?_⟩
      · cases named : command.names <;> simp [askedNames, macros, named]
      · rw [asked, wireParameters, mapper, wireNames_of_mapper mapper]
        cases table.qualifier? (table.resolveQualifier (Text.upper command.verb)
          (Text.upper command.qualifier)) <;> rfl

end Session

namespace Command

variable {verb qualifier : String} {name : Option String} {parameters : Attributes}
  {names : Option (List String)}

/-- The fields of a document stand in ascending order. -/
theorem exists_record (verb qualifier : String) (name : Option String) (parameters : Attributes)
    (names : Option (List String)) : ∃ fields : Attributes,
      payload verb qualifier name parameters names = .ofAttributes fields := by
  have ascending : List.Pairwise (· < ·) ["command", "name", "parameters", "qualifier",
    "responseParameters", "type"] := by decide
  refine ⟨⟨_, List.pairwise_map.mp (ascending.sublist ?_)⟩, rfl⟩
  cases name <;> cases none : parameters.isEmpty <;> rcases names with _ | _ | _ <;> simp

theorem payload_nothingElse {field : String} (other : field ∉ ["command", "name", "parameters",
    "qualifier", "responseParameters", "type"]) :
    (payload verb qualifier name parameters names).get? field = none := by
  simp at other
  cases name <;> cases none : parameters.isEmpty <;> rcases names with _ | _ | _ <;>
    simp [payload, KeyMap.get?_ofList_cons, none, other]

theorem payload_type :
    (payload verb qualifier name parameters names).get? "type" =
      some (.string "runCommandJSON") := by
  cases name <;> cases none : parameters.isEmpty <;> rcases names with _ | _ | _ <;>
    simp [payload, KeyMap.get?_ofList_cons, none]

theorem payload_responseParameters :
    (payload verb qualifier name parameters names).get? "responseParameters" =
      Session.namesField (names.getD []) := by
  cases name <;> cases none : parameters.isEmpty <;> rcases names with _ | _ | _ <;>
    simp [payload, Session.namesField, KeyMap.get?_ofList_cons, none]

end Command

namespace Session

variable {session : Session} {command : Command} {payload other : Json}

theorem asks_iff_of_unmapped (unmapped : session.mapper = none) {names : List String} :
    session.Asks command names ↔ command.Names names := by
  rw [asks_iff, Command.names_iff]
  simp [askedNames, wireNames, macros, listing?, unmapped]

theorem documents_of_ready {prepared : Prepared}
    (ready : command.prepare session.mapper session.settings.mappingStrict = .ok prepared) :
    session.Documents command prepared.payload := by
  obtain ⟨names, asked, same⟩ := payload_of_ready ready
  rw [same]
  have carries := Command.payload_carries (Text.upper command.verb) (Text.upper command.qualifier)
    command.name (Command.withClause (session.wireParameters command).mapped
      (command.whereClause.map (Command.mapClause (session.wireNames command)))) names
  exact {
    record := Command.exists_record ..
    nothingElse := fun _ other => Command.payload_nothingElse other
    type := Command.payload_type
    verb := carries.command
    qualifier := carries.qualifier
    name := carries.name
    parameters := ⟨_, says_iff.mpr rfl, carries.parameters⟩
    responseParameters := ⟨_, asks_iff.mpr rfl, asked ▸ Command.payload_responseParameters⟩
  }

theorem Documents.unique (document : session.Documents command payload)
    (second : session.Documents command other) : payload = other := by
  have fields (name : String) : payload.get? name = other.get? name := by
    by_cases said : name ∈ ["command", "name", "parameters", "qualifier", "responseParameters",
      "type"]
    · simp only [List.mem_cons, List.not_mem_nil, or_false] at said
      rcases said with rfl | rfl | rfl | rfl | rfl | rfl
      · exact document.verb.trans second.verb.symm
      · exact document.name.trans second.name.symm
      · obtain ⟨parameters, stated, held⟩ := document.parameters
        obtain ⟨parameters', stated', held'⟩ := second.parameters
        rw [held, held', says_iff.mp stated, says_iff.mp stated']
      · exact document.qualifier.trans second.qualifier.symm
      · obtain ⟨names, asked, held⟩ := document.responseParameters
        obtain ⟨names', asked', held'⟩ := second.responseParameters
        rw [held, held', asks_iff.mp asked, asks_iff.mp asked']
      · exact document.type.trans second.type.symm
    · rw [document.nothingElse name said, second.nothingElse name said]
  obtain ⟨record, rfl⟩ := document.record
  obtain ⟨record', rfl⟩ := second.record
  have same : record = record' := KeyMap.ext_get? fun name => by
    simpa [Json.ofAttributes] using fields name
  rw [same]

/-- What a command sends in a session is its document, and a command has only one; without a table
the document asks for the names as they were given. Whatever is done with the session, every
request is the document of some command. -/
theorem requests_are_documents (session : Session) :
    (∀ (command : Command) {σ : Type} (world : World σ) (state : σ),
      ∀ request ∈ requests ((execute command).course world session state).events,
        session.Documents command request.payload) ∧
    (∀ command payload other, session.Documents command payload →
      session.Documents command other → payload = other) ∧
    (session.mapper = none → ∀ command names,
      session.Asks command names ↔ Command.Names command names) ∧
    ∀ {α : Type} (operation : Operation α), Program operation →
      ∀ {σ : Type} (world : World σ) (state : σ),
      ∀ request ∈ requests (operation.course world session state).events,
        ∃ command, session.Documents command request.payload := by
  refine ⟨fun command σ world state => ?_, fun _ _ _ document second => document.unique second,
    fun unmapped _ _ => asks_iff_of_unmapped unmapped, fun operation program σ world state => ?_⟩
  · have posts : (execute command).Posts session.Becomes fun request =>
        session.Documents command request.payload :=
      session.execute_posts command fun _ _ ready => documents_of_ready ready
    exact (posts session (.refl session)).requests_fit world state
  · have posts : operation.Posts session.Becomes fun request =>
        ∃ command, session.Documents command request.payload :=
      program.posts fun command => session.execute_posts command fun _ _ ready =>
        ⟨command, documents_of_ready ready⟩
    exact (posts session (.refl session)).requests_fit world state

/-- A display of some queues' status asks for all attributes, which brings the monitoring ones with
it, and its condition makes parameters. -/
example :
    let table : Mapping.Table := {
      commands := .ofAscending [("DISPLAY QSTATUS", ⟨"qstatus", ["MONITOR"]⟩)]
      qualifiers := .ofAscending
        [("qstatus", { requestKeys := .ofAscending [("current_queue_depth", "CURDEPTH")] })] }
    let display : Command :=
      { verb := "display", qualifier := "qstatus", name := some "Q*", display := true,
        whereClause := some "current_queue_depth  GT 100" }
    display.prepare (some table) true = .ok ⟨some "qstatus", .object [
      ("command", .string "DISPLAY"), ("name", .string "Q*"),
      ("parameters", .object [("WHERE", .string "CURDEPTH GT 100")]),
      ("qualifier", .string "QSTATUS"), ("responseParameters", .ofStrings ["all", "MONITOR"]),
      ("type", .string "runCommandJSON")]⟩ := by
  decide +kernel

end Session

end MqAdmin
