import MqAdmin.Proofs.Dialogue.Agreement
import MqAdmin.Proofs.Mapping.Troubles
import MqAdmin.Proofs.Session.Program

namespace MqAdmin

namespace Mapping

/-- What an issue can say about a record: that the name of one of its attributes is not known, or a
text of one of them. -/
inductive Issue.Concerns (issue : Issue) (attributes : Attributes) : Prop where
  | name {value : Json} (member : attributes.get? issue.attributeName = some value)
      (reason : issue.reason = .unknownKey) (bare : issue.attributeValue = none)
  | text {value : Json} {text : String} (member : attributes.get? issue.attributeName = some value)
      (reason : issue.reason = .unknownValue) (listed : text ∈ value.texts)
      (carried : issue.attributeValue = some (.string text))

theorem Issue.Concerns.reason_ne {issue : Issue} {attributes : Attributes}
    (concerns : issue.Concerns attributes) : issue.reason ≠ .unknownQualifier := by
  cases concerns with
  | name _ reason _ => simp [reason]
  | text _ reason _ _ => simp [reason]

theorem QualifierTable.Troubled.mem_texts {maps : QualifierTable} {name text : String}
    {value : Json} {direction : Direction} {troubles : List Trouble}
    (troubled : maps.Troubled name value direction troubles) (member : .text text ∈ troubles) :
    text ∈ value.texts := by
  have own (found : Option String) (values : Option (KeyMap String))
      (member : .text text ∈ nameTroubles found ++ textTroubles values value) :
      text ∈ value.texts := by
    cases found <;> cases values <;> simp [nameTroubles, textTroubles] at member
    all_goals exact member.1
  cases troubled with
  | pair stands => cases member
  | sent alone renamed => exact own _ _ member
  | heard capitals => exact own _ _ member

theorem QualifierTable.concerns_of_mem {maps : QualifierTable} {qualifier : String}
    {direction : Direction} {index : Option Nat} {attributes : Attributes} {issue : Issue}
    (member : issue ∈ maps.recordIssues qualifier direction index attributes) :
    issue.direction = direction ∧ issue.objectIndex = index ∧ issue.Concerns attributes := by
  obtain ⟨⟨name, value⟩, listed, member⟩ := List.mem_flatMap.mp member
  obtain ⟨troubles, troubled, same⟩ := maps.exists_troubled direction name value
  rw [same] at member
  obtain ⟨trouble, among, rfl⟩ := List.mem_map.mp member
  have found := KeyMap.get?_eq_some_iff.mpr listed
  cases trouble with
  | name => exact ⟨rfl, rfl, .name found rfl rfl⟩
  | text unknown => exact ⟨rfl, rfl, .text found rfl (troubled.mem_texts among) rfl⟩

namespace Table

variable {table : Table} {kind : String} {maps : QualifierTable} {issue : Issue}

theorem direction_of_mem_mapRequest {attributes : Attributes}
    (member : issue ∈ (table.mapRequest kind attributes).issues) :
    issue.direction = .request := by
  cases found : table.qualifier? kind with
  | some maps =>
    rw [mapRequest, mapRecord_of_qualifier found] at member
    exact (QualifierTable.concerns_of_mem member).1
  | none =>
    simp only [mapRequest, mapRecord, found] at member
    split at member
    · cases member
    · rw [List.mem_singleton.mp member]

theorem mapRequest_issues_eq_ofKind_iff {attributes : Attributes}
    (troubled : (table.mapRequest kind attributes).issues ≠ []) :
    (table.mapRequest kind attributes).issues = [.ofKind kind .request none] ↔
      table.qualifier? kind = none := by
  cases found : table.qualifier? kind with
  | some maps =>
    refine ⟨fun single => ?_, nofun⟩
    have member : Issue.ofKind kind .request none ∈ (table.mapRequest kind attributes).issues := by
      simp [single]
    rw [mapRequest, mapRecord_of_qualifier found] at member
    exact absurd rfl (QualifierTable.concerns_of_mem member).2.2.reason_ne
  | none =>
    refine ⟨fun _ => rfl, fun _ => ?_⟩
    simp only [mapRequest, mapRecord, found] at troubled ⊢
    split at troubled
    · exact absurd rfl troubled
    · rename_i filled
      simp [filled, Issue.ofKind]

theorem concerns_of_mem_mapResponses (found : table.qualifier? kind = some maps)
    {records : List Attributes} (member : issue ∈ (table.mapResponses kind records).issues) :
    issue.direction = .response ∧ ∃ position, ∃ below : position < records.length,
      issue.objectIndex = some position ∧ issue.Concerns records[position] := by
  obtain ⟨outcome, listed, member⟩ := List.mem_flatMap.mp member
  obtain ⟨⟨record, position⟩, place, rfl⟩ := List.mem_map.mp listed
  obtain ⟨below, same⟩ := List.getElem?_eq_some_iff.mp (List.mk_mem_zipIdx_iff_getElem?.mp place)
  dsimp only at member
  rw [mapRecord_of_qualifier found] at member
  obtain ⟨heard, numbered, concerns⟩ := QualifierTable.concerns_of_mem member
  exact ⟨heard, position, below, numbered, same ▸ concerns⟩

end Table

end Mapping

def Command.asking (command : Command) (names : Option (List String)) (clause : Option String)
    (display : Bool) : Command :=
  { command with responseParameters := names, whereClause := clause, display }

/-- The ways in which a command fails for issues of the mapping: those of its own parameters, for
which nothing was sent, or those of the records that it was answered with. -/
inductive FailsForIssues (command : Command) (table : Mapping.Table) (kind : String)
    (events : List Event) (after : Session) (issues : List Mapping.Issue) : Prop where
  | unsent (silent : requests events = []) (unbuilt : after.diagnostics.commandPayload = none)
      (same : issues = (table.mapRequest kind command.parameters).issues)
      (direction : ∀ issue ∈ issues, issue.direction = .request)
      (single_iff : issues = [.ofKind kind .request none] ↔ table.qualifier? kind = none)
      (concern : (table.qualifier? kind).isSome → ∀ issue ∈ issues,
        issue.Concerns command.parameters)
  | answered {request : Request} {response : Response} {payload : Json}
      (once : requests events = [request]) (sent : .sent request (.ok response) ∈ events)
      (heard : ¬ response.Refuses) (read : response.Reads payload)
      (fine : ¬ Answer.Reports payload)
      (same : issues = (table.mapResponses kind (Answer.records payload)).issues)
      (direction : ∀ issue ∈ issues, issue.direction = .response)
      (concern : ∀ issue ∈ issues, ∃ position,
        ∃ below : position < (Answer.records payload).length,
          issue.objectIndex = some position ∧
            issue.Concerns (Answer.records payload)[position])

namespace Session

variable {σ : Type} {session : Session} {command : Command}

theorem failsForIssues_of_stops (stops : session.Stops command) {table : Mapping.Table}
    (mapper : session.mapper = some table) :
    FailsForIssues command table
      (table.resolveQualifier (Text.upper command.verb) (Text.upper command.qualifier)) []
      (session.noting {}) (session.wireParameters command).issues := by
  have troubled := stops.2
  simp only [wireParameters, mapper] at troubled ⊢
  refine .unsent rfl rfl rfl (fun issue => Mapping.Table.direction_of_mem_mapRequest)
    (Mapping.Table.mapRequest_issues_eq_ofKind_iff troubled) fun known issue member => ?_
  obtain ⟨maps, found⟩ := Option.isSome_iff_exists.mp known
  rw [Mapping.Table.mapRequest, Mapping.Table.mapRecord_of_qualifier found] at member
  exact (Mapping.QualifierTable.concerns_of_mem member).2.2

theorem exists_mapper_of_stops (stops : session.Stops command) :
    ∃ table, session.mapper = some table := by
  cases mapper : session.mapper with
  | some table => exact ⟨table, rfl⟩
  | none => exact absurd (by simp [wireParameters, mapper]) stops.2

/-- An outcome that is minded for issues is an answer without a failure, and the issues are those of
its records. -/
theorem failsForIssues_of_verdict {issues : List Mapping.Issue} {before : List Event}
    {request : Request} {reply : Reply} {after : Session} (silent : requests before = [])
    (judged : session.verdict (session.kind? command) reply = .error (.mapping issues)) :
    session.settings.mappingStrict = true ∧ issues ≠ [] ∧
      ∃ table, session.mapper = some table ∧ FailsForIssues command table
        (table.resolveQualifier (Text.upper command.verb) (Text.upper command.qualifier))
        (before ++ [.sent request reply]) after issues := by
  have rule := session.verdict_rule (session.kind? command) reply
  rw [judged] at rule
  cases rule with
  | @mapping payload table name response heard read fine maps _ strict troubled =>
    obtain ⟨mapper, named, known⟩ := maps
    have resolved : table.resolveQualifier (Text.upper command.verb)
        (Text.upper command.qualifier) = name := by
      simpa [kind?, mapper] using named
    obtain ⟨maps, found⟩ := Option.isSome_iff_exists.mp known
    have concerns (issue : Mapping.Issue)
        (member : issue ∈ (table.mapResponses name (Answer.records payload)).issues) :=
      Mapping.Table.concerns_of_mem_mapResponses found member
    refine ⟨strict, troubled, table, mapper, ?_⟩
    rw [resolved]
    have once : requests (before ++ [.sent request (.ok response)]) = [request] := by
      simp [silent]
    exact .answered once (by simp) heard read fine rfl
      (fun issue member => (concerns issue member).1) fun issue member => (concerns issue member).2

theorem prepare_asking (session : Session) (command : Command) (names : Option (List String))
    (clause : Option String) (display : Bool) :
    let other := command.asking names clause display
    (∃ issues, command.prepare session.mapper session.settings.mappingStrict = .error issues ∧
      other.prepare session.mapper session.settings.mappingStrict = .error issues) ∨
    ∃ prepared variant,
      command.prepare session.mapper session.settings.mappingStrict = .ok prepared ∧
      other.prepare session.mapper session.settings.mappingStrict = .ok variant ∧
      variant.kind = prepared.kind := by
  intro other
  rcases prepare_eq session command with ⟨stops, stopped⟩ | ⟨goesOn, prepared, ready, kind, _⟩ <;>
    rcases prepare_eq session other with
      ⟨stopsToo, stoppedToo⟩ | ⟨goesOnToo, variant, readyToo, kindToo, _⟩
  · exact .inl ⟨_, stopped, stoppedToo⟩
  · exact absurd stops goesOnToo
  · exact absurd stopsToo goesOn
  · exact .inr ⟨prepared, variant, ready, readyToo, kindToo.trans kind.symm⟩

/-- Whatever a command asks for, it comes to the same if it is answered the same. -/
theorem execute_agree_asking (session : Session) (command : Command)
    (names : Option (List String)) (clause : Option String) (display : Bool) :
    Dialogue.Agree (fun _ _ => True) (fun outcome other => outcome.1 = other.1)
      (execute command session) (execute (command.asking names clause display) session) := by
  simp only [execute, ExceptT.mk]
  rcases prepare_asking session command names clause display with
    ⟨issues, stopped, stoppedToo⟩ | ⟨prepared, variant, ready, readyToo, kind⟩
  · simp only [stopped, stoppedToo]
    exact .done rfl
  · simp only [ready, readyToo]
    refine Dialogue.Agree.bind (session.patience_silent command.deadline).agree ?_
    rintro granted _ rfl
    cases granted with
    | none => exact .done rfl
    | some timeout =>
      refine .send trivial fun reply => ?_
      cases reply with
      | error failure => exact .done rfl
      | ok response => exact .done (by rw [kind])

theorem failsForIssues_of_execute {world : World σ} {state later : σ} {events : List Event}
    {issues : List Mapping.Issue} {after : Session}
    (ended : (execute command).course world session state =
      ⟨events, .ok (.error (.mapping issues), after), later⟩) :
    session.settings.mappingStrict = true ∧ issues ≠ [] ∧
      ∃ table, session.mapper = some table ∧ FailsForIssues command table
        (table.resolveQualifier (Text.upper command.verb) (Text.upper command.qualifier)) events
        after issues := by
  have executed := execute_executed world session command state
  rw [ended] at executed
  have prepared := prepare_eq session command
  generalize failed : Except.error (Error.mapping issues) = result at executed
  cases executed with
  | stopped stops unready =>
    rcases prepared with ⟨_, stopped⟩ | ⟨goesOn, _⟩
    · rw [unready] at stopped
      cases stopped
      cases failed
      obtain ⟨table, mapper⟩ := exists_mapper_of_stops stops
      exact ⟨stops.1, stops.2, table, mapper, failsForIssues_of_stops stops mapper⟩
    · exact absurd stops goesOn
  | overdue _ _ _ => cases failed
  | sent goesOn ready silent =>
    rcases prepared with ⟨stops, _⟩ | ⟨_, prepared, same, kind, _⟩
    · exact absurd stops goesOn
    · rw [ready] at same
      cases same
      rw [kind] at failed
      exact failsForIssues_of_verdict silent failed.symm

/-- Where the world answers alike whatever it is sent, a command ends alike whatever it asks for. -/
theorem execute_asking_ending {τ : Type} {world : World σ} {twin : World τ}
    {related : σ → τ → Prop} {state : σ} {other : τ}
    (worlds : world.AnswersAlike twin related (fun _ _ => True)) (start : related state other)
    (session : Session) (command : Command) (names : Option (List String))
    (clause : Option String) (display : Bool) :
    ((execute (command.asking names clause display)).course twin session other).ending.map
        Prod.fst =
      ((execute command).course world session state).ending.map Prod.fst := by
  have courses : Course.Alike _ _ _ ((execute command).course world session state)
      ((execute (command.asking names clause display)).course twin session other) :=
    (execute_agree_asking session command names clause display).course worlds start
  generalize (execute command).course world session state = course at courses ⊢
  generalize (execute (command.asking names clause display)).course twin session other = variant
    at courses ⊢
  cases courses with
  | ended _ same _ => exact congrArg Except.ok same.symm
  | aborted _ _ _ => rfl

/-- A command that fails for issues of the mapping does so in a strict session with a table, for
issues of its own parameters or of the records that it was answered with. Neither the names that it
asks for nor its condition have a part in it: where the world outside answers alike whatever it is
sent, the command comes to the same with any others. -/
theorem mapping_failures_faithful (world : World σ) (session : Session) (command : Command)
    (state : σ) :
    (∀ events issues after later, (execute command).course world session state =
        ⟨events, .ok (.error (.mapping issues), after), later⟩ →
      session.settings.mappingStrict = true ∧ issues ≠ [] ∧
      ∃ table, session.mapper = some table ∧ FailsForIssues command table
        (table.resolveQualifier (Text.upper command.verb) (Text.upper command.qualifier)) events
        after issues) ∧
    ∀ {τ : Type} (twin : World τ) (related : σ → τ → Prop) (other : τ),
      world.AnswersAlike twin related (fun _ _ => True) → related state other →
      ∀ names clause display,
        ((execute (command.asking names clause display)).course twin session other).ending.map
            Prod.fst =
          ((execute command).course world session state).ending.map Prod.fst := by
  constructor
  · intro events issues after later ended
    exact failsForIssues_of_execute ended
  · intro τ twin related other worlds start names clause display
    exact execute_asking_ending worlds start session command names clause display

end Session

end MqAdmin
