import MqAdmin.Proofs.Command.Payload
import MqAdmin.Proofs.Session.Course
import MqAdmin.Proofs.Session.Verdict

namespace MqAdmin

namespace Session

/-- The kind of object that a command concerns, if names are mapped. -/
def kind? (session : Session) (command : Command) : Option String :=
  session.mapper.map fun table =>
    table.resolveQualifier (Text.upper command.verb) (Text.upper command.qualifier)

/-- The parameters that a command is sent with, before any condition is added, and the issues that
came up when they were mapped. -/
def wireParameters (session : Session) (command : Command) : Mapping.Outcome Attributes :=
  match session.mapper with
  | none => ⟨command.parameters, []⟩
  | some table =>
    table.mapRequest
      (table.resolveQualifier (Text.upper command.verb) (Text.upper command.qualifier))
      command.parameters

/-- Whether a session that is strict stops a command for an issue of its parameters. -/
def Stops (session : Session) (command : Command) : Prop :=
  session.settings.mappingStrict = true ∧ (session.wireParameters command).issues ≠ []

/-- The times that bound the wait for an answer: what the settings allow and what is left until the
deadline. -/
def limits (session : Session) (command : Command) (now : Instant) : List Duration :=
  session.settings.timeout.toList ++ (command.deadline.map (·.since now)).toList

def noted (session : Session) (payload : Json) (reply : Reply) : Session :=
  session.noting <| match reply with
    | .error _ => { commandPayload := some payload }
    | .ok response => diagnosticsOf payload response

/-- Whether a session is another one, its diagnostics apart. -/
def Becomes (session after : Session) : Prop := ∃ diagnostics, after = session.noting diagnostics

theorem Becomes.refl (session : Session) : session.Becomes session := ⟨session.diagnostics, rfl⟩

theorem Becomes.trans {first second third : Session} (step : first.Becomes second)
    (next : second.Becomes third) : first.Becomes third := by
  obtain ⟨_, same⟩ := step
  obtain ⟨diagnostics, sameNext⟩ := next
  subst same
  exact ⟨diagnostics, sameNext⟩

theorem becomes_noting (session : Session) (diagnostics : Diagnostics) :
    session.Becomes (session.noting diagnostics) := ⟨diagnostics, rfl⟩

section Noting

variable (session : Session) (diagnostics : Diagnostics) (command : Command)

@[simp] theorem kind?_noting : (session.noting diagnostics).kind? command = session.kind? command :=
  rfl

@[simp] theorem verdict_noting : (session.noting diagnostics).verdict = session.verdict := by
  funext kind reply
  cases reply <;> rfl

end Noting

end Session

/-- Whether the deadline of a command is not after the given time. -/
def Command.IsLate (command : Command) (now : Instant) : Prop :=
  ∃ deadline, command.deadline = some deadline ∧ deadline.nanoseconds ≤ now.nanoseconds

/-- What a command came to, told from outside: the requests that were sent at the given time, and
the result. -/
structure Dispatched (session : Session) (command : Command) (now : Instant)
    (events : List Event) (result : Except Error (List Attributes)) : Prop where
  once : (requests events).length ≤ 1
  unsent_iff : requests events = [] ↔ session.Stops command ∨ command.IsLate now
  stopped : session.Stops command →
    result = .error (.mapping (session.wireParameters command).issues)
  late : ¬ session.Stops command → command.IsLate now →
    ∃ message, result = .error (.transport session.commandUrl message)
  timeout : ∀ request ∈ requests events, request.timeout.map (·.nanoseconds) =
    ((session.limits command now).map (·.nanoseconds)).min?
  unlimited_iff : ∀ request ∈ requests events, request.timeout = none ↔
    session.settings.timeoutSeconds = 0 ∧ command.deadline = none
  timeout_ne_zero : ∀ request ∈ requests events, request.timeout ≠ some .zero
  judged : ∀ request reply, .sent request reply ∈ events → ∀ other,
    session.Verdict (session.kind? command) reply other ↔ other = result

namespace Session

variable {σ : Type} {world : World σ} {session : Session} {command : Command} {state later : σ}
  {before : List Event}

/-- Preparing a command fails exactly if the session stops it. A document without a condition
carries the parameters as they were mapped. -/
theorem prepare_eq (session : Session) (command : Command) :
    (session.Stops command ∧
      command.prepare session.mapper session.settings.mappingStrict =
        .error (session.wireParameters command).issues) ∨
    (¬ session.Stops command ∧
      ∃ prepared, command.prepare session.mapper session.settings.mappingStrict = .ok prepared ∧
        prepared.kind = session.kind? command ∧
        (command.whereClause = none → prepared.payload.Carries (Text.upper command.verb)
          (Text.upper command.qualifier) command.name
          (session.wireParameters command).mapped)) := by
  unfold Stops wireParameters kind? Command.prepare
  cases session.mapper with
  | none =>
    right
    refine ⟨by simp, _, rfl, rfl, fun unconditional => ?_⟩
    rw [unconditional]
    exact Command.payload_carries ..
  | some table =>
    by_cases rejected : session.settings.mappingStrict = true ∧
        (table.mapRequest (table.resolveQualifier (Text.upper command.verb)
          (Text.upper command.qualifier)) command.parameters).issues ≠ []
    · left
      simpa using rejected
    · right
      have accepted : (session.settings.mappingStrict &&
          !(table.mapRequest (table.resolveQualifier (Text.upper command.verb)
            (Text.upper command.qualifier)) command.parameters).issues.isEmpty) = false := by
        simpa using rejected
      simp only [accepted, Bool.false_eq_true, ↓reduceIte]
      refine ⟨rejected, _, rfl, rfl, fun unconditional => ?_⟩
      rw [unconditional]
      exact Command.payload_carries ..

theorem execute_course_of_issues {issues : List Mapping.Issue}
    (stopped : command.prepare session.mapper session.settings.mappingStrict = .error issues)
    (world : World σ) (state : σ) : (execute command).course world session state =
      ⟨[], .ok (.error (.mapping issues), session.noting {}), state⟩ := by
  show (execute command session).course world state = _
  simp only [execute, ExceptT.mk, stopped]
  rfl

theorem execute_course_of_overdue {prepared : Prepared}
    (ready : command.prepare session.mapper session.settings.mappingStrict = .ok prepared)
    (waited : (session.patience command.deadline).course world state =
      ⟨before, .ok none, later⟩) :
    (execute command).course world session state =
      ⟨before, .ok (.error (.transport session.commandUrl
        "deadline exceeded before the request was sent"),
        session.noting { commandPayload := some prepared.payload }), later⟩ := by
  show (execute command session).course world state = _
  simp only [execute, ExceptT.mk, ready]
  rw [Dialogue.course_bind, waited, Course.andThen_ok]
  simp [Course.after, Dialogue.course]

theorem execute_course_of_late {prepared : Prepared}
    (ready : command.prepare session.mapper session.settings.mappingStrict = .ok prepared)
    (waited : (session.patience command.deadline).course world state =
      ⟨before, .ok none, later⟩) :
    ∃ message, (execute command).course world session state =
      ⟨before, .ok (.error (.transport session.commandUrl message),
        session.noting { commandPayload := some prepared.payload }), later⟩ :=
  ⟨_, execute_course_of_overdue ready waited⟩

/-- A command that is sent: its outcome is what the world answers with. -/
theorem execute_course_of_timely {prepared : Prepared} {timeout : Option Duration}
    (ready : command.prepare session.mapper session.settings.mappingStrict = .ok prepared)
    (waited : (session.patience command.deadline).course world state =
      ⟨before, .ok (some timeout), later⟩) :
    (execute command).course world session state =
      let request := session.request prepared.payload timeout
      let reply : Reply := (world (.send request) later).1
      ⟨before ++ [.sent request reply],
        .ok (session.verdict prepared.kind reply, session.noted prepared.payload reply),
        (world (.send request) later).2⟩ := by
  show (execute command session).course world state = _
  simp only [execute, ExceptT.mk, ready]
  rw [Dialogue.course_bind, waited, Course.andThen_ok]
  show Course.after before (Dialogue.course world (Dialogue.bind (Dialogue.answer _) _) later) = _
  generalize session.request prepared.payload timeout = request
  rw [Dialogue.answer, Dialogue.bind, Dialogue.course]
  cases (world (.send request) later).1 <;> rfl

/-- A command without deadline and condition is sent unless the session stops it. -/
theorem execute_course_of_plain (command : Command) (undated : command.deadline = none)
    (unconditional : command.whereClause = none) (session : Session) (world : World σ)
    (state : σ) :
    (session.Stops command ∧ (execute command).course world session state =
      ⟨[], .ok (.error (.mapping (session.wireParameters command).issues), session.noting {}),
        state⟩) ∨
    (¬ session.Stops command ∧ ∃ request : Request,
      request.payload.Carries (Text.upper command.verb) (Text.upper command.qualifier)
        command.name (session.wireParameters command).mapped ∧
      (execute command).course world session state =
        ⟨[.sent request (world (.send request) state).1],
          .ok (session.verdict (session.kind? command) (world (.send request) state).1,
            session.noted request.payload (world (.send request) state).1),
          (world (.send request) state).2⟩) := by
  have waited : (session.patience command.deadline).course world state =
      ⟨[], .ok (some session.settings.timeout), state⟩ := by
    rw [undated]
    rfl
  rcases prepare_eq session command with ⟨stops, stopped⟩ | ⟨goesOn, prepared, ready, kind, carries⟩
  · exact .inl ⟨stops, execute_course_of_issues stopped world state⟩
  · refine .inr ⟨goesOn, session.request prepared.payload session.settings.timeout,
      carries unconditional, ?_⟩
    rw [execute_course_of_timely ready waited, kind]
    rfl

/-- A result in which a failure that the queue manager reports counts as no records. -/
def orNone : Except Error (List Attributes) → Except Error (List Attributes)
  | .ok records => .ok records
  | .error error => if error.isCommand then .ok [] else .error error

theorem executeOrNone_course {events : List Event} {result : Except Error (List Attributes)}
    {after : Session} (course : (execute command).course world session state =
      ⟨events, .ok (result, after), later⟩) :
    (executeOrNone command).course world session state =
      ⟨events, .ok (orNone result, after), later⟩ := by
  rw [executeOrNone, Operation.course_tryCatch, course, Course.andThen_ok]
  cases result with
  | ok records => simp [orNone, Course.after]
  | error error =>
    by_cases reported : error.isCommand = true
    · simp [orNone, reported, Operation.course_pure, Course.after]
    · simp [orNone, reported, Operation.course_throw, Course.after]

theorem wireParameters_of_empty (none : command.parameters = ∅) :
    session.wireParameters command = ⟨∅, []⟩ := by
  unfold wireParameters
  rw [none]
  cases session.mapper <;> rfl

theorem not_stops_of_empty (none : command.parameters = ∅) : ¬ session.Stops command := by
  simp [Stops, wireParameters_of_empty none]

theorem execute_course_of_bare (command : Command) (undated : command.deadline = none)
    (unconditional : command.whereClause = none) (bare : command.parameters = ∅)
    (session : Session) (world : World σ) (state : σ) : ∃ request : Request,
      request.payload.Carries (Text.upper command.verb) (Text.upper command.qualifier)
        command.name ∅ ∧
      (execute command).course world session state =
        ⟨[.sent request (world (.send request) state).1],
          .ok (session.verdict (session.kind? command) (world (.send request) state).1,
            session.noted request.payload (world (.send request) state).1),
          (world (.send request) state).2⟩ := by
  rcases execute_course_of_plain command undated unconditional session world state with
    ⟨stops, _⟩ | ⟨_, request, carries, course⟩
  · exact absurd stops (not_stops_of_empty bare)
  · rw [wireParameters_of_empty bare] at carries
    exact ⟨request, carries, course⟩

/-- What a time to wait has to do with the times that bound it. -/
structure Granted (session : Session) (command : Command) (now : Instant)
    (timeout : Option Duration) : Prop where
  least : timeout.map (·.nanoseconds) =
    ((session.limits command now).map (·.nanoseconds)).min?
  unlimited_iff : timeout = none ↔
    session.settings.timeoutSeconds = 0 ∧ command.deadline = none
  ne_zero : timeout ≠ some .zero

theorem timeout_eq_none_iff (settings : Settings) :
    settings.timeout = none ↔ settings.timeoutSeconds = 0 := by
  simp [Settings.timeout]

theorem timeout_pos {settings : Settings} {duration : Duration}
    (given : settings.timeout = some duration) : 0 < duration.nanoseconds := by
  unfold Settings.timeout at given
  split at given
  · cases given
  · rename_i nonzero
    cases given
    exact Nat.mul_pos (Nat.pos_of_ne_zero nonzero) (by decide)

theorem granted_of_undated {now : Instant} (undated : command.deadline = none) :
    Granted session command now session.settings.timeout where
  least := by
    cases given : session.settings.timeout <;> simp [limits, given, undated]
  unlimited_iff := by simp [timeout_eq_none_iff, undated]
  ne_zero given := absurd (timeout_pos given) (by decide)

theorem granted_of_deadline {now deadline : Instant} (dated : command.deadline = some deadline)
    (early : now.nanoseconds < deadline.nanoseconds) :
    Granted session command now
      (some ((session.settings.timeout.map (deadline.since now).min).getD
        (deadline.since now))) where
  least := by
    cases given : session.settings.timeout with
    | none => simp [limits, given, dated]
    | some configured =>
      simp only [limits, given, dated, Duration.min, Option.map_some, Option.toList_some,
        List.singleton_append, List.map_cons, List.map_nil, List.min?_cons, Option.getD_some]
      split <;> simp <;> omega
  unlimited_iff := by simp [dated]
  ne_zero granted := by
    have leftPos : 0 < (deadline.since now).nanoseconds := Nat.sub_pos_of_lt early
    cases given : session.settings.timeout with
    | none =>
      simp only [given, Option.map_none, Option.getD_none, Option.some.injEq] at granted
      simp [granted, Duration.zero] at leftPos
    | some configured =>
      have configuredPos := timeout_pos given
      simp only [given, Option.map_some, Option.getD_some, Option.some.injEq,
        Duration.min] at granted
      split at granted
      · simp [granted, Duration.zero] at leftPos
      · simp [granted, Duration.zero] at configuredPos

/-- Looking for the time that is left sends nothing. It finds none exactly if it is late. -/
theorem patience_course (session : Session) (command : Command) (world : World σ) (state : σ) :
    ∃ before granted later,
      (session.patience command.deadline).course world state = ⟨before, .ok granted, later⟩ ∧
      requests before = [] ∧ (granted = none ↔ command.IsLate (world .now state).1) ∧
      ∀ timeout, granted = some timeout → Granted session command (world .now state).1 timeout := by
  cases dated : command.deadline with
  | none =>
    refine ⟨[], some session.settings.timeout, state, rfl, rfl, by simp [Command.IsLate, dated],
      ?_⟩
    rintro _ ⟨⟩
    exact granted_of_undated dated
  | some deadline =>
    have asked : (session.patience (some deadline)).course world state =
        ((if deadline.nanoseconds ≤ (world .now state).1.nanoseconds then .done none
          else .done (some (some ((session.settings.timeout.map
            (deadline.since (world .now state).1).min).getD
              (deadline.since (world .now state).1)))) :
          Dialogue (Option (Option Duration))).course world (world .now state).2).after
            [.told (world .now state).1] := rfl
    by_cases late : deadline.nanoseconds ≤ (world .now state).1.nanoseconds
    · rw [if_pos late] at asked
      exact ⟨_, none, _, asked, rfl, by simp [Command.IsLate, dated, late], by simp⟩
    · rw [if_neg late] at asked
      refine ⟨_, some _, _, asked, rfl, by simp [Command.IsLate, dated, late], ?_⟩
      rintro _ ⟨⟩
      exact granted_of_deadline dated (Nat.lt_of_not_le late)

/-- The courses that a command can take, by what ends them: an issue of its parameters, its
deadline, or the outcome of sending it. -/
inductive Executed (session : Session) (command : Command) :
    Course σ (Except Error (List Attributes) × Session) → Prop where
  | stopped {issues : List Mapping.Issue} {state : σ} (stops : session.Stops command)
      (unready : command.prepare session.mapper session.settings.mappingStrict = .error issues) :
      Executed session command
        ⟨[], .ok (.error (.mapping issues), session.noting {}), state⟩
  | overdue {prepared : Prepared} {before : List Event} {message : String} {later : σ}
      (goesOn : ¬ session.Stops command)
      (ready : command.prepare session.mapper session.settings.mappingStrict = .ok prepared)
      (silent : requests before = []) :
      Executed session command
        ⟨before, .ok (.error (.transport session.commandUrl message),
          session.noting { commandPayload := some prepared.payload }), later⟩
  | sent {prepared : Prepared} {timeout : Option Duration} {before : List Event} {reply : Reply}
      {later : σ} (goesOn : ¬ session.Stops command)
      (ready : command.prepare session.mapper session.settings.mappingStrict = .ok prepared)
      (silent : requests before = []) :
      Executed session command
        ⟨before ++ [.sent (session.request prepared.payload timeout) reply],
          .ok (session.verdict prepared.kind reply, session.noted prepared.payload reply), later⟩

theorem execute_executed (world : World σ) (session : Session) (command : Command) (state : σ) :
    Executed session command ((execute command).course world session state) := by
  obtain ⟨before, granted, later, waited, silent, _⟩ := patience_course session command world state
  rcases prepare_eq session command with ⟨stops, stopped⟩ | ⟨goesOn, prepared, ready, _⟩
  · rw [execute_course_of_issues stopped]
    exact .stopped stops stopped
  · cases granted with
    | none =>
      rw [execute_course_of_overdue ready waited]
      exact .overdue goesOn ready silent
    | some timeout =>
      rw [execute_course_of_timely ready waited]
      exact .sent goesOn ready silent

/-- In every world and session a command sends at most one request, and the outcome of sending it
is judged by the rules. -/
theorem execute_dispatches (world : World σ) (session : Session) (command : Command) (state : σ) :
    ∃ events result after later,
      (execute command).course world session state = ⟨events, .ok (result, after), later⟩ ∧
      Dispatched session command (world .now state).1 events result := by
  obtain ⟨before, granted, later, waited, silent, none_iff, least⟩ :=
    patience_course session command world state
  rcases prepare_eq session command with ⟨stops, stopped⟩ | ⟨goesOn, prepared, ready, kind, _⟩
  · refine ⟨_, _, _, _, execute_course_of_issues stopped world state, ?_⟩
    constructor <;> simp [stops]
  · have unsent : ∀ request reply, .sent request reply ∉ before := by
      intro request reply member
      have listed := mem_requests_of_sent member
      simp [silent] at listed
    cases granted with
    | none =>
      have late := none_iff.mp rfl
      obtain ⟨message, course⟩ := execute_course_of_late ready waited
      refine ⟨_, _, _, _, course, ?_⟩
      constructor <;> simp [goesOn, late, silent, unsent]
    | some timeout =>
      have timely : ¬ command.IsLate (world .now state).1 := by simp [← none_iff]
      obtain ⟨least, unlimited, nonzero⟩ := least timeout rfl
      refine ⟨_, _, _, _, execute_course_of_timely ready waited, ?_⟩
      constructor
      · simp [silent]
      · simp [silent, goesOn, timely]
      · simp [goesOn]
      · simp [timely]
      · simpa [silent, request] using least
      · simpa [silent, request] using unlimited
      · simpa [silent, request] using nonzero
      · intro request reply member other
        have own : Event.sent request reply = .sent _ _ :=
          (List.mem_append.mp member).elim (absurd · (unsent request reply)) List.mem_singleton.mp
        injection own with sameRequest sameReply
        subst sameRequest sameReply
        rw [kind]
        exact verdict_iff

end Session

end MqAdmin
