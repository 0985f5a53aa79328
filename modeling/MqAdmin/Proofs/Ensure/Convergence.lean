import MqAdmin.Ensure.Converge
import MqAdmin.Proofs.Session.Dispatch

namespace MqAdmin.Ensure

inductive Found where
  | absent
  | present (current : Attributes)
  | unknown (error : Error)

/-- An object is absent if the queue manager reports a failure or gives no records. -/
def Found.of : Except Error (List Attributes) → Found
  | .ok [] => .absent
  | .ok (current :: _) => .present current
  | .error error => if error.isCommand then .absent else .unknown error

def displayCommand (target : Target) (name : String) : Command :=
  { verb := "DISPLAY", qualifier := target.display, name, responseParameters := some ["all"] }

def defineCommand (target : Target) (name : String) (desired : Attributes) : Command :=
  { verb := "DEFINE", qualifier := target.define, name, parameters := desired }

def alterCommand (target : Target) (name : String) (changed : Attributes) : Command :=
  { verb := "ALTER", qualifier := target.alter, name, parameters := changed }

/-- Whether a request carries a command, with its parameters mapped as the session maps them. -/
def Carries (session : Session) (command : Command) (request : Request) : Prop :=
  request.payload.Carries (Text.upper command.verb) (Text.upper command.qualifier) command.name
    (session.wireParameters command).mapped

/-- What one changing command comes to: what it sends, and its result. -/
inductive Attempt (session : Session) (command : Command) (success : Outcome) :
    List Event → Except Error Outcome → Prop where
  | stopped (stops : session.Stops command) :
      Attempt session command success []
        (.error (.mapping (session.wireParameters command).issues))
  | failed (goesOn : ¬ session.Stops command) (carries : Carries session command request)
      (judged : session.verdict (session.kind? command) reply = .error error) :
      Attempt session command success [.sent request reply] (.error error)
  | done (goesOn : ¬ session.Stops command) (carries : Carries session command request)
      (judged : session.verdict (session.kind? command) reply = .ok records) :
      Attempt session command success [.sent request reply] (.ok success)

/-- What altering comes to, given the attributes that are there: nothing is sent if none differs. -/
inductive Altered (session : Session) (command : Command) (desired current : Attributes) :
    List Event → Except Error Outcome → Prop where
  | keep (same : changed desired current = ∅) :
      Altered session command desired current [] (.ok ⟨.unchanged, []⟩)
  | update (differs : changed desired current ≠ ∅)
      (attempt : Attempt session { command with parameters := changed desired current }
        ⟨.updated, (changed desired current).keys⟩ events result) :
      Altered session command desired current events result

inductive Step (session : Session) (target : Target) (name : String) (desired : Attributes) :
    Found → List Event → Except Error Outcome → Prop where
  | unknown : Step session target name desired (.unknown error) [] (.error error)
  | create
      (attempt : Attempt session (defineCommand target name desired) ⟨.created, []⟩ events result) :
      Step session target name desired .absent events result
  | keep (same : changed desired current = ∅) :
      Step session target name desired (.present current) [] (.ok ⟨.unchanged, []⟩)
  | update (differs : changed desired current ≠ ∅)
      (attempt : Attempt session (alterCommand target name (changed desired current))
        ⟨.updated, (changed desired current).keys⟩ events result) :
      Step session target name desired (.present current) events result

def HasVerb (verb : String) (request : Request) : Prop :=
  request.payload.get? "command" = some (.string verb)

section Attempt

variable {session : Session} {command : Command} {success : Outcome} {events : List Event}
  {result : Except Error Outcome}

theorem Attempt.atMostOne (attempt : Attempt session command success events result) :
    (requests events).length ≤ 1 := by
  cases attempt <;> simp

theorem Attempt.hasVerb_iff (attempt : Attempt session command success events result)
    (verb : String) : (∃ request ∈ requests events, HasVerb verb request) ↔
      Text.upper command.verb = verb ∧ ¬ session.Stops command := by
  cases attempt with
  | stopped stops => simp [stops]
  | failed goesOn carries judged => simp [HasVerb, carries.command, goesOn]
  | done goesOn carries judged => simp [HasVerb, carries.command, goesOn]

theorem Attempt.succeeds {outcome : Outcome}
    (attempt : Attempt session command success events (.ok outcome)) :
    outcome = success ∧ ∃ request reply records, events = [.sent request reply] ∧
      Carries session command request ∧
      session.verdict (session.kind? command) reply = .ok records := by
  cases attempt with
  | done goesOn carries judged => exact ⟨rfl, _, _, _, rfl, carries, judged⟩

end Attempt

section Noting

variable {session : Session} {diagnostics : Diagnostics}

theorem Attempt.of_noting {command : Command} {success : Outcome} {events : List Event}
    {result : Except Error Outcome}
    (attempt : Attempt (session.noting diagnostics) command success events result) :
    Attempt session command success events result := by
  cases attempt with
  | stopped stops => exact .stopped stops
  | failed goesOn carries judged => exact .failed goesOn carries (by simpa using judged)
  | done goesOn carries judged => exact .done goesOn carries (by simpa using judged)

theorem Altered.of_noting {command : Command} {desired current : Attributes} {events : List Event}
    {result : Except Error Outcome}
    (altered : Altered (session.noting diagnostics) command desired current events result) :
    Altered session command desired current events result := by
  cases altered with
  | keep same => exact .keep same
  | update differs attempt => exact .update differs attempt.of_noting

theorem Step.of_noting {target : Target} {name : String} {desired : Attributes} {found : Found}
    {events : List Event} {result : Except Error Outcome}
    (step : Step (session.noting diagnostics) target name desired found events result) :
    Step session target name desired found events result := by
  cases step with
  | unknown => exact .unknown
  | create attempt => exact .create attempt.of_noting
  | keep same => exact .keep same
  | update differs attempt => exact .update differs attempt.of_noting

end Noting

section Course

variable {σ : Type}

/-- A changing command sends at most one request, and is done only if the answer is a success. -/
theorem attempt_course (command : Command) (undated : command.deadline = none)
    (unconditional : command.whereClause = none) (success : Outcome) (world : World σ)
    (session : Session) (state : σ) : ∃ events result after later,
      (do let _ ← Session.execute command; return success : Operation Outcome).course world session
          state = ⟨events, .ok (result, after), later⟩ ∧
      Attempt session command success events result ∧ session.Becomes after := by
  rcases Session.execute_course_of_plain command undated unconditional session world state with
    ⟨stops, course⟩ | ⟨goesOn, request, carries, course⟩
  · exact ⟨_, _, _, _, Operation.course_bind_error _ course, .stopped stops, _, rfl⟩
  · cases judged : session.verdict (session.kind? command) (world (.send request) state).1 with
    | error error =>
      rw [judged] at course
      exact ⟨_, _, _, _, Operation.course_bind_error _ course,
        .failed goesOn carries judged, _, rfl⟩
    | ok records =>
      rw [judged] at course
      refine ⟨_, _, _, _, Operation.course_bind_ok _ course, ?_, _, rfl⟩
      simpa [Operation.course_pure] using Attempt.done goesOn carries judged

theorem alter_altered (command : Command) (undated : command.deadline = none)
    (unconditional : command.whereClause = none) (desired current : Attributes) (world : World σ)
    (session : Session) (state : σ) : ∃ events result after later,
      (alter command desired current).course world session state =
        ⟨events, .ok (result, after), later⟩ ∧
      Altered session command desired current events result ∧ session.Becomes after := by
  rw [alter_eq]
  by_cases met : changed desired current = ∅
  · rw [if_pos (KeyMap.isEmpty_iff.mpr met)]
    exact ⟨_, _, _, _, Operation.course_pure .., .keep met, .refl session⟩
  · rw [if_neg (mt KeyMap.isEmpty_iff.mp met)]
    obtain ⟨events, result, after, later, course, attempt, same⟩ :=
      attempt_course { command with parameters := changed desired current } undated unconditional
        ⟨.updated, (changed desired current).keys⟩ world session state
    exact ⟨events, result, after, later, course, .update met attempt, same⟩

theorem alter_course (target : Target) (name : String) (desired current : Attributes)
    (world : World σ) (session : Session) (state : σ) : ∃ events result after later,
      (alter { verb := "ALTER", qualifier := target.alter, name } desired current).course world
          session state = ⟨events, .ok (result, after), later⟩ ∧
      Step session target name desired (.present current) events result ∧
      session.Becomes after := by
  obtain ⟨events, result, after, later, course, altered, same⟩ :=
    alter_altered { verb := "ALTER", qualifier := target.alter, name } rfl rfl desired current
      world session state
  refine ⟨events, result, after, later, course, ?_, same⟩
  cases altered with
  | keep met => exact .keep met
  | update differs attempt => exact .update differs attempt

def followUp (target : Target) (name : String) (desired : Attributes)
    (records : List Attributes) : Operation Outcome :=
  match records.head? with
  | none => do
    let _ ← Session.execute (defineCommand target name desired)
    return ⟨.created, []⟩
  | some current => alter { verb := "ALTER", qualifier := target.alter, name } desired current

theorem object_eq (target : Target) (name : String) (desired : Attributes) :
    object target name desired =
      Session.executeOrNone (displayCommand target name) >>= followUp target name desired := rfl

/-- What follows on a display depends only on what was found. -/
theorem step_course {operation : Operation (List Attributes)} {world : World σ}
    {session after : Session} {state later : σ} {before : List Event}
    {shown : Except Error (List Attributes)} (target : Target) (name : String)
    (desired : Attributes) (course : operation.course world session state =
      ⟨before, .ok (Session.orNone shown, after), later⟩) : ∃ events result final last,
      (operation >>= followUp target name desired).course world session state =
        ⟨before ++ events, .ok (result, final), last⟩ ∧
      Step after target name desired (.of shown) events result ∧ after.Becomes final := by
  have creating (records : Session.orNone shown = .ok []) : ∃ events result final last,
      (operation >>= followUp target name desired).course world session state =
        ⟨before ++ events, .ok (result, final), last⟩ ∧
      Step after target name desired .absent events result ∧ after.Becomes final := by
    obtain ⟨events, result, final, last, defined, attempt, same⟩ :=
      attempt_course (defineCommand target name desired) rfl rfl ⟨.created, []⟩ world after later
    rw [records] at course
    refine ⟨events, result, final, last, ?_, .create attempt, same⟩
    rw [Operation.course_bind_ok _ course]
    exact congrArg (Course.after before) defined
  cases shown with
  | ok records =>
    cases records with
    | nil => exact creating rfl
    | cons current rest =>
      obtain ⟨events, result, final, last, altered, step, same⟩ :=
        alter_course target name desired current world after later
      refine ⟨events, result, final, last, ?_, step, same⟩
      rw [Operation.course_bind_ok _ course]
      exact congrArg (Course.after before) altered
  | error error =>
    by_cases reported : error.isCommand = true
    · simpa [Found.of, reported] using creating (by simp [Session.orNone, reported])
    · simp only [Session.orNone, reported, Bool.false_eq_true, ↓reduceIte] at course
      refine ⟨[], .error error, after, later, ?_, by simpa [Found.of, reported] using .unknown,
        .refl after⟩
      simpa using Operation.course_bind_error _ course

theorem object_course (world : World σ) (session : Session) (target : Target) (name : String)
    (desired : Attributes) (state : σ) : ∃ display reply events result after later,
      (object target name desired).course world session state =
        ⟨.sent display reply :: events, .ok (result, after), later⟩ ∧
      display.payload.Carries "DISPLAY" (Text.upper target.display) (some name) ∅ ∧
      Step session target name desired
        (.of (session.verdict (session.kind? (displayCommand target name)) reply)) events result ∧
      session.Becomes after := by
  obtain ⟨display, carries, course⟩ := Session.execute_course_of_bare
    (displayCommand target name) rfl rfl rfl session world state
  obtain ⟨events, result, final, last, followed, step, same⟩ :=
    step_course target name desired (Session.executeOrNone_course course)
  rw [object_eq]
  refine ⟨display, _, events, result, final, last, followed, ?_, step.of_noting,
    (session.becomes_noting _).trans same⟩
  simpa [displayCommand] using carries

end Course

/-- How an object was brought to desired attributes, given what its display found: what was sent
after the display, and the result. -/
structure Converged (session : Session) (target : Target) (name : String) (desired : Attributes)
    (found : Found) (events : List Event) (result : Except Error Outcome) : Prop where
  step : Step session target name desired found events result
  atMostOne : (requests events).length ≤ 1
  defines_iff : (∃ request ∈ requests events, HasVerb "DEFINE" request) ↔
    found = .absent ∧ ¬ session.Stops (defineCommand target name desired)
  alters_iff : (∃ request ∈ requests events, HasVerb "ALTER" request) ↔
    ∃ current, found = .present current ∧ changed desired current ≠ ∅ ∧
      ¬ session.Stops (alterCommand target name (changed desired current))
  unknown : ∀ error, found = .unknown error → events = [] ∧ result = .error error
  created : ∀ names, result = .ok ⟨.created, names⟩ →
    found = .absent ∧ ∃ request reply records, events = [.sent request reply] ∧
      Carries session (defineCommand target name desired) request ∧
      session.verdict (session.kind? (defineCommand target name desired)) reply = .ok records
  updated : ∀ names, result = .ok ⟨.updated, names⟩ → ∃ current, found = .present current ∧
    names = (changed desired current).keys ∧ names.Pairwise (· < ·) ∧
    ∃ request reply records, events = [.sent request reply] ∧
      Carries session (alterCommand target name (changed desired current)) request ∧
      session.verdict (session.kind? (alterCommand target name (changed desired current))) reply =
        .ok records
  unchanged_iff : (∃ names, result = .ok ⟨.unchanged, names⟩) ↔
    ∃ current, found = .present current ∧ changed desired current = ∅

theorem Step.converged {session : Session} {target : Target} {name : String}
    {desired : Attributes} {found : Found} {events : List Event} {result : Except Error Outcome}
    (step : Step session target name desired found events result) :
    Converged session target name desired found events result := by
  cases step with
  | unknown => constructor <;> simp [Step.unknown]
  | keep same => constructor <;> simp [Step.keep same, same]
  | create attempt =>
    have defines := attempt.hasVerb_iff "DEFINE"
    have alters := attempt.hasVerb_iff "ALTER"
    simp only [defineCommand, Text.upper_define, true_and, String.reduceEq, false_and]
      at defines alters
    refine ⟨.create attempt, attempt.atMostOne, ?_, ?_, by simp, ?_, ?_, ?_⟩
    · simpa [defineCommand] using defines
    · simpa using alters
    · rintro names rfl
      exact ⟨rfl, attempt.succeeds.2⟩
    · rintro names rfl
      simpa using attempt.succeeds.1
    · simp only [reduceCtorEq, false_and, exists_false, iff_false]
      rintro ⟨names, rfl⟩
      simpa using attempt.succeeds.1
  | @update current events result differs attempt =>
    have defines := attempt.hasVerb_iff "DEFINE"
    have alters := attempt.hasVerb_iff "ALTER"
    simp only [alterCommand, Text.upper_alter, true_and, String.reduceEq, false_and]
      at defines alters
    refine ⟨.update differs attempt, attempt.atMostOne, ?_, ?_, by simp, ?_, ?_, ?_⟩
    · simpa using defines
    · simpa [alterCommand, differs] using alters
    · rintro names rfl
      simpa using attempt.succeeds.1
    · rintro names rfl
      obtain ⟨same, sent⟩ := attempt.succeeds
      cases same
      exact ⟨current, rfl, rfl, KeyMap.keys_ascending _, sent⟩
    · simp only [Found.present.injEq, exists_eq_left', differs, iff_false]
      rintro ⟨names, rfl⟩
      simpa using attempt.succeeds.1

/-- In every world and session an object is displayed, and what that finds decides the rest. -/
theorem object_converges {σ : Type} (world : World σ) (session : Session) (target : Target)
    (name : String) (desired : Attributes) (state : σ) :
    ∃ display reply events result after later,
      (object target name desired).course world session state =
        ⟨.sent display reply :: events, .ok (result, after), later⟩ ∧
      display.payload.Carries "DISPLAY" (Text.upper target.display) (some name) ∅ ∧
      display.payload.get? "parameters" = none ∧
      Converged session target name desired
        (.of (session.verdict (session.kind? (displayCommand target name)) reply)) events
        result := by
  obtain ⟨display, reply, events, result, after, later, course, carries, step, _⟩ :=
    object_course world session target name desired state
  refine ⟨display, reply, events, result, after, later, course, carries, ?_, step.converged⟩
  rw [carries.parameters]
  rfl

end MqAdmin.Ensure
