import MqAdmin.Proofs.Session.Routine
import MqAdmin.Session.Build

namespace MqAdmin

namespace Dialogue

variable {α β σ : Type} {holds : α → Prop}

/-- Whether every value that a dialogue can come to has a property. -/
def Yields (holds : α → Prop) : Dialogue α → Prop
  | .done value => holds value
  | .ask _ next => ∀ answer, (next answer).Yields holds
  | .abort _ => True

theorem Yields.bind {next : β → Dialogue α} (rest : ∀ value, (next value).Yields holds)
    (dialogue : Dialogue β) : (dialogue >>= next).Yields holds := by
  induction dialogue with
  | done value => exact rest value
  | ask question others ih => exact ih
  | abort cause => trivial

theorem Yields.of_course {dialogue : Dialogue α} (yields : dialogue.Yields holds) {world : World σ}
    {state : σ} {value : α} (ended : (dialogue.course world state).ending = .ok value) :
    holds value := by
  induction dialogue generalizing state with
  | done other =>
    cases ended
    exact yields
  | ask question next ih => exact ih _ (yields _) ended
  | abort cause => cases ended

end Dialogue

namespace Session

/-- Whether every session that comes of some steps remembers nothing yet. -/
def OpensBlank (steps : ExceptT Error Dialogue Opened) : Prop :=
  steps.run.Yields fun result => ∀ opened, result = .ok opened → opened.session.diagnostics = {}

theorem opensBlank_throw (error : Error) : OpensBlank (throw error) := by
  intro opened same
  cases same

theorem opensBlank_pure {opened : Opened} (blank : opened.session.diagnostics = {}) :
    OpensBlank (pure opened) := by
  intro other same
  cases same
  exact blank

theorem OpensBlank.bind {α : Type} {next : α → ExceptT Error Dialogue Opened}
    (rest : ∀ value, OpensBlank (next value)) (step : ExceptT Error Dialogue α) :
    OpensBlank (step >>= next) := by
  refine Dialogue.Yields.bind (fun result => ?_) step.run
  cases result with
  | ok value => exact rest value
  | error error => exact opensBlank_throw error

theorem build_blank (blueprint : Blueprint) : OpensBlank (build blueprint) := by
  unfold build
  dsimp only
  -- A fault ends the steps before the others; they are looked at in both cases all the same.
  split
  case' h_1 => refine .bind (fun _ => ?_) _
  all_goals
    refine .bind (fun budget => .bind (fun mapper => ?_) _) _
    split
    all_goals
      refine .bind (fun identity => ?_) _
      split
      all_goals exact .bind (fun token => opensBlank_pure rfl) _

end Session

/-- Diagnostics that fit together: a payload of an answer is one of a text, a text comes with a
status, and both come of a command. -/
structure Diagnostics.Consistent (diagnostics : Diagnostics) : Prop where
  text_of_payload : diagnostics.responsePayload.isSome → diagnostics.responseText.isSome
  text_iff_status : diagnostics.responseText.isSome ↔ diagnostics.httpStatus.isSome
  command_of_text : diagnostics.responseText.isSome → diagnostics.commandPayload.isSome

def Answered (events : List Event) (holds : Response → Prop) : Prop :=
  ∃ request response, .sent request (.ok response) ∈ events ∧ holds response

/-- What a session remembers of a command, told from outside. -/
structure Remembered (session : Session) (command : Command) (events : List Event)
    (diagnostics : Diagnostics) : Prop where
  built : ∀ payload, diagnostics.commandPayload = some payload ↔
    ∃ prepared, command.prepare session.mapper session.settings.mappingStrict = .ok prepared ∧
      prepared.payload = payload
  unbuilt_iff : diagnostics.commandPayload = none ↔ session.Stops command
  sent : ∀ request ∈ requests events, diagnostics.commandPayload = some request.payload
  status_iff : ∀ status, diagnostics.httpStatus = some status ↔
    Answered events fun response => response.status = status
  text_iff : ∀ text, diagnostics.responseText = some text ↔
    Answered events fun response => response.body = text
  payload_iff : ∀ payload, diagnostics.responsePayload = some payload ↔
    Answered events fun response => ¬ response.Refuses ∧ response.Reads payload

theorem Response.payload?_eq_some {response : Response} {payload : Json} :
    response.payload? = some payload ↔ ¬ response.Refuses ∧ response.Reads payload := by
  by_cases refused : response.Refuses
  · simp [payload?, response.isRefusal_iff.mpr refused, refused]
  · simp [payload?_eq_some_iff refused, refused]

namespace Session

variable {σ : Type} {session : Session} {command : Command} {before : List Event}

theorem sent_notMem (silent : requests before = []) (request : Request) (reply : Reply) :
    .sent request reply ∉ before := by
  intro member
  have listed := mem_requests_of_sent member
  simp [silent] at listed

theorem not_answered (silent : requests before = []) {holds : Response → Prop} :
    ¬ Answered before holds := by
  rintro ⟨request, response, member, _⟩
  exact sent_notMem silent _ _ member

theorem answered_sent (silent : requests before = []) {request : Request} {reply : Reply}
    {holds : Response → Prop} : Answered (before ++ [.sent request reply]) holds ↔
      ∃ response, reply = .ok response ∧ holds response := by
  constructor
  · rintro ⟨_, response, member, held⟩
    rcases List.mem_append.mp member with early | last
    · exact absurd early (sent_notMem silent _ _)
    · cases List.mem_singleton.mp last
      exact ⟨response, rfl, held⟩
  · rintro ⟨response, rfl, held⟩
    exact ⟨request, response, by simp, held⟩

theorem remembered_unsent {prepared : Prepared} (goesOn : ¬ session.Stops command)
    (ready : command.prepare session.mapper session.settings.mappingStrict = .ok prepared)
    (silent : requests before = []) :
    Remembered session command before { commandPayload := some prepared.payload } where
  built payload := by simp [ready]
  unbuilt_iff := by simp [goesOn]
  sent := by simp [silent]
  status_iff := by simp [not_answered silent]
  text_iff := by simp [not_answered silent]
  payload_iff := by simp [not_answered silent]

theorem remembered_sent {prepared : Prepared} (goesOn : ¬ session.Stops command)
    (ready : command.prepare session.mapper session.settings.mappingStrict = .ok prepared)
    (silent : requests before = []) {request : Request}
    (carries : request.payload = prepared.payload) (reply : Reply) :
    Remembered session command (before ++ [.sent request reply])
      (session.noted prepared.payload reply).diagnostics := by
  have payload : (session.noted prepared.payload reply).diagnostics.commandPayload =
      some prepared.payload := by
    cases reply <;> rfl
  constructor
  · simp [payload, ready]
  · simp [payload, goesOn]
  · simp [payload, silent, carries]
  all_goals
    simp only [answered_sent silent]
    cases reply <;> simp [noted, noting, diagnosticsOf, Response.payload?_eq_some]

/-- A command always comes to an end, and the session remembers it and nothing else. -/
theorem execute_remembers (world : World σ) (session : Session) (command : Command) (state : σ) :
    ∃ events result after later, (execute command).course world session state =
        ⟨events, .ok (result, after), later⟩ ∧
      Remembered session command events after.diagnostics := by
  have executed := execute_executed world session command state
  generalize (execute command).course world session state = course at executed
  cases executed with
  | stopped stops unready =>
    refine ⟨_, _, _, _, rfl, ?_⟩
    constructor <;> simp [noting, unready, stops, not_answered requests_nil]
  | overdue goesOn ready silent =>
    exact ⟨_, _, _, _, rfl, remembered_unsent goesOn ready silent⟩
  | sent goesOn ready silent =>
    exact ⟨_, _, _, _, rfl, remembered_sent goesOn ready silent rfl _⟩

/-- Commands of sessions that differ in what they remember come to the same. -/
theorem execute_respects_memory (command : Command) :
    (execute command).Respects Becomes (fun _ => False) := by
  rintro σ world session _ state ⟨diagnostics, rfl⟩
  have same : (execute command).course world (session.noting diagnostics) state =
      (execute command).course world session state := rfl
  rw [same]
  obtain ⟨events, result, after, later, course, _⟩ := execute_remembers world session command state
  rw [course]
  exact .alike (Becomes.refl after)

end Session

/-- Whether a failure that the queue manager reported is the last thing that a session remembers. -/
def Error.IsRemembered (error : Error) (session : Session) : Prop :=
  ∀ status payload, error = .command status payload →
    session.diagnostics.responsePayload = some payload

namespace Session

theorem consistent_noted (session : Session) (payload : Json) (reply : Reply) :
    (session.noted payload reply).diagnostics.Consistent := by
  cases reply with
  | error failure => constructor <;> simp [noted, noting]
  | ok response => constructor <;> simp [noted, noting, diagnosticsOf]

theorem isRemembered_verdict {session : Session} {kind : Option String} {payload : Json}
    {reply : Reply} {error : Error} (judged : session.verdict kind reply = .error error) :
    error.IsRemembered (session.noted payload reply) := by
  rintro status answer rfl
  have rule := session.verdict_rule kind reply
  rw [judged] at rule
  cases rule with
  | command heard read reports => exact Response.payload?_eq_some.mpr ⟨heard, read⟩

/-- A command leaves consistent diagnostics and everything else as it was. -/
theorem execute_maintains_memory (built : Session) (command : Command) :
    (execute command).Maintains
      (fun session => built.Becomes session ∧ session.diagnostics.Consistent)
      Error.IsRemembered := by
  rintro σ world session state result after ⟨becomes, _⟩ ended
  have keeps (diagnostics : Diagnostics) : built.Becomes (session.noting diagnostics) :=
    becomes.trans (session.becomes_noting diagnostics)
  have executed := execute_executed world session command state
  generalize (execute command).course world session state = course at executed ended
  cases executed with
  | stopped _ _ =>
    cases ended
    refine ⟨⟨keeps _, by constructor <;> simp [noting]⟩, ?_⟩
    rintro _ ⟨⟩ _ _ ⟨⟩
  | overdue _ _ _ =>
    cases ended
    refine ⟨⟨keeps _, by constructor <;> simp [noting]⟩, ?_⟩
    rintro _ ⟨⟩ _ _ ⟨⟩
  | sent _ _ _ =>
    cases ended
    exact ⟨⟨keeps _, consistent_noted ..⟩, fun _ => isRemembered_verdict⟩

/-- The sessions that one becomes by calls, whatever the world outside does. -/
inductive Reaches (built : Session) : Session → Prop where
  | self : Reaches built built
  | called {session after : Session} (reached : Reaches built session) {σ : Type} (world : World σ)
      (state : σ) (call : Call) {result : Except Error call.Answer}
      (ended : (call.operation.course world session state).ending = .ok (result, after)) :
      Reaches built after

theorem maintains_call (built : Session) (call : Call) :
    call.operation.Maintains
      (fun session => built.Becomes session ∧ session.diagnostics.Consistent)
      Error.IsRemembered := by
  refine (Routine.of_call call).maintains (execute_maintains_memory built) ?_
  rintro error session unreported _ status payload rfl
  cases unreported

theorem Reaches.becomes {built session : Session} (blank : built.diagnostics = {})
    (reached : Reaches built session) : built.Becomes session ∧ session.diagnostics.Consistent := by
  induction reached with
  | self => exact ⟨.refl built, by rw [blank]; constructor <;> simp⟩
  | called _ world state call ended ih =>
    exact (maintains_call built call world _ state _ _ ih ended).1

/-- A session that was built and used in any way differs from the one that was built only in what it
remembers, which fits together. A command makes it remember that command and nothing else. All its
calls come to what they would have come to at first, and after a failure that the queue manager
reported it remembers the payload that reported it. -/
theorem remembers_last_command {τ : Type} {outside : World τ} {early : τ} {blueprint : Blueprint}
    {opened : Opened} {session : Session}
    (built : ((build blueprint).run.course outside early).ending = .ok (.ok opened))
    (reached : Reaches opened.session session) {σ : Type} (world : World σ) (state : σ) :
    opened.session.Becomes session ∧ session.diagnostics.Consistent ∧
    (∀ command, ∃ events result after later,
      (execute command).course world session state = ⟨events, .ok (result, after), later⟩ ∧
      (execute command).course world opened.session state =
        ⟨events, .ok (result, after), later⟩ ∧
      Remembered session command events after.diagnostics) ∧
    ∀ call : Call,
      let course := call.operation.course world session state
      let first := call.operation.course world opened.session state
      course.events = first.events ∧ course.state = first.state ∧
        course.ending.map Prod.fst = first.ending.map Prod.fst ∧
        ∀ error after, course.ending = .ok (.error error, after) → error.IsRemembered after := by
  have blank := (build_blank blueprint).of_course built opened rfl
  obtain ⟨becomes, consistent⟩ := reached.becomes blank
  refine ⟨becomes, consistent, fun command => ?_, fun call => ?_⟩
  · obtain ⟨events, result, after, later, course, remembered⟩ :=
      execute_remembers world session command state
    refine ⟨events, result, after, later, course, ?_, remembered⟩
    obtain ⟨diagnostics, rfl⟩ := becomes
    exact course
  · have along := (Routine.of_call call).respects execute_respects_memory (fun _ => nofun) world
      opened.session session state becomes
    have failure := maintains_call opened.session call world session state
    generalize call.operation.course world session state = course at along failure
    generalize call.operation.course world opened.session state = first at along
    refine ⟨?_, ?_, ?_, fun error after ended =>
      (failure _ _ ⟨becomes, consistent⟩ ended).2 error rfl⟩
    all_goals
      cases along with
      | alike | aborted => rfl
      | escaped escape => cases escape

def unmappedBlueprint : Blueprint where
  settings := { baseUrl := "https://mq:9443/", queueManager := "QM1", mapAttributes := false }
  credentials := .basic "admin" "secret"
  showsIdentity := false

def refusing : World Unit
  | .send _, _ => (.ok ⟨401, "", ∅⟩, ())
  | .sleep _, _ => ((), ())
  | .now, _ => (⟨0⟩, ())
  | .read _, _ => (.error "no such file", ())

theorem exists_opened {ending : Except Abort (Except Error Opened)}
    (opens : (ending.toOption.bind Except.toOption).isSome = true) :
    ∃ opened, ending = .ok (.ok opened) := by
  rcases ending with cause | error | opened
  · simp [Except.toOption] at opens
  · simp [Except.toOption] at opens
  · exact ⟨opened, rfl⟩

theorem unmappedBlueprint_builds : ∃ opened,
    ((build unmappedBlueprint).run.course refusing ()).ending = .ok (.ok opened) :=
  exists_opened (by decide +kernel)

/-- After a refusal its status is known, and the next command is remembered in its place. -/
theorem remembers_last_command_refused :
    let ping : Command := { verb := "PING", qualifier := "QMGR" }
    ∃ opened session,
      ((build unmappedBlueprint).run.course refusing ()).ending = .ok (.ok opened) ∧
      Reaches opened.session session ∧ session.diagnostics.httpStatus = some 401 ∧
      ∃ events result after later,
        (execute ping).course refusing session () = ⟨events, .ok (result, after), later⟩ ∧
        Remembered session ping events after.diagnostics := by
  intro ping
  obtain ⟨opened, built⟩ := unmappedBlueprint_builds
  obtain ⟨request, _, course⟩ := execute_course_of_bare ping rfl rfl rfl opened.session refusing ()
  have reached : Reaches opened.session
      (opened.session.noted request.payload (refusing (.send request) ()).1) :=
    .called .self refusing () (.execute ping) (congrArg Course.ending course)
  obtain ⟨_, _, commands, _⟩ := remembers_last_command built reached refusing ()
  obtain ⟨events, result, after, later, next, _, remembered⟩ := commands ping
  exact ⟨opened, _, built, reached, rfl, events, result, after, later, next, remembered⟩

end Session

end MqAdmin
