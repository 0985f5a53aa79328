import MqAdmin.Command.Catalogue
import MqAdmin.Ensure.Converge
import MqAdmin.Proofs.Session.Dispatch

/-!
What calls of a session are made of. A call runs commands, asks the world outside and reads a
command's outcome in one way only, so what holds for every command holds for every call: an
invariant of the session, and the agreement of two runs in two sessions.
-/

namespace MqAdmin

/-- Everything that can be called for in a session. Waits come with the number of looks that they
may make. -/
inductive Call where
  | execute (command : Command)
  | usual (entry : Catalogue.Entry) (name : Option String) (options : Catalogue.Options)
  | ensureObject (target : Ensure.Target) (name : String) (desired : Attributes)
  | ensureQueueManager (desired : Attributes)
  | start (limit : Nat) (rule : Sync.StatusRule) (name : String) (budget : Sync.Budget)
  | stop (limit : Nat) (rule : Sync.StatusRule) (name : String) (budget : Sync.Budget)
  | restart (limit : Nat) (rule : Sync.StatusRule) (name : String) (budget : Sync.Budget)

namespace Call

abbrev Answer : Call → Type
  | .execute _ => List Attributes
  | .usual .. => Catalogue.Result
  | .ensureObject .. | .ensureQueueManager _ => Ensure.Outcome
  | .start .. | .stop .. | .restart .. => Sync.Outcome

def operation : (call : Call) → Operation call.Answer
  | .execute command => Session.execute command
  | .usual entry name options => Catalogue.run entry name options
  | .ensureObject target name desired => Ensure.object target name desired
  | .ensureQueueManager desired => Ensure.queueManager desired
  | .start limit rule name budget => Sync.startWithin limit rule name budget
  | .stop limit rule name budget => Sync.stopWithin limit rule name budget
  | .restart limit rule name budget => Sync.restartWithin limit rule name budget

end Call

/-- Operations that reach the session only through its commands and post nothing beside them.
Failures of their own are neither reported by the queue manager nor due to mapping, and they give up
only where a wait does not end. -/
inductive Routine : {α : Type} → Operation α → Prop where
  | value {α : Type} (value : α) : Routine (pure value)
  | failure {α : Type} {error : Error} (unreported : error.isCommand = false)
      (mapped : error.isMapping = false) : Routine (throw error : Operation α)
  | question (question : Question) (silent : ∀ request, question ≠ .send request) :
    Routine (Sync.asking question)
  | quitting {α : Type} : Routine (Sync.givingUp .endless : Operation α)
  | command (command : Command) : Routine (Session.execute command)
  | tolerant (command : Command) : Routine (Session.executeOrNone command)
  | andThen {α β : Type} {operation : Operation α} {next : α → Operation β}
      (first : Routine operation) (rest : ∀ value, Routine (next value)) :
      Routine (operation >>= next)

namespace Routine

theorem catalogue (entry : Catalogue.Entry) (name : Option String) (options : Catalogue.Options) :
    Routine (Catalogue.run entry name options) := by
  unfold Catalogue.run
  cases entry.shape <;> exact andThen (command _) fun _ => value _

theorem alter (change : Command) (desired current : Attributes) :
    Routine (Ensure.alter change desired current) := by
  unfold Ensure.alter
  dsimp only
  split
  · exact value _
  · exact andThen (command _) fun _ => value _

theorem object (target : Ensure.Target) (name : String) (desired : Attributes) :
    Routine (Ensure.object target name desired) := by
  refine andThen (tolerant _) fun records => ?_
  split
  · exact andThen (command _) fun _ => value _
  · exact alter ..

theorem queueManager (desired : Attributes) : Routine (Ensure.queueManager desired) := by
  unfold Ensure.queueManager
  split
  · exact value _
  · exact andThen (command _) fun _ => alter ..

section Wait

variable (rule : Sync.StatusRule) (name : String) (budget : Sync.Budget)

/-- By induction on the looks that are allowed. -/
theorem pollWithin (operation : Sync.Transition) (start : Instant) (limit : Nat) (polls : UInt32) :
    Routine (Sync.pollWithin rule name budget operation start limit polls) := by
  induction limit generalizing polls with
  | zero => exact quitting
  | succ limit ih =>
    refine andThen (question _ nofun) fun _ => andThen (tolerant _) fun records =>
      andThen (question .now nofun) fun now => ?_
    split
    · exact value _
    · dsimp only
      split
      · exact failure rfl rfl
      · exact ih _

theorem awaitWithin (limit : Nat) (operation : Sync.Transition) :
    Routine (Sync.awaitWithin limit rule name budget operation) :=
  andThen (question .now nofun) fun _ => pollWithin ..

theorem startWithin (limit : Nat) : Routine (Sync.startWithin limit rule name budget) :=
  andThen (command _) fun _ => awaitWithin ..

theorem stopWithin (limit : Nat) : Routine (Sync.stopWithin limit rule name budget) :=
  andThen (command _) fun _ => awaitWithin ..

theorem restartWithin (limit : Nat) : Routine (Sync.restartWithin limit rule name budget) :=
  andThen (stopWithin ..) fun _ => andThen (startWithin ..) fun _ => value _

end Wait

theorem of_call (call : Call) : Routine call.operation := by
  cases call with
  | execute command => exact .command command
  | usual entry name options => exact catalogue entry name options
  | ensureObject target name desired => exact object target name desired
  | ensureQueueManager desired => exact queueManager desired
  | start limit rule name budget => exact startWithin rule name budget limit
  | stop limit rule name budget => exact stopWithin rule name budget limit
  | restart limit rule name budget => exact restartWithin rule name budget limit

end Routine

theorem Course.events_prefix_andThen {σ α β : Type} (course : Course σ α)
    (next : α → σ → Course σ β) : course.events <+: (course.andThen next).events := by
  obtain ⟨events, ending, state⟩ := course
  cases ending with
  | ok value => exact List.prefix_append ..
  | error cause => exact List.prefix_rfl

section Invariant

/-- Whether an operation that begins in a session for which `keeps` holds leaves one for which it
holds as well, and with a failure one for which `fails` holds. -/
def Operation.Maintains {α : Type} (keeps : Session → Prop) (fails : Error → Session → Prop)
    (operation : Operation α) : Prop :=
  ∀ {σ : Type} (world : World σ) (session : Session) (state : σ) (result : Except Error α)
    (after : Session), keeps session →
    (operation.course world session state).ending = .ok (result, after) →
    keeps after ∧ ∀ error, result = .error error → fails error after

variable {keeps : Session → Prop} {fails : Error → Session → Prop}

theorem Operation.Maintains.bind {α β : Type} {operation : Operation α} {next : α → Operation β}
    (first : operation.Maintains keeps fails) (rest : ∀ value, (next value).Maintains keeps fails) :
    (operation >>= next).Maintains keeps fails := by
  intro σ world session state result after kept ended
  rcases course : operation.course world session state with ⟨events, ending, later⟩
  cases ending with
  | error cause =>
    rw [Operation.course_bind, course] at ended
    cases ended
  | ok outcome =>
    obtain ⟨own, middle⟩ := outcome
    have step := first world session state own middle kept (by rw [course])
    cases own with
    | error error =>
      rw [Operation.course_bind_error next course] at ended
      cases ended
      exact ⟨step.1, by rintro _ ⟨⟩; exact step.2 error rfl⟩
    | ok value =>
      rw [Operation.course_bind_ok next course] at ended
      exact rest value world middle later result after step.1 ended

theorem Session.maintains_executeOrNone {command : Command}
    (own : (execute command).Maintains keeps fails) :
    (executeOrNone command).Maintains keeps fails := by
  intro σ world session state result after kept ended
  rcases course : (execute command).course world session state with ⟨events, ending, later⟩
  cases ending with
  | error cause =>
    rw [executeOrNone, Operation.course_tryCatch, course] at ended
    cases ended
  | ok outcome =>
    obtain ⟨judged, middle⟩ := outcome
    have step := own world session state judged middle kept (by rw [course])
    rw [executeOrNone_course course] at ended
    cases ended
    refine ⟨step.1, fun error same => ?_⟩
    unfold orNone at same
    split at same
    · cases same
    · split at same
      · cases same
      · cases same
        exact step.2 _ rfl

/-- What every command maintains, every routine maintains. -/
theorem Routine.maintains {α : Type} {operation : Operation α} (routine : Routine operation)
    (commands : ∀ command, (Session.execute command).Maintains keeps fails)
    (plain : ∀ error session, error.isCommand = false → error.isMapping = false →
      fails error session) : operation.Maintains keeps fails := by
  induction routine with
  | value value =>
    intro σ world session state result after kept ended
    cases ended
    exact ⟨kept, by rintro _ ⟨⟩⟩
  | failure unreported mapped =>
    intro σ world session state result after kept ended
    cases ended
    exact ⟨kept, by rintro _ ⟨⟩; exact plain _ _ unreported mapped⟩
  | question question _ =>
    intro σ world session state result after kept ended
    cases ended
    exact ⟨kept, by rintro _ ⟨⟩⟩
  | quitting =>
    intro σ world session state result after kept ended
    cases ended
  | command command => exact commands command
  | tolerant command => exact Session.maintains_executeOrNone (commands command)
  | andThen first rest ih ihRest => exact ih.bind ihRest

end Invariant

section TwoRuns

/-- Whether the second of two courses goes along with the first: it does and finds the same, and the
sessions that they leave are related, unless the first one escapes before by a failure. -/
inductive GoesAlong {σ α : Type} (related : Session → Session → Prop) (escapes : Error → Prop) :
    Course σ (Except Error α × Session) → Course σ (Except Error α × Session) → Prop where
  | alike (same : related after other) :
      GoesAlong related escapes ⟨events, .ok (result, after), state⟩
        ⟨events, .ok (result, other), state⟩
  | aborted : GoesAlong related escapes ⟨events, .error cause, state⟩ ⟨events, .error cause, state⟩
  | escaped (escape : escapes error) (further : events <+: longer.events) :
      GoesAlong related escapes ⟨events, .ok (.error error, after), state⟩ longer

def Operation.Respects {α : Type} (related : Session → Session → Prop) (escapes : Error → Prop)
    (operation : Operation α) : Prop :=
  ∀ {σ : Type} (world : World σ) (session other : Session) (state : σ), related session other →
    GoesAlong related escapes (operation.course world session state)
      (operation.course world other state)

variable {related : Session → Session → Prop} {escapes : Error → Prop}

theorem GoesAlong.after {σ α : Type} {first second : Course σ (Except Error α × Session)}
    (along : GoesAlong related escapes first second) (events : List Event) :
    GoesAlong related escapes (first.after events) (second.after events) := by
  cases along with
  | alike same => exact .alike same
  | aborted => exact .aborted
  | escaped escape further =>
    exact .escaped escape ((List.prefix_append_right_inj events).mpr further)

theorem GoesAlong.andThen {σ α β : Type} {first second : Course σ (Except Error α × Session)}
    {next : Except Error α × Session → σ → Course σ (Except Error β × Session)}
    (along : GoesAlong related escapes first second)
    (rest : ∀ result after other state, related after other →
      GoesAlong related escapes (next (result, after) state) (next (result, other) state))
    (fails : ∀ error after state, escapes error →
      next (.error error, after) state = ⟨[], .ok (.error error, after), state⟩) :
    GoesAlong related escapes (first.andThen next) (second.andThen next) := by
  cases along with
  | alike same => exact (rest _ _ _ _ same).after _
  | aborted => exact .aborted
  | escaped escape further =>
    rw [Course.andThen_ok, fails _ _ _ escape, Course.after, List.append_nil]
    exact .escaped escape (further.trans (second.events_prefix_andThen next))

theorem Operation.Respects.bind {α β : Type} {operation : Operation α} {next : α → Operation β}
    (first : operation.Respects related escapes)
    (rest : ∀ value, (next value).Respects related escapes) :
    (operation >>= next).Respects related escapes := by
  intro σ world session other state same
  rw [Operation.course_bind, Operation.course_bind]
  refine (first world session other state same).andThen ?_ fun _ _ _ _ => rfl
  intro result after later state same
  cases result with
  | ok value => exact rest value world after later state same
  | error error => exact .alike same

/-- A failure that the queue manager reports is no escape. -/
theorem Session.respects_executeOrNone {command : Command}
    (own : (execute command).Respects related escapes)
    (unreported : ∀ error, escapes error → error.isCommand = false) :
    (executeOrNone command).Respects related escapes := by
  intro σ world session other state same
  rw [executeOrNone, Operation.course_tryCatch, Operation.course_tryCatch]
  refine (own world session other state same).andThen ?_ fun error after state escape => ?_
  · intro result after later state same
    cases result with
    | ok records => exact .alike same
    | error error =>
      dsimp only
      split
      · exact .alike same
      · exact .alike same
  · dsimp only
    rw [unreported error escape]
    rfl

theorem Routine.respects {α : Type} {operation : Operation α} (routine : Routine operation)
    (commands : ∀ command, (Session.execute command).Respects related escapes)
    (unreported : ∀ error, escapes error → error.isCommand = false) :
    operation.Respects related escapes := by
  induction routine with
  | value value => exact fun _ _ _ _ same => .alike same
  | failure _ _ => exact fun _ _ _ _ same => .alike same
  | question question _ => exact fun _ _ _ _ same => .alike same
  | quitting => exact fun _ _ _ _ _ => .aborted
  | command command => exact commands command
  | tolerant command => exact Session.respects_executeOrNone (commands command) unreported
  | andThen first rest ih ihRest => exact ih.bind ihRest

end TwoRuns

end MqAdmin
