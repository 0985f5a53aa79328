import MqAdmin.Health
import MqAdmin.Proofs.Dialogue.Posting
import MqAdmin.Proofs.Session.Routine

namespace MqAdmin

/-- What can be done with a session through its calls. Between them the caller may look at the
session, ask the world outside for anything but an answer to a document, and go on after a failure
in any way. -/
inductive Program : {α : Type} → Operation α → Prop where
  | value {α : Type} (value : α) : Program (pure value)
  | failure {α : Type} (error : Error) : Program (throw error : Operation α)
  | question (question : Question) (silent : ∀ request, question ≠ .send request) :
    Program (Sync.asking question)
  | look : Program (ExceptT.lift get : Operation Session)
  | call (call : Call) : Program call.operation
  | andThen {α β : Type} {operation : Operation α} {next : α → Operation β}
      (first : Program operation) (rest : ∀ value, Program (next value)) :
      Program (operation >>= next)
  | recover {α : Type} {operation : Operation α} {handler : Error → Operation α}
      (tried : Program operation) (handled : ∀ error, Program (handler error)) :
      Program (tryCatch operation handler)

namespace Program

theorem attempt {α : Type} {operation : Operation α} (program : Program operation) :
    Program (Health.attempt operation) := by
  refine recover ?_ fun _ => value none
  rw [map_eq_pure_bind]
  exact andThen program fun found => value (some found)

theorem display (qualifier : String) (name : Option String) :
    Program (Health.display qualifier name) :=
  attempt (call (.execute _))

theorem health : Program Health.check := by
  refine andThen look fun session => andThen (display ..) fun managers => ?_
  cases managers with
  | none => exact value _
  | some managers =>
    exact andThen (display ..) fun status => andThen (display ..) fun server =>
      andThen (display ..) fun listeners => value _

end Program

/-- Whether an operation, begun in a session that is kept, posts only documents that fit and leaves
a session that is kept. -/
def Operation.Posts {α : Type} (keeps : Session → Prop) (fits : Request → Prop)
    (operation : Operation α) : Prop :=
  ∀ session, keeps session → (operation.run session).Posts fits fun outcome => keeps outcome.2

section Posting

variable {α β : Type} {keeps : Session → Prop} {fits : Request → Prop} {operation : Operation α}

theorem Operation.Posts.bind {next : α → Operation β} (first : operation.Posts keeps fits)
    (rest : ∀ value, (next value).Posts keeps fits) : (operation >>= next).Posts keeps fits := by
  intro session kept
  refine Dialogue.Posts.bind (first session kept) fun outcome held => ?_
  obtain ⟨result, after⟩ := outcome
  cases result with
  | ok value => exact rest value after held
  | error error => exact held

theorem Operation.Posts.recover {handler : Error → Operation α}
    (tried : operation.Posts keeps fits) (handled : ∀ error, (handler error).Posts keeps fits) :
    (tryCatch operation handler).Posts keeps fits := by
  intro session kept
  refine Dialogue.Posts.bind (tried session kept) fun outcome held => ?_
  obtain ⟨result, after⟩ := outcome
  cases result with
  | ok value => exact held
  | error error => exact handled error after held

theorem Operation.posts_pure (value : α) : (pure value : Operation α).Posts keeps fits :=
  fun _ kept => kept

theorem Operation.posts_throw (error : Error) : (throw error : Operation α).Posts keeps fits :=
  fun _ kept => kept

theorem Operation.posts_asking {question : Question}
    (silent : ∀ request, question ≠ .send request) : (Sync.asking question).Posts keeps fits :=
  fun _ kept => ⟨fun request same => absurd same (silent request), fun _ => kept⟩

theorem Session.patience_silent (session : Session) (deadline : Option Instant) :
    (session.patience deadline).Silent := by
  cases deadline with
  | none => trivial
  | some deadline =>
    refine Dialogue.Posts.bind ⟨nofun, fun _ => trivial⟩ fun now _ => ?_
    split <;> trivial

/-- In a session that came of another one, a command posts what it would be prepared as in that one.
The sessions differ in their diagnostics only, and so does the one after it. -/
theorem Session.execute_posts (session : Session) (command : Command)
    (sends : ∀ prepared timeout,
      command.prepare session.mapper session.settings.mappingStrict = .ok prepared →
      fits (session.request prepared.payload timeout)) :
    (execute command).Posts session.Becomes fits := by
  intro after becomes
  have keeps (diagnostics : Diagnostics) : session.Becomes (after.noting diagnostics) :=
    becomes.trans (after.becomes_noting diagnostics)
  show Dialogue.Posts fits _ (execute command after)
  dsimp only [execute, ExceptT.mk]
  cases ready : command.prepare after.mapper after.settings.mappingStrict with
  | error issues => exact keeps _
  | ok prepared =>
    refine Dialogue.Posts.bind (after.patience_silent _).posts fun granted _ => ?_
    cases granted with
    | none => exact keeps _
    | some timeout =>
      refine ⟨?_, fun reply => ?_⟩
      · rintro request ⟨⟩
        obtain ⟨diagnostics, rfl⟩ := becomes
        exact sends prepared timeout ready
      · cases reply <;> exact keeps _

theorem Routine.posts (routine : Routine operation)
    (commands : ∀ command, (Session.execute command).Posts keeps fits) :
    operation.Posts keeps fits := by
  induction routine with
  | value value => exact Operation.posts_pure value
  | failure _ _ => exact Operation.posts_throw _
  | question question silent => exact Operation.posts_asking silent
  | quitting => exact fun _ _ => trivial
  | command command => exact commands command
  | tolerant command =>
    refine (commands command).recover fun error => ?_
    split
    · exact Operation.posts_pure []
    · exact Operation.posts_throw error
  | andThen first rest ih ihRest => exact ih.bind ihRest

/-- A routine changes nothing of the session but its diagnostics. -/
theorem Routine.becomes {σ : Type} {world : World σ} {session after : Session} {state later : σ}
    {events : List Event} {result : Except Error α} (routine : Routine operation)
    (course : operation.course world session state = ⟨events, .ok (result, after), later⟩) :
    session.Becomes after := by
  have posts : operation.Posts session.Becomes fun _ => True :=
    routine.posts fun command => session.execute_posts command fun _ _ _ => trivial
  exact (posts session (.refl session)).value_holds (congrArg Course.ending course)

/-- What every command posts, every program posts. -/
theorem Program.posts (program : Program operation)
    (commands : ∀ command, (Session.execute command).Posts keeps fits) :
    operation.Posts keeps fits := by
  induction program with
  | value value => exact Operation.posts_pure value
  | failure error => exact Operation.posts_throw error
  | question question silent => exact Operation.posts_asking silent
  | look => exact fun _ kept => kept
  | call call => exact (Routine.of_call call).posts commands
  | andThen first rest ih ihRest => exact ih.bind ihRest
  | recover tried handled ih ihHandled => exact ih.recover ihHandled

end Posting

end MqAdmin
