import MqAdmin.Proofs.Dialogue.Agreement
import MqAdmin.Proofs.Session.Routine

/-!
Two sessions that cannot be told apart by what is done with them. If every command posts documents
that are alike and comes to the same in both sessions, then so does every call, and the callers of
the two sessions see the same after any sequence of calls.
-/

namespace MqAdmin

/-- Whether an operation agrees with itself in related sessions: it asks the same up to documents
that are alike, comes to the same, and leaves sessions that are related. -/
def Operation.Agrees {α : Type} (alike : Request → Request → Prop)
    (related : Session → Session → Prop) (operation : Operation α) : Prop :=
  ∀ session twin, related session twin →
    Dialogue.Agree alike (fun outcome other => outcome.1 = other.1 ∧ related outcome.2 other.2)
      (operation.run session) (operation.run twin)

section Agreeing

variable {α β : Type} {alike : Request → Request → Prop} {related : Session → Session → Prop}
  {operation : Operation α}

theorem Operation.Agrees.bind {next : α → Operation β} (first : operation.Agrees alike related)
    (rest : ∀ value, (next value).Agrees alike related) :
    (operation >>= next).Agrees alike related := by
  intro session twin same
  refine Dialogue.Agree.bind (first session twin same) ?_
  rintro ⟨result, after⟩ ⟨_, other⟩ ⟨rfl, still⟩
  cases result with
  | ok value => exact rest value after other still
  | error error => exact .done ⟨rfl, still⟩

theorem Operation.Agrees.recover {handler : Error → Operation α}
    (tried : operation.Agrees alike related)
    (handled : ∀ error, (handler error).Agrees alike related) :
    (tryCatch operation handler).Agrees alike related := by
  intro session twin same
  refine Dialogue.Agree.bind (tried session twin same) ?_
  rintro ⟨result, after⟩ ⟨_, other⟩ ⟨rfl, still⟩
  cases result with
  | ok value => exact .done ⟨rfl, still⟩
  | error error => exact handled error after other still

theorem Operation.agrees_pure (value : α) : (pure value : Operation α).Agrees alike related :=
  fun _ _ same => .done ⟨rfl, same⟩

theorem Operation.agrees_throw (error : Error) :
    (throw error : Operation α).Agrees alike related :=
  fun _ _ same => .done ⟨rfl, same⟩

theorem Routine.agrees (routine : Routine operation)
    (commands : ∀ command, (Session.execute command).Agrees alike related) :
    operation.Agrees alike related := by
  induction routine with
  | value value => exact Operation.agrees_pure value
  | failure _ _ => exact Operation.agrees_throw _
  | question question silent => exact fun _ _ same => .ask silent fun _ => .done ⟨rfl, same⟩
  | quitting => exact fun _ _ _ => .abort .endless
  | command command => exact commands command
  | tolerant command =>
    refine (commands command).recover fun error => ?_
    split
    · exact Operation.agrees_pure []
    · exact Operation.agrees_throw error
  | andThen first rest ih ihRest => exact ih.bind ihRest

end Agreeing

def wording {α : Type} : Except Error α → Option String
  | .ok _ => none
  | .error error => some error.message

/-- What a session shows of itself: its diagnostics, its summary and that of its credentials. -/
structure Session.Face where
  diagnostics : Diagnostics
  summary : String
  credentials : String
deriving DecidableEq

def Session.face (session : Session) : Session.Face where
  diagnostics := session.diagnostics
  summary := session.summary
  credentials := session.credentials.summary

/-- What a caller sees of a call: what it came to, the wording of a failure, and what the session
shows afterwards. -/
structure Seen where
  call : Call
  result : Except Error call.Answer
  wording : Option String
  face : Session.Face

/-- One call after the other, each in the session that the one before left, whether it failed or
not: the events of each with what the caller sees of it. Nothing comes after an abort. -/
def Session.history {σ : Type} (world : World σ) :
    List Call → Session → σ → List (List Event × Except Abort Seen)
  | [], _, _ => []
  | call :: rest, session, state =>
    match call.operation.course world session state with
    | ⟨events, .error cause, _⟩ => [(events, .error cause)]
    | ⟨events, .ok (result, after), later⟩ =>
      (events, .ok ⟨call, result, wording result, after.face⟩) ::
        Session.history world rest after later

/-- Whether two callers see the same of two calls, whose events are the same up to documents that
are alike. -/
def SeenAlike (alike : Request → Request → Prop) (one other : List Event × Except Abort Seen) :
    Prop :=
  List.Forall₂ (Event.Alike alike) one.1 other.1 ∧ one.2 = other.2

/-- By induction on the calls: what one call leaves is related again. -/
theorem Session.history_alike {σ τ : Type} {world : World σ} {outside : World τ}
    {states : σ → τ → Prop} {alike : Request → Request → Prop}
    {related : Session → Session → Prop} (worlds : world.AnswersAlike outside states alike)
    (commands : ∀ command, (Session.execute command).Agrees alike related)
    (faces : ∀ session twin, related session twin → session.face = twin.face) (calls : List Call)
    {session twin : Session} (same : related session twin) {state : σ} {other : τ}
    (start : states state other) :
    List.Forall₂ (SeenAlike alike) (Session.history world calls session state)
      (Session.history outside calls twin other) := by
  induction calls generalizing session twin state other with
  | nil => exact .nil
  | cons call rest ih =>
    have courses : Course.Alike alike _ states (call.operation.course world session state)
        (call.operation.course outside twin other) :=
      ((Routine.of_call call).agrees commands session twin same).course worlds start
    rw [history, history]
    generalize call.operation.course world session state = course at courses ⊢
    generalize call.operation.course outside twin other = twinCourse at courses ⊢
    cases courses with
    | aborted sameEvents cause sameState => exact .cons ⟨sameEvents, rfl⟩ .nil
    | @ended _ _ outcome twinOutcome _ _ sameEvents sameEnd sameState =>
      obtain ⟨result, after⟩ := outcome
      obtain ⟨_, twinAfter⟩ := twinOutcome
      obtain ⟨rfl, still⟩ := sameEnd
      refine .cons ⟨sameEvents, ?_⟩ (ih still sameState)
      rw [faces after twinAfter still]

end MqAdmin
