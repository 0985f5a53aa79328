import Mathlib.Data.List.Forall2
import MqAdmin.Proofs.Dialogue.Posting

/-!
Two dialogues that differ in nothing but parts of the documents they post. They ask the same
questions in the same order whatever they are answered, so that two worlds that answer alike take
them along courses that are alike. Which documents count as alike is left open.
-/

namespace MqAdmin

variable {σ τ α β γ δ ε : Type} {alike : Request → Request → Prop}

/-- Whether the same was asked and answered twice, up to documents that are alike. -/
inductive Event.Alike (alike : Request → Request → Prop) : Event → Event → Prop where
  | sent {first second : Request} (same : alike first second) (reply : Reply) :
    Alike alike (.sent first reply) (.sent second reply)
  | other (event : Event) (silent : event.request? = none) : Alike alike event event

/-- Whether two worlds cannot be told apart by questions whose documents are alike: in related
states they give equal answers, and the states after them are related again. -/
structure World.AnswersAlike (world : World σ) (twin : World τ) (related : σ → τ → Prop)
    (alike : Request → Request → Prop) : Prop where
  send : ∀ first second state other, alike first second → related state other →
    (world (.send first) state).1 = (twin (.send second) other).1 ∧
      related (world (.send first) state).2 (twin (.send second) other).2
  silent : ∀ question, (∀ request, question ≠ .send request) → ∀ state other,
    related state other → (world question state).1 = (twin question other).1 ∧
      related (world question state).2 (twin question other).2

theorem World.AnswersAlike.mono {world : World σ} {twin : World τ} {related : σ → τ → Prop}
    {fewer : Request → Request → Prop} (worlds : world.AnswersAlike twin related alike)
    (included : ∀ first second, fewer first second → alike first second) :
    world.AnswersAlike twin related fewer where
  send first second state other same := worlds.send first second state other (included _ _ same)
  silent := worlds.silent

/-- Whether two courses are alike: event by event, in what they come to, and in the states of the
two worlds after them. -/
inductive Course.Alike (alike : Request → Request → Prop) (ends : α → β → Prop)
    (related : σ → τ → Prop) : Course σ α → Course τ β → Prop where
  | ended {events others : List Event} {value : α} {result : β} {state : σ} {other : τ}
      (sameEvents : List.Forall₂ (Event.Alike alike) events others) (sameEnd : ends value result)
      (sameState : related state other) :
      Alike alike ends related ⟨events, .ok value, state⟩ ⟨others, .ok result, other⟩
  | aborted {events others : List Event} {state : σ} {other : τ}
      (sameEvents : List.Forall₂ (Event.Alike alike) events others) (cause : Abort)
      (sameState : related state other) :
      Alike alike ends related ⟨events, .error cause, state⟩ ⟨others, .error cause, other⟩

theorem Course.Alike.after {ends : α → β → Prop} {related : σ → τ → Prop}
    {course : Course σ α} {twin : Course τ β} (same : Course.Alike alike ends related course twin)
    {events others : List Event} (before : List.Forall₂ (Event.Alike alike) events others) :
    Course.Alike alike ends related (course.after events) (twin.after others) := by
  cases same with
  | ended sameEvents sameEnd sameState =>
    exact .ended (List.rel_append before sameEvents) sameEnd sameState
  | aborted sameEvents cause sameState =>
    exact .aborted (List.rel_append before sameEvents) cause sameState

namespace Dialogue

/-- Whether two dialogues go on alike after every answer, up to documents that are alike, and come
to values that belong together. -/
inductive Agree (alike : Request → Request → Prop) (ends : α → β → Prop) :
    Dialogue α → Dialogue β → Prop where
  | done {value : α} {other : β} (same : ends value other) :
    Agree alike ends (.done value) (.done other)
  | send {first second : Request} {next : Reply → Dialogue α} {twin : Reply → Dialogue β}
      (same : alike first second) (rest : ∀ reply, Agree alike ends (next reply) (twin reply)) :
      Agree alike ends (.ask (.send first) next) (.ask (.send second) twin)
  | ask {question : Question} {next : question.Answer → Dialogue α}
      {twin : question.Answer → Dialogue β} (silent : ∀ request, question ≠ .send request)
      (rest : ∀ answer, Agree alike ends (next answer) (twin answer)) :
      Agree alike ends (.ask question next) (.ask question twin)
  | abort (cause : Abort) : Agree alike ends (.abort cause) (.abort cause)

variable {ends : α → β → Prop}

theorem Agree.bind {later : γ → δ → Prop} {dialogue : Dialogue α} {twin : Dialogue β}
    {next : α → Dialogue γ} {nextTwin : β → Dialogue δ} (first : Agree alike ends dialogue twin)
    (rest : ∀ value other, ends value other → Agree alike later (next value) (nextTwin other)) :
    Agree alike later (dialogue >>= next) (twin >>= nextTwin) := by
  induction first with
  | done same => exact rest _ _ same
  | send same _ ih => exact .send same ih
  | ask silent _ ih => exact .ask silent ih
  | abort cause => exact .abort cause

theorem Agree.bind_run {later : Except ε γ → Except ε δ → Prop} {step twin : ExceptT ε Dialogue α}
    {next : α → ExceptT ε Dialogue γ} {nextTwin : α → ExceptT ε Dialogue δ}
    (first : Agree alike Eq step.run twin.run)
    (rest : ∀ value, Agree alike later (next value).run (nextTwin value).run)
    (fails : ∀ error, later (.error error) (.error error)) :
    Agree alike later (step >>= next).run (twin >>= nextTwin).run := by
  refine Agree.bind first ?_
  rintro result _ rfl
  cases result with
  | ok value => exact rest value
  | error error => exact .done (fails error)

theorem Silent.agree {dialogue : Dialogue α} (silent : dialogue.Silent) :
    Agree alike Eq dialogue dialogue := by
  induction dialogue with
  | done value => exact .done rfl
  | ask question next ih =>
    exact .ask (fun request same => silent.1 request same) fun answer => ih answer (silent.2 answer)
  | abort cause => exact .abort cause

/-- Dialogues that agree take courses that are alike with worlds that answer alike. -/
theorem Agree.course {dialogue : Dialogue α} {twin : Dialogue β}
    (agree : Agree alike ends dialogue twin) {world : World σ} {outside : World τ}
    {related : σ → τ → Prop} (worlds : world.AnswersAlike outside related alike) {state : σ}
    {other : τ} (start : related state other) :
    Course.Alike alike ends related (dialogue.course world state) (twin.course outside other) := by
  induction agree generalizing state other with
  | done same => exact .ended .nil same start
  | abort cause => exact .aborted .nil cause start
  | @send first second next _ same _ ih =>
    obtain ⟨answered, after⟩ := worlds.send first second state other same start
    rw [Dialogue.course, Dialogue.course, ← answered]
    exact (ih _ after).after (.cons (.sent same _) .nil)
  | @ask question next _ silent _ ih =>
    obtain ⟨answered, after⟩ := worlds.silent question silent state other start
    have unsent : (Event.of question (world question state).1).request? = none := by
      cases question with
      | send request => exact absurd rfl (silent request)
      | _ => rfl
    rw [Dialogue.course, Dialogue.course, ← answered]
    exact (ih _ after).after (.cons (.other _ unsent) .nil)

end Dialogue

end MqAdmin
