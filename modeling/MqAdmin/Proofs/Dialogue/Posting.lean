import MqAdmin.Proofs.Dialogue.Course

/-!
What a dialogue posts, whatever it is answered. The documents that it asks to be posted and the
values that it comes to are bounded along the tree of questions, so that the bounds hold in the
course with every world.
-/

namespace MqAdmin

namespace Course

variable {σ ε α : Type} {events : List Event}

/-- Whether steps posted nothing and came to no value. -/
def Fruitless (course : Course σ (Except ε α)) : Prop :=
  requests course.events = [] ∧ ∀ value, course.ending ≠ .ok (.ok value)

theorem fruitless_error (silent : requests events = []) (error : ε) (later : σ) :
    Fruitless (⟨events, .ok (.error error), later⟩ : Course σ (Except ε α)) := by
  refine ⟨silent, fun value ended => ?_⟩
  cases ended

theorem fruitless_abort (silent : requests events = []) (cause : Abort) (later : σ) :
    Fruitless (⟨events, .error cause, later⟩ : Course σ (Except ε α)) := by
  refine ⟨silent, fun value ended => ?_⟩
  cases ended

theorem Fruitless.andThen {ε' β : Type} {course : Course σ (Except ε α)}
    {next : Except ε α → σ → Course σ (Except ε' β)} (fruitless : course.Fruitless)
    (fails : ∀ error later, (next (.error error) later).Fruitless) :
    (course.andThen next).Fruitless := by
  obtain ⟨events, cause | error | value, later⟩ := course
  · exact fruitless_abort fruitless.1 cause later
  · obtain ⟨silent, valueless⟩ := fails error later
    rw [andThen_ok]
    refine ⟨?_, valueless⟩
    rw [after, requests_append, silent, fruitless.1, List.append_nil]
  · exact absurd rfl (fruitless.2 value)

end Course

namespace Dialogue

variable {α β ε σ : Type} {fits : Request → Prop}

/-- Whether a dialogue posts only documents that fit and comes only to values that hold. -/
def Posts (fits : Request → Prop) (holds : α → Prop) : Dialogue α → Prop
  | .done value => holds value
  | .ask question next =>
    (∀ request, question = .send request → fits request) ∧
      ∀ answer, (next answer).Posts fits holds
  | .abort _ => True

def Silent (dialogue : Dialogue α) : Prop := dialogue.Posts (fun _ => False) fun _ => True

theorem Posts.bind {holds : α → Prop} {ends : β → Prop} {dialogue : Dialogue α}
    {next : α → Dialogue β} (first : dialogue.Posts fits holds)
    (rest : ∀ value, holds value → (next value).Posts fits ends) :
    (dialogue >>= next).Posts fits ends := by
  induction dialogue with
  | done value => exact rest value first
  | ask question others ih => exact ⟨first.1, fun answer => ih answer (first.2 answer)⟩
  | abort cause => trivial

/-- Steps that may fail: after a failure the next one does not begin. -/
theorem Posts.bind_run {holds : Except ε α → Prop} {ends : Except ε β → Prop}
    {step : ExceptT ε Dialogue α} {next : α → ExceptT ε Dialogue β}
    (first : step.run.Posts fits holds)
    (rest : ∀ value, holds (.ok value) → (next value).run.Posts fits ends)
    (fails : ∀ error, holds (.error error) → ends (.error error)) :
    (step >>= next).run.Posts fits ends := by
  refine Posts.bind first fun result held => ?_
  cases result with
  | ok value => exact rest value held
  | error error => exact fails error held

theorem Silent.posts {dialogue : Dialogue α} (silent : dialogue.Silent) :
    dialogue.Posts fits fun _ => True := by
  induction dialogue with
  | done value => trivial
  | ask question next ih =>
    exact ⟨fun request same => (silent.1 request same).elim,
      fun answer => ih answer (silent.2 answer)⟩
  | abort cause => trivial

theorem Posts.requests_fit {holds : α → Prop} {dialogue : Dialogue α}
    (posts : dialogue.Posts fits holds) (world : World σ) (state : σ) :
    ∀ request ∈ requests (dialogue.course world state).events, fits request := by
  induction dialogue generalizing state with
  | done value => intro request posted; cases posted
  | abort cause => intro request posted; cases posted
  | ask question next ih =>
    intro request posted
    have rest := ih (world question state).1 (posts.2 _) (world question state).2 request
    cases question with
    | send first =>
      rcases List.mem_cons.mp posted with rfl | later
      · exact posts.1 _ rfl
      · exact rest later
    | sleep duration => exact rest posted
    | now => exact rest posted
    | read path => exact rest posted

theorem Posts.value_holds {holds : α → Prop} {dialogue : Dialogue α}
    (posts : dialogue.Posts fits holds) {world : World σ} {state : σ} {value : α}
    (ended : (dialogue.course world state).ending = .ok value) : holds value := by
  induction dialogue generalizing state with
  | done other =>
    cases ended
    exact posts
  | ask question next ih => exact ih _ (posts.2 _) ended
  | abort cause => cases ended

theorem Silent.requests_eq_nil {dialogue : Dialogue α} (silent : dialogue.Silent) (world : World σ)
    (state : σ) : requests (dialogue.course world state).events = [] :=
  List.eq_nil_iff_forall_not_mem.mpr (silent.requests_fit world state)

theorem course_bind_run (step : ExceptT ε Dialogue α) (next : α → ExceptT ε Dialogue β)
    (world : World σ) (state : σ) : (step >>= next).run.course world state =
      (step.run.course world state).andThen fun result later =>
        match result with
        | .ok value => (next value).run.course world later
        | .error error => ⟨[], .ok (.error error), later⟩ := by
  refine (course_bind world step.run _ state).trans ?_
  congr 1
  funext result later
  cases result <;> rfl

section Steps

variable {step : ExceptT ε Dialogue α} {world : World σ} {events : List Event} {state later : σ}

theorem course_bind_run_ok {value : α} (next : α → ExceptT ε Dialogue β)
    (success : step.run.course world state = ⟨events, .ok (.ok value), later⟩) :
    (step >>= next).run.course world state =
      ((next value).run.course world later).after events := by
  rw [course_bind_run, success, Course.andThen_ok]

theorem course_bind_run_error {error : ε} (next : α → ExceptT ε Dialogue β)
    (failure : step.run.course world state = ⟨events, .ok (.error error), later⟩) :
    (step >>= next).run.course world state = ⟨events, .ok (.error error), later⟩ := by
  rw [course_bind_run, failure, Course.andThen_ok]
  simp [Course.after]

theorem fruitless_bind_run (next : α → ExceptT ε Dialogue β)
    (fruitless : (step.run.course world state).Fruitless) :
    ((step >>= next).run.course world state).Fruitless := by
  rw [course_bind_run]
  exact fruitless.andThen fun error later => Course.fruitless_error requests_nil error later

end Steps

end Dialogue

end MqAdmin
