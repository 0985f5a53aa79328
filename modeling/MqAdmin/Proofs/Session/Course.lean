import MqAdmin.Proofs.Dialogue.Course
import MqAdmin.Sync.Polling

namespace MqAdmin

variable {σ α β : Type}

def Operation.course (operation : Operation α) (world : World σ) (session : Session) (state : σ) :
    Course σ (Except Error α × Session) :=
  (operation.run session).course world state

namespace Operation

variable {world : World σ} {session after : Session} {state later : σ} {events : List Event}

theorem course_pure (value : α) (world : World σ) (session : Session) (state : σ) :
    (pure value : Operation α).course world session state =
      ⟨[], .ok (.ok value, session), state⟩ := rfl

theorem course_throw (error : Error) (world : World σ) (session : Session) (state : σ) :
    (throw error : Operation α).course world session state =
      ⟨[], .ok (.error error, session), state⟩ := rfl

/-- What an operation does with the outcome of another one that it begins with. -/
private theorem course_of_run {whole : Operation β} (first : Operation α)
    (rest : Except Error α × Session → Dialogue (Except Error β × Session))
    (run : whole.run session = first.run session >>= rest) (world : World σ) (state : σ) :
    whole.course world session state =
      (first.course world session state).andThen fun outcome later =>
        (rest outcome).course world later := by
  rw [course, run, Dialogue.course_bind, course]

theorem course_bind (operation : Operation α) (next : α → Operation β) (world : World σ)
    (session : Session) (state : σ) : (operation >>= next).course world session state =
      (operation.course world session state).andThen fun outcome later =>
        match outcome with
        | (.ok value, after) => (next value).course world after later
        | (.error error, after) => ⟨[], .ok (.error error, after), later⟩ := by
  rw [course_of_run operation _ rfl]
  congr 1
  funext outcome later
  obtain ⟨result, after⟩ := outcome
  cases result <;> rfl

theorem course_bind_ok {operation : Operation α} {value : α} (next : α → Operation β)
    (success : operation.course world session state = ⟨events, .ok (.ok value, after), later⟩) :
    (operation >>= next).course world session state =
      ((next value).course world after later).after events := by
  rw [course_bind, success, Course.andThen_ok]

theorem course_bind_error {operation : Operation α} {error : Error} (next : α → Operation β)
    (failure : operation.course world session state =
      ⟨events, .ok (.error error, after), later⟩) :
    (operation >>= next).course world session state =
      ⟨events, .ok (.error error, after), later⟩ := by
  rw [course_bind, failure, Course.andThen_ok]
  simp [Course.after]

theorem course_tryCatch (operation : Operation α) (handler : Error → Operation α)
    (world : World σ) (session : Session) (state : σ) :
    (tryCatch operation handler).course world session state =
      (operation.course world session state).andThen fun outcome later =>
        match outcome with
        | (.ok value, after) => ⟨[], .ok (.ok value, after), later⟩
        | (.error error, after) => (handler error).course world after later := by
  rw [course_of_run operation _ rfl]
  congr 1
  funext outcome later
  obtain ⟨result, after⟩ := outcome
  cases result <;> rfl

theorem course_asking (question : Question) (world : World σ) (session : Session) (state : σ) :
    (Sync.asking question).course world session state =
      ⟨[.of question (world question state).1], .ok (.ok (world question state).1, session),
        (world question state).2⟩ := rfl

end Operation

end MqAdmin
