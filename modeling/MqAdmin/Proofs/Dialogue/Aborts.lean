import MqAdmin.Proofs.Dialogue.Posting

namespace MqAdmin.Dialogue

variable {α β ε σ : Type} {cause : Abort}

/-- Whether a dialogue is never aborted for a cause. -/
def Avoids (cause : Abort) : Dialogue α → Prop
  | .done _ => True
  | .ask _ next => ∀ answer, (next answer).Avoids cause
  | .abort other => other ≠ cause

theorem Avoids.bind {dialogue : Dialogue α} {next : α → Dialogue β}
    (first : dialogue.Avoids cause) (rest : ∀ value, (next value).Avoids cause) :
    (dialogue >>= next).Avoids cause := by
  induction dialogue with
  | done value => exact rest value
  | ask question others ih => exact fun answer => ih answer (first answer)
  | abort other => exact first

theorem Avoids.bind_run {step : ExceptT ε Dialogue α} {next : α → ExceptT ε Dialogue β}
    (first : step.run.Avoids cause) (rest : ∀ value, (next value).run.Avoids cause) :
    (step >>= next).run.Avoids cause := by
  apply Avoids.bind first
  intro result
  cases result with
  | ok value => exact rest value
  | error error => trivial

theorem Avoids.ending_ne {dialogue : Dialogue α} (avoids : dialogue.Avoids cause)
    (world : World σ) (state : σ) : (dialogue.course world state).ending ≠ .error cause := by
  induction dialogue generalizing state with
  | done value => nofun
  | ask question next ih => exact ih _ (avoids _) _
  | abort other =>
    rintro ⟨⟩
    exact avoids rfl

/-- Whether a dialogue reads files and does nothing else. -/
def Reads : Dialogue α → Prop
  | .done _ => True
  | .ask question next => (∃ path, question = .read path) ∧ ∀ answer, (next answer).Reads
  | .abort _ => False

theorem Reads.bind {dialogue : Dialogue α} {next : α → Dialogue β} (first : dialogue.Reads)
    (rest : ∀ value, (next value).Reads) : (dialogue >>= next).Reads := by
  induction dialogue with
  | done value => exact rest value
  | ask question others ih => exact ⟨first.1, fun answer => ih answer (first.2 answer)⟩
  | abort cause => exact first.elim

theorem Reads.bind_run {step : ExceptT ε Dialogue α} {next : α → ExceptT ε Dialogue β}
    (first : step.run.Reads) (rest : ∀ value, (next value).run.Reads) :
    (step >>= next).run.Reads := by
  apply Reads.bind first
  intro result
  cases result with
  | ok value => exact rest value
  | error error => trivial

theorem Reads.silent {dialogue : Dialogue α} (reads : dialogue.Reads) : dialogue.Silent := by
  induction dialogue with
  | done value => trivial
  | ask question next ih =>
    obtain ⟨⟨path, rfl⟩, rest⟩ := reads
    exact ⟨nofun, fun answer => ih answer (rest answer)⟩
  | abort cause => trivial

theorem Reads.avoids {dialogue : Dialogue α} (reads : dialogue.Reads) (cause : Abort) :
    dialogue.Avoids cause := by
  induction dialogue with
  | done value => trivial
  | ask question next ih => exact fun answer => ih answer (reads.2 answer)
  | abort other => exact reads.elim

end MqAdmin.Dialogue
