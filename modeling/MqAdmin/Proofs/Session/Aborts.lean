import MqAdmin.Proofs.Session.Memory
import MqAdmin.Proofs.Session.Opening
import MqAdmin.Proofs.Session.Program
import MqAdmin.Proofs.Sync.Budget

/-!
Where things cannot go on at all. What is done with a session may end in a wait without an end, but
never in a time that is too long to be counted: such a time is met where the budget for waiting is
made, before anything else is done.
-/

namespace MqAdmin

open Dialogue

/-- Whether an operation is never aborted for a cause, in whatever session. -/
def Operation.Avoids {α : Type} (cause : Abort) (operation : Operation α) : Prop :=
  ∀ session, (operation.run session).Avoids cause

section Calls

variable {α β : Type} {cause : Abort} {operation : Operation α}

theorem Operation.Avoids.bind {next : α → Operation β} (first : operation.Avoids cause)
    (rest : ∀ value, (next value).Avoids cause) : (operation >>= next).Avoids cause := by
  intro session
  refine Dialogue.Avoids.bind (first session) fun outcome => ?_
  obtain ⟨result, after⟩ := outcome
  cases result with
  | ok value => exact rest value after
  | error error => trivial

theorem Operation.Avoids.recover {handler : Error → Operation α} (tried : operation.Avoids cause)
    (handled : ∀ error, (handler error).Avoids cause) :
    (tryCatch operation handler).Avoids cause := by
  intro session
  refine Dialogue.Avoids.bind (tried session) fun outcome => ?_
  obtain ⟨result, after⟩ := outcome
  cases result with
  | ok value => trivial
  | error error => exact handled error after

theorem Operation.avoids_pure (value : α) : (pure value : Operation α).Avoids cause :=
  fun _ => trivial

theorem Operation.avoids_throw (error : Error) : (throw error : Operation α).Avoids cause :=
  fun _ => trivial

theorem Session.execute_avoids (command : Command) : (execute command).Avoids cause := by
  intro session
  show Dialogue.Avoids cause (execute command session)
  dsimp only [execute, ExceptT.mk]
  cases command.prepare session.mapper session.settings.mappingStrict with
  | error issues => trivial
  | ok prepared =>
    refine Dialogue.Avoids.bind ?_ fun granted => ?_
    · cases command.deadline with
      | none => trivial
      | some deadline =>
        refine Dialogue.Avoids.bind (fun _ => trivial) fun now => ?_
        split <;> trivial
    · cases granted with
      | none => trivial
      | some timeout =>
        intro reply
        cases reply <;> trivial

theorem Routine.avoids (routine : Routine operation) : operation.Avoids .overflow := by
  induction routine with
  | value value => exact Operation.avoids_pure value
  | failure _ _ => exact Operation.avoids_throw _
  | question question _ => exact fun _ _ => trivial
  | quitting => exact fun _ => nofun
  | command command => exact Session.execute_avoids command
  | tolerant command =>
    refine (Session.execute_avoids command).recover fun error => ?_
    split
    · exact Operation.avoids_pure []
    · exact Operation.avoids_throw error
  | andThen first rest ih ihRest => exact ih.bind ihRest

theorem Program.avoids (program : Program operation) : operation.Avoids .overflow := by
  induction program with
  | value value => exact Operation.avoids_pure value
  | failure error => exact Operation.avoids_throw error
  | question question _ => exact fun _ _ => trivial
  | look => exact fun _ => trivial
  | call call => exact (Routine.of_call call).avoids
  | andThen first rest ih ihRest => exact ih.bind ihRest
  | recover tried handled ih ihHandled => exact ih.recover ihHandled

end Calls

section Building

variable {cause : Abort}

theorem logIn_avoids (settings : Settings) (username password : String) :
    (logIn settings username password).run.Avoids cause := by
  refine Avoids.bind_run (fun _ => trivial) fun reply => ?_
  cases reply with
  | error failure => trivial
  | ok response =>
    dsimp only
    cases loginToken? response <;> trivial

namespace Blueprint

theorem finish_avoids (blueprint : Blueprint) (budget : Sync.Budget)
    (mapper : Option Mapping.Table) : (blueprint.finish budget mapper).run.Avoids cause := by
  have token : blueprint.ownToken.run.Avoids cause := by
    unfold ownToken
    split
    · rw [map_eq_pure_bind]
      exact Avoids.bind_run (logIn_avoids _ _ _) fun _ => trivial
    · trivial
  exact Avoids.bind_run (blueprint.shownIdentity_reads.avoids cause) fun _ =>
    Avoids.bind_run token fun _ => trivial

end Blueprint

end Building

/-- Whether settings without another fault have a time to wait that is too long to be counted. -/
def Settings.Overflows (settings : Settings) : Prop :=
  settings.fault? = none ∧ Sync.Budget.Overflows settings.syncTimeout settings.pollInterval

namespace Blueprint

variable {σ : Type} {blueprint : Blueprint} {world : World σ} {state : σ}

/-- What the building of a session makes of the times in its settings: it is aborted exactly for one
that is too long, it reports what is wrong with them, and a session that opens has the budget that
they stand for. -/
structure ChecksTimes (blueprint : Blueprint) (course : Course σ (Except Error Opened)) : Prop where
  aborts_iff : ∀ cause, course.ending = .error cause ↔
    cause = .overflow ∧ blueprint.settings.Overflows
  reports : ∀ fault, blueprint.settings.fault? = none →
    Sync.Budget.Faults blueprint.settings.syncTimeout blueprint.settings.pollInterval fault →
    course.ending = .ok (.error (.invalidConfig fault))
  keeps : ∀ opened, course.ending = .ok (.ok opened) →
    Sync.Budget.Checked blueprint.settings.syncTimeout blueprint.settings.pollInterval
      (.ok opened.session.budget)

theorem finish_budget (blueprint : Blueprint) (budget : Sync.Budget)
    (mapper : Option Mapping.Table) : (blueprint.finish budget mapper).run.Yields fun result =>
      ∀ opened, result = .ok opened → opened.session.budget = budget := by
  refine Yields.bind (fun shown => ?_) blueprint.shownIdentity.run
  cases shown with
  | error error =>
    intro opened same
    cases same
  | ok identity =>
    refine Yields.bind (fun granted => ?_) blueprint.ownToken.run
    cases granted with
    | error error =>
      intro opened same
      cases same
    | ok token =>
      intro opened same
      cases same
      rfl

theorem build_course_of_faulty_times {fault : ConfigFault}
    (sound : blueprint.settings.fault? = none)
    (faulty : blueprint.settings.budget = .error (.fault fault)) :
    (Session.build blueprint).run.course world state =
      ⟨[], .ok (.error (.invalidConfig fault)), state⟩ := by
  rw [build_of_faultless sound, Settings.checkedBudget, faulty]
  rfl

theorem build_course_of_tooLong (sound : blueprint.settings.fault? = none)
    (tooLong : blueprint.settings.budget = .error .tooLong) :
    (Session.build blueprint).run.course world state = ⟨[], .error .overflow, state⟩ := by
  rw [build_of_faultless sound, Settings.checkedBudget, tooLong]
  rfl

/-- Once the times are accepted, building is not aborted any more. -/
theorem build_avoids {budget : Sync.Budget} (sound : blueprint.settings.fault? = none)
    (times : blueprint.settings.budget = .ok budget) {cause : Abort} :
    (Session.build blueprint).run.Avoids cause := by
  rw [build_of_sound sound times]
  exact Avoids.bind_run ((ofFault_reads (blueprint.settings.mappingTable_reads _)).avoids cause)
    fun mapper => blueprint.finish_avoids budget mapper

theorem budget_of_opened {budget : Sync.Budget} {opened : Opened}
    (sound : blueprint.settings.fault? = none) (times : blueprint.settings.budget = .ok budget)
    (ended : ((Session.build blueprint).run.course world state).ending = .ok (.ok opened)) :
    opened.session.budget = budget := by
  rw [build_of_sound sound times] at ended
  have yields : (ofFault (blueprint.settings.mappingTable blueprint.overrides) >>=
      blueprint.finish budget).run.Yields fun result =>
        ∀ opened, result = .ok opened → opened.session.budget = budget := by
    refine Yields.bind (fun found => ?_) (ofFault _).run
    cases found with
    | error error =>
      intro opened same
      cases same
    | ok mapper => exact blueprint.finish_budget budget mapper
  exact yields.of_course ended opened rfl

theorem build_checksTimes (blueprint : Blueprint) (world : World σ) (state : σ) :
    blueprint.ChecksTimes ((Session.build blueprint).run.course world state) := by
  constructor
  · intro cause
    constructor
    · intro aborted
      cases sound : blueprint.settings.fault? with
      | some fault =>
        rw [build_of_fault sound] at aborted
        cases aborted
      | none =>
        cases times : blueprint.settings.budget with
        | ok budget => exact absurd aborted ((build_avoids sound times).ending_ne world state)
        | error refusal =>
          cases refusal with
          | fault fault =>
            rw [build_course_of_faulty_times sound times] at aborted
            cases aborted
          | tooLong =>
            rw [build_course_of_tooLong sound times] at aborted
            cases aborted
            exact ⟨rfl, sound, Sync.Budget.ofSeconds_eq_tooLong_iff.mp times⟩
    · rintro ⟨rfl, sound, overflows⟩
      rw [build_course_of_tooLong sound (Sync.Budget.ofSeconds_eq_tooLong_iff.mpr overflows)]
  · intro fault sound faults
    rw [build_course_of_faulty_times sound (Sync.Budget.ofSeconds_eq_fault_iff.mpr faults)]
  · intro opened ended
    obtain ⟨sound, ⟨budget, times⟩, _⟩ := accepted_of_opened ended
    rw [budget_of_opened sound times ended]
    exact Sync.Budget.ofSeconds_eq_iff.mp times

end Blueprint

end MqAdmin
