import MqAdmin.CommandLine.Run
import MqAdmin.Proofs.Session.Aborts
import MqAdmin.Proofs.Session.Credentials

namespace MqAdmin

open Dialogue

namespace CommandLine

variable {σ : Type} {world : World σ} {state : σ} {cause : Abort}

/-- Whether an action waits for a time that is too long to be counted. -/
def Action.Overflows (settings : Settings) : Action → Prop
  | .sync _ waits => Sync.Budget.Overflows (waits.timeout.getD settings.syncTimeout)
      (waits.interval.getD settings.pollInterval)
  | _ => False

/-- What is wrong with the times that an action waits for. -/
def Action.Faults (settings : Settings) : Action → ConfigFault → Prop
  | .sync _ waits => Sync.Budget.Faults (waits.timeout.getD settings.syncTimeout)
      (waits.interval.getD settings.pollInterval)
  | _ => fun _ => False

section Performing

variable {session : Session} {action : Action}

theorem inSession_avoids {α : Type} {operation : Operation α} (avoids : operation.Avoids cause) :
    (inSession session operation).run.Avoids cause :=
  Avoids.bind (avoids session) fun _ => trivial

theorem runCommand_avoids (command : Command) : (runCommand session command).run.Avoids cause :=
  Avoids.bind_run (inSession_avoids (Session.execute_avoids command)) fun _ => trivial

theorem wait_avoids (transition : Sync.Transition) (rule : Sync.StatusRule) (name : String)
    (budget : Sync.Budget) : (wait transition rule name budget).Avoids .overflow := by
  cases transition with
  | started => exact (Routine.startWithin rule name budget _).avoids
  | stopped => exact (Routine.stopWithin rule name budget _).avoids
  | restarted => exact (Routine.restartWithin rule name budget _).avoids

theorem perform_course_of_faults {fault : ConfigFault}
    (faults : action.Faults session.settings fault) :
    (perform session action).run.course world state =
      ⟨[], .ok (.error (.session (.invalidConfig fault))), state⟩ := by
  cases action with
  | sync transition waits =>
    have refused : budget session.settings waits = .error (.fault fault) :=
      Sync.Budget.ofSeconds_eq_fault_iff.mpr faults
    rw [perform, refused]
    rfl
  | _ => exact faults.elim

theorem perform_course_of_overflows (overflows : action.Overflows session.settings) :
    (perform session action).run.course world state = ⟨[], .error .overflow, state⟩ := by
  cases action with
  | sync transition waits =>
    have refused : budget session.settings waits = .error .tooLong :=
      Sync.Budget.ofSeconds_eq_tooLong_iff.mpr overflows
    rw [perform, refused]
    rfl
  | _ => exact overflows.elim

theorem perform_avoids (short : ¬ action.Overflows session.settings) :
    (perform session action).run.Avoids .overflow := by
  cases action with
  | display qualifier name parameters response whereClause => exact runCommand_avoids _
  | run verb qualifier name parameters response => exact runCommand_avoids _
  | ensure kind name parameters =>
    unfold perform
    dsimp only
    split
    · exact Avoids.bind_run (inSession_avoids (Routine.queueManager _).avoids) fun _ => trivial
    · exact Avoids.bind_run (inSession_avoids (Routine.object ..).avoids) fun _ => trivial
    · trivial
  | sync transition waits =>
    rw [perform]
    cases checked : budget session.settings waits with
    | ok budget =>
      exact Avoids.bind_run (inSession_avoids (wait_avoids transition waits.rule waits.name budget))
        fun _ => trivial
    | error refusal =>
      cases refusal with
      | fault fault => trivial
      | tooLong => exact absurd (Sync.Budget.ofSeconds_eq_tooLong_iff.mp checked) short
  | health => exact Avoids.bind_run (inSession_avoids Program.health.avoids) fun _ => trivial

end Performing

section Connecting

variable {preferences : Preferences} {environment : Variables.Source} {showsIdentity : Bool}
  {blueprint : Blueprint} {events : List Event} {later : σ}

/-- What a command line asks to be built, once its settings and credentials are found, and how the
world is left. -/
inductive Prepares (preferences : Preferences) (environment : Variables.Source)
    (showsIdentity : Bool) (world : World σ) (state : σ) : Blueprint → List Event → σ → Prop where
  | found {settings : Settings} {fromFile : Option Credentials} {credentials : Credentials}
      {events : List Event} {later : σ}
      (read : (source preferences environment).run.course world state =
        ⟨events, .ok (.ok (settings, fromFile)), later⟩)
      (named : CommandLine.credentials preferences environment fromFile = .ok credentials) :
      Prepares preferences environment showsIdentity world state
        { settings := adjust preferences settings, credentials, showsIdentity } events later

theorem source_reads (preferences : Preferences) (environment : Variables.Source) :
    (source preferences environment).run.Reads := by
  unfold source
  cases preferences.settingsFile with
  | some path =>
    have load : (SettingsFile.load path).run.Reads :=
      Reads.bind_run (readSettingsFile_reads ..) fun _ => trivial
    refine Reads.bind load fun read => ?_
    cases read <;> trivial
  | none =>
    dsimp only
    cases Variables.settings (withOptions preferences environment) <;> trivial

theorem connect_course_of_prepares
    (prepares : Prepares preferences environment showsIdentity world state blueprint events later) :
    (connect preferences environment showsIdentity).run.course world state =
      (((Session.build blueprint).run.course world later).andThen fun result last =>
        ⟨[], .ok (result.mapError .session), last⟩).after events := by
  obtain @⟨settings, fromFile, credentials, _, _, read, named⟩ := prepares
  have given : (ExceptT.mk (pure (.ok credentials)) : Work Credentials) = pure credentials := rfl
  unfold connect
  rw [course_bind_run_ok _ read]
  dsimp only
  rw [named, given, pure_bind, ExceptT.run_mk, course_bind]
  generalize (Session.build _).run.course world later = built
  obtain ⟨own, cause | error | opened, last⟩ := built <;> rfl

theorem connect_fails_of_unprepared
    (unprepared : ∀ blueprint events later,
      ¬ Prepares preferences environment showsIdentity world state blueprint events later) :
    ∃ failed, ((connect preferences environment showsIdentity).run.course world state).ending =
      .ok (.error failed) := by
  rcases read : (source preferences environment).run.course world state with
    ⟨events, cause | failed | ⟨settings, fromFile⟩, later⟩
  · have avoids := (source_reads preferences environment).avoids cause
    exact absurd (congrArg Course.ending read) (avoids.ending_ne world state)
  · exact ⟨failed, congrArg Course.ending (course_bind_run_error _ read)⟩
  · cases named : credentials preferences environment fromFile with
    | ok credentials => exact absurd (.found read named) (unprepared _ _ _)
    | error failed =>
      refine ⟨failed, ?_⟩
      unfold connect
      rw [course_bind_run_ok _ read]
      dsimp only
      rw [named]
      rfl

/-- What is prepared is built, and if a session opens, the action is done in it. -/
theorem carryOut_course_of_prepares {arguments : Arguments} (prepares : Prepares
      arguments.preferences environment showsIdentity world state blueprint events later) :
    (carryOut arguments environment showsIdentity).run.course world state =
      (((Session.build blueprint).run.course world later).andThen fun result last =>
        match result with
        | .ok opened => (perform opened.session arguments.action).run.course world last
        | .error error => ⟨[], .ok (.error (.session error)), last⟩).after events := by
  rw [carryOut, course_bind_run, connect_course_of_prepares prepares, Course.after_andThen]
  generalize (Session.build blueprint).run.course world later = built
  obtain ⟨own, cause | error | opened, last⟩ := built
  all_goals simp [Course.after, Course.andThen, Except.mapError]

end Connecting

/-- Where the program for a command line meets a time that is too long: in the settings of the
session that it builds, or in the wait that it asks for in that session. -/
inductive Overflows (arguments : Arguments) (environment : Variables.Source)
    (showsIdentity : Bool) (world : World σ) (state : σ) : Prop where
  | building (prepares : Prepares arguments.preferences environment showsIdentity world state
        blueprint events later)
      (overflows : blueprint.settings.Overflows)
  | waiting (prepares : Prepares arguments.preferences environment showsIdentity world state
        blueprint events later)
      (opens : ((Session.build blueprint).run.course world later).ending = .ok (.ok opened))
      (overflows : arguments.action.Overflows blueprint.settings)

/-- Where the program for a command line finds something wrong with a time, and what. -/
inductive Reports (arguments : Arguments) (environment : Variables.Source)
    (showsIdentity : Bool) (world : World σ) (state : σ) (fault : ConfigFault) : Prop where
  | building (prepares : Prepares arguments.preferences environment showsIdentity world state
        blueprint events later)
      (sound : blueprint.settings.fault? = none)
      (faults : Sync.Budget.Faults blueprint.settings.syncTimeout blueprint.settings.pollInterval
        fault)
  | waiting (prepares : Prepares arguments.preferences environment showsIdentity world state
        blueprint events later)
      (opens : ((Session.build blueprint).run.course world later).ending = .ok (.ok opened))
      (faults : arguments.action.Faults blueprint.settings fault)

section Carrying

variable {arguments : Arguments} {environment : Variables.Source} {showsIdentity : Bool}

theorem settings_of_opened {blueprint : Blueprint} {opened : Opened}
    (opens : ((Session.build blueprint).run.course world state).ending = .ok (.ok opened)) :
    opened.session.settings = blueprint.settings := by
  obtain ⟨budget, mapper, token, same, _⟩ := Blueprint.session_of_opened opens
  rw [same]
  rfl

theorem carryOut_of_overflows
    (overflows : Overflows arguments environment showsIdentity world state) :
    ((carryOut arguments environment showsIdentity).run.course world state).ending =
      .error .overflow := by
  cases overflows with
  | @building blueprint events later prepares overflows =>
    have checks := blueprint.build_checksTimes world later
    have aborted := (checks.aborts_iff .overflow).mpr ⟨rfl, overflows⟩
    rw [carryOut_course_of_prepares prepares, Course.andThen, aborted]
    rfl
  | @waiting blueprint events later opened prepares opens overflows =>
    rw [← settings_of_opened opens] at overflows
    rw [carryOut_course_of_prepares prepares, Course.andThen, opens]
    dsimp only
    rw [perform_course_of_overflows overflows]
    rfl

theorem carryOut_of_reports {fault : ConfigFault}
    (reports : Reports arguments environment showsIdentity world state fault) :
    ((carryOut arguments environment showsIdentity).run.course world state).ending =
      .ok (.error (.session (.invalidConfig fault))) := by
  cases reports with
  | @building blueprint events later prepares sound faults =>
    have checks := blueprint.build_checksTimes world later
    have reported := checks.reports fault sound faults
    rw [carryOut_course_of_prepares prepares, Course.andThen, reported]
    rfl
  | @waiting blueprint events later opened prepares opens faults =>
    rw [← settings_of_opened opens] at faults
    rw [carryOut_course_of_prepares prepares, Course.andThen, opens]
    dsimp only
    rw [perform_course_of_faults faults]
    rfl

theorem overflows_of_carryOut
    (aborted : ((carryOut arguments environment showsIdentity).run.course world state).ending =
      .error .overflow) : Overflows arguments environment showsIdentity world state := by
  by_cases prepared : ∃ blueprint events later, Prepares arguments.preferences environment
      showsIdentity world state blueprint events later
  · obtain ⟨blueprint, events, later, prepares⟩ := prepared
    have checks := blueprint.build_checksTimes world later
    rw [carryOut_course_of_prepares prepares] at aborted
    rcases built : (Session.build blueprint).run.course world later with
      ⟨own, cause | error | opened, last⟩
    · rw [built] at aborted checks
      cases aborted
      exact .building prepares ((checks.aborts_iff .overflow).mp rfl).2
    · rw [built] at aborted
      cases aborted
    · have opens := congrArg Course.ending built
      by_contra short
      have avoids : (perform opened.session arguments.action).run.Avoids .overflow :=
        perform_avoids fun overflows =>
          short (.waiting prepares opens (settings_of_opened opens ▸ overflows))
      rw [built, Course.andThen_ok] at aborted
      exact avoids.ending_ne world last aborted
  · have unprepared (blueprint : Blueprint) (events : List Event) (later : σ) : ¬ Prepares
        arguments.preferences environment showsIdentity world state blueprint events later :=
      fun prepares => prepared ⟨blueprint, events, later, prepares⟩
    obtain ⟨failed, fails⟩ := connect_fails_of_unprepared unprepared
    rw [carryOut, course_bind_run, Course.andThen, fails] at aborted
    cases aborted

end Carrying

theorem program_course_of_read {words : List String} {arguments : Arguments}
    (read : Arguments.read words = .ok arguments) (environment : Variables.Source)
    (showsIdentity : Bool) (world : World σ) (state : σ) :
    (program words environment showsIdentity).course world state =
      ((carryOut arguments environment showsIdentity).run.course world state).andThen
        fun result later => ⟨[], .ok (.ofWork result), later⟩ := by
  rw [program, read]
  exact course_bind ..

/-- What the program for a command line makes of the times that it uses: it is aborted for one that
is too long exactly where it meets one, and says what is wrong with them. -/
structure ChecksTimes (arguments : Arguments) (environment : Variables.Source)
    (showsIdentity : Bool) (world : World σ) (state : σ) (course : Course σ Ending) : Prop where
  aborts_iff : course.ending = .error .overflow ↔
    Overflows arguments environment showsIdentity world state
  reports : ∀ fault, Reports arguments environment showsIdentity world state fault →
    course.ending = .ok { messages := [(Error.invalidConfig fault).message], code := 1 }

theorem program_checksTimes {words : List String} {arguments : Arguments}
    (read : Arguments.read words = .ok arguments) (environment : Variables.Source)
    (showsIdentity : Bool) (world : World σ) (state : σ) :
    ChecksTimes arguments environment showsIdentity world state
      ((program words environment showsIdentity).course world state) := by
  rw [program_course_of_read read]
  constructor
  · constructor
    · intro aborted
      apply overflows_of_carryOut
      rw [Course.andThen] at aborted
      split at aborted
      · cases aborted
      · rename_i cause ended
        cases aborted
        exact ended
    · intro overflows
      rw [Course.andThen, carryOut_of_overflows overflows]
  · intro fault reports
    rw [Course.andThen, carryOut_of_reports reports]
    rfl

end CommandLine

namespace Sync.Budget

/-- Two numbers of seconds come to one thing, which their values tell: a fault, exactly if one of
them is not finite or below zero, provided that the timeout is not too long; a budget of times that
are not zero; or an abort, if one that is looked at is two to the 64th or more. So it is for a
session that is built and for the program, by the settings and the options that it is given. -/
theorem seconds_checked (timeout interval : Binary64) {σ : Type} (world : World σ) (state : σ) :
    (∀ result, ofSeconds timeout interval = result ↔ Checked timeout interval result) ∧
    (¬ timeout.Overlong →
      ((∃ fault, Faults timeout interval fault) ↔ timeout.Faulty ∨ interval.Faulty)) ∧
    (∀ budget, ofSeconds timeout interval = .ok budget →
      0 < budget.timeout.nanoseconds ∧ 0 < budget.interval.nanoseconds) ∧
    (∀ blueprint : Blueprint,
      blueprint.ChecksTimes ((Session.build blueprint).run.course world state)) ∧
    ∀ words arguments environment showsIdentity,
      CommandLine.Arguments.read words = .ok arguments →
      CommandLine.ChecksTimes arguments environment showsIdentity world state
        ((CommandLine.program words environment showsIdentity).course world state) := by
  refine ⟨fun _ => ofSeconds_eq_iff, exists_faults_iff, ?_, ?_, ?_⟩
  · intro budget accepted
    exact (ofSeconds_eq_iff.mp accepted).positive
  · intro blueprint
    exact blueprint.build_checksTimes world state
  · intro words arguments environment showsIdentity read
    exact CommandLine.program_checksTimes read environment showsIdentity world state

end Sync.Budget

end MqAdmin
