import MqAdmin.Proofs.Dialogue.Aborts
import MqAdmin.Session.Build

/-!
How a session is opened. The settings, the budget for waiting and the mapping table come before
anything is sent, and what is sent then is one login or nothing.
-/

namespace MqAdmin

open Dialogue

section Reading

theorem readSettingsFile_reads (what path : String) : (readSettingsFile what path).run.Reads := by
  refine Reads.bind_run ⟨⟨path, rfl⟩, fun _ => trivial⟩ fun answer => ?_
  cases answer <;> trivial

theorem Settings.readOverrides_reads (settings : Settings) : settings.readOverrides.run.Reads := by
  unfold readOverrides
  split
  · trivial
  · refine Reads.bind_run (readSettingsFile_reads ..) fun text => ?_
    cases Mapping.Table.ofJsonText text <;> trivial

theorem Settings.mappingTable_reads (settings : Settings)
    (overrides : Option (Mapping.Table × Mapping.OverrideMode)) :
    (settings.mappingTable overrides).run.Reads := by
  unfold mappingTable
  split
  · cases overrides with
    | some given => trivial
    | none =>
      refine Reads.bind_run settings.readOverrides_reads fun found => ?_
      cases found <;> trivial
  · trivial

theorem Credentials.identity_reads (credentials : Credentials) :
    credentials.identity.run.Reads := by
  cases credentials with
  | basic username password => trivial
  | ltpa username password => trivial
  | certificate certificatePath keyPath =>
    refine Reads.bind_run (readSettingsFile_reads ..) fun certificate => ?_
    cases keyPath
    case' some path => refine Reads.bind_run (readSettingsFile_reads ..) fun key => ?_
    all_goals
      refine Reads.bind_run trivial fun text => ?_
      dsimp only
      cases Identity.ofPem? text <;> trivial

theorem ofFault_reads {α : Type} {step : ExceptT ConfigFault Dialogue α}
    (reads : step.run.Reads) : (ofFault step).run.Reads :=
  Reads.bind reads fun _ => trivial

theorem Settings.checkedBudget_silent (settings : Settings) :
    settings.checkedBudget.run.Silent := by
  unfold checkedBudget
  split <;> trivial

theorem ofFault_course {α σ : Type} (step : ExceptT ConfigFault Dialogue α) (world : World σ)
    (state : σ) : (ofFault step).run.course world state =
      (step.run.course world state).andThen fun result later =>
        ⟨[], .ok (result.mapError .invalidConfig), later⟩ :=
  course_bind ..

theorem ofFault_fruitless {α σ : Type} {step : ExceptT ConfigFault Dialogue α} {world : World σ}
    {state : σ} (fruitless : (step.run.course world state).Fruitless) :
    ((ofFault step).run.course world state).Fruitless := by
  rw [ofFault_course]
  exact fruitless.andThen fun fault later => Course.fruitless_error requests_nil _ later

end Reading

/-- Whether the answer to a login grants a token: its status is below 400, and there is a token in
the cookies that it sets. -/
def Response.Grants (response : Response) (token : String) : Prop :=
  response.status < 400 ∧
    (response.header? "set-cookie").bind Credentials.extractToken = some token

theorem Credentials.extractToken_ne_empty {cookies token : String}
    (found : extractToken cookies = some token) : token ≠ "" := by
  unfold extractToken at found
  dsimp only at found
  split at found
  · cases found
  · rename_i letters nonempty _
    cases found
    intro empty
    exact nonempty (String.ofList_eq_empty_iff.mp empty)
  · cases found

theorem Response.Grants.ne_empty {response : Response} {token : String}
    (grants : response.Grants token) : token ≠ "" := by
  obtain ⟨cookies, _, found⟩ := Option.bind_eq_some_iff.mp grants.2
  exact Credentials.extractToken_ne_empty found

theorem loginToken?_eq_some_iff {response : Response} {token : String} :
    loginToken? response = some token ↔ response.Grants token := by
  unfold loginToken? Response.Grants
  split
  · rename_i failed
    simp [Nat.not_lt.mpr failed]
  · rename_i below
    simp [Nat.lt_of_not_le below]

theorem loginToken?_eq_none_iff {response : Response} :
    loginToken? response = none ↔ 400 ≤ response.status ∨
      (response.header? "set-cookie").bind Credentials.extractToken = none := by
  unfold loginToken?
  split
  · rename_i failed
    simp [failed]
  · rename_i below
    simp [below]

/-- What the reply to a login comes to: the transport's failure, a refusal exactly if the status is
400 or above or there is no token among the cookies, and the token otherwise. -/
inductive LoggedIn (url : String) : Reply → Except Error String → Prop where
  | unanswered (failure : Failure) :
      LoggedIn url (.error failure) (.error (.transport failure.url failure.message))
  | refused {response : Response}
      (tokenless : 400 ≤ response.status ∨
        (response.header? "set-cookie").bind Credentials.extractToken = none) :
      LoggedIn url (.ok response) (.error (.auth url response.status))
  | granted {response : Response} {token : String} (grants : response.Grants token) :
      LoggedIn url (.ok response) (.ok token)

theorem logIn_course {σ : Type} (settings : Settings) (username password : String)
    (world : World σ) (state : σ) : ∃ result,
      let request := loginRequest settings username password
      let reply : Reply := (world (.send request) state).1
      (logIn settings username password).run.course world state =
        ⟨[.sent request reply], .ok result, (world (.send request) state).2⟩ ∧
      LoggedIn request.url reply result := by
  unfold logIn
  dsimp only
  generalize loginRequest settings username password = request
  rw [course_bind_run]
  have asked : (ExceptT.lift (answer (.send request)) : ExceptT Error Dialogue Reply).run.course
      world state = ⟨[.sent request (world (.send request) state).1],
        .ok (.ok (world (.send request) state).1), (world (.send request) state).2⟩ := rfl
  rw [asked, Course.andThen_ok]
  cases (world (.send request) state).1 with
  | error failure => exact ⟨_, rfl, .unanswered failure⟩
  | ok response =>
    dsimp only
    cases found : loginToken? response with
    | none => exact ⟨_, rfl, .refused (loginToken?_eq_none_iff.mp found)⟩
    | some token => exact ⟨_, rfl, .granted (loginToken?_eq_some_iff.mp found)⟩

namespace Blueprint

variable {σ : Type}

def session (blueprint : Blueprint) (budget : Sync.Budget) (mapper : Option Mapping.Table)
    (token : Option String) : Session where
  settings := blueprint.settings
  baseUrl := blueprint.settings.normalizedBaseUrl
  credentials := blueprint.credentials
  mapper
  token
  budget

/-- The table that names are mapped by, with the files that are read for it. -/
def tableCourse (blueprint : Blueprint) (world : World σ) (state : σ) :
    Course σ (Except ConfigFault (Option Mapping.Table)) :=
  (blueprint.settings.mappingTable blueprint.overrides).run.course world state

/-- Whether the settings, the times to wait and the overrides of the mapping table are accepted. -/
structure Accepted (blueprint : Blueprint) (world : World σ) (state : σ) : Prop where
  settings : blueprint.settings.fault? = none
  times : ∃ budget, blueprint.settings.budget = .ok budget
  table : ∃ mapper, (blueprint.tableCourse world state).ending = .ok (.ok mapper)

def shownIdentity (blueprint : Blueprint) : ExceptT Error Dialogue (Option Identity) :=
  if blueprint.showsIdentity then ofFault blueprint.credentials.identity else pure none

theorem shownIdentity_reads (blueprint : Blueprint) : blueprint.shownIdentity.run.Reads := by
  unfold shownIdentity
  split
  · exact ofFault_reads blueprint.credentials.identity_reads
  · trivial

/-- The token of the login, for the credentials that need one. -/
def ownToken (blueprint : Blueprint) : ExceptT Error Dialogue (Option String) :=
  match blueprint.credentials with
  | .ltpa username password => some <$> logIn blueprint.settings username password
  | _ => pure none

def finish (blueprint : Blueprint) (budget : Sync.Budget) (mapper : Option Mapping.Table) :
    ExceptT Error Dialogue Opened := do
  let identity ← blueprint.shownIdentity
  let token ← blueprint.ownToken
  return ⟨blueprint.session budget mapper token, identity⟩

theorem build_of_fault {blueprint : Blueprint} {fault : ConfigFault}
    (faulty : blueprint.settings.fault? = some fault) :
    Session.build blueprint = throw (.invalidConfig fault) := by
  unfold Session.build
  dsimp only
  rw [faulty]
  rfl

theorem build_of_faultless {blueprint : Blueprint} (sound : blueprint.settings.fault? = none) :
    Session.build blueprint = (do
      let budget ← blueprint.settings.checkedBudget
      let mapper ← ofFault (blueprint.settings.mappingTable blueprint.overrides)
      blueprint.finish budget mapper) := by
  obtain ⟨settings, credentials, overrides, showsIdentity⟩ := blueprint
  unfold Session.build finish shownIdentity ownToken
  dsimp only at sound ⊢
  rw [sound]
  -- Building branches inside its last steps, so the two agree branch by branch only.
  cases showsIdentity <;> cases credentials <;> rfl

/-- Settings without a fault, with times that can be counted, leave the table and what follows. -/
theorem build_of_sound {blueprint : Blueprint} {budget : Sync.Budget}
    (sound : blueprint.settings.fault? = none) (times : blueprint.settings.budget = .ok budget) :
    Session.build blueprint =
      (ofFault (blueprint.settings.mappingTable blueprint.overrides) >>=
        blueprint.finish budget) := by
  have checked : blueprint.settings.checkedBudget = pure budget := by
    rw [Settings.checkedBudget, times]
  rw [build_of_faultless sound, checked, pure_bind]

theorem tableCourse_silent (blueprint : Blueprint) (world : World σ) (state : σ) :
    requests (blueprint.tableCourse world state).events = [] :=
  (blueprint.settings.mappingTable_reads blueprint.overrides).silent.requests_eq_nil world state

theorem table_course_of {blueprint : Blueprint} {world : World σ} {state later : σ}
    {events : List Event} {result : Except ConfigFault (Option Mapping.Table)}
    (read : blueprint.tableCourse world state = ⟨events, .ok result, later⟩) :
    (ofFault (blueprint.settings.mappingTable blueprint.overrides)).run.course world state =
      ⟨events, .ok (result.mapError .invalidConfig), later⟩ := by
  rw [ofFault_course, show Dialogue.course world _ state = _ from read, Course.andThen_ok]
  simp [Course.after]

variable {blueprint : Blueprint} {world : World σ} {state : σ}

theorem build_course_of_accepted (accepted : blueprint.Accepted world state) :
    ∃ budget mapper, (Session.build blueprint).run.course world state =
      ((blueprint.finish budget mapper).run.course world
        (blueprint.tableCourse world state).state).after
          (blueprint.tableCourse world state).events := by
  obtain ⟨sound, ⟨budget, times⟩, mapper, found⟩ := accepted
  rcases read : blueprint.tableCourse world state with ⟨events, ending, later⟩
  rw [read] at found
  cases found
  refine ⟨budget, mapper, ?_⟩
  rw [build_of_sound sound times]
  exact course_bind_run_ok _ (table_course_of read)

theorem checkedBudget_fruitless {settings : Settings} {refusal : Sync.Budget.Refusal}
    (refused : settings.budget = .error refusal) (world : World σ) (state : σ) :
    (settings.checkedBudget.run.course world state).Fruitless := by
  rw [Settings.checkedBudget, refused]
  cases refusal with
  | fault fault => exact Course.fruitless_error requests_nil _ state
  | tooLong => exact Course.fruitless_abort requests_nil _ state

/-- What is not accepted is neither sent nor opened. -/
theorem build_course_of_not_accepted (rejected : ¬ blueprint.Accepted world state) :
    ((Session.build blueprint).run.course world state).Fruitless := by
  cases sound : blueprint.settings.fault? with
  | some fault =>
    rw [build_of_fault sound]
    exact Course.fruitless_error requests_nil _ state
  | none =>
    cases times : blueprint.settings.budget with
    | error refusal =>
      rw [build_of_faultless sound]
      exact fruitless_bind_run _ (checkedBudget_fruitless times world state)
    | ok budget =>
      have untabled : (blueprint.tableCourse world state).Fruitless :=
        ⟨blueprint.tableCourse_silent world state, fun mapper found =>
          rejected ⟨sound, ⟨budget, times⟩, mapper, found⟩⟩
      rw [build_of_sound sound times]
      exact fruitless_bind_run _ (ofFault_fruitless untabled)

theorem accepted_of_opened {opened : Opened}
    (ended : ((Session.build blueprint).run.course world state).ending = .ok (.ok opened)) :
    blueprint.Accepted world state :=
  Classical.byContradiction fun rejected =>
    (build_course_of_not_accepted rejected).2 opened ended

/-- The login is the only request of what is left, and its outcome is that of the whole. -/
theorem finish_course_of_ltpa {username password : String}
    (ltpa : blueprint.credentials = .ltpa username password) (budget : Sync.Budget)
    (mapper : Option Mapping.Table) (world : World σ) (state : σ) : ∃ result,
      let request := loginRequest blueprint.settings username password
      let reply : Reply := (world (.send request) state).1
      (blueprint.finish budget mapper).run.course world state =
        ⟨[.sent request reply],
          .ok (result.map fun token => ⟨blueprint.session budget mapper (some token), none⟩),
          (world (.send request) state).2⟩ ∧
      LoggedIn request.url reply result := by
  obtain ⟨result, course, loggedIn⟩ := logIn_course blueprint.settings username password world state
  refine ⟨result, ?_, loggedIn⟩
  have anonymous : blueprint.shownIdentity = pure none := by
    rw [shownIdentity, ltpa]
    split <;> rfl
  have login : blueprint.ownToken = some <$> logIn blueprint.settings username password := by
    rw [ownToken, ltpa]
  rw [finish, anonymous, pure_bind, login, map_eq_pure_bind, bind_assoc]
  cases result with
  | ok token => exact course_bind_run_ok _ course
  | error error => exact course_bind_run_error _ course

/-- The course of building with a login: the files for the mapping table are read, one request is
sent, and its outcome is that of the whole. -/
inductive LogsInOnce (blueprint : Blueprint) (before : List Event) :
    Course σ (Except Error Opened) → Prop where
  | once {request : Request} {reply : Reply} {result : Except Error String} {later : σ}
      (silent : requests before = [])
      (address : request.url = blueprint.settings.normalizedBaseUrl ++ loginPath)
      (loggedIn : LoggedIn request.url reply result) (budget : Sync.Budget)
      (mapper : Option Mapping.Table) :
      LogsInOnce blueprint before ⟨before ++ [.sent request reply],
        .ok (result.map fun token => ⟨blueprint.session budget mapper (some token), none⟩), later⟩

theorem build_logsInOnce {username password : String}
    (ltpa : blueprint.credentials = .ltpa username password)
    (accepted : blueprint.Accepted world state) :
    blueprint.LogsInOnce (blueprint.tableCourse world state).events
      ((Session.build blueprint).run.course world state) := by
  obtain ⟨budget, mapper, built⟩ := build_course_of_accepted accepted
  obtain ⟨result, finished, loggedIn⟩ :=
    finish_course_of_ltpa ltpa budget mapper world (blueprint.tableCourse world state).state
  rw [built, finished]
  exact .once (blueprint.tableCourse_silent world state) rfl loggedIn budget mapper

theorem finish_posts_of_other
    (other : ∀ username password, blueprint.credentials ≠ .ltpa username password)
    (budget : Sync.Budget) (mapper : Option Mapping.Table) :
    (blueprint.finish budget mapper).run.Posts (fun _ => False) fun result =>
      ∀ opened, result = .ok opened → opened.session = blueprint.session budget mapper none := by
  have tokenless : blueprint.ownToken = pure none := by
    unfold ownToken
    split
    · rename_i username password ltpa
      exact absurd ltpa (other username password)
    · rfl
  unfold finish
  rw [tokenless]
  refine Posts.bind_run blueprint.shownIdentity_reads.silent.posts (fun identity _ => ?_)
    fun error _ opened ended => ?_
  · rintro opened ⟨⟩
    rfl
  · cases ended

theorem build_course_of_other
    (other : ∀ username password, blueprint.credentials ≠ .ltpa username password)
    (world : World σ) (state : σ) :
    requests ((Session.build blueprint).run.course world state).events = [] ∧
      ∀ opened, ((Session.build blueprint).run.course world state).ending = .ok (.ok opened) →
        ∃ budget mapper, opened.session = blueprint.session budget mapper none := by
  by_cases accepted : blueprint.Accepted world state
  · obtain ⟨budget, mapper, built⟩ := build_course_of_accepted accepted
    have posts := finish_posts_of_other other budget mapper
    rw [built]
    constructor
    · have unsent := List.eq_nil_iff_forall_not_mem.mpr
        (posts.requests_fit world (blueprint.tableCourse world state).state)
      rw [Course.after, requests_append, blueprint.tableCourse_silent, unsent]
      rfl
    · intro opened ended
      exact ⟨budget, mapper, posts.value_holds ended opened rfl⟩
  · obtain ⟨unsent, unopened⟩ := build_course_of_not_accepted accepted
    exact ⟨unsent, fun opened ended => absurd ended (unopened opened)⟩

end Blueprint

end MqAdmin
