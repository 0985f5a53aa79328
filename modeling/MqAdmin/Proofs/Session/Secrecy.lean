import MqAdmin.Proofs.Session.Agreement
import MqAdmin.Proofs.Session.Credentials

/-!
A password shows nowhere but where it has to. Two sessions that are built alike but for the password
are taken along side by side: what is answered to one is answered to the other, and what can be seen
of them stays the same.
-/

namespace MqAdmin

open Dialogue

section Password

variable (password : String)

/-- The credentials with another password, if they have one. -/
def Credentials.withPassword : Credentials → Credentials
  | .basic username _ => .basic username password
  | .ltpa username _ => .ltpa username password
  | .certificate certificatePath keyPath => .certificate certificatePath keyPath

def Session.withPassword (session : Session) : Session :=
  { session with credentials := session.credentials.withPassword password }

def Blueprint.withPassword (blueprint : Blueprint) : Blueprint :=
  { blueprint with credentials := blueprint.credentials.withPassword password }

def Opened.withPassword (opened : Opened) : Opened :=
  { opened with session := opened.session.withPassword password }

theorem Credentials.summary_withPassword (credentials : Credentials) :
    (credentials.withPassword password).summary = credentials.summary := by
  cases credentials with
  | basic username own =>
    rw [withPassword]
    unfold summary
    rfl
  | ltpa username own =>
    rw [withPassword]
    unfold summary
    rfl
  | certificate certificatePath keyPath => rw [withPassword]

theorem Credentials.identity_withPassword (credentials : Credentials) :
    (credentials.withPassword password).identity = credentials.identity := by
  cases credentials <;> rfl

namespace Session

variable (session : Session)

@[simp] theorem settings_withPassword :
    (session.withPassword password).settings = session.settings := rfl

@[simp] theorem credentials_withPassword :
    (session.withPassword password).credentials = session.credentials.withPassword password := rfl

@[simp] theorem mapper_withPassword :
    (session.withPassword password).mapper = session.mapper := rfl

@[simp] theorem commandUrl_withPassword :
    (session.withPassword password).commandUrl = session.commandUrl := rfl

@[simp] theorem patience_withPassword (deadline : Option Instant) :
    (session.withPassword password).patience deadline = session.patience deadline := rfl

@[simp] theorem judge_withPassword (kind : Option String) (response : Response) :
    (session.withPassword password).judge kind response = session.judge kind response := rfl

@[simp] theorem noting_withPassword (diagnostics : Diagnostics) :
    (session.withPassword password).noting diagnostics =
      (session.noting diagnostics).withPassword password := rfl

theorem face_withPassword : (session.withPassword password).face = session.face := by
  have credentials : (session.withPassword password).credentials.summary =
      session.credentials.summary :=
    Credentials.summary_withPassword password session.credentials
  have summary : (session.withPassword password).summary = session.summary := by
    unfold Session.summary
    rw [credentials]
    rfl
  rw [face, face, credentials, summary]
  rfl

end Session

end Password

namespace Request

/-- Whether two requests are the same but for the value of a header, which both have. -/
def SameButHeader (name : String) (first second : Request) : Prop :=
  ∃ own other, first.headers.get? name = some own ∧
    second = { first with headers := first.headers.insert name other }

def SameButPassword (first second : Request) : Prop :=
  ∃ own other fields, first.payload = .object (("password", .string own) :: fields) ∧
    second = { first with payload := .object (("password", .string other) :: fields) }

end Request

namespace Credentials

/-- Whether two commands differ at most where credentials of a kind show a password. -/
def CommandsAlike : Credentials → Request → Request → Prop
  | .basic .. => Request.SameButHeader "Authorization"
  | .ltpa .. | .certificate .. => Eq

def LoginsAlike : Credentials → Request → Request → Prop
  | .ltpa .. => Request.SameButPassword
  | .basic .. | .certificate .. => fun _ _ => False

end Credentials

namespace Session

theorem addHeader_insert {name other : String} (different : name ≠ other) (value : Option String)
    (headers : KeyMap String) (own : String) :
    addHeader name value (headers.insert other own) =
      (addHeader name value headers).insert other own := by
  refine KeyMap.ext_get? fun asked => ?_
  cases value with
  | none => rfl
  | some value =>
    simp only [addHeader, KeyMap.get?_insert]
    by_cases same : asked = name
    · simp [same, different]
    · simp [same]

/-- The name and password stand in a header of their own. -/
theorem headers_of_basic {session : Session} {username password : String}
    (basic : session.credentials = .basic username password) : session.headers =
      (addHeader gatewayHeader session.settings.gateway
        (addHeader csrfHeader session.settings.csrfToken documentHeaders)).insert "Authorization"
          ("Basic " ++ Text.Base64.encode (username ++ ":" ++ password)) := by
  rw [headers, basic, Credentials.addHeaders, addHeader_insert (by decide +kernel),
    addHeader_insert (by decide +kernel)]

theorem headers_withPassword_of_basic {session : Session} {username own : String}
    (basic : session.credentials = .basic username own) (password : String) :
    (session.withPassword password).headers = session.headers.insert "Authorization"
      ("Basic " ++ Text.Base64.encode (username ++ ":" ++ password)) := by
  have other : (session.withPassword password).credentials = .basic username password := by
    rw [credentials_withPassword, basic, Credentials.withPassword]
  rw [headers_of_basic other, headers_of_basic basic, KeyMap.insert_insert, settings_withPassword]

theorem headers_withPassword_of_other {session : Session}
    (other : ∀ username own, session.credentials ≠ .basic username own) (password : String) :
    (session.withPassword password).headers = session.headers := by
  cases kind : session.credentials with
  | basic username own => exact absurd kind (other username own)
  | ltpa username own =>
    simp only [headers, withPassword, kind, Credentials.withPassword, Credentials.addHeaders]
  | certificate certificatePath keyPath =>
    simp only [headers, withPassword, kind, Credentials.withPassword, Credentials.addHeaders]

theorem request_withPassword (session : Session) (password : String) (payload : Json)
    (timeout : Option Duration) :
    session.credentials.CommandsAlike (session.request payload timeout)
      ((session.withPassword password).request payload timeout) := by
  have twin : (session.withPassword password).request payload timeout =
      { session.request payload timeout with
        headers := (session.withPassword password).headers } := rfl
  rw [twin]
  cases kind : session.credentials with
  | basic username own =>
    rw [headers_withPassword_of_basic kind]
    refine ⟨"Basic " ++ Text.Base64.encode (username ++ ":" ++ own), _, ?_, rfl⟩
    show session.headers.get? "Authorization" = _
    rw [headers_of_basic kind, KeyMap.get?_insert, if_pos rfl]
  | ltpa username own =>
    rw [headers_withPassword_of_other (by simp [kind])]
    rfl
  | certificate certificatePath keyPath =>
    rw [headers_withPassword_of_other (by simp [kind])]
    rfl

/-- Whether a session has given credentials, and another one is the same but for the password. -/
def Twins (credentials : Credentials) (password : String) (session twin : Session) : Prop :=
  session.credentials = credentials ∧ twin = session.withPassword password

theorem execute_agrees (credentials : Credentials) (password : String) (command : Command) :
    (execute command).Agrees credentials.CommandsAlike (Twins credentials password) := by
  rintro session _ ⟨rfl, rfl⟩
  have noted (diagnostics : Diagnostics) :
      Twins session.credentials password (session.noting diagnostics)
        ((session.noting diagnostics).withPassword password) := ⟨rfl, rfl⟩
  show Agree _ _ (execute command session) (execute command (session.withPassword password))
  simp only [execute, ExceptT.mk, mapper_withPassword, settings_withPassword,
    commandUrl_withPassword, patience_withPassword, judge_withPassword, noting_withPassword]
  cases command.prepare session.mapper session.settings.mappingStrict with
  | error issues => exact .done ⟨rfl, noted _⟩
  | ok prepared =>
    refine Agree.bind (session.patience_silent command.deadline).agree ?_
    rintro granted _ rfl
    cases granted with
    | none => exact .done ⟨rfl, noted _⟩
    | some timeout =>
      refine .send (session.request_withPassword password _ timeout) fun reply => ?_
      cases reply <;> exact .done ⟨rfl, noted _⟩

theorem history_withPassword {σ τ : Type} {world : World σ} {outside : World τ}
    {related : σ → τ → Prop} (session : Session) (password : String)
    (worlds : world.AnswersAlike outside related session.credentials.CommandsAlike) {state : σ}
    {other : τ} (start : related state other) (calls : List Call) :
    List.Forall₂ (SeenAlike session.credentials.CommandsAlike) (session.history world calls state)
      ((session.withPassword password).history outside calls other) := by
  refine history_alike worlds (execute_agrees session.credentials password) ?_ calls ⟨rfl, rfl⟩
    start
  rintro one _ ⟨_, rfl⟩
  exact (one.face_withPassword password).symm

theorem logIn_agrees (settings : Settings) (username own other : String) :
    Agree Request.SameButPassword Eq (logIn settings username own).run
      (logIn settings username other).run := by
  refine Agree.bind_run (.send ⟨own, other, _, rfl, rfl⟩ fun reply => .done rfl)
    (fun reply => ?_) fun _ => rfl
  cases reply with
  | error failure => exact .done rfl
  | ok response =>
    dsimp only
    cases loginToken? response <;> exact .done rfl

end Session

namespace Blueprint

theorem ownToken_agrees (blueprint : Blueprint) (password : String) :
    Agree blueprint.credentials.LoginsAlike Eq blueprint.ownToken.run
      (blueprint.withPassword password).ownToken.run := by
  obtain ⟨settings, credentials, overrides, showsIdentity⟩ := blueprint
  cases credentials with
  | basic username own => exact .done rfl
  | ltpa username own =>
    refine Agree.bind (Session.logIn_agrees settings username own password) ?_
    rintro result _ rfl
    cases result <;> exact .done rfl
  | certificate certificatePath keyPath => exact .done rfl

theorem finish_agrees (blueprint : Blueprint) (password : String) (budget : Sync.Budget)
    (mapper : Option Mapping.Table) :
    Agree blueprint.credentials.LoginsAlike
      (fun result twin => twin = result.map (·.withPassword password))
      (blueprint.finish budget mapper).run
      ((blueprint.withPassword password).finish budget mapper).run := by
  have shown : (blueprint.withPassword password).shownIdentity = blueprint.shownIdentity := by
    rw [shownIdentity, shownIdentity, withPassword, Credentials.identity_withPassword]
  rw [finish, finish, shown]
  refine Agree.bind_run blueprint.shownIdentity_reads.silent.agree (fun identity => ?_) fun _ => rfl
  refine Agree.bind_run (blueprint.ownToken_agrees password) (fun token => ?_) fun _ => rfl
  exact .done rfl

/-- Building asks the same but for the password, and comes to sessions that differ in it only. -/
theorem build_agrees (blueprint : Blueprint) (password : String) :
    Agree blueprint.credentials.LoginsAlike
      (fun result twin => twin = result.map (·.withPassword password))
      (Session.build blueprint).run (Session.build (blueprint.withPassword password)).run := by
  cases sound : blueprint.settings.fault? with
  | some fault =>
    have soundTwin : (blueprint.withPassword password).settings.fault? = some fault := sound
    rw [build_of_fault sound, build_of_fault soundTwin]
    exact .done rfl
  | none =>
    have soundTwin : (blueprint.withPassword password).settings.fault? = none := sound
    rw [build_of_faultless sound, build_of_faultless soundTwin]
    refine Agree.bind_run blueprint.settings.checkedBudget_silent.agree
      (fun budget => ?_) fun _ => rfl
    refine Agree.bind_run (ofFault_reads (blueprint.settings.mappingTable_reads _)).silent.agree
      (fun mapper => ?_) fun _ => rfl
    exact blueprint.finish_agrees password budget mapper

theorem requests_build_le_one {σ : Type} (blueprint : Blueprint) (world : World σ) (state : σ) :
    (requests ((Session.build blueprint).run.course world state).events).length ≤ 1 := by
  by_cases login : ∃ username password, blueprint.credentials = .ltpa username password
  · obtain ⟨username, password, ltpa⟩ := login
    by_cases accepted : blueprint.Accepted world state
    · have once := build_logsInOnce ltpa accepted
      generalize (Session.build blueprint).run.course world state = course at once ⊢
      cases once with
      | once silent => simp [silent]
    · simp [(build_course_of_not_accepted accepted).1]
  · have other (username password : String) : blueprint.credentials ≠ .ltpa username password :=
      fun ltpa => login ⟨username, password, ltpa⟩
    simp [(build_course_of_other other world state).1]

theorem credentials_of_opened {σ : Type} {blueprint : Blueprint} {world : World σ} {state : σ}
    {opened : Opened}
    (ended : ((Session.build blueprint).run.course world state).ending = .ok (.ok opened)) :
    opened.session.credentials = blueprint.credentials := by
  obtain ⟨budget, mapper, token, same, _⟩ := session_of_opened ended
  rw [same]
  rfl

end Blueprint

/-- What a caller sees of building a session: what the session shows and the identity that the
connection shows, or the failure with its wording. -/
def Session.openingSeen (result : Except Error Opened) :
    Except Error (Session.Face × Option Identity) × Option String :=
  (result.map fun opened => (opened.session.face, opened.identity), wording result)

theorem Session.openingSeen_withPassword (password : String) (result : Except Error Opened) :
    openingSeen (result.map (·.withPassword password)) = openingSeen result := by
  cases result with
  | error error => rfl
  | ok opened =>
    show (Except.ok ((opened.session.withPassword password).face, opened.identity), none) = _
    rw [face_withPassword]
    rfl

/-- Whether two requests differ at most where credentials of a kind show a password. -/
def Credentials.Alike (credentials : Credentials) (first second : Request) : Prop :=
  credentials.LoginsAlike first second ∨ credentials.CommandsAlike first second

/-- Two sessions are built alike but for the password, over worlds that answer alike to requests
that differ at most where a password shows: the value of one header for a name and password, the
password in the document of a login. Building and every sequence of calls come to the same and
fail in the same words, and what the sessions show stays the same after every call. The
requests are the same but for the place where the password shows; only the one request of building
is a login. -/
theorem Blueprint.password_unseen {σ τ : Type} (blueprint : Blueprint) (password : String)
    {world : World σ} {outside : World τ} {related : σ → τ → Prop}
    (worlds : world.AnswersAlike outside related blueprint.credentials.Alike) {state : σ}
    {other : τ} (start : related state other) :
    let course := (Session.build blueprint).run.course world state
    let twin := (Session.build (blueprint.withPassword password)).run.course outside other
    (blueprint.withPassword password).credentials.summary = blueprint.credentials.summary ∧
    List.Forall₂ (Event.Alike blueprint.credentials.LoginsAlike) course.events twin.events ∧
    (requests course.events).length ≤ 1 ∧
    course.ending.map Session.openingSeen = twin.ending.map Session.openingSeen ∧
    ∀ opened, course.ending = .ok (.ok opened) →
      twin.ending = .ok (.ok (opened.withPassword password)) ∧
      ∀ calls, List.Forall₂ (SeenAlike blueprint.credentials.CommandsAlike)
        (Session.history world calls opened.session course.state)
        (Session.history outside calls (opened.withPassword password).session twin.state) := by
  intro course twin
  have single : (requests course.events).length ≤ 1 :=
    blueprint.requests_build_le_one world state
  have courses : Course.Alike _ _ related course twin :=
    (blueprint.build_agrees password).course (worlds.mono fun _ _ => .inl) start
  have kind (opened : Opened) (ended : course.ending = .ok (.ok opened)) :
      opened.session.credentials = blueprint.credentials :=
    Blueprint.credentials_of_opened ended
  clear_value course twin
  refine ⟨Credentials.summary_withPassword .., ?_⟩
  cases courses with
  | aborted sameEvents cause sameState =>
    exact ⟨sameEvents, single, rfl, fun _ ended => nomatch ended⟩
  | @ended _ _ result _ _ _ sameEvents sameEnd sameState =>
    subst sameEnd
    refine ⟨sameEvents, single, ?_, ?_⟩
    · exact congrArg Except.ok (Session.openingSeen_withPassword password result).symm
    · rintro opened ended
      cases ended
      refine ⟨rfl, fun calls => ?_⟩
      rw [← kind opened rfl] at worlds ⊢
      exact opened.session.history_withPassword password (worlds.mono fun _ _ => .inr)
        sameState calls

/-- A world that gives the replies of a script one after the other, whatever is posted. -/
def scripted (replies : Nat → Reply) : World Nat
  | .send _, asked => (replies asked, asked + 1)
  | .sleep _, asked => ((), asked)
  | .now, asked => (⟨0⟩, asked)
  | .read _, asked => (.error "no such file", asked)

theorem scripted_answersAlike (replies : Nat → Reply) (alike : Request → Request → Prop) :
    (scripted replies).AnswersAlike (scripted replies) Eq alike where
  send first second state other _ same := by
    subst same
    exact ⟨rfl, rfl⟩
  silent question silent state other same := by
    subst same
    cases question with
    | send request => exact absurd rfl (silent request)
    | _ => exact ⟨rfl, rfl⟩

def loginOnly : Nat → Reply
  | 0 => .ok ⟨200, "", .insert ∅ "set-cookie" "LtpaToken2=abc; Path=/"⟩
  | _ => .error ⟨"https://mq:9443", "connection refused"⟩

/-- A login that succeeds and a command that fails, with two passwords. -/
theorem password_unseen_login :
    let world := scripted loginOnly
    let blueprint := Session.loginBlueprint
    let calls := [Call.execute { verb := "PING", qualifier := "QMGR" }]
    let course := (Session.build blueprint).run.course world 0
    let twin := (Session.build (blueprint.withPassword "other")).run.course world 0
    ∃ opened, course.ending = .ok (.ok opened) ∧
      twin.ending = .ok (.ok (opened.withPassword "other")) ∧
      List.Forall₂ (Event.Alike Request.SameButPassword) course.events twin.events ∧
      List.Forall₂ (SeenAlike Eq) (Session.history world calls opened.session course.state)
        (Session.history world calls (opened.withPassword "other").session twin.state) := by
  intro world blueprint calls course twin
  obtain ⟨opened, built⟩ : ∃ opened, course.ending = .ok (.ok opened) :=
    Session.exists_opened (by decide +kernel)
  obtain ⟨_, events, _, _, afterwards⟩ := blueprint.password_unseen "other"
    (scripted_answersAlike loginOnly blueprint.credentials.Alike) (show (0 : Nat) = 0 from rfl)
  obtain ⟨same, histories⟩ := afterwards opened built
  exact ⟨opened, built, same, events, histories calls⟩

end MqAdmin
