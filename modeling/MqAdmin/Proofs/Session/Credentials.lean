import MqAdmin.Http.Header
import MqAdmin.Proofs.Session.Memory
import MqAdmin.Proofs.Session.Opening
import MqAdmin.Proofs.Session.Program

namespace MqAdmin

open Http.Header (key)

namespace Request

/-- Whether a request has a header with a value, and no other header has the name in other
letters. -/
def Shows (request : Request) (name value : String) : Prop :=
  ∀ other, key other = key name →
    request.headers.get? other = if other = name then some value else none

/-- Whether no header of a request has a name, in whatever letters. -/
def Lacks (request : Request) (name : String) : Prop :=
  ∀ other, key other = key name → request.headers.get? other = none

end Request

namespace Session

/-- The names of headers that do not come from credentials. -/
def plainNames : List String := [gatewayHeader, csrfHeader, "Accept", "Content-Type"]

theorem get?_addHeader_of_ne {name other : String} (different : other ≠ name)
    (value : Option String) (headers : KeyMap String) :
    (addHeader name value headers).get? other = headers.get? other := by
  cases value with
  | none => rfl
  | some value => simp [addHeader, different]

/-- Apart from the plain names, the headers of a session are those of its credentials. -/
theorem get?_headers {session : Session} {other : String}
    (apart : key other ∉ plainNames.map key) :
    session.headers.get? other = (session.credentials.addHeaders session.token ∅).get? other := by
  have ne (name : String) (plain : name ∈ plainNames) : other ≠ name := fun same =>
    apart (List.mem_map.mpr ⟨name, plain, by rw [same]⟩)
  have document : documentHeaders.get? other = none := by
    have accept := ne "Accept" (by simp [plainNames])
    have content := ne "Content-Type" (by simp [plainNames])
    simp [documentHeaders, KeyMap.ofAscending, KeyMap.get?, List.lookup_cons,
      beq_eq_false_iff_ne.mpr accept, beq_eq_false_iff_ne.mpr content]
  have own : (session.credentials.addHeaders session.token documentHeaders).get? other =
      (session.credentials.addHeaders session.token ∅).get? other := by
    unfold Credentials.addHeaders
    split
    · simp [document]
    · split
      · split <;> simp [document]
      · simp [document]
    · simp [document]
  rw [headers, get?_addHeader_of_ne (ne _ (by simp [plainNames])),
    get?_addHeader_of_ne (ne _ (by simp [plainNames])), own]

end Session

/-- What a request shows of credentials: the name and password, a token that was granted, or
nothing. -/
def Request.Identifies (request : Request) (granted : String → Prop) : Credentials → Prop
  | .basic username password =>
    request.Shows "Authorization" ("Basic " ++ Text.Base64.encode (username ++ ":" ++ password)) ∧
      request.Lacks "Cookie"
  | .ltpa _ _ =>
    (∃ token, granted token ∧ token ≠ "" ∧ request.Shows "Cookie" ("LtpaToken2=" ++ token)) ∧
      request.Lacks "Authorization"
  | .certificate _ _ => request.Lacks "Authorization" ∧ request.Lacks "Cookie"

theorem Blueprint.session_of_opened {τ : Type} {blueprint : Blueprint} {outside : World τ}
    {early : τ} {opened : Opened}
    (ended : ((Session.build blueprint).run.course outside early).ending = .ok (.ok opened)) :
    ∃ budget mapper token, opened.session = blueprint.session budget mapper token ∧
      ∀ username password, blueprint.credentials = .ltpa username password →
        ∃ granted, token = some granted ∧
          Answered ((Session.build blueprint).run.course outside early).events
            (·.Grants granted) ∧ granted ≠ "" := by
  by_cases login : ∃ username password, blueprint.credentials = .ltpa username password
  · obtain ⟨username, password, ltpa⟩ := login
    have once := build_logsInOnce ltpa (accepted_of_opened ended)
    generalize (Session.build blueprint).run.course outside early = course at once ended ⊢
    cases once with
    | once _ _ loggedIn budget mapper =>
      cases loggedIn with
      | unanswered failure => cases ended
      | refused tokenless => cases ended
      | @granted response token grants =>
        cases ended
        refine ⟨budget, mapper, some token, rfl, fun _ _ _ => ⟨token, rfl, ?_, grants.ne_empty⟩⟩
        exact ⟨_, response, List.mem_append_right _ List.mem_cons_self, grants⟩
  · have other (username password : String) :
        blueprint.credentials ≠ .ltpa username password :=
      fun ltpa => login ⟨username, password, ltpa⟩
    obtain ⟨budget, mapper, same⟩ := (build_course_of_other other outside early).2 opened ended
    exact ⟨budget, mapper, none, same, fun username password ltpa =>
      absurd ltpa (other username password)⟩

namespace Session

theorem request_identifies {session : Session} {granted : String → Prop}
    (loggedIn : ∀ username password, session.credentials = .ltpa username password →
      ∃ token, session.token = some token ∧ granted token ∧ token ≠ "")
    (payload : Json) (timeout : Option Duration) :
    (session.request payload timeout).Identifies granted session.credentials := by
  have authorization (other : String) (same : key other = key "Authorization") :
      session.headers.get? other = (session.credentials.addHeaders session.token ∅).get? other :=
    get?_headers (by rw [same]; decide +kernel)
  have cookie (other : String) (same : key other = key "Cookie") :
      session.headers.get? other = (session.credentials.addHeaders session.token ∅).get? other :=
    get?_headers (by rw [same]; decide +kernel)
  have differ : key "Authorization" ≠ key "Cookie" := by decide +kernel
  cases kind : session.credentials with
  | basic username password =>
    rw [kind] at authorization cookie
    constructor
    · intro other same
      exact (authorization other same).trans (by simp [Credentials.addHeaders])
    · intro other same
      refine (cookie other same).trans ?_
      have different : other ≠ "Authorization" := fun equal => differ (equal ▸ same)
      simp [Credentials.addHeaders, different]
  | ltpa username password =>
    obtain ⟨token, logged, granted, nonempty⟩ := loggedIn username password kind
    rw [kind, logged] at authorization cookie
    have added : (Credentials.ltpa username password).addHeaders (some token) ∅ =
        (∅ : KeyMap String).insert "Cookie" ("LtpaToken2=" ++ token) := by
      have start : Credentials.cookieName ++ "=" = "LtpaToken2=" := by decide +kernel
      rw [← start]
      simp [Credentials.addHeaders, nonempty]
    constructor
    · refine ⟨token, granted, nonempty, fun other same => ?_⟩
      exact (cookie other same).trans (by simp [added])
    · intro other same
      refine (authorization other same).trans ?_
      have different : other ≠ "Cookie" := fun equal => differ (equal ▸ same).symm
      simp [added, different]
  | certificate certificatePath keyPath =>
    rw [kind] at authorization cookie
    exact ⟨authorization, cookie⟩

theorem commandUrl_ne_login (session : Session) :
    session.commandUrl ≠ session.baseUrl ++ loginPath := by
  intro same
  have letters := congrArg String.toList same
  simp only [commandUrl, loginPath, String.toList_append, List.append_assoc,
    List.append_cancel_left_eq] at letters
  -- The paths part at their second letter.
  have second := congrArg (·[1]?) letters
  simp at second

/-- What a program posts in a session that came of one that was built. -/
theorem posts_of_built (built : Session) {granted : String → Prop}
    (loggedIn : ∀ username password, built.credentials = .ltpa username password →
      ∃ token, built.token = some token ∧ granted token ∧ token ≠ "")
    {α : Type} {operation : Operation α} (program : Program operation) :
    operation.Posts built.Becomes fun request =>
      request.url ≠ built.baseUrl ++ loginPath ∧
        request.Identifies granted built.credentials := by
  refine program.posts fun command => built.execute_posts command fun prepared timeout _ => ?_
  exact ⟨built.commandUrl_ne_login, request_identifies loggedIn prepared.payload timeout⟩

/-- Only a login is sent when a session is built: none if the credentials need none, or if the
settings, the times to wait or the overrides of the mapping table are not accepted, and one
otherwise, which decides whether the session opens. After that no login is sent any more, and every
request of every program shows the credentials, with the token of that login. -/
theorem identifies_throughout {τ : Type} (outside : World τ) (early : τ) (blueprint : Blueprint) :
    let course := (build blueprint).run.course outside early
    ((∀ username password, blueprint.credentials ≠ .ltpa username password) →
      requests course.events = []) ∧
    (∀ username password, blueprint.credentials = .ltpa username password →
      (¬ blueprint.Accepted outside early → course.Fruitless) ∧
      (blueprint.Accepted outside early →
        blueprint.LogsInOnce (blueprint.tableCourse outside early).events course)) ∧
    ∀ opened, course.ending = .ok (.ok opened) →
      ∀ {α : Type} (operation : Operation α), Program operation →
      ∀ {σ : Type} (world : World σ) (state : σ),
      ∀ request ∈ requests (operation.course world opened.session state).events,
        request.url ≠ blueprint.settings.normalizedBaseUrl ++ loginPath ∧
        request.Identifies (fun token => Answered course.events (·.Grants token))
          blueprint.credentials := by
  intro course
  refine ⟨fun other => (Blueprint.build_course_of_other other outside early).1, ?_, ?_⟩
  · intro username password ltpa
    exact ⟨Blueprint.build_course_of_not_accepted, Blueprint.build_logsInOnce ltpa⟩
  · intro opened ended α operation program σ world state
    obtain ⟨budget, mapper, token, same, logged⟩ := Blueprint.session_of_opened ended
    rw [same]
    have posts := posts_of_built (blueprint.session budget mapper token) logged program
    exact (posts _ (.refl _)).requests_fit world state

def loginBlueprint : Blueprint where
  settings := { baseUrl := "https://mq:9443/", queueManager := "QM1", mapAttributes := false }
  credentials := .ltpa "admin" "secret"

/-- A world that sets a token's cookie in answer to every request. -/
def granting : World Unit
  | .send _, _ => (.ok ⟨200, "", .insert ∅ "set-cookie" "LtpaToken2=abc; Path=/"⟩, ())
  | .sleep _, _ => ((), ())
  | .now, _ => (⟨0⟩, ())
  | .read _, _ => (.error "no such file", ())

/-- After a login the next command shows its token. -/
theorem identifies_throughout_login :
    let ping : Command := { verb := "PING", qualifier := "QMGR" }
    let course := (build loginBlueprint).run.course granting ()
    ∃ opened request, course.ending = .ok (.ok opened) ∧
      loginBlueprint.LogsInOnce (loginBlueprint.tableCourse granting ()).events course ∧
      requests ((execute ping).course granting opened.session ()).events = [request] ∧
      request.url ≠ loginBlueprint.settings.normalizedBaseUrl ++ loginPath ∧
      request.Identifies (fun token => Answered course.events (·.Grants token))
        loginBlueprint.credentials := by
  intro ping course
  obtain ⟨opened, built⟩ : ∃ opened, course.ending = .ok (.ok opened) :=
    exists_opened (by decide +kernel)
  obtain ⟨request, _, pinged⟩ := execute_course_of_bare ping rfl rfl rfl opened.session granting ()
  have sent : requests ((execute ping).course granting opened.session ()).events = [request] := by
    rw [pinged]
    rfl
  obtain ⟨_, logsIn, identifies⟩ := identifies_throughout granting () loginBlueprint
  have once := (logsIn "admin" "secret" rfl).2 (Blueprint.accepted_of_opened built)
  have shows := identifies opened built (execute ping) (.call (.execute ping)) granting () request
    (by rw [sent]; exact List.mem_cons_self)
  exact ⟨opened, request, built, once, sent, shows⟩

end Session

end MqAdmin
