import MqAdmin.Health
import MqAdmin.Proofs.Command.Records
import MqAdmin.Proofs.Session.Dispatch
import MqAdmin.Proofs.Session.Secrecy

/-!
What a health check finds out, and from what. Four displays follow each other in one session, and
each of them fills a part of the report. The first one decides whether there are others. After that
a display that fails leaves its own part unknown, and neither what is asked nor what is found
afterwards depends on it.
-/

namespace MqAdmin

def Event.reply? : Event → Option Reply
  | .sent _ reply => some reply
  | _ => none

namespace Health

section Texts

/-- Whether an attribute is missing or has no text beside blanks. -/
def Silent (record : Attributes) (name : String) : Prop :=
  ∀ value, record.get? name = some value → Text.trim value.plainText = ""

/-- The text of the first attribute that has one, without blanks around it. -/
inductive FirstText (record : Attributes) : List String → String → Prop
  | here {name : String} {names : List String} {value : Json}
    (found : record.get? name = some value) (filled : Text.trim value.plainText ≠ "") :
    FirstText record (name :: names) (Text.trim value.plainText)
  | later {name : String} {names : List String} {text : String} (silent : Silent record name)
    (rest : FirstText record names text) : FirstText record (name :: names) text

/-- What is shown of some attributes: the first text, or what is usual where there is none. -/
inductive Shows (usual : String) (record : Attributes) (names : List String) : String → Prop
  | text {text : String} (first : FirstText record names text) : Shows usual record names text
  | usual (silent : ∀ name ∈ names, Silent record name) : Shows usual record names usual

/-- What an outcome tells of the queue manager or its command server. Only the first record
counts. -/
inductive Tells (names : List String) : Except Error (List Attributes) → String → Prop
  | failed (error : Error) : Tells names (.error error) unknown
  | nothing : Tells names (.ok []) unknown
  | record {record : Attributes} {others : List Attributes} {text : String}
    (shows : Shows unknown record names text) : Tells names (.ok (record :: others)) text

/-- A listener in the report next to the record that it is from. -/
structure Listed (record : Attributes) (listener : Listener) : Prop where
  name : Shows "" record ["listener_name", "LISTENER"] listener.name
  startMode : Shows "" record ["start_mode", "CONTROL"] listener.startMode

inductive Lists : Except Error (List Attributes) → List Listener → Prop
  | failed (error : Error) : Lists (.error error) []
  | records {records : List Attributes} {listeners : List Listener}
    (listed : List.Forall₂ Listed records listeners) : Lists (.ok records) listeners

variable {record : Attributes} {names : List String} {usual text : String}

theorem text?_cons (record : Attributes) (name : String) (names : List String) :
    text? record (name :: names) = match record.get? name with
      | some value =>
        if Text.trim value.plainText = "" then text? record names
        else some (Text.trim value.plainText)
      | none => text? record names := by
  unfold text?
  rw [List.filterMap_cons]
  cases record.get? name with
  | none => rfl
  | some value =>
    rw [Option.map_some]
    by_cases blank : Text.trim value.plainText = ""
    · simp [blank]
    · simp [blank]

theorem FirstText.text?_eq (first : FirstText record names text) :
    text? record names = some text := by
  induction first with
  | here found filled => simp [text?_cons, found, filled]
  | @later name names text silent rest ih =>
    cases found : record.get? name with
    | none => simpa [text?_cons, found] using ih
    | some value => simpa [text?_cons, found, silent value found] using ih

theorem text?_eq_none (silent : ∀ name ∈ names, Silent record name) :
    text? record names = none := by
  induction names with
  | nil => rfl
  | cons name names ih =>
    obtain ⟨first, rest⟩ := List.forall_mem_cons.mp silent
    cases found : record.get? name with
    | none => simpa [text?_cons, found] using ih rest
    | some value => simpa [text?_cons, found, first value found] using ih rest

theorem firstText_or_silent (record : Attributes) (names : List String) :
    (∃ text, FirstText record names text) ∨ ∀ name ∈ names, Silent record name := by
  induction names with
  | nil => exact .inr (by simp)
  | cons name names ih =>
    by_cases silent : Silent record name
    · rcases ih with ⟨text, rest⟩ | rest
      · exact .inl ⟨text, .later silent rest⟩
      · exact .inr (List.forall_mem_cons.mpr ⟨silent, rest⟩)
    · obtain ⟨value, found, filled⟩ : ∃ value, record.get? name = some value ∧
          Text.trim value.plainText ≠ "" := by
        simpa [Silent] using silent
      exact .inl ⟨_, .here found filled⟩

theorem shows_iff : Shows usual record names text ↔ text = (text? record names).getD usual := by
  constructor
  · intro shows
    cases shows with
    | text first => rw [first.text?_eq, Option.getD_some]
    | usual silent => rw [text?_eq_none silent, Option.getD_none]
  · rintro rfl
    rcases firstText_or_silent record names with ⟨text, first⟩ | silent
    · rw [first.text?_eq]
      exact .text first
    · rw [text?_eq_none silent]
      exact .usual silent

theorem tells_iff {outcome : Except Error (List Attributes)} :
    Tells names outcome text ↔ text = firstText outcome.toOption names := by
  constructor
  · intro tells
    cases tells with
    | failed error => rfl
    | nothing => rfl
    | record shows => exact shows_iff.mp shows
  · rintro rfl
    cases outcome with
    | error error => exact .failed error
    | ok records =>
      cases records with
      | nil => exact .nothing
      | cons record others => exact .record (shows_iff.mpr rfl)

theorem listed_iff {listener : Listener} :
    Listed record listener ↔ listener = listenerOf record := by
  constructor
  · intro listed
    have name := shows_iff.mp listed.name
    have startMode := shows_iff.mp listed.startMode
    cases listener
    simp only at name startMode
    rw [listenerOf, name, startMode]
  · rintro rfl
    exact ⟨shows_iff.mpr rfl, shows_iff.mpr rfl⟩

theorem lists_iff {outcome : Except Error (List Attributes)} {listeners : List Listener} :
    Lists outcome listeners ↔ listeners = (outcome.toOption.getD []).map listenerOf := by
  constructor
  · intro lists
    cases lists with
    | failed error => rfl
    | records listed => exact (forall₂_iff_eq_map @listed_iff).mp listed
  · rintro rfl
    cases outcome with
    | error error => exact .failed error
    | ok records => exact .records ((forall₂_iff_eq_map @listed_iff).mpr rfl)

end Texts

/-- A part of the report, and the display that it is filled by. -/
inductive Part where
  | manager
  | status
  | commandServer
  | listeners
deriving DecidableEq

namespace Part

/-- The parts in the order in which they are asked for. -/
def all : List Part := [.manager, .status, .commandServer, .listeners]

def qualifier : Part → String
  | .manager => "QMGR"
  | .status => "QMSTATUS"
  | .commandServer => "CMDSERV"
  | .listeners => "LISTENER"

def name? : Part → Option String
  | .manager | .status | .commandServer => none
  | .listeners => some "*"

def command (part : Part) : Command := Catalogue.command "DISPLAY" part.qualifier part.name? {}

/-- How many displays come before that of a part. -/
def place : Part → Nat
  | .manager => 0
  | .status => 1
  | .commandServer => 2
  | .listeners => 3

theorem getElem?_all {α : Type} (read : Part → α) (part : Part) :
    (all.map read)[part.place]? = some (read part) := by
  cases part <;> rfl

end Part

structure Asks (session : Session) (part : Part) (request : Request) : Prop where
  carries : request.payload.Carries "DISPLAY" part.qualifier part.name? ∅
  prepared : ∃ prepared,
    part.command.prepare session.mapper session.settings.mappingStrict = .ok prepared ∧
      request = session.request prepared.payload session.settings.timeout

def answered (events : List Event) (part : Part) : Option Reply :=
  (events.filterMap Event.reply?)[part.place]?

def ask (part : Part) : Operation (Option (List Attributes)) :=
  display part.qualifier part.name?

def outcome (session : Session) (part : Part) (reply : Reply) : Except Error (List Attributes) :=
  session.verdict (session.kind? part.command) reply

/-- What a check sent, the replies, and the report that it made of them. -/
inductive Checked (session : Session) : List Event → Report → Prop
  | unreachable {request : Request} {reply : Reply} {error : Error}
    (asks : Asks session .manager request)
    (judged : session.Verdict (session.kind? Part.manager.command) reply (.error error)) :
    Checked session [.sent request reply]
      { queueManager := session.settings.queueManager, reachable := false, status := unknown,
        commandServer := unknown, listeners := [], passed := false }
  /-- After a success of the first display the others follow, whatever becomes of them. -/
  | reachable {sent : Part → Request} {replies : Part → Reply}
    {outcomes : Part → Except Error (List Attributes)} {managers : List Attributes}
    {report : Report} (asks : ∀ part, Asks session part (sent part))
    (judged : ∀ part,
      session.Verdict (session.kind? part.command) (replies part) (outcomes part))
    (success : outcomes .manager = .ok managers)
    (reachable : report.reachable = true)
    (queueManager : Shows session.settings.queueManager (managers.head?.getD ∅)
      ["queue_manager_name", "QMNAME"] report.queueManager)
    (status : Tells ["status", "ha_status", "STATUS", "HASTATUS"] (outcomes .status)
      report.status)
    (commandServer : Tells ["status", "STATUS"] (outcomes .commandServer) report.commandServer)
    (listeners : Lists (outcomes .listeners) report.listeners)
    (passed : report.passed = true ↔ report.status ≠ unknown) :
    Checked session (Part.all.map fun part => .sent (sent part) (replies part)) report

section Course

variable {session : Session} {part : Part} {request : Request}

theorem exists_asks (session : Session) (part : Part) : ∃ request, Asks session part request := by
  rcases session.prepare_eq part.command with ⟨stops, _⟩ | ⟨_, prepared, ready, _, carries⟩
  · exact absurd stops (Session.not_stops_of_empty rfl)
  · have payload := carries rfl
    rw [Session.wireParameters_of_empty rfl] at payload
    refine ⟨session.request prepared.payload session.settings.timeout, ?_, prepared, ready, rfl⟩
    cases part <;> exact payload

theorem Asks.unique {other : Request} (asks : Asks session part request)
    (asksToo : Asks session part other) : request = other := by
  obtain ⟨prepared, ready, rfl⟩ := asks.prepared
  obtain ⟨prepared', ready', rfl⟩ := asksToo.prepared
  cases ready.symm.trans ready'
  rfl

variable {σ α : Type} {world : World σ} {state later : σ} {after : Session}

/-- An attempt never fails, and it leaves the session that the operation leaves. -/
theorem attempt_course {operation : Operation α} {events : List Event} {result : Except Error α}
    (course : operation.course world session state = ⟨events, .ok (result, after), later⟩) :
    (attempt operation).course world session state =
      ⟨events, .ok (.ok result.toOption, after), later⟩ := by
  rw [attempt, map_eq_pure_bind, Operation.course_tryCatch]
  cases result with
  | ok value =>
    rw [Operation.course_bind_ok _ course, Operation.course_pure, Course.after, Course.andThen_ok]
    simp [Course.after, Except.toOption]
  | error error =>
    rw [Operation.course_bind_error _ course, Course.andThen_ok]
    simp [Course.after, Operation.course_pure, Except.toOption]

/-- Asking for a part does the same whatever the last command was, and leaves nothing behind but
diagnostics. -/
theorem ask_course (asks : Asks session part request) (diagnostics : Diagnostics)
    (world : World σ) (state : σ) : ∃ reply noted later,
      (ask part).course world (session.noting diagnostics) state =
        ⟨[.sent request reply],
          .ok (.ok (outcome session part reply).toOption, session.noting noted), later⟩ := by
  obtain ⟨prepared, ready, rfl⟩ := asks.prepared
  have kind : prepared.kind = session.kind? part.command := by
    rcases session.prepare_eq part.command with ⟨_, stopped⟩ | ⟨_, other, readyToo, kind, _⟩
    · cases stopped.symm.trans ready
    · cases readyToo.symm.trans ready
      exact kind
  have waited : ((session.noting diagnostics).patience part.command.deadline).course world state =
      ⟨[], .ok (some session.settings.timeout), state⟩ := rfl
  have readyStill : part.command.prepare (session.noting diagnostics).mapper
      (session.noting diagnostics).settings.mappingStrict = .ok prepared := ready
  have course := Session.execute_course_of_timely readyStill waited
  rw [kind, Session.verdict_noting] at course
  exact ⟨_, _, _, attempt_course course⟩

def reportOf (named : String) (managers : List Attributes)
    (states servers listeners : Option (List Attributes)) : Report :=
  let status := firstText states ["status", "ha_status", "STATUS", "HASTATUS"]
  { queueManager := match managers with
      | manager :: _ => (text? manager ["queue_manager_name", "QMNAME"]).getD named
      | [] => named
    reachable := true
    status
    commandServer := firstText servers ["status", "STATUS"]
    listeners := (listeners.getD []).map listenerOf
    passed := status ≠ unknown }

def remaining (named : String) (managers : List Attributes) : Operation Report := do
  let states ← ask .status
  let servers ← ask .commandServer
  let listeners ← ask .listeners
  return reportOf named managers states servers listeners

/-- A check is its first display and what is left of it then. -/
theorem check_course (world : World σ) (session : Session) (state : σ) :
    check.course world session state = (ask .manager >>= fun
      | none => pure { queueManager := session.settings.queueManager }
      | some managers => remaining session.settings.queueManager managers :
        Operation Report).course world session state := by
  have known : (liftM (get : StateT Session Dialogue Session) : Operation Session).course world
      session state = ⟨[], .ok (.ok session, session), state⟩ := rfl
  rw [check, Operation.course_bind_ok _ known]
  rfl

theorem remaining_course {sent : Part → Request}
    (asks : ∀ part, Asks session part (sent part)) (named : String)
    (managers : List Attributes) (diagnostics : Diagnostics) (world : World σ) (state : σ) :
    ∃ states servers listeners after later,
      (remaining named managers).course world (session.noting diagnostics) state =
        ⟨[.sent (sent .status) states, .sent (sent .commandServer) servers,
            .sent (sent .listeners) listeners],
          .ok (.ok (reportOf named managers (outcome session .status states).toOption
            (outcome session .commandServer servers).toOption
            (outcome session .listeners listeners).toOption), after), later⟩ := by
  obtain ⟨states, notedStates, afterStates, first⟩ :=
    ask_course (asks .status) diagnostics world state
  obtain ⟨servers, notedServers, afterServers, second⟩ :=
    ask_course (asks .commandServer) notedStates world afterStates
  obtain ⟨listeners, notedListeners, afterListeners, third⟩ :=
    ask_course (asks .listeners) notedServers world afterServers
  refine ⟨states, servers, listeners, session.noting notedListeners, afterListeners, ?_⟩
  rw [remaining, Operation.course_bind_ok _ first, Operation.course_bind_ok _ second,
    Operation.course_bind_ok _ third, Operation.course_pure]
  rfl

theorem outcome_judged (session : Session) (part : Part) (reply : Reply) :
    session.Verdict (session.kind? part.command) reply (outcome session part reply) :=
  Session.verdict_iff.mpr rfl

theorem checked_reportOf {sent : Part → Request} {managers : List Attributes}
    (replies : Part → Reply) (asks : ∀ part, Asks session part (sent part))
    (success : outcome session .manager (replies .manager) = .ok managers) :
    Checked session (Part.all.map fun part => .sent (sent part) (replies part))
      (reportOf session.settings.queueManager managers
        (outcome session .status (replies .status)).toOption
        (outcome session .commandServer (replies .commandServer)).toOption
        (outcome session .listeners (replies .listeners)).toOption) := by
  refine .reachable asks (fun part => outcome_judged session part (replies part)) success rfl ?_
    (tells_iff.mpr rfl) (tells_iff.mpr rfl) (lists_iff.mpr rfl) ?_
  · cases managers with
    | nil => exact .usual fun name _ value found => by simp at found
    | cons manager others => exact shows_iff.mpr rfl
  · simp [reportOf]

/-- Whatever the world answers, a check comes to a report. -/
theorem check_checked (world : World σ) (session : Session) (state : σ) :
    ∃ events report after later,
      check.course world session state = ⟨events, .ok (.ok report, after), later⟩ ∧
        Checked session events report := by
  choose sent asks using exists_asks session
  obtain ⟨reply, noted, later, first⟩ :=
    ask_course (asks .manager) session.diagnostics world state
  cases judged : outcome session .manager reply with
  | error error =>
    rw [judged] at first
    refine ⟨_, _, session.noting noted, later, ?_,
      .unreachable (asks .manager) (Session.verdict_iff.mpr judged.symm)⟩
    rw [check_course]
    exact Operation.course_bind_ok _ first
  | ok managers =>
    rw [judged] at first
    obtain ⟨states, servers, listeners, after, last, rest⟩ :=
      remaining_course asks session.settings.queueManager managers noted world later
    let replies : Part → Reply
      | .manager => reply
      | .status => states
      | .commandServer => servers
      | .listeners => listeners
    refine ⟨_, _, after, last, ?_, checked_reportOf replies asks judged⟩
    rw [check_course]
    exact (Operation.course_bind_ok _ first).trans (congrArg (Course.after _) rest)

end Course

/-- Whether two reports say the same in a part. -/
def Report.Same (report other : Report) : Part → Prop
  | .manager => report.queueManager = other.queueManager ∧ report.reachable = other.reachable
  | .status => report.status = other.status ∧ report.passed = other.passed
  | .commandServer => report.commandServer = other.commandServer
  | .listeners => report.listeners = other.listeners

def Report.taking (report : Report) (part : Part) (other : Report) : Report :=
  match part with
  | .manager => { report with queueManager := other.queueManager, reachable := other.reachable }
  | .status => { report with status := other.status, passed := other.passed }
  | .commandServer => { report with commandServer := other.commandServer }
  | .listeners => { report with listeners := other.listeners }

theorem Report.eq_taking {report other : Report} {part : Part}
    (same : ∀ rest, rest ≠ part → report.Same other rest) : other = report.taking part other := by
  obtain ⟨name, reachable, status, commandServer, listeners, passed⟩ := report
  obtain ⟨name', reachable', status', commandServer', listeners', passed'⟩ := other
  have manager := same .manager
  have states := same .status
  have server := same .commandServer
  have all := same .listeners
  simp only [Report.Same] at manager states server all
  cases part <;> simp_all [Report.taking]

section Isolation

variable {session : Session} {events events' : List Event} {report report' : Report}

theorem answered_all (sent : Part → Request) (replies : Part → Reply) (part : Part) :
    answered (Part.all.map fun part => .sent (sent part) (replies part)) part =
      some (replies part) :=
  Part.getElem?_all replies part

/-- A check that got no further than the first display did not get the reply that let another one
go on. -/
theorem answered_ne_of_success {sent : Part → Request} {replies : Part → Reply} {request : Request}
    {reply : Reply} {error : Error} {managers : List Attributes}
    (failed : session.Verdict (session.kind? Part.manager.command) reply (.error error))
    (succeeded : session.Verdict (session.kind? Part.manager.command) (replies .manager)
      (.ok managers)) :
    answered [.sent request reply] .manager ≠
      answered (Part.all.map fun part => .sent (sent part) (replies part)) .manager := by
  intro first
  rw [answered_all] at first
  obtain rfl : reply = replies .manager := Option.some.inj first
  cases (Session.verdict_iff.mp failed).trans (Session.verdict_iff.mp succeeded).symm

/-- The parts of a report depend on their own replies, and on whether the first display
succeeds. -/
theorem Checked.same (checked : Checked session events report)
    (checked' : Checked session events' report')
    (first : answered events .manager = answered events' .manager) {part : Part}
    (own : answered events part = answered events' part) : report.Same report' part := by
  cases checked with
  | unreachable asks judged =>
    cases checked' with
    | unreachable => cases part <;> simp [Report.Same]
    | reachable _ judged' success =>
      exact absurd first (answered_ne_of_success judged (success ▸ judged' _))
  | @reachable sent replies outcomes managers _ asks judged success reachable queueManager status
      commandServer listeners passed =>
    cases checked' with
    | unreachable _ judged' =>
      exact absurd first.symm (answered_ne_of_success judged' (success ▸ judged _))
    | @reachable sent' replies' outcomes' managers' _ asks' judged' success' reachable'
        queueManager' status' commandServer' listeners' passed' =>
      rw [answered_all, answered_all, Option.some.injEq] at own
      have sameOutcome : outcomes part = outcomes' part := by
        rw [Session.verdict_iff.mp (judged part), Session.verdict_iff.mp (judged' part), own]
      cases part with
      | manager =>
        obtain rfl : managers = managers' :=
          Except.ok.inj (success.symm.trans (sameOutcome.trans success'))
        exact ⟨(shows_iff.mp queueManager).trans (shows_iff.mp queueManager').symm,
          reachable.trans reachable'.symm⟩
      | status =>
        rw [← sameOutcome] at status'
        have sameStatus := (tells_iff.mp status).trans (tells_iff.mp status').symm
        rw [← sameStatus] at passed'
        exact ⟨sameStatus, Bool.eq_iff_iff.mpr (passed.trans passed'.symm)⟩
      | commandServer =>
        rw [← sameOutcome] at commandServer'
        exact (tells_iff.mp commandServer).trans (tells_iff.mp commandServer').symm
      | listeners =>
        rw [← sameOutcome] at listeners'
        exact (lists_iff.mp listeners).trans (lists_iff.mp listeners').symm

/-- What is sent depends on the first reply alone. -/
theorem Checked.requests_eq (checked : Checked session events report)
    (checked' : Checked session events' report')
    (first : answered events .manager = answered events' .manager) :
    requests events = requests events' := by
  cases checked with
  | unreachable asks judged =>
    cases checked' with
    | unreachable asks' => exact congrArg (fun request => [request]) (asks.unique asks')
    | reachable _ judged' success =>
      exact absurd first (answered_ne_of_success judged (success ▸ judged' _))
  | @reachable sent _ _ _ _ asks judged success =>
    cases checked' with
    | unreachable _ judged' =>
      exact absurd first.symm (answered_ne_of_success judged' (success ▸ judged _))
    | @reachable sent' _ _ _ _ asks' =>
      obtain rfl : sent = sent' := funext fun part => (asks part).unique (asks' part)
      rfl

def Ran (session : Session) (events : List Event) (report : Report) : Prop :=
  ∃ (σ : Type) (world : World σ) (state : σ) (after : Session) (later : σ),
    check.course world session state = ⟨events, .ok (.ok report, after), later⟩

theorem Ran.checked (ran : Ran session events report) : Checked session events report := by
  obtain ⟨σ, world, state, after, later, course⟩ := ran
  obtain ⟨_, _, _, _, same, checked⟩ := check_checked world session state
  cases course.symm.trans same
  exact checked

def reportIn {σ : Type} (world : World σ) (session : Session) (state : σ) : Option Report :=
  (check.course world session state).ending.toOption.bind fun outcome => outcome.1.toOption

theorem ran_of_reportIn {σ : Type} {world : World σ} {state : σ}
    (found : reportIn world session state = some report) :
    Ran session (check.course world session state).events report := by
  obtain ⟨events, other, after, later, course, _⟩ := check_checked world session state
  rw [reportIn, course] at found
  cases found
  rw [course]
  exact ⟨σ, world, state, after, later, course⟩

/-- A check always comes to a report by the rules, and one display's reply counts for nothing but
its own part: where two checks differ in a later reply only, they send the same, and the reports
are the same but for that part. -/
theorem check_isolated (session : Session) :
    (∀ {σ : Type} (world : World σ) (state : σ), ∃ events report after later,
      check.course world session state = ⟨events, .ok (.ok report, after), later⟩ ∧
        Checked session events report) ∧
    ∀ events events' report report', Ran session events report → Ran session events' report' →
      ∀ part, part ≠ .manager →
        (∀ rest, rest ≠ part → answered events rest = answered events' rest) →
        requests events = requests events' ∧ report' = report.taking part report' := by
  constructor
  · intro σ world state
    exact check_checked world session state
  · intro events events' report report' ran ran' part later others
    have first := others .manager later.symm
    refine ⟨ran.checked.requests_eq ran'.checked first, Report.eq_taking fun rest apart => ?_⟩
    exact ran.checked.same ran'.checked first (others rest apart)

/-- A queue manager that answers without a record, and then a reply for the command server alone. -/
def onlyServer (server : Reply) : World Nat :=
  scripted fun
    | 0 => .ok ⟨200, "\x7b\x7d", ∅⟩
    | 2 => server
    | _ => .error ⟨"https://mq:9443", "connection refused"⟩

/-- A command server that cannot be asked, and one that is running. -/
theorem check_isolated_commandServer :
    let session : Session :=
      { settings := { baseUrl := "https://mq:9443", queueManager := "QM1" }
        baseUrl := "https://mq:9443", credentials := .basic "admin" "secret", mapper := none
        token := none, budget := {} }
    let body := "\x7b\"commandResponse\":" ++
      "[\x7b\"parameters\":\x7b\"STATUS\":\"RUNNING\"\x7d\x7d]\x7d"
    let refused := check.course (onlyServer (.error ⟨"https://mq:9443", "no route"⟩)) session 0
    let running := check.course (onlyServer (.ok ⟨200, body, ∅⟩)) session 0
    let report : Report := { queueManager := "QM1", reachable := true }
    Ran session refused.events report ∧
      Ran session running.events { report with commandServer := "RUNNING" } ∧
      requests refused.events = requests running.events := by
  intro session body refused running report
  have ran : Ran session refused.events report := ran_of_reportIn (by decide +kernel)
  have ran' : Ran session running.events { report with commandServer := "RUNNING" } :=
    ran_of_reportIn (by decide +kernel)
  refine ⟨ran, ran', ((check_isolated session).2 _ _ _ _ ran ran' .commandServer nofun ?_).1⟩
  intro rest apart
  cases rest with
  | manager | status | listeners => decide +kernel
  | commandServer => exact absurd rfl apart

end Isolation

end Health

end MqAdmin
