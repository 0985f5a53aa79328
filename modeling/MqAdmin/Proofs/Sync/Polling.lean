import MqAdmin.Proofs.Session.Dispatch

/-!
Waiting for a state, look by look. Every look is preceded by one wait and nothing else, all looks
but the last leave open what becomes of the object, and the last one decides.
-/

namespace MqAdmin.Sync

/-- The states in which an object counts as started or as stopped. -/
def targetStates : Transition → List String
  | .started => ["RUNNING", "running"]
  | _ => ["STOPPED", "stopped", "INACTIVE", "inactive"]

/-- Whether status records show that an operation has come to its end: there are none, where that
means stopped, or some record holds one of its states, blanks around it aside. -/
def Observed (rule : StatusRule) (operation : Transition) (records : List Attributes) : Prop :=
  (operation = .stopped ∧ rule.emptyMeansStopped = true ∧ records = []) ∨
    ∃ record ∈ records, ∃ key ∈ rule.keys, ∃ text, record.get? key = some (.string text) ∧
      Text.trim text ∈ targetStates operation

theorem recordShows_iff {keys states : List String} {record : Attributes} :
    recordShows keys states record = true ↔
      ∃ key ∈ keys, ∃ text, record.get? key = some (.string text) ∧ Text.trim text ∈ states := by
  simp only [recordShows, List.any_eq_true]
  refine exists_congr fun key => and_congr_right fun _ => ?_
  cases record.get? key with
  | none => simp
  | some value => cases value <;> simp [Json.string?]

theorem reached_iff {rule : StatusRule} {operation : Transition} {records : List Attributes} :
    reached rule operation records = true ↔ Observed rule operation records := by
  cases operation <;>
    simp [reached, Observed, showsState, recordShows_iff, targetStates, runningStates,
      stoppedStates]

/-- What the reply to a look at the status says: records, or a failure. A failure that the queue
manager reports counts as no records. -/
def statusOf (session : Session) (rule : StatusRule) (name : String) (reply : Reply) :
    Except Error (List Attributes) :=
  Session.orNone (session.verdict (session.kind? (statusCommand rule name)) reply)

@[simp] theorem statusOf_noting (session : Session) (diagnostics : Diagnostics) :
    statusOf (session.noting diagnostics) = statusOf session := by
  funext rule name reply
  simp [statusOf]

def elapsed (start now : Instant) : Binary64 := (now.since start).toBinary64

def IsOver (budget : Budget) (start now : Instant) : Prop :=
  budget.timeout.toBinary64.le (elapsed start now) = true

/-- A look at the status: what was asked and answered, and the time after it. -/
structure Look where
  request : Request
  reply : Reply
  now : Instant

/-- A look comes after one wait of the interval. -/
def Look.events (interval : Duration) (look : Look) : List Event :=
  [.slept interval, .sent look.request look.reply, .told look.now]

def LooksAt (rule : StatusRule) (name : String) (request : Request) : Prop :=
  request.payload.Carries "DISPLAY" (Text.upper rule.statusQualifier) (some name) ∅

section Wait

variable (session : Session) (rule : StatusRule) (name : String) (budget : Budget)
  (operation : Transition) (start : Instant)

/-- A look that leaves it open what becomes of the object. -/
structure Undecided (look : Look) : Prop where
  looks : LooksAt rule name look.request
  unseen : ∃ records, statusOf session rule name look.reply = .ok records ∧
    ¬ Observed rule operation records
  early : ¬ IsOver budget start look.now

/-- The last look, by its number, and the result: the look fails, or it shows the state, or the
time is over. -/
inductive Decided (number : Nat) : List Event → Except Error Outcome → Prop where
  | failed (looks : LooksAt rule name request)
      (fails : statusOf session rule name reply = .error error) :
      Decided number [.slept budget.interval, .sent request reply] (.error error)
  | observed {look : Look} (looks : LooksAt rule name look.request)
      (read : statusOf session rule name look.reply = .ok records)
      (shown : Observed rule operation records) :
      Decided number (look.events budget.interval)
        (.ok ⟨operation, .ofNat number, elapsed start look.now⟩)
  | timedOut {look : Look} (looks : LooksAt rule name look.request)
      (read : statusOf session rule name look.reply = .ok records)
      (unseen : ¬ Observed rule operation records) (late : IsOver budget start look.now) :
      Decided number (look.events budget.interval)
        (.error (.timeout name operation (elapsed start look.now)))

/-- A wait of at most `limit` looks after `seen` others, by its events and what it ends with: all
looks but the last leave it open, and the last one decides unless the looks are used up before. -/
inductive Awaited (seen limit : Nat) : List Event → Except Abort (Except Error Outcome) → Prop where
  | decided (looks : List Look)
      (undecided : ∀ look ∈ looks, Undecided session rule name budget operation start look)
      (allowed : looks.length < limit)
      (last : Decided session rule name budget operation start (seen + looks.length + 1) events
        result) :
      Awaited seen limit (looks.flatMap (Look.events budget.interval) ++ events) (.ok result)
  | usedUp (looks : List Look)
      (undecided : ∀ look ∈ looks, Undecided session rule name budget operation start look)
      (used : looks.length = limit) :
      Awaited seen limit (looks.flatMap (Look.events budget.interval)) (.error .endless)

end Wait

section Alike

variable {session other : Session} {rule : StatusRule} {name : String} {budget : Budget}
  {operation : Transition} {start : Instant}

theorem Undecided.of_statusOf {look : Look} (alike : statusOf session = statusOf other)
    (undecided : Undecided session rule name budget operation start look) :
    Undecided other rule name budget operation start look := by
  obtain ⟨looks, unseen, early⟩ := undecided
  exact ⟨looks, alike ▸ unseen, early⟩

theorem Decided.of_statusOf {number : Nat} {events : List Event} {result : Except Error Outcome}
    (alike : statusOf session = statusOf other)
    (decided : Decided session rule name budget operation start number events result) :
    Decided other rule name budget operation start number events result := by
  cases decided with
  | failed looks fails => exact .failed looks (alike ▸ fails)
  | observed looks read shown => exact .observed looks (alike ▸ read) shown
  | timedOut looks read unseen late => exact .timedOut looks (alike ▸ read) unseen late

theorem Awaited.of_statusOf {seen limit : Nat} {events : List Event}
    {ending : Except Abort (Except Error Outcome)} (alike : statusOf session = statusOf other)
    (awaited : Awaited session rule name budget operation start seen limit events ending) :
    Awaited other rule name budget operation start seen limit events ending := by
  cases awaited with
  | decided looks undecided allowed last =>
    exact .decided looks (fun look member => (undecided look member).of_statusOf alike) allowed
      (last.of_statusOf alike)
  | usedUp looks undecided used =>
    exact .usedUp looks (fun look member => (undecided look member).of_statusOf alike) used

theorem Awaited.after {seen limit : Nat} {events : List Event}
    {ending : Except Abort (Except Error Outcome)} {look : Look}
    (undecided : Undecided session rule name budget operation start look)
    (rest : Awaited session rule name budget operation start (seen + 1) limit events ending) :
    Awaited session rule name budget operation start seen (limit + 1)
      (look.events budget.interval ++ events) ending := by
  cases rest with
  | decided looks others allowed last =>
    have counted : seen + 1 + looks.length + 1 = seen + (look :: looks).length + 1 := by
      simp only [List.length_cons]
      omega
    rw [counted] at last
    have whole := Awaited.decided (look :: looks)
      (List.forall_mem_cons.mpr ⟨undecided, others⟩) (Nat.succ_lt_succ allowed) last
    simpa using whole
  | usedUp looks others used =>
    have whole : Awaited session rule name budget operation start seen (limit + 1) _ _ :=
      .usedUp (look :: looks) (List.forall_mem_cons.mpr ⟨undecided, others⟩)
        (congrArg Nat.succ used)
    simpa using whole

end Alike

section Looking

variable {σ : Type} (rule : StatusRule) (name : String) (budget : Budget) (operation : Transition)
  (start : Instant)

theorem executeOrNone_course (world : World σ) (session : Session) (state : σ) :
    ∃ request, LooksAt rule name request ∧
      (Session.executeOrNone (statusCommand rule name)).course world session state =
        ⟨[.sent request (world (.send request) state).1],
          .ok (statusOf session rule name (world (.send request) state).1,
            session.noted request.payload (world (.send request) state).1),
          (world (.send request) state).2⟩ := by
  obtain ⟨request, carries, course⟩ := Session.execute_course_of_bare
    (statusCommand rule name) rfl rfl rfl session world state
  refine ⟨request, ?_, Session.executeOrNone_course course⟩
  simpa [LooksAt, statusCommand] using carries

/-- What comes after the records and the time of a look. -/
def afterLook (limit : Nat) (polls : UInt32) (records : List Attributes) (now : Instant) :
    Operation Outcome :=
  if reached rule operation records then return ⟨operation, polls + 1, elapsed start now⟩
  else if budget.timeout.toBinary64.le (elapsed start now) then
    throw (.timeout name operation (elapsed start now))
  else pollWithin rule name budget operation start limit (polls + 1)

theorem pollWithin_succ (limit : Nat) (polls : UInt32) :
    pollWithin rule name budget operation start (limit + 1) polls = (do
      asking (.sleep budget.interval)
      let records ← Session.executeOrNone (statusCommand rule name)
      let now ← asking .now
      afterLook rule name budget operation start limit polls records now) := rfl

theorem pollWithin_look (world : World σ) (session : Session) (state : σ) :
    (∃ request reply error after later, LooksAt rule name request ∧
      statusOf session rule name reply = .error error ∧ ∀ limit polls,
        (pollWithin rule name budget operation start (limit + 1) polls).course world session state =
          ⟨[.slept budget.interval, .sent request reply], .ok (.error error, after), later⟩) ∨
    (∃ (look : Look) (records : List Attributes) (later : σ), LooksAt rule name look.request ∧
      statusOf session rule name look.reply = .ok records ∧ ∀ limit polls,
        (pollWithin rule name budget operation start (limit + 1) polls).course world session state =
          ((afterLook rule name budget operation start limit polls records look.now).course world
            (session.noted look.request.payload look.reply) later).after
              (look.events budget.interval)) := by
  obtain ⟨request, looks, course⟩ := executeOrNone_course rule name world session
    (world (.sleep budget.interval) state).2
  generalize (world (.send request) (world (.sleep budget.interval) state).2) = answer at course
  obtain ⟨reply, later⟩ := answer
  cases read : statusOf session rule name reply with
  | error error =>
    rw [read] at course
    refine .inl ⟨request, reply, error, session.noted request.payload reply, later, looks, read,
      fun limit polls => ?_⟩
    rw [pollWithin_succ, Operation.course_bind_ok _ (Operation.course_asking ..),
      Operation.course_bind_error _ course]
    rfl
  | ok records =>
    rw [read] at course
    refine .inr ⟨⟨request, reply, (world .now later).1⟩, records, (world .now later).2, looks, read,
      fun limit polls => ?_⟩
    rw [pollWithin_succ, Operation.course_bind_ok _ (Operation.course_asking ..),
      Operation.course_bind_ok _ course, Operation.course_bind_ok _ (Operation.course_asking ..)]
    simp only [Course.after_after]
    rfl

/-- A look decides, however many more would be allowed, or the wait goes on with the next one. -/
theorem pollWithin_step (world : World σ) (session : Session) (state : σ) (number : Nat) :
    (∃ last result after later,
      Decided session rule name budget operation start (number + 1) last result ∧ ∀ limit,
        (pollWithin rule name budget operation start (limit + 1) (.ofNat number)).course world
          session state = ⟨last, .ok (result, after), later⟩) ∨
    (∃ look later, Undecided session rule name budget operation start look ∧ ∀ limit,
        (pollWithin rule name budget operation start (limit + 1) (.ofNat number)).course world
          session state =
            ((pollWithin rule name budget operation start limit (.ofNat (number + 1))).course world
              (session.noted look.request.payload look.reply) later).after
                (look.events budget.interval)) := by
  rcases pollWithin_look rule name budget operation start world session state with
    ⟨request, reply, error, after, later, looks, fails, course⟩ |
    ⟨look, records, later, looks, read, course⟩
  · exact .inl ⟨_, _, after, later, .failed looks fails, fun limit => course limit _⟩
  · by_cases shown : Observed rule operation records
    · refine .inl ⟨_, _, session.noted look.request.payload look.reply, later,
        .observed looks read shown, fun limit => ?_⟩
      rw [course, afterLook, if_pos (reached_iff.mpr shown), Operation.course_pure,
        UInt32.ofNat_add]
      simp [Course.after]
    · by_cases late : IsOver budget start look.now
      · refine .inl ⟨_, _, session.noted look.request.payload look.reply, later,
          .timedOut looks read shown late, fun limit => ?_⟩
        rw [IsOver] at late
        rw [course, afterLook, if_neg (mt reached_iff.mp shown), if_pos late,
          Operation.course_throw]
        simp [Course.after]
      · refine .inr ⟨look, later, ⟨looks, ⟨records, read, shown⟩, late⟩,
          fun limit => ?_⟩
        rw [IsOver] at late
        rw [course, afterLook, if_neg (mt reached_iff.mp shown), if_neg late, UInt32.ofNat_add]
        rfl

/-- By induction on the looks that are allowed: the first one decides, or it joins the undecided
looks of a wait with one look less. -/
theorem pollWithin_awaits (world : World σ) (session : Session) (limit : Nat) :
    ∀ (seen : Nat) (after : Session) (state : σ), statusOf after = statusOf session →
      let course := (pollWithin rule name budget operation start limit (.ofNat seen)).course world
        after state
      Awaited session rule name budget operation start seen limit course.events
        (course.ending.map Prod.fst) := by
  induction limit with
  | zero =>
    intro seen after state _
    exact .usedUp [] (by simp) rfl
  | succ limit ih =>
    intro seen after state alike
    rcases pollWithin_step rule name budget operation start world after state seen with
      ⟨last, result, final, later, decided, course⟩ | ⟨look, later, undecided, course⟩
    · rw [course]
      exact .decided [] (by simp) (Nat.zero_lt_succ limit) (decided.of_statusOf alike)
    · rw [course]
      have rest := ih (seen + 1) (after.noted look.request.payload look.reply) later
        ((statusOf_noting ..).trans alike)
      exact rest.after (undecided.of_statusOf alike)

/-- A wait that comes to a decision is the same with more looks allowed. -/
theorem pollWithin_add (world : World σ) (limit more : Nat) :
    ∀ (seen : Nat) (session : Session) (state : σ),
      ((pollWithin rule name budget operation start limit (.ofNat seen)).course world session
        state).ending ≠ .error .endless →
      (pollWithin rule name budget operation start (limit + more) (.ofNat seen)).course world
          session state =
        (pollWithin rule name budget operation start limit (.ofNat seen)).course world session
          state := by
  induction limit with
  | zero =>
    intro seen session state ends
    exact absurd rfl ends
  | succ limit ih =>
    intro seen session state ends
    rw [Nat.succ_add]
    rcases pollWithin_step rule name budget operation start world session state seen with
      ⟨last, result, final, later, _, course⟩ | ⟨look, later, _, course⟩
    · rw [course, course]
    · rw [course] at ends
      rw [course, course, ih _ _ _ ends]

end Looking

/-- A command that changes the state of an object, and the wait for the change, by their events and
what they end with. -/
inductive Changed (session : Session) (rule : StatusRule) (name : String) (budget : Budget)
    (verb : String) (operation : Transition) (limit : Nat) :
    List Event → Except Abort (Except Error Outcome) → Prop where
  | failed
      (carries : request.payload.Carries verb (Text.upper rule.qualifier) (some name) ∅)
      (fails : session.verdict (session.kind? { verb, qualifier := rule.qualifier, name }) reply =
        .error error) :
      Changed session rule name budget verb operation limit [.sent request reply]
        (.ok (.error error))
  | awaited
      (carries : request.payload.Carries verb (Text.upper rule.qualifier) (some name) ∅)
      (done : session.verdict (session.kind? { verb, qualifier := rule.qualifier, name }) reply =
        .ok records)
      (waits : Awaited session rule name budget operation since 0 limit events ending) :
      Changed session rule name budget verb operation limit
        (.sent request reply :: .told since :: events) ending

def change (verb : String) (operation : Transition) (limit : Nat) (rule : StatusRule)
    (name : String) (budget : Budget) : Operation Outcome := do
  let _ ← Session.execute { verb, qualifier := rule.qualifier, name }
  awaitWithin limit rule name budget operation

theorem startWithin_eq (limit : Nat) (rule : StatusRule) (name : String) (budget : Budget) :
    startWithin limit rule name budget =
      change "START" .started limit rule name budget.normalized := rfl

theorem stopWithin_eq (limit : Nat) (rule : StatusRule) (name : String) (budget : Budget) :
    stopWithin limit rule name budget =
      change "STOP" .stopped limit rule name budget.normalized := rfl

section Change

variable {σ : Type} (world : World σ) (session : Session) (state : σ) (verb : String)
  (operation : Transition) (rule : StatusRule) (name : String) (budget : Budget)

/-- The command is sent once. Its failure is the end, and after its success the clock is looked at
and the wait begins. -/
theorem change_course :
    ∃ request reply, request.payload.Carries (Text.upper verb) (Text.upper rule.qualifier)
        (some name) ∅ ∧
      ((∃ error after later,
        session.verdict (session.kind? { verb, qualifier := rule.qualifier, name }) reply =
          .error error ∧ ∀ limit,
          (change verb operation limit rule name budget).course world session state =
            ⟨[.sent request reply], .ok (.error error, after), later⟩) ∨
      (∃ records after start later,
        session.verdict (session.kind? { verb, qualifier := rule.qualifier, name }) reply =
          .ok records ∧ statusOf after = statusOf session ∧ ∀ limit,
          (change verb operation limit rule name budget).course world session state =
            ((pollWithin rule name budget operation start limit (.ofNat 0)).course world after
              later).after [.sent request reply, .told start])) := by
  obtain ⟨request, carries, course⟩ := Session.execute_course_of_bare
    { verb, qualifier := rule.qualifier, name } rfl rfl rfl session world state
  generalize world (.send request) state = answer at course
  obtain ⟨reply, later⟩ := answer
  refine ⟨request, reply, carries, ?_⟩
  cases judged : session.verdict (session.kind? { verb, qualifier := rule.qualifier, name })
    reply with
  | error error =>
    rw [judged] at course
    exact .inl ⟨error, _, later, rfl, fun limit => Operation.course_bind_error _ course⟩
  | ok records =>
    rw [judged] at course
    refine .inr ⟨records, session.noted request.payload reply, (world .now later).1,
      (world .now later).2, rfl, statusOf_noting .., fun limit => ?_⟩
    rw [change, Operation.course_bind_ok _ course, awaitWithin,
      Operation.course_bind_ok _ (Operation.course_asking ..), Course.after_after]
    rfl

theorem change_changed (upper : Text.upper verb = verb) (limit : Nat) :
    let course := (change verb operation limit rule name budget).course world session state
    Changed session rule name budget verb operation limit course.events
      (course.ending.map Prod.fst) := by
  obtain ⟨request, reply, carries, ⟨error, after, later, fails, course⟩ |
    ⟨records, after, start, later, done, alike, course⟩⟩ :=
    change_course world session state verb operation rule name budget
  · rw [upper] at carries
    rw [course]
    exact .failed carries fails
  · rw [upper] at carries
    rw [course]
    exact .awaited carries done
      (pollWithin_awaits rule name budget operation start world session limit 0 after later alike)

theorem change_add (limit more : Nat)
    (ends : ((change verb operation limit rule name budget).course world session state).ending ≠
      .error .endless) :
    (change verb operation (limit + more) rule name budget).course world session state =
      (change verb operation limit rule name budget).course world session state := by
  obtain ⟨request, reply, _, ⟨error, after, later, _, course⟩ |
    ⟨records, after, start, later, _, _, course⟩⟩ :=
    change_course world session state verb operation rule name budget
  · rw [course, course]
  · rw [course] at ends
    rw [course, course, pollWithin_add rule name budget operation start world limit more _ _ _ ends]

end Change

/-- In every world and session, starting and stopping send one command and then look, wait by wait,
until a look decides; how many looks are allowed matters only while none has decided. -/
theorem start_stop_poll {σ : Type} (world : World σ) (session : Session) (state : σ)
    (rule : StatusRule) (name : String) (budget : Budget) (limit : Nat) :
    let started (limit : Nat) := (startWithin limit rule name budget).course world session state
    let stopped (limit : Nat) := (stopWithin limit rule name budget).course world session state
    Changed session rule name budget.normalized "START" .started limit (started limit).events
        ((started limit).ending.map Prod.fst) ∧
      Changed session rule name budget.normalized "STOP" .stopped limit (stopped limit).events
        ((stopped limit).ending.map Prod.fst) ∧
      ∀ more, ((started limit).ending ≠ .error .endless →
          started (limit + more) = started limit) ∧
        ((stopped limit).ending ≠ .error .endless →
          stopped (limit + more) = stopped limit) := by
  simp only [startWithin_eq, stopWithin_eq]
  refine ⟨?_, ?_, fun more => ⟨fun ends => ?_, fun ends => ?_⟩⟩
  · exact change_changed world session state "START" .started rule name _ Text.upper_start limit
  · exact change_changed world session state "STOP" .stopped rule name _ Text.upper_stop limit
  · exact change_add world session state "START" .started rule name _ limit more ends
  · exact change_add world session state "STOP" .stopped rule name _ limit more ends

end MqAdmin.Sync
