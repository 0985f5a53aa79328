import Mathlib.Data.List.Basic
import MqAdmin.Proofs.Session.Program
import MqAdmin.Proofs.Sync.Timing

namespace MqAdmin.Sync

/-- Whether the reply to a look shows the object stopped: some record holds such a state, or there
are no records or the queue manager reports a failure, where that means stopped. -/
inductive SeenStopped (session : Session) (rule : StatusRule) (name : String)
    (reply : Reply) : Prop where
  | shown (read : session.verdict (session.kind? (statusCommand rule name)) reply = .ok records)
      (member : record ∈ records) (listed : key ∈ rule.keys)
      (held : record.get? key = some (.string text))
      (stopped : Text.trim text ∈ ["STOPPED", "stopped", "INACTIVE", "inactive"])
  | absent (empty : rule.emptyMeansStopped = true)
      (read : session.verdict (session.kind? (statusCommand rule name)) reply = .ok [])
  | refused (empty : rule.emptyMeansStopped = true)
      (read : session.verdict (session.kind? (statusCommand rule name)) reply = .error error)
      (reported : error.isCommand = true)

def Starts (request : Request) : Prop := request.payload.get? "command" = some (.string "START")

/-- Requests for the named object: a stop and looks, and then perhaps a start and looks. -/
inductive Requested (rule : StatusRule) (name : String) : List Request → Prop where
  | stopping (stops : first.payload.Carries "STOP" (Text.upper rule.qualifier) (some name) ∅)
      (looking : ∀ look ∈ looks, LooksAt rule name look) :
      Requested rule name (first :: looks)
  | starting (stops : first.payload.Carries "STOP" (Text.upper rule.qualifier) (some name) ∅)
      (looking : ∀ look ∈ looks, LooksAt rule name look)
      (starts : second.payload.Carries "START" (Text.upper rule.qualifier) (some name) ∅)
      (lookingOn : ∀ look ∈ others, LooksAt rule name look) :
      Requested rule name (first :: (looks ++ second :: others))

def restartOutcome (stopped started : Outcome) : Outcome :=
  ⟨.restarted, stopped.polls + started.polls, stopped.elapsed.add started.elapsed⟩

section Restart

variable (session : Session) (rule : StatusRule) (name : String) (budget : Budget) (limit : Nat)

/-- A restart, by its events and what it ends with: a stop that does not succeed, or one that does
and after it a start with the same budget. -/
inductive Restarted : List Event → Except Abort (Except Error Outcome) → Prop where
  | unstopped (stop : Changed session rule name budget "STOP" .stopped limit events ending)
      (fails : ∀ stopped, ending ≠ .ok (.ok stopped)) : Restarted events ending
  | stopped (stop : Changed session rule name budget "STOP" .stopped limit before
        (.ok (.ok outcome)))
      (start : Changed session rule name budget "START" .started limit events ending) :
      Restarted (before ++ events) (ending.map (Except.map (restartOutcome outcome)))

/-- What is told of a restart that succeeded: how many looks were made, and the seconds that its
halves took. -/
structure Totals (events : List Event) (outcome : Outcome) : Prop where
  operation : outcome.operation = .restarted
  counted : (looksIn rule name events).length + 2 = (requests events).length
  polls : outcome.polls.toNat = (looksIn rule name events).length % UInt32.size
  elapsed : ∃ before after stopped started, events = before ++ after ∧
    Changed session rule name budget "STOP" .stopped limit before (.ok (.ok stopped)) ∧
    Changed session rule name budget "START" .started limit after (.ok (.ok started)) ∧
    outcome.elapsed = stopped.elapsed.add started.elapsed

structure Restarts (events : List Event) (ending : Except Abort (Except Error Outcome)) : Prop where
  requested : Requested rule name (requests events)
  seen : ∀ before start reply after, events = before ++ .sent start reply :: after →
    Starts start → ∃ earlier look, before = earlier ++ Look.events budget.interval look ∧
      LooksAt rule name look.request ∧ SeenStopped session rule name look.reply
  anew : ∀ before start reply after, events = before ++ .sent start reply :: after →
    Starts start → ∃ outcome own, ending = own.map (Except.map (restartOutcome outcome)) ∧
      Changed session rule name budget "START" .started limit (.sent start reply :: after) own
  succeeded : ∀ outcome, ending = .ok (.ok outcome) →
    Totals session rule name budget limit events outcome

end Restart

section Phase

variable {session : Session} {rule : StatusRule} {name : String} {budget : Budget}
  {verb : String} {operation : Transition} {limit : Nat} {start : Instant} {events : List Event}
  {ending : Except Abort (Except Error Outcome)}

theorem Undecided.looksAt {looks : List Look}
    (undecided : ∀ look ∈ looks, Undecided session rule name budget operation start look) :
    ∀ request ∈ looks.map (·.request), LooksAt rule name request := by
  intro request member
  obtain ⟨look, listed, rfl⟩ := List.mem_map.mp member
  exact (undecided look listed).looks

theorem Awaited.looksAt {seen : Nat}
    (awaited : Awaited session rule name budget operation start seen limit events ending) :
    ∀ request ∈ requests events, LooksAt rule name request := by
  cases awaited with
  | usedUp looks undecided used =>
    rw [requests_looks]
    exact Undecided.looksAt undecided
  | decided looks undecided allowed last =>
    obtain ⟨request, asked, lookedAt⟩ := last.requests
    rw [requests_append, requests_looks, asked]
    intro other member
    rcases List.mem_append.mp member with before | last
    · exact Undecided.looksAt undecided other before
    · obtain rfl := List.mem_singleton.mp last
      exact lookedAt

theorem Changed.events_eq
    (changed : Changed session rule name budget verb operation limit events ending) :
    ∃ request reply rest, events = .sent request reply :: rest ∧
      request.payload.Carries verb (Text.upper rule.qualifier) (some name) ∅ ∧
      ∀ look ∈ requests rest, LooksAt rule name look := by
  cases changed with
  | failed carries fails => exact ⟨_, _, [], rfl, carries, by simp⟩
  | awaited carries done waits => exact ⟨_, _, _, rfl, carries, waits.looksAt⟩

theorem Changed.length_looksIn (other : verb ≠ "DISPLAY")
    (changed : Changed session rule name budget verb operation limit events ending) :
    (looksIn rule name events).length + 1 = (requests events).length := by
  obtain ⟨request, reply, rest, rfl, carries, looking⟩ := changed.events_eq
  have all : looksIn rule name rest = requests rest :=
    List.filter_eq_self.mpr fun look member => decide_eq_true (looking look member)
  rw [looksIn_sent_of_carries rule name other carries, all, requests_sent, List.length_cons]

theorem Changed.lastLook {outcome : Outcome}
    (changed : Changed session rule name budget verb operation limit events
      (.ok (.ok outcome))) : ∃ before look,
      events = before ++ Look.events budget.interval look ∧ LooksAt rule name look.request ∧
      ∃ records, statusOf session rule name look.reply = .ok records ∧
        Observed rule operation records := by
  cases changed with
  | @awaited reply _ since _ _ request carries done waits =>
    cases waits with
    | decided looks undecided allowed last =>
      cases last with
      | @observed records look looksAt read shown =>
        exact ⟨.sent request reply :: .told since :: looks.flatMap (Look.events budget.interval),
          look, rfl, looksAt, records, read, shown⟩

theorem Changed.polls_eq {outcome : Outcome} (other : verb ≠ "DISPLAY")
    (changed : Changed session rule name budget verb operation limit events
      (.ok (.ok outcome))) : outcome.polls = .ofNat (looksIn rule name events).length := by
  have counted := changed.length_looksIn other
  cases changed with
  | awaited carries done waits =>
    cases waits with
    | decided looks undecided allowed last =>
      cases last with
      | observed looksAt read shown =>
        rw [requests_sent, requests_told, requests_append, requests_looks, requests_look,
          List.length_cons, List.length_append, List.length_map, List.length_singleton] at counted
        dsimp only
        congr 1
        omega

theorem Changed.of_becomes {after : Session} (becomes : session.Becomes after)
    (changed : Changed after rule name budget verb operation limit events ending) :
    Changed session rule name budget verb operation limit events ending := by
  obtain ⟨diagnostics, rfl⟩ := becomes
  cases changed with
  | failed carries fails => exact .failed carries (by simpa using fails)
  | awaited carries done waits =>
    exact .awaited carries (by simpa using done) (waits.of_statusOf (statusOf_noting ..))

end Phase

section Restart

variable {session : Session} {rule : StatusRule} {name : String} {budget : Budget} {limit : Nat}
  {events : List Event} {ending : Except Abort (Except Error Outcome)} {request : Request}

theorem seenStopped_of_observed {reply : Reply} {records : List Attributes}
    (read : statusOf session rule name reply = .ok records)
    (observed : Observed rule .stopped records) : SeenStopped session rule name reply := by
  rw [statusOf] at read
  cases judged : session.verdict (session.kind? (statusCommand rule name)) reply with
  | ok shown =>
    rw [judged] at read
    obtain rfl : shown = records := Except.ok.inj read
    rcases observed with ⟨_, empty, rfl⟩ | ⟨record, member, key, listed, text, held, stopped⟩
    · exact .absent empty judged
    · exact .shown judged member listed held stopped
  | error error =>
    rw [judged, Session.orNone] at read
    split at read
    · rename_i reported
      obtain rfl : [] = records := Except.ok.inj read
      rcases observed with ⟨_, empty, _⟩ | ⟨record, member, _⟩
      · exact .refused empty judged reported
      · simp at member
    · cases read

theorem not_starts {verb qualifier : String} {object : Option String} (other : verb ≠ "START")
    (carries : request.payload.Carries verb qualifier object ∅) : ¬ Starts request := by
  rw [Starts, carries.command]
  simpa using other

theorem LooksAt.not_starts (looks : LooksAt rule name request) : ¬ Starts request :=
  Sync.not_starts (by decide) looks

theorem Changed.not_starts
    (stop : Changed session rule name budget "STOP" .stopped limit events ending) :
    ∀ request ∈ requests events, ¬ Starts request := by
  obtain ⟨first, reply, rest, rfl, carries, looking⟩ := stop.events_eq
  rw [requests_sent]
  exact List.forall_mem_cons.mpr
    ⟨Sync.not_starts (by decide) carries, fun look member => (looking look member).not_starts⟩

/-- Events without a start have none at which they could be split. -/
theorem not_starts_of_split {before after : List Event} {start : Request} {reply : Reply}
    (unstarted : ∀ request ∈ requests events, ¬ Starts request)
    (split : events = before ++ .sent start reply :: after) : ¬ Starts start :=
  unstarted start <| mem_requests_of_sent <| by
    rw [split]
    exact List.mem_append_right before List.mem_cons_self

/-- Events with one start are split at it in one way. -/
theorem split_at_start {before waits before' waits' : List Event} {first second : Request}
    {reply reply' : Reply} (unstarted : ∀ request ∈ requests before, ¬ Starts request)
    (waiting : ∀ request ∈ requests waits, ¬ Starts request)
    (split : before ++ .sent first reply :: waits = before' ++ .sent second reply' :: waits')
    (starts : Starts second) : before' = before ∧
      Event.sent second reply' :: waits' = .sent first reply :: waits := by
  have absent {events : List Event} (others : ∀ request ∈ requests events, ¬ Starts request) :
      Event.sent second reply' ∉ events :=
    fun member => others second (mem_requests_of_sent member) starts
  obtain ⟨same, own, rest⟩ :=
    (List.append_cons_inj_of_notMem (absent unstarted) (absent waiting)).mp split
  exact ⟨same.symm, by rw [own, rest]⟩

theorem Totals.of_changed {before after : List Event} {stopped started : Outcome}
    (stop : Changed session rule name budget "STOP" .stopped limit before (.ok (.ok stopped)))
    (start : Changed session rule name budget "START" .started limit after
      (.ok (.ok started))) :
    Totals session rule name budget limit (before ++ after) (restartOutcome stopped started) := by
  have stopLooks := stop.length_looksIn (by decide)
  have startLooks := start.length_looksIn (by decide)
  have stopPolls := stop.polls_eq (by decide)
  have startPolls := start.polls_eq (by decide)
  refine ⟨rfl, ?_, ?_, ⟨before, after, stopped, started, rfl, stop, start, rfl⟩⟩
  · rw [looksIn_append, requests_append, List.length_append, List.length_append]
    omega
  · rw [restartOutcome, stopPolls, startPolls, looksIn_append, List.length_append,
      ← UInt32.ofNat_add]
    exact UInt32.toNat_ofNat'

theorem map_restartOutcome_eq_ok {own : Except Abort (Except Error Outcome)}
    {stopped outcome : Outcome}
    (ended : own.map (Except.map (restartOutcome stopped)) = .ok (.ok outcome)) :
    ∃ started, own = .ok (.ok started) ∧ restartOutcome stopped started = outcome := by
  rcases own with cause | error | started
  · cases ended
  · cases ended
  · exact ⟨started, rfl, Except.ok.inj (Except.ok.inj ended)⟩

/-- What a restart comes to is read off its two halves. -/
theorem Restarted.restarts
    (restarted : Restarted session rule name budget limit events ending) :
    Restarts session rule name budget limit events ending := by
  cases restarted with
  | unstopped stop fails =>
    have unstarted := stop.not_starts
    obtain ⟨first, reply, rest, whole, carries, looking⟩ := stop.events_eq
    exact {
      requested := by
        rw [whole, requests_sent]
        exact .stopping carries looking
      seen := fun _ _ _ _ split starts => absurd starts (not_starts_of_split unstarted split)
      anew := fun _ _ _ _ split starts => absurd starts (not_starts_of_split unstarted split)
      succeeded := fun outcome ended => absurd ended (fails outcome)
    }
  | @stopped before outcome after own stop start =>
    have unstarted := stop.not_starts
    obtain ⟨earlier, look, stopping, looked, records, read, observed⟩ := stop.lastLook
    obtain ⟨first, reply, rest, whole, stops, looking⟩ := stop.events_eq
    obtain ⟨second, answer, others, following, starts, lookingOn⟩ := start.events_eq
    -- Nothing before and nothing after the start is one, so any split at a start is the one here.
    have waiting : ∀ request ∈ requests others, ¬ Starts request :=
      fun request member => (lookingOn request member).not_starts
    exact {
      requested := by
        rw [requests_append, whole, following, requests_sent, requests_sent]
        exact .starting stops looking starts lookingOn
      seen := by
        intro before' start' reply' after' split starting
        rw [following] at split
        obtain ⟨rfl, _⟩ := split_at_start unstarted waiting split starting
        exact ⟨earlier, look, stopping, looked, seenStopped_of_observed read observed⟩
      anew := by
        intro before' start' reply' after' split starting
        rw [following] at split
        obtain ⟨_, same⟩ := split_at_start unstarted waiting split starting
        rw [same, ← following]
        exact ⟨outcome, own, rfl, start⟩
      succeeded := by
        intro result ended
        obtain ⟨started, rfl, rfl⟩ := map_restartOutcome_eq_ok ended
        exact .of_changed stop start
    }

end Restart

section Course

variable {σ : Type} {world : World σ} {session after : Session} {state later : σ}
  {rule : StatusRule} {name : String} {budget : Budget} {limit : Nat} {events : List Event}

theorem restartWithin_eq (limit : Nat) (rule : StatusRule) (name : String) (budget : Budget) :
    restartWithin limit rule name budget = stopWithin limit rule name budget >>= fun stopped =>
      startWithin limit rule name budget >>= fun started =>
        pure (restartOutcome stopped started) := rfl

/-- After a stop that succeeded the object is started as it would be then, and the outcomes are
added up. -/
theorem restartWithin_of_stopped {stopped : Outcome}
    (stop : (stopWithin limit rule name budget).course world session state =
      ⟨events, .ok (.ok stopped, after), later⟩) :
    let start := (startWithin limit rule name budget).course world after later
    (restartWithin limit rule name budget).course world session state =
      ⟨events ++ start.events,
        start.ending.map fun ended => (ended.1.map (restartOutcome stopped), ended.2),
        start.state⟩ := by
  intro start
  rw [restartWithin_eq, Operation.course_bind_ok _ stop, Operation.course_bind]
  rcases course : (startWithin limit rule name budget).course world after later with
    ⟨own, cause | ⟨error | started, final⟩, last⟩ <;>
    simp [start, course, Course.andThen, Course.after, Operation.course_pure, Except.map]

theorem restartWithin_of_failed {error : Error}
    (stop : (stopWithin limit rule name budget).course world session state =
      ⟨events, .ok (.error error, after), later⟩) :
    (restartWithin limit rule name budget).course world session state =
      ⟨events, .ok (.error error, after), later⟩ :=
  Operation.course_bind_error _ stop

theorem restartWithin_of_aborted {cause : Abort}
    (stop : (stopWithin limit rule name budget).course world session state =
      ⟨events, .error cause, later⟩) :
    (restartWithin limit rule name budget).course world session state =
      ⟨events, .error cause, later⟩ := by
  rw [restartWithin_eq, Operation.course_bind, stop]
  rfl

theorem stopWithin_changed (world : World σ) (session : Session) (state : σ) (rule : StatusRule)
    (name : String) (budget : Budget) (limit : Nat) :
    let course := (stopWithin limit rule name budget).course world session state
    Changed session rule name budget.normalized "STOP" .stopped limit course.events
      (course.ending.map Prod.fst) := by
  rw [stopWithin_eq]
  exact change_changed world session state "STOP" .stopped rule name _ Text.upper_stop limit

theorem startWithin_changed (world : World σ) (session : Session) (state : σ) (rule : StatusRule)
    (name : String) (budget : Budget) (limit : Nat) :
    let course := (startWithin limit rule name budget).course world session state
    Changed session rule name budget.normalized "START" .started limit course.events
      (course.ending.map Prod.fst) := by
  rw [startWithin_eq]
  exact change_changed world session state "START" .started rule name _ Text.upper_start limit

theorem restartWithin_restarted (world : World σ) (session : Session) (state : σ)
    (rule : StatusRule) (name : String) (budget : Budget) (limit : Nat) :
    let course := (restartWithin limit rule name budget).course world session state
    Restarted session rule name budget.normalized limit course.events
      (course.ending.map Prod.fst) := by
  have stop := stopWithin_changed world session state rule name budget limit
  rcases course : (stopWithin limit rule name budget).course world session state with
    ⟨events, cause | ⟨error | stopped, after⟩, later⟩ <;> rw [course] at stop
  · rw [restartWithin_of_aborted course]
    exact .unstopped stop (by rintro outcome ⟨⟩)
  · rw [restartWithin_of_failed course]
    exact .unstopped stop (by rintro outcome ⟨⟩)
  · have start := startWithin_changed world after later rule name budget limit
    -- The start runs in the session that the stop has left, which judges replies as before.
    have becomes := (Routine.stopWithin rule name budget limit).becomes course
    rw [restartWithin_of_stopped course]
    have whole := Restarted.stopped stop (start.of_becomes becomes)
    cases ended : ((startWithin limit rule name budget).course world after later).ending <;>
      simpa [ended, Except.map] using whole

theorem restartWithin_add (world : World σ) (session : Session) (state : σ) (rule : StatusRule)
    (name : String) (budget : Budget) (limit more : Nat)
    (ends : ((restartWithin limit rule name budget).course world session state).ending ≠
      .error .endless) :
    (restartWithin (limit + more) rule name budget).course world session state =
      (restartWithin limit rule name budget).course world session state := by
  have stopMore : ((stopWithin limit rule name budget).course world session state).ending ≠
      .error .endless → (stopWithin (limit + more) rule name budget).course world session state =
        (stopWithin limit rule name budget).course world session state :=
    change_add world session state "STOP" .stopped rule name budget.normalized limit more
  rcases course : (stopWithin limit rule name budget).course world session state with
    ⟨events, cause | ⟨error | stopped, after⟩, later⟩ <;> rw [course] at stopMore
  · rw [restartWithin_of_aborted course] at ends ⊢
    exact restartWithin_of_aborted (stopMore ends)
  · rw [restartWithin_of_failed course]
    exact restartWithin_of_failed (stopMore (by simp))
  · rw [restartWithin_of_stopped course] at ends ⊢
    rw [restartWithin_of_stopped (stopMore (by simp))]
    have startMore : (startWithin (limit + more) rule name budget).course world after later =
        (startWithin limit rule name budget).course world after later := by
      refine change_add world after later "START" .started rule name budget.normalized limit more
        fun endless => ends ?_
      rw [startWithin_eq, endless]
      rfl
    rw [startMore]

end Course

/-- In every world and session a restart starts the object only after a look that shows it stopped,
and otherwise fails as the stop did. The start is one of its own, with the whole budget, and how
many looks are allowed matters only while a wait has not come to its end. -/
theorem restart_waits_for_stop {σ : Type} (world : World σ) (session : Session) (state : σ)
    (rule : StatusRule) (name : String) (budget : Budget) (limit : Nat) :
    let stop := (stopWithin limit rule name budget).course world session state
    let restart (limit : Nat) := (restartWithin limit rule name budget).course world session state
    Restarts session rule name budget.normalized limit (restart limit).events
        ((restart limit).ending.map Prod.fst) ∧
      (∀ events error after later, stop = ⟨events, .ok (.error error, after), later⟩ →
        restart limit = ⟨events, .ok (.error error, after), later⟩ ∧
          ∀ request ∈ requests events, ¬ Starts request) ∧
      (∀ events stopped after later, stop = ⟨events, .ok (.ok stopped, after), later⟩ →
        let start := (startWithin limit rule name budget).course world after later
        restart limit = ⟨events ++ start.events,
          start.ending.map fun ended => (ended.1.map (restartOutcome stopped), ended.2),
          start.state⟩) ∧
      ∀ more, (restart limit).ending ≠ .error .endless →
        restart (limit + more) = restart limit := by
  refine ⟨(restartWithin_restarted world session state rule name budget limit).restarts,
    fun events error after later failed => ⟨restartWithin_of_failed failed, ?_⟩,
    fun events stopped after later => restartWithin_of_stopped,
    restartWithin_add world session state rule name budget limit⟩
  have stop := stopWithin_changed world session state rule name budget limit
  rw [failed] at stop
  exact stop.not_starts

/-- The first look finds no status of the channel, so it has stopped and is started. -/
example :
    let course := (restartWithin 1 .channel "C1" ⟨.zero, .zero⟩).course stopwatch unmapped 0
    (requests course.events).map (fun request => request.payload.get? "command") =
      [some (.string "STOP"), some (.string "DISPLAY"), some (.string "START"),
        some (.string "DISPLAY")] := by
  decide +kernel

end MqAdmin.Sync
