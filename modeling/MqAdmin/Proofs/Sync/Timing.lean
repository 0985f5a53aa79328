import MqAdmin.Proofs.Duration
import MqAdmin.Proofs.Sync.Polling

/-!
Waits under a clock that keeps time. Every look comes at least one interval after the one before, so
no more looks are made than intervals fit into the timeout; and where nothing but waits and requests
takes time, a wait is over one interval and one request after the timeout.
-/

namespace MqAdmin

variable {σ : Type}

/-- A clock that never goes back, and on which a wait takes at least as long as was asked for. What
it shows in a state is `time`, in nanoseconds; telling it may take time as well. -/
structure World.KeepsTime (world : World σ) (time : σ → Nat) : Prop where
  onward (question : Question) (state : σ) : time state ≤ time (world question state).2
  waits (duration : Duration) (state : σ) :
    time state + duration.nanoseconds ≤ time (world (.sleep duration) state).2
  tells (state : σ) : time state ≤ (world .now state).1.nanoseconds ∧
    (world .now state).1.nanoseconds ≤ time (world .now state).2

/-- A clock that moves only while a request is running, and by as much as is waited for. -/
structure World.MovesByWaiting (world : World σ) (time : σ → Nat) : Prop where
  waits (duration : Duration) (state : σ) :
    time (world (.sleep duration) state).2 = time state + duration.nanoseconds
  tells (state : σ) : (world .now state).1.nanoseconds = time state
  stays (state : σ) : time (world .now state).2 = time state

namespace Sync

section Counting

variable (rule : StatusRule) (name : String)

instance (request : Request) : Decidable (LooksAt rule name request) :=
  inferInstanceAs (Decidable (request.payload.Carries ..))

def looksIn (events : List Event) : List Request :=
  (requests events).filter fun request => LooksAt rule name request

@[simp] theorem looksIn_append (first second : List Event) :
    looksIn rule name (first ++ second) = looksIn rule name first ++ looksIn rule name second := by
  simp [looksIn]

theorem length_looksIn_le (events : List Event) :
    (looksIn rule name events).length ≤ (requests events).length :=
  List.length_filter_le ..

theorem looksIn_sent_of_carries {request : Request} {reply : Reply} {events : List Event}
    {verb qualifier : String} {object : Option String} (other : verb ≠ "DISPLAY")
    (carries : request.payload.Carries verb qualifier object ∅) :
    looksIn rule name (.sent request reply :: events) = looksIn rule name events := by
  have unlike : ¬ LooksAt rule name request := by
    intro looks
    have same := looks.command
    rw [carries.command] at same
    exact other (Json.string.inj (Option.some.inj same))
  simp [looksIn, unlike]

@[simp] theorem requests_look (interval : Duration) (look : Look) :
    requests (look.events interval) = [look.request] := rfl

@[simp] theorem requests_looks (interval : Duration) (looks : List Look) :
    requests (looks.flatMap (Look.events interval)) = looks.map (·.request) := by
  induction looks with
  | nil => rfl
  | cons look rest ih =>
    rw [List.flatMap_cons, requests_append, requests_look, ih]
    rfl

end Counting

namespace Budget

theorem lt_looks_iff {budget : Budget} (positive : 0 < budget.interval.nanoseconds) {count : Nat} :
    count < budget.looks ↔ count * budget.interval.nanoseconds < budget.timeout.nanoseconds := by
  rw [looks, ← Nat.succ_le_iff, Nat.le_div_iff_mul_le positive, Nat.succ_mul]
  omega

end Budget

theorem verdict_ne_timeout {session : Session} {kind : Option String} {reply : Reply}
    {who : String} {operation : Transition} {elapsed : Binary64} :
    session.verdict kind reply ≠ .error (.timeout who operation elapsed) := by
  intro same
  have rule := session.verdict_rule kind reply
  rw [same] at rule
  cases rule

section Wait

variable {session : Session} {rule : StatusRule} {name : String} {budget : Budget}
  {operation : Transition} {start : Instant}

theorem Decided.late {number : Nat} {events : List Event} {who : String} {aim : Transition}
    {elapsed : Binary64}
    (decided : Decided session rule name budget operation start number events
      (.error (.timeout who aim elapsed))) : budget.timeout.toBinary64.le elapsed = true := by
  cases decided with
  | timedOut looks read unseen late => exact late
  | failed looks fails =>
    unfold statusOf Session.orNone at fails
    split at fails
    · cases fails
    · rename_i judged
      split at fails
      · cases fails
      · cases fails
        exact absurd judged verdict_ne_timeout

/-- Whether the time is told at most once, and nothing else happens. -/
def OnlyTells (events : List Event) : Prop := events = [] ∨ ∃ now, events = [.told now]

theorem OnlyTells.requests {events : List Event} (only : OnlyTells events) :
    requests events = [] := by
  rcases only with rfl | ⟨now, rfl⟩ <;> rfl

/-- The last look is one wait and one request, after which at most the time is told. -/
theorem Decided.events_eq {number : Nat} {events : List Event} {result : Except Error Outcome}
    (decided : Decided session rule name budget operation start number events result) :
    ∃ request reply rest, events = .slept budget.interval :: .sent request reply :: rest ∧
      LooksAt rule name request ∧ OnlyTells rest := by
  cases decided with
  | failed looks fails => exact ⟨_, _, _, rfl, looks, .inl rfl⟩
  | observed looks read shown => exact ⟨_, _, _, rfl, looks, .inr ⟨_, rfl⟩⟩
  | timedOut looks read unseen late => exact ⟨_, _, _, rfl, looks, .inr ⟨_, rfl⟩⟩

theorem Decided.requests {number : Nat} {events : List Event} {result : Except Error Outcome}
    (decided : Decided session rule name budget operation start number events result) :
    ∃ request, requests events = [request] ∧ LooksAt rule name request := by
  obtain ⟨request, reply, rest, rfl, looks, only⟩ := decided.events_eq
  refine ⟨request, ?_, looks⟩
  rw [requests_slept, requests_sent, only.requests]

end Wait

end Sync

section Time

open Sync

variable {world : World σ} {time : σ → Nat} {state later : σ}

theorem World.KeepsTime.onward_follows (keeps : world.KeepsTime time) {events : List Event}
    (follows : world.Follows state events later) : time state ≤ time later := by
  induction follows with
  | nil => exact Nat.le_refl _
  | cons question rest ih => exact Nat.le_trans (keeps.onward question _) ih

/-- A look tells a time that is at least one interval later. -/
theorem World.KeepsTime.look (keeps : world.KeepsTime time) {interval : Duration} {look : Look}
    (follows : world.Follows state (look.events interval) later) :
    time state + interval.nanoseconds ≤ look.now.nanoseconds ∧
      look.now.nanoseconds ≤ time later := by
  obtain ⟨_, told⟩ := follows.slept.sent
  obtain ⟨now, rest⟩ := told.told
  have same := rest.eq_of_nil
  have waited := keeps.waits interval state
  have sent := keeps.onward (.send look.request) (world (.sleep interval) state).2
  have tells := keeps.tells (world (.send look.request) (world (.sleep interval) state).2).2
  rw [← now, ← same] at tells
  omega

/-- Looks take at least one interval each. -/
theorem World.KeepsTime.looks (keeps : world.KeepsTime time) {interval : Duration}
    {looks : List Look}
    (follows : world.Follows state (looks.flatMap (Look.events interval)) later) :
    time state + looks.length * interval.nanoseconds ≤ time later := by
  induction looks generalizing state with
  | nil =>
    rw [follows.eq_of_nil]
    simp
  | cons look rest ih =>
    rw [List.flatMap_cons] at follows
    obtain ⟨middle, first, others⟩ := follows.between
    have now := keeps.look first
    have last := ih others
    rw [List.length_cons, Nat.succ_mul]
    omega

theorem World.Follows.lastLook {interval : Duration} {looks : List Look}
    (follows : world.Follows state (looks.flatMap (Look.events interval)) later) :
    (looks = [] ∧ later = state) ∨ ∃ before last middle, looks = before ++ [last] ∧
      world.Follows state (before.flatMap (Look.events interval)) middle ∧
      world.Follows middle (last.events interval) later := by
  rcases List.eq_nil_or_concat looks with rfl | ⟨before, last, rfl⟩
  · exact .inl ⟨rfl, follows.eq_of_nil⟩
  · rw [List.concat_eq_append, List.flatMap_append, List.flatMap_singleton] at follows
    obtain ⟨middle, others, own⟩ := follows.between
    exact .inr ⟨before, last, middle, List.concat_eq_append, others, own⟩

theorem World.MovesByWaiting.onlyTells (moves : world.MovesByWaiting time) {events : List Event}
    (only : OnlyTells events) (follows : world.Follows state events later) :
    time later = time state := by
  rcases only with rfl | ⟨now, rfl⟩
  · rw [follows.eq_of_nil]
  · rw [follows.told.2.eq_of_nil, moves.stays]

section Undecided

variable {session : Session} {rule : StatusRule} {name : String} {budget : Budget}
  {operation : Transition} {start : Instant}

/-- While the time is not over, it is before the timeout in nanoseconds as well. -/
theorem Sync.Undecided.now_lt {look : Look}
    (undecided : Undecided session rule name budget operation start look) :
    look.now.nanoseconds < start.nanoseconds + budget.timeout.nanoseconds := by
  have passed : look.now.nanoseconds - start.nanoseconds < budget.timeout.nanoseconds :=
    Nat.lt_of_not_le fun late => undecided.early (Duration.toBinary64_le late)
  omega

/-- Looks that leave it open all come before the timeout. -/
theorem World.KeepsTime.undecided (keeps : world.KeepsTime time)
    (positive : 0 < budget.timeout.nanoseconds) (started : start.nanoseconds ≤ time state)
    {looks : List Look}
    (undecided : ∀ look ∈ looks, Undecided session rule name budget operation start look)
    (follows : world.Follows state (looks.flatMap (Look.events budget.interval)) later) :
    looks.length * budget.interval.nanoseconds < budget.timeout.nanoseconds := by
  rcases follows.lastLook with ⟨rfl, rfl⟩ | ⟨before, last, middle, rfl, others, own⟩
  · simpa using positive
  · have passed := keeps.looks others
    have now := keeps.look own
    have early := (undecided last (by simp)).now_lt
    rw [List.length_append, List.length_singleton, Nat.succ_mul]
    omega

/-- On an exact clock the last of them does not even end after the timeout. -/
theorem World.MovesByWaiting.undecided (moves : world.MovesByWaiting time)
    (positive : 0 < budget.timeout.nanoseconds) (started : start.nanoseconds = time state)
    {looks : List Look}
    (undecided : ∀ look ∈ looks, Undecided session rule name budget operation start look)
    (follows : world.Follows state (looks.flatMap (Look.events budget.interval)) later) :
    time later < time state + budget.timeout.nanoseconds := by
  rcases follows.lastLook with ⟨rfl, rfl⟩ | ⟨before, last, middle, rfl, others, own⟩
  · omega
  · obtain ⟨_, told⟩ := own.slept.sent
    generalize (world (.send last.request) (world (.sleep budget.interval) middle).2).2 = answered
      at told
    obtain ⟨now, rest⟩ := told.told
    have stays := moves.stays answered
    have tells := moves.tells answered
    rw [← now] at tells
    rw [← rest.eq_of_nil] at stays
    have early := (undecided last (by simp)).now_lt
    omega

end Undecided

end Time

namespace Sync

/-- How a wait ends: it returns after a limited number of looks, and a timeout is reported only when
the time is over. -/
structure Ended (rule : StatusRule) (name : String) (budget : Budget) (most : Nat)
    (events : List Event) (ending : Except Abort (Except Error Outcome)) : Prop where
  returns : ∃ result, ending = .ok result
  looks : (looksIn rule name events).length ≤ most
  late : ∀ who operation elapsed, ending = .ok (.error (.timeout who operation elapsed)) →
    budget.timeout.toBinary64.le elapsed = true

/-- The states of the world when the first request of a course has been answered, when its last one,
a look, is sent, and when that has been answered. -/
inductive Timeline (world : World σ) (rule : StatusRule) (name : String) :
    (state : σ) → List Event → (begun asked answered later : σ) → Prop where
  | intro {state begun asked answered later : σ} {first last : Request} {done reply : Reply}
      {before after : List Event} (begins : world.Follows state [.sent first done] begun)
      (between : world.Follows begun before asked) (looks : LooksAt rule name last)
      (ends : world.Follows asked [.sent last reply] answered)
      (rest : world.Follows answered after later) (silent : requests after = []) :
      Timeline world rule name state (.sent first done :: (before ++ .sent last reply :: after))
        begun asked answered later

/-- Whether a wait, if it looks at all, is over less than one interval and its last request after
the timeout. The time is counted from the answer to its first request. -/
def EndsSoon (world : World σ) (time : σ → Nat) (rule : StatusRule) (name : String)
    (budget : Budget) (state : σ) (events : List Event) (later : σ) : Prop :=
  looksIn rule name events ≠ [] → ∃ begun asked answered,
    Timeline world rule name state events begun asked answered later ∧
      time later < time begun + budget.timeout.nanoseconds + budget.interval.nanoseconds +
        (time answered - time asked)

section Ended

variable {world : World σ} {time : σ → Nat} {session : Session} {rule : StatusRule} {name : String}
  {budget : Budget} {operation : Transition} {begin : Instant} {limit : Nat} {events : List Event}
  {ending : Except Abort (Except Error Outcome)} {state later : σ} {verb : String}

theorem Awaited.ended (keeps : world.KeepsTime time) (timeout : 0 < budget.timeout.nanoseconds)
    (interval : 0 < budget.interval.nanoseconds) (enough : budget.looks ≤ limit)
    (started : begin.nanoseconds ≤ time state) (follows : world.Follows state events later)
    (awaited : Awaited session rule name budget operation begin 0 limit events ending) :
    Ended rule name budget budget.looks events ending := by
  cases awaited with
  | decided looks undecided allowed last =>
    obtain ⟨middle, before, _⟩ := follows.between
    have early := keeps.undecided timeout started undecided before
    have count : looks.length < budget.looks := (Budget.lt_looks_iff interval).mpr early
    refine ⟨⟨_, rfl⟩, Nat.le_trans (length_looksIn_le ..) ?_, ?_⟩
    · obtain ⟨request, asked, _⟩ := last.requests
      rw [requests_append, requests_looks, asked, List.length_append, List.length_map]
      exact count
    · rintro who aim elapsed ⟨⟩
      exact last.late
  | usedUp looks undecided used =>
    have early := keeps.undecided timeout started undecided follows
    have count : looks.length < budget.looks := (Budget.lt_looks_iff interval).mpr early
    omega

theorem Changed.ended (keeps : world.KeepsTime time) (timeout : 0 < budget.timeout.nanoseconds)
    (interval : 0 < budget.interval.nanoseconds) (enough : budget.looks ≤ limit)
    (other : verb ≠ "DISPLAY") (follows : world.Follows state events later)
    (changed : Changed session rule name budget verb operation limit events ending) :
    Ended rule name budget budget.looks events ending := by
  cases changed with
  | failed carries fails =>
    refine ⟨⟨_, rfl⟩, ?_, ?_⟩
    · rw [looksIn_sent_of_carries rule name other carries]
      exact Nat.zero_le _
    · rintro who aim elapsed ⟨⟩
      exact absurd fails verdict_ne_timeout
  | awaited carries done waits =>
    obtain ⟨_, told⟩ := follows.sent
    obtain ⟨now, rest⟩ := told.told
    have ended := waits.ended keeps timeout interval enough (now ▸ (keeps.tells _).2) rest
    refine ⟨ended.returns, ?_, ended.late⟩
    rw [looksIn_sent_of_carries rule name other carries]
    exact ended.looks

/-- The last look begins one interval after a time at which the timeout was not over. -/
theorem Changed.endsSoon (keeps : world.KeepsTime time) (moves : world.MovesByWaiting time)
    (timeout : 0 < budget.timeout.nanoseconds) (interval : 0 < budget.interval.nanoseconds)
    (enough : budget.looks ≤ limit) (other : verb ≠ "DISPLAY")
    (follows : world.Follows state events later)
    (changed : Changed session rule name budget verb operation limit events ending) :
    EndsSoon world time rule name budget state events later := by
  intro looked
  cases changed with
  | failed carries fails =>
    rw [looksIn_sent_of_carries rule name other carries] at looked
    exact absurd rfl looked
  | @awaited reply records since events ending request carries done waits =>
    rw [← List.singleton_append] at follows
    obtain ⟨begun, begins, told⟩ := follows.between
    obtain ⟨rfl, rest⟩ := told.told
    have ended := waits.ended keeps timeout interval enough (keeps.tells begun).2 rest
    cases waits with
    | usedUp looks undecided used =>
      obtain ⟨result, returned⟩ := ended.returns
      cases returned
    | decided looks undecided allowed last =>
      obtain ⟨look, answer, after, rfl, lookedAt, only⟩ := last.events_eq
      have split (waiting : List Event) :
          waiting ++ .slept budget.interval :: .sent look answer :: after =
            (waiting ++ [.slept budget.interval]) ++ ([.sent look answer] ++ after) := by simp
      rw [split] at rest ⊢
      obtain ⟨asked, waiting, sent⟩ := rest.between
      obtain ⟨answered, ends, telling⟩ := sent.between
      obtain ⟨middle, before, slept⟩ := waiting.between
      refine ⟨begun, asked, answered, .intro begins (.cons .now waiting) lookedAt ends
        telling only.requests, ?_⟩
      have stays := moves.stays begun
      have early := moves.undecided timeout ((moves.tells begun).trans stays.symm) undecided before
      have waited := moves.waits budget.interval middle
      rw [← slept.slept.eq_of_nil] at waited
      have told := moves.onlyTells only telling
      have onward := keeps.onward_follows ends
      omega

end Ended

/-- Whether an operation ends so in every session and state of a world. -/
def Ends (world : World σ) (rule : StatusRule) (name : String) (budget : Budget) (most : Nat)
    (operation : Operation Outcome) : Prop :=
  ∀ session state, Ended rule name budget most (operation.course world session state).events
    ((operation.course world session state).ending.map Prod.fst)

section Ends

variable {world : World σ} {time : σ → Nat} {rule : StatusRule} {name : String} {budget : Budget}
  {most more : Nat}

theorem ends_pure (outcome : Outcome) : Ends world rule name budget 0 (pure outcome) := by
  intro session state
  rw [Operation.course_pure]
  refine ⟨⟨_, rfl⟩, Nat.le_refl _, ?_⟩
  rintro who operation elapsed ⟨⟩

/-- One after the other, two operations look as often as both together. -/
theorem Ends.bind {first : Operation Outcome} {next : Outcome → Operation Outcome}
    (own : Ends world rule name budget most first)
    (rest : ∀ outcome, Ends world rule name budget more (next outcome)) :
    Ends world rule name budget (most + more) (first >>= next) := by
  intro session state
  have ended := own session state
  rcases course : first.course world session state with ⟨events, ending, later⟩
  rw [course] at ended
  obtain ⟨⟨result, returned⟩, looks, late⟩ := ended
  cases ending with
  | error cause => cases returned
  | ok value =>
    obtain ⟨result, after⟩ := value
    cases result with
    | error error =>
      rw [Operation.course_bind_error next course]
      exact ⟨⟨_, rfl⟩, Nat.le_trans looks (Nat.le_add_right ..), late⟩
    | ok outcome =>
      rw [Operation.course_bind_ok next course]
      obtain ⟨returns, others, tooLate⟩ := rest outcome after later
      refine ⟨returns, ?_, tooLate⟩
      rw [Course.after, looksIn_append, List.length_append]
      exact Nat.add_le_add looks others

variable {verb : String} {operation : Transition}

theorem change_ends (keeps : world.KeepsTime time) (upper : Text.upper verb = verb)
    (other : verb ≠ "DISPLAY") (budget : Budget) {limit : Nat}
    (enough : budget.normalized.looks ≤ limit) :
    Ends world rule name budget.normalized budget.normalized.looks
      (change verb operation limit rule name budget.normalized) := by
  intro session state
  exact (change_changed world session state verb operation rule name _ upper limit).ended keeps
    budget.timeout_normalized_pos budget.interval_normalized_pos enough other
    (Dialogue.course_follows ..)

/-- More looks than intervals fit into the timeout are never made. -/
theorem change_enough (keeps : world.KeepsTime time) (upper : Text.upper verb = verb)
    (other : verb ≠ "DISPLAY") (budget : Budget) {limit : Nat}
    (enough : budget.normalized.looks ≤ limit) :
    (change verb operation limit rule name budget.normalized).course world =
      (change verb operation budget.normalized.looks rule name budget.normalized).course world := by
  funext session state
  obtain ⟨more, rfl⟩ := Nat.exists_eq_add_of_le enough
  refine change_add world session state verb operation rule name _ _ more fun endless => ?_
  have ends : Ends world rule name budget.normalized budget.normalized.looks
      (change verb operation budget.normalized.looks rule name budget.normalized) :=
    change_ends keeps upper other budget (Nat.le_refl _)
  obtain ⟨result, returned⟩ := (ends session state).returns
  rw [endless] at returned
  cases returned

theorem change_endsSoon (keeps : world.KeepsTime time) (moves : world.MovesByWaiting time)
    (upper : Text.upper verb = verb) (other : verb ≠ "DISPLAY") (budget : Budget)
    (session : Session) (state : σ) :
    let course := (change verb operation budget.normalized.looks rule name
      budget.normalized).course world session state
    EndsSoon world time rule name budget.normalized state course.events course.state :=
  (change_changed world session state verb operation rule name _ upper _).endsSoon keeps moves
    budget.timeout_normalized_pos budget.interval_normalized_pos (Nat.le_refl _) other
    (Dialogue.course_follows ..)

end Ends

/-- On a clock that keeps time every wait comes to its end, after no more looks than intervals fit
into the timeout, and it needs no limit for that. On an exact clock the last look is over soon after
the timeout. -/
theorem waits_end {world : World σ} {time : σ → Nat} (keeps : world.KeepsTime time)
    (rule : StatusRule) (name : String) (budget : Budget) :
    (∀ limit, budget.normalized.looks ≤ limit →
      (startWithin limit rule name budget).course world = (start rule name budget).course world ∧
      (stopWithin limit rule name budget).course world = (stop rule name budget).course world ∧
      (restartWithin limit rule name budget).course world =
        (restart rule name budget).course world) ∧
    Ends world rule name budget.normalized budget.normalized.looks (start rule name budget) ∧
    Ends world rule name budget.normalized budget.normalized.looks (stop rule name budget) ∧
    Ends world rule name budget.normalized (2 * budget.normalized.looks)
      (restart rule name budget) ∧
    (world.MovesByWaiting time → ∀ session state,
      let started := (start rule name budget).course world session state
      let stopped := (stop rule name budget).course world session state
      EndsSoon world time rule name budget.normalized state started.events started.state ∧
        EndsSoon world time rule name budget.normalized state stopped.events stopped.state) := by
  have starts {limit : Nat} (enough : budget.normalized.looks ≤ limit) :
      (startWithin limit rule name budget).course world = (start rule name budget).course world :=
    change_enough keeps Text.upper_start (by decide) budget enough
  have stops {limit : Nat} (enough : budget.normalized.looks ≤ limit) :
      (stopWithin limit rule name budget).course world = (stop rule name budget).course world :=
    change_enough keeps Text.upper_stop (by decide) budget enough
  have started : Ends world rule name budget.normalized budget.normalized.looks
      (start rule name budget) :=
    change_ends keeps Text.upper_start (by decide) budget (Nat.le_refl _)
  have stopped : Ends world rule name budget.normalized budget.normalized.looks
      (stop rule name budget) :=
    change_ends keeps Text.upper_stop (by decide) budget (Nat.le_refl _)
  refine ⟨fun limit enough => ⟨starts enough, stops enough, ?_⟩, started, stopped, ?_,
    fun moves session state => ⟨?_, ?_⟩⟩
  · funext session state
    simp only [restart, restartWithin, Operation.course_bind, starts enough, stops enough]
    rfl
  · have both := stopped.bind fun stopped => started.bind fun started => ends_pure
      ⟨.restarted, stopped.polls + started.polls, stopped.elapsed.add started.elapsed⟩
    rwa [Nat.add_zero, ← Nat.two_mul] at both
  · exact change_endsSoon keeps moves Text.upper_start (by decide) budget session state
  · exact change_endsSoon keeps moves Text.upper_stop (by decide) budget session state

/-- A world that answers every request in a fifth of a second with an empty object, on an exact
clock that counts nanoseconds. -/
def stopwatch : World Nat
  | .send _, time => (.ok ⟨200, "\x7b\x7d", ∅⟩, time + 200000000)
  | .sleep duration, time => ((), time + duration.nanoseconds)
  | .now, time => (⟨time⟩, time)
  | .read _, time => (.error "no such file", time)

theorem stopwatch_movesByWaiting : stopwatch.MovesByWaiting id where
  waits _ _ := rfl
  tells _ := rfl
  stays _ := rfl

theorem stopwatch_keepsTime : stopwatch.KeepsTime id where
  onward question time := by
    cases question with
    | send => exact Nat.le_add_right time 200000000
    | sleep duration => exact Nat.le_add_right time duration.nanoseconds
    | now | read => exact Nat.le_refl time
  waits _ _ := Nat.le_refl _
  tells _ := ⟨Nat.le_refl _, Nat.le_refl _⟩

def unmapped : Session where
  settings := { baseUrl := "https://mq:9443/ibmmq/rest/v2", queueManager := "QM1" }
  baseUrl := "https://mq:9443/ibmmq/rest/v2"
  credentials := .basic "admin" "secret"
  mapper := none
  token := none
  budget := {}

/-- Without a budget the default one is used. The status never shows the listener running, so the
wait is over at the first look after half a minute. -/
theorem waits_end_stopwatch :
    let started := (start .listener "L1" ⟨.zero, .zero⟩).course stopwatch unmapped 0
    Ends stopwatch .listener "L1" {} 60 (restart .listener "L1" ⟨.zero, .zero⟩) ∧
      (looksIn .listener "L1" started.events).length = 25 ∧
      EndsSoon stopwatch id .listener "L1" {} 0 started.events started.state := by
  obtain ⟨_, _, _, both, soon⟩ := waits_end stopwatch_keepsTime .listener "L1" ⟨.zero, .zero⟩
  exact ⟨both, by decide +kernel, (soon stopwatch_movesByWaiting unmapped 0).1⟩

end Sync

end MqAdmin
