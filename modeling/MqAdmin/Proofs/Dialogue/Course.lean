import MqAdmin.Dialogue.Basic

/-!
The course that a dialogue takes with a given world outside: what is asked, what is answered, and
what it ends with. A world answers by a state of its own, so servers that remember and clocks of
any kind are worlds, and what holds for every world and every state holds whatever happens.
-/

namespace MqAdmin

/-- A world outside, as it answers in a state. -/
abbrev World (σ : Type) := (question : Question) → σ → question.Answer × σ

/-- A question with the answer that it got. -/
inductive Event where
  | sent (request : Request) (reply : Reply)
  | slept (duration : Duration)
  | told (now : Instant)
  | read (path : String) (text : Except String String)

namespace Event

def of : (question : Question) → question.Answer → Event
  | .send request, reply => .sent request reply
  | .sleep duration, _ => .slept duration
  | .now, now => .told now
  | .read path, text => .read path text

def request? : Event → Option Request
  | .sent request _ => some request
  | _ => none

end Event

def requests (events : List Event) : List Request := events.filterMap Event.request?

@[simp] theorem requests_nil : requests [] = [] := rfl

@[simp] theorem requests_sent (request : Request) (reply : Reply) (events : List Event) :
    requests (.sent request reply :: events) = request :: requests events := rfl

@[simp] theorem requests_slept (duration : Duration) (events : List Event) :
    requests (.slept duration :: events) = requests events := rfl

@[simp] theorem requests_told (now : Instant) (events : List Event) :
    requests (.told now :: events) = requests events := rfl

@[simp] theorem requests_append (first second : List Event) :
    requests (first ++ second) = requests first ++ requests second := by
  simp [requests]

theorem mem_requests_of_sent {request : Request} {reply : Reply} {events : List Event}
    (member : .sent request reply ∈ events) : request ∈ requests events :=
  List.mem_filterMap.mpr ⟨_, member, rfl⟩

/-- What a dialogue comes to in a world: the events in order, its value unless it was aborted, and
the state in which it leaves the world. -/
structure Course (σ α : Type) where
  events : List Event
  ending : Except Abort α
  state : σ

namespace Course

variable {σ α β : Type}

/-- The course with other events before its own. -/
def after (events : List Event) (course : Course σ α) : Course σ α :=
  { course with events := events ++ course.events }

/-- One course, and then another that goes on from its value. -/
def andThen (course : Course σ α) (next : α → σ → Course σ β) : Course σ β :=
  match course.ending with
  | .ok value => (next value course.state).after course.events
  | .error cause => ⟨course.events, .error cause, course.state⟩

@[simp] theorem after_after (first second : List Event) (course : Course σ α) :
    (course.after second).after first = course.after (first ++ second) := by
  simp [after]

theorem andThen_ok (events : List Event) (value : α) (state : σ) (next : α → σ → Course σ β) :
    (⟨events, .ok value, state⟩ : Course σ α).andThen next = (next value state).after events := rfl

theorem after_andThen (events : List Event) (course : Course σ α) (next : α → σ → Course σ β) :
    (course.after events).andThen next = (course.andThen next).after events := by
  obtain ⟨own, ending, state⟩ := course
  cases ending with
  | ok value => simp [andThen, after]
  | error cause => rfl

end Course

/-- Whether events are what a world answers to one question after the other, from one state to
another. -/
inductive World.Follows {σ : Type} (world : World σ) : σ → List Event → σ → Prop where
  | nil (state : σ) : Follows world state [] state
  | cons (question : Question)
      (rest : Follows world (world question state).2 events later) :
      Follows world state (.of question (world question state).1 :: events) later

theorem World.Follows.sent {σ : Type} {world : World σ} {state later : σ} {events : List Event}
    {request : Request} {reply : Reply}
    (follows : World.Follows world state (.sent request reply :: events) later) :
    reply = (world (.send request) state).1 ∧
      World.Follows world (world (.send request) state).2 events later := by
  generalize whole : Event.sent request reply :: events = all at follows
  cases follows with
  | nil => cases whole
  | cons question rest =>
    cases question <;> cases whole
    exact ⟨rfl, rest⟩

theorem World.Follows.slept {σ : Type} {world : World σ} {state later : σ} {events : List Event}
    {duration : Duration} (follows : World.Follows world state (.slept duration :: events) later) :
    World.Follows world (world (.sleep duration) state).2 events later := by
  generalize whole : Event.slept duration :: events = all at follows
  cases follows with
  | nil => cases whole
  | cons question rest =>
    cases question <;> cases whole
    exact rest

theorem World.Follows.told {σ : Type} {world : World σ} {state later : σ} {events : List Event}
    {now : Instant} (follows : World.Follows world state (.told now :: events) later) :
    now = (world .now state).1 ∧ World.Follows world (world .now state).2 events later := by
  generalize whole : Event.told now :: events = all at follows
  cases follows with
  | nil => cases whole
  | cons question rest =>
    cases question <;> cases whole
    exact ⟨rfl, rest⟩

theorem World.Follows.eq_of_nil {σ : Type} {world : World σ} {state later : σ}
    (follows : World.Follows world state [] later) : later = state := by
  cases follows
  rfl

theorem World.Follows.between {σ : Type} {world : World σ} {first second : List Event}
    {state later : σ} (follows : World.Follows world state (first ++ second) later) :
    ∃ middle, World.Follows world state first middle ∧ World.Follows world middle second later := by
  induction first generalizing state with
  | nil => exact ⟨state, .nil state, follows⟩
  | cons event rest ih =>
    generalize whole : event :: rest ++ second = all at follows
    cases follows with
    | nil => cases whole
    | cons question after =>
      cases whole
      obtain ⟨middle, before, last⟩ := ih after
      exact ⟨middle, .cons question before, last⟩

namespace Dialogue

variable {σ α β : Type}

def course (world : World σ) : Dialogue α → σ → Course σ α
  | .done value, state => ⟨[], .ok value, state⟩
  | .ask question next, state =>
    ((next (world question state).1).course world (world question state).2).after
      [.of question (world question state).1]
  | .abort cause, state => ⟨[], .error cause, state⟩

theorem course_bind (world : World σ) (dialogue : Dialogue α) (next : α → Dialogue β)
    (state : σ) : (dialogue >>= next).course world state =
      (dialogue.course world state).andThen fun value later => (next value).course world later := by
  induction dialogue generalizing state with
  | done value => rfl
  | ask question rest ih =>
    rw [ask_bind, course, course, ih, Course.after_andThen]
  | abort cause => rfl

/-- Nothing but the world's answers happens in a course. -/
theorem course_follows (world : World σ) (dialogue : Dialogue α) (state : σ) :
    World.Follows world state (dialogue.course world state).events
      (dialogue.course world state).state := by
  induction dialogue generalizing state with
  | done value => exact .nil state
  | ask question rest ih => exact .cons question (ih _ _)
  | abort cause => exact .nil state

/-- Playing a dialogue with a world comes to the ending and the state of its course. -/
theorem run_eq_course (world : World σ) (dialogue : Dialogue α) (state : σ) :
    (dialogue.run (fun question => ExceptT.lift (world question)) (fun cause => throw cause) :
      ExceptT Abort (StateM σ) α).run state =
      ((dialogue.course world state).ending, (dialogue.course world state).state) := by
  induction dialogue generalizing state with
  | done value => rfl
  | ask question rest ih => exact ih (world question state).1 (world question state).2
  | abort cause => rfl

end Dialogue

end MqAdmin
