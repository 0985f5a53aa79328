import MqAdmin.Proofs.Ensure.Convergence
import MqAdmin.Proofs.Ensure.LeastChange

namespace MqAdmin.Ensure

def managerDisplay : Command :=
  { verb := "DISPLAY", qualifier := "QMGR", responseParameters := some ["all"] }

def managerAlter (change : Attributes) : Command :=
  { verb := "ALTER", qualifier := "QMGR", parameters := change }

/-- What is sent to bring the queue manager to desired attributes, and the result. -/
inductive Manages (session : Session) (desired : Attributes) :
    List Event → Except Error Outcome → Prop where
  | idle (nothing : desired = ∅) : Manages session desired [] (.ok ⟨.unchanged, []⟩)
  | undisplayed (something : desired ≠ ∅)
      (carries : display.payload.Carries "DISPLAY" "QMGR" none ∅)
      (judged : session.verdict (session.kind? managerDisplay) reply = .error error) :
      Manages session desired [.sent display reply] (.error error)
  | displayed (something : desired ≠ ∅)
      (carries : display.payload.Carries "DISPLAY" "QMGR" none ∅)
      (judged : session.verdict (session.kind? managerDisplay) reply = .ok records)
      (altered : Altered session (managerAlter ∅) desired (records.head?.getD ∅) events result) :
      Manages session desired (.sent display reply :: events) result

structure Adjusted (session : Session) (change : Attributes) (events : List Event)
    (result : Except Error Outcome) : Prop where
  atMostOne : (requests events).length ≤ 1
  carries : ∀ request ∈ requests events, Carries session (managerAlter change) request
  sent_iff : requests events ≠ [] ↔ change ≠ ∅ ∧ ¬ session.Stops (managerAlter change)
  updated_iff : ∀ names, result = .ok ⟨.updated, names⟩ ↔ names = change.keys ∧
    ∃ request reply records, events = [.sent request reply] ∧
      session.verdict (session.kind? (managerAlter change)) reply = .ok records
  unchanged_iff : ∀ names, result = .ok ⟨.unchanged, names⟩ ↔ names = [] ∧ change = ∅
  failed_iff : ∀ error, result = .error error ↔
    (session.Stops (managerAlter change) ∧
        error = .mapping (session.wireParameters (managerAlter change)).issues) ∨
      ∃ request reply, events = [.sent request reply] ∧
        session.verdict (session.kind? (managerAlter change)) reply = .error error

/-- What followed on the display of the queue manager: a failure of any kind is the end, and
otherwise the attributes that differ from those of the first record are altered. -/
structure Followed (session : Session) (desired : Attributes)
    (shown : Except Error (List Attributes)) (events : List Event)
    (result : Except Error Outcome) : Prop where
  failed : ∀ error, shown = .error error → events = [] ∧ result = .error error
  altered : ∀ records, shown = .ok records → ∃ change : Attributes,
    (∀ name value, change.get? name = some value ↔
      desired.get? name = some value ∧ Differs (records.head?.getD ∅) name value) ∧
    Adjusted session change events result

/-- How the queue manager was brought to desired attributes, told from outside. -/
structure Maintained (session : Session) (desired : Attributes) (events : List Event)
    (result : Except Error Outcome) : Prop where
  undefined : ∀ request ∈ requests events, ¬ HasVerb "DEFINE" request
  unnamed : ∀ request ∈ requests events, request.payload.get? "name" = none
  uncreated : ∀ names, result ≠ .ok ⟨.created, names⟩
  idle : desired = ∅ → events = [] ∧ result = .ok ⟨.unchanged, []⟩
  displayed : desired ≠ ∅ → ∃ display reply rest, events = .sent display reply :: rest ∧
    display.payload.Carries "DISPLAY" "QMGR" none ∅ ∧
    Followed session desired (session.verdict (session.kind? managerDisplay) reply) rest result

section Course

variable {σ : Type} (world : World σ) (session : Session) (desired : Attributes) (state : σ)

theorem queueManager_eq (something : desired ≠ ∅) : queueManager desired =
    Session.execute managerDisplay >>= fun records =>
      alter (managerAlter ∅) desired (records.head?.getD ∅) := by
  rw [queueManager, if_neg (mt KeyMap.isEmpty_iff.mp something)]
  rfl

theorem queueManager_manages : ∃ events result after later,
    (queueManager desired).course world session state = ⟨events, .ok (result, after), later⟩ ∧
      Manages session desired events result := by
  by_cases nothing : desired = ∅
  · refine ⟨[], .ok ⟨.unchanged, []⟩, session, state, ?_, .idle nothing⟩
    rw [queueManager, if_pos (KeyMap.isEmpty_iff.mpr nothing)]
    exact Operation.course_pure ..
  · rw [queueManager_eq desired nothing]
    obtain ⟨display, carries, course⟩ := Session.execute_course_of_bare managerDisplay rfl rfl rfl
      session world state
    cases judged : session.verdict (session.kind? managerDisplay)
      (world (.send display) state).1 with
    | error error =>
      rw [judged] at course
      exact ⟨_, _, _, _, Operation.course_bind_error _ course, .undisplayed nothing carries judged⟩
    | ok records =>
      rw [judged] at course
      obtain ⟨events, result, after, later, followed, altered, _⟩ :=
        alter_altered (managerAlter ∅) rfl rfl desired (records.head?.getD ∅) world
          (session.noted display.payload (world (.send display) state).1)
          (world (.send display) state).2
      refine ⟨_, result, after, later, ?_,
        .displayed nothing carries judged altered.of_noting⟩
      rw [Operation.course_bind_ok _ course]
      exact congrArg (Course.after _) followed

end Course

section Manages

variable {session : Session} {desired current : Attributes} {events : List Event}
  {result : Except Error Outcome}

theorem Altered.adjusted
    (altered : Altered session (managerAlter ∅) desired current events result) :
    Adjusted session (changed desired current) events result := by
  cases altered with
  | keep same => constructor <;> simp [same, Session.not_stops_of_empty, managerAlter]
  | update differs attempt =>
    -- An alteration with other parameters is the alteration with these.
    change Attempt session (managerAlter (changed desired current)) _ _ _ at attempt
    cases attempt with
    | stopped stops =>
      constructor <;> simp [stops, differs, eq_comm]
    | failed goesOn carries judged =>
      constructor <;> simp [goesOn, differs, carries, judged, and_assoc]
    | done goesOn carries judged =>
      constructor <;> simp [goesOn, differs, carries, judged, and_assoc, eq_comm]

theorem Altered.notCreated {command : Command}
    (altered : Altered session command desired current events result) (names : List String) :
    result ≠ .ok ⟨.created, names⟩ := by
  cases altered with
  | keep same => simp
  | update differs attempt =>
    rintro rfl
    simpa using attempt.succeeds.1

/-- The queue manager is displayed or altered, without a name. -/
theorem Manages.request (manages : Manages session desired events result) :
    ∀ request ∈ requests events, request.payload.get? "name" = none ∧
      (HasVerb "DISPLAY" request ∨ HasVerb "ALTER" request) := by
  intro request sent
  cases manages with
  | idle nothing => simp at sent
  | undisplayed something carries judged =>
    obtain rfl : request = _ := by simpa using sent
    exact ⟨carries.name, .inl carries.command⟩
  | displayed something carries judged altered =>
    rcases List.mem_cons.mp sent with rfl | later
    · exact ⟨carries.name, .inl carries.command⟩
    · have alters := altered.adjusted.carries request later
      refine ⟨alters.name, .inr ?_⟩
      simpa [HasVerb, managerAlter] using alters.command

theorem Manages.maintained (manages : Manages session desired events result) :
    Maintained session desired events result where
  undefined := by
    intro request sent defines
    rw [HasVerb] at defines
    rcases (manages.request request sent).2 with other | other <;> simp [HasVerb, defines] at other
  unnamed := fun request sent => (manages.request request sent).1
  uncreated := by
    cases manages with
    | idle | undisplayed => simp
    | displayed something carries judged altered => exact altered.notCreated
  idle := by
    rintro rfl
    cases manages with
    | idle => exact ⟨rfl, rfl⟩
    | undisplayed something | displayed something => exact absurd rfl something
  displayed := by
    intro something
    cases manages with
    | idle nothing => exact absurd nothing something
    | undisplayed _ carries judged =>
      refine ⟨_, _, _, rfl, carries, ?_, ?_⟩ <;> simp [judged]
    | displayed _ carries judged altered =>
      refine ⟨_, _, _, rfl, carries, by simp [judged], ?_⟩
      simp only [judged, Except.ok.injEq, forall_eq']
      exact ⟨_, fun name value => get?_changed_iff, altered.adjusted⟩

end Manages

/-- The queue manager is never defined. Where something is desired it is displayed, a failure of the
display is the end, and otherwise it is altered where it differs. -/
theorem queueManager_maintains {σ : Type} (world : World σ) (session : Session)
    (desired : Attributes) (state : σ) : ∃ events result after later,
      (queueManager desired).course world session state = ⟨events, .ok (result, after), later⟩ ∧
        Maintained session desired events result := by
  obtain ⟨events, result, after, later, course, manages⟩ :=
    queueManager_manages world session desired state
  exact ⟨events, result, after, later, course, manages.maintained⟩

end MqAdmin.Ensure
