import MqAdmin.Proofs.Session.Routine

namespace MqAdmin

def Session.relaxed (session : Session) : Session :=
  { session with settings := { session.settings with mappingStrict := false } }

theorem Error.exists_of_isMapping {error : Error} (minded : error.isMapping = true) :
    ∃ issues, error = .mapping issues := by
  cases error with
  | mapping issues => exact ⟨issues, rfl⟩
  | _ => cases minded

theorem Error.isCommand_of_isMapping {error : Error} (minded : error.isMapping = true) :
    error.isCommand = false := by
  obtain ⟨issues, rfl⟩ := exists_of_isMapping minded
  rfl

theorem Command.prepare_relaxed {command : Command} {mapper : Option Mapping.Table} {strict : Bool}
    {prepared : Prepared} (ready : command.prepare mapper strict = .ok prepared) :
    command.prepare mapper false = .ok prepared := by
  unfold prepare at ready ⊢
  cases mapper with
  | none => exact ready
  | some table =>
    dsimp only at ready ⊢
    split at ready
    · cases ready
    · exact ready

namespace Session

/-- What an outcome means it means without strictness as well, unless it is an issue that strictness
minds. -/
theorem Verdict.relaxed {session : Session} {kind : Option String} {reply : Reply}
    {result : Except Error (List Attributes)} (rule : session.Verdict kind reply result) :
    session.relaxed.Verdict kind reply result ∨ ∃ issues, result = .error (.mapping issues) := by
  cases rule with
  | transport failure => exact .inl (.transport failure)
  | auth refused => exact .inl (.auth refused)
  | response heard unread => exact .inl (.response heard unread)
  | command heard read reports => exact .inl (.command heard read reports)
  | plain heard read fine unmapped => exact .inl (.plain heard read fine unmapped)
  | mapped heard read fine maps nonempty accepted =>
    exact .inl (.mapped heard read fine maps nonempty nofun)
  | mapping => exact .inr ⟨_, rfl⟩

theorem verdict_isMapping_of_lenient {session : Session}
    (lenient : session.settings.mappingStrict = false) (kind : Option String) (reply : Reply) :
    ∀ error, session.verdict kind reply = .error error → error.isMapping = false := by
  intro error judged
  have rule := session.verdict_rule kind reply
  rw [judged] at rule
  cases rule with
  | mapping _ _ _ _ _ strict _ =>
    rw [lenient] at strict
    cases strict
  | transport | auth | response | command => rfl

theorem execute_respects_strictness (command : Command) :
    (execute command).Respects (fun session other => other = session.relaxed)
      (fun error => error.isMapping = true) := by
  rintro σ world session _ state rfl
  obtain ⟨before, granted, later, waited, _⟩ := patience_course session command world state
  cases ready : command.prepare session.mapper session.settings.mappingStrict with
  | error issues =>
    rw [execute_course_of_issues ready]
    exact .escaped rfl (List.nil_prefix ..)
  | ok prepared =>
    have relaxedReady : command.prepare session.relaxed.mapper
        session.relaxed.settings.mappingStrict = .ok prepared := Command.prepare_relaxed ready
    have relaxedWaited : (session.relaxed.patience command.deadline).course world state =
        ⟨before, .ok granted, later⟩ := waited
    cases granted with
    | none =>
      rw [execute_course_of_overdue ready waited,
        execute_course_of_overdue relaxedReady relaxedWaited]
      exact .alike rfl
    | some timeout =>
      rw [execute_course_of_timely ready waited,
        execute_course_of_timely relaxedReady relaxedWaited]
      have request : session.relaxed.request prepared.payload timeout =
        session.request prepared.payload timeout := rfl
      rw [request]
      dsimp only
      generalize session.request prepared.payload timeout = request
      rcases (session.verdict_rule prepared.kind (world (.send request) later).1).relaxed with
        same | ⟨issues, minded⟩
      · rw [← same.eq_verdict]
        exact .alike rfl
      · rw [minded]
        exact .escaped rfl List.prefix_rfl

/-- A session that lets issues pass never fails for one, and stays such a session. -/
theorem execute_maintains_lenience (command : Command) :
    (execute command).Maintains (fun session => session.settings.mappingStrict = false)
      (fun error _ => error.isMapping = false) := by
  intro σ world session state result after lenient ended
  have executed := execute_executed world session command state
  generalize (execute command).course world session state = course at executed ended
  cases executed with
  | stopped stops _ =>
    have strict := stops.1
    rw [lenient] at strict
    cases strict
  | overdue _ _ _ =>
    cases ended
    exact ⟨lenient, by rintro _ ⟨⟩; rfl⟩
  | sent _ _ _ =>
    cases ended
    exact ⟨lenient, verdict_isMapping_of_lenient lenient _ _⟩

end Session

namespace Call

/-- For every call: unless a strict session fails for an issue, one that lets issues pass asks and
sends the same, comes to the same and remembers the same. What a strict session sent before it
failed for an issue, the other one sends as well. And that one never fails for an issue. -/
theorem relaxed_goes_along {σ : Type} (world : World σ) (session : Session) (state : σ)
    (call : Call) :
    let strict := call.operation.course world session state
    let lenient := call.operation.course world session.relaxed state
    ((∀ issues after, strict.ending ≠ .ok (.error (.mapping issues), after)) →
      lenient.events = strict.events ∧ lenient.state = strict.state ∧
        lenient.ending = strict.ending.map fun (result, after) => (result, after.relaxed)) ∧
    (∀ issues after, strict.ending = .ok (.error (.mapping issues), after) →
      requests strict.events <+: requests lenient.events) ∧
    ∀ issues after, lenient.ending ≠ .ok (.error (.mapping issues), after) := by
  have routine := Routine.of_call call
  have along := routine.respects Session.execute_respects_strictness
    (fun _ => Error.isCommand_of_isMapping) world session session.relaxed state rfl
  have never := routine.maintains Session.execute_maintains_lenience (fun _ _ _ mapped => mapped)
    world session.relaxed state
  generalize call.operation.course world session.relaxed state = lenient at along never
  generalize call.operation.course world session state = strict at along
  refine ⟨fun unminded => ?_, fun issues after ended => ?_, fun issues after ended => ?_⟩
  · cases along with
    | alike same =>
      subst same
      exact ⟨rfl, rfl, rfl⟩
    | aborted => exact ⟨rfl, rfl, rfl⟩
    | escaped escape further =>
      obtain ⟨issues, rfl⟩ := Error.exists_of_isMapping escape
      exact absurd rfl (unminded issues _)
  · cases along with
    | alike same =>
      cases ended
      have mapped := (never _ _ rfl rfl).2 _ rfl
      cases mapped
    | aborted => cases ended
    | escaped escape further =>
      obtain ⟨more, whole⟩ := further
      exact ⟨requests more, by rw [← whole, requests_append]⟩
  · have mapped := (never _ _ rfl ended).2 _ rfl
    cases mapped

end Call

end MqAdmin
