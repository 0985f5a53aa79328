import MqAdmin.Session.Execute

/-!
What the outcome of sending a command means, as rules. The conditions of the rules exclude each
other and one of them always holds, so an outcome means exactly one thing.
-/

namespace MqAdmin

namespace Answer

def HoldsCode (value : Json) (name : String) : Prop :=
  ∃ number : Number, value.get? name = some (.number number) ∧ number.isZero = false

/-- Whether a payload reports a failure, of the whole command or of one of its items. -/
inductive Reports (payload : Json) : Prop where
  | overall (named : name ∈ ["overallCompletionCode", "overallReasonCode"])
      (code : HoldsCode payload name) : Reports payload
  | item (found : payload.get? "commandResponse" = some (.array listed)) (member : item ∈ listed)
      (named : name ∈ ["completionCode", "reasonCode"]) (code : HoldsCode item name) :
      Reports payload

theorem hasCode_iff (value : Json) (name : String) :
    hasCode value name = true ↔ HoldsCode value name := by
  unfold hasCode HoldsCode
  cases value.get? name with
  | none => simp
  | some code => cases code <;> simp [Json.isNonZeroNumber]

theorem mem_items_iff (payload item : Json) :
    item ∈ items payload ↔
      ∃ listed, payload.get? "commandResponse" = some (.array listed) ∧ item ∈ listed := by
  unfold items
  cases payload.get? "commandResponse" with
  | none => simp
  | some value => cases value <;> simp [Json.array?]

/-- The test for a failure finds every code other than zero, and nothing else. -/
theorem reportsFailure_iff (payload : Json) : reportsFailure payload = true ↔ Reports payload := by
  simp only [reportsFailure, Bool.or_eq_true, List.any_eq_true, hasCode_iff]
  constructor
  · rintro ((completion | reason) | ⟨item, member, codes⟩)
    · exact .overall (by simp) completion
    · exact .overall (by simp) reason
    · obtain ⟨listed, found, present⟩ := (mem_items_iff payload item).mp member
      rcases codes with completion | reason
      · exact .item found present (by simp) completion
      · exact .item found present (by simp) reason
  · intro reports
    cases reports with
    | overall named code =>
      rcases List.mem_cons.mp named with rfl | named
      · exact .inl (.inl code)
      · exact .inl (.inr (List.mem_singleton.mp named ▸ code))
    | item found member named code =>
      refine .inr ⟨_, (mem_items_iff payload _).mpr ⟨_, found, member⟩, ?_⟩
      rcases List.mem_cons.mp named with rfl | named
      · exact .inl code
      · exact .inr (List.mem_singleton.mp named ▸ code)

end Answer

namespace Response

def Refuses (response : Response) : Prop := response.status = 401 ∨ response.status = 403

def Reads (response : Response) (payload : Json) : Prop :=
  ∃ fields, payload = .object fields ∧ Json.parse? response.body = some payload

theorem isRefusal_iff (response : Response) : response.isRefusal = true ↔ response.Refuses := by
  simp [isRefusal, Refuses]

theorem payload?_eq_some_iff {response : Response} (heard : ¬ response.Refuses) {payload : Json} :
    response.payload? = some payload ↔ response.Reads payload := by
  have notRefused : response.isRefusal = false :=
    Bool.eq_false_iff.mpr fun refusal => heard (response.isRefusal_iff.mp refusal)
  rw [payload?, notRefused]
  simp only [Bool.false_eq_true, ↓reduceIte]
  constructor
  · intro found
    split at found
    · rename_i fields parsed
      cases found
      exact ⟨fields, rfl, parsed⟩
    · cases found
  · rintro ⟨fields, rfl, parsed⟩
    simp [parsed]

end Response

namespace Session

def Maps (session : Session) (kind : Option String) (table : Mapping.Table) (name : String) :
    Prop :=
  session.mapper = some table ∧ kind = some name ∧ (table.qualifier? name).isSome = true

/-- The rules by which the outcome of sending a command is judged. -/
inductive Verdict (session : Session) (kind : Option String) :
    Reply → Except Error (List Attributes) → Prop where
  | transport (failure : Failure) :
      Verdict session kind (.error failure) (.error (.transport failure.url failure.message))
  /-- Refused, whatever the body is. -/
  | auth (refused : response.Refuses) :
      Verdict session kind (.ok response) (.error (.auth session.commandUrl response.status))
  | response (heard : ¬ response.Refuses) (unread : ∀ payload, ¬ response.Reads payload) :
      Verdict session kind (.ok response) (.error (.response response.status response.body))
  /-- A failure is reported, whatever the status is. -/
  | command (heard : ¬ response.Refuses) (read : response.Reads payload)
      (reports : Answer.Reports payload) :
      Verdict session kind (.ok response) (.error (.command response.status payload))
  /-- Records that no table is for, or none at all. -/
  | plain (heard : ¬ response.Refuses) (read : response.Reads payload)
      (fine : ¬ Answer.Reports payload)
      (unmapped : ∀ table name, session.Maps kind table name → Answer.records payload = []) :
      Verdict session kind (.ok response) (.ok (Answer.records payload))
  | mapped (heard : ¬ response.Refuses) (read : response.Reads payload)
      (fine : ¬ Answer.Reports payload) (maps : session.Maps kind table name)
      (nonempty : Answer.records payload ≠ [])
      (accepted : session.settings.mappingStrict = true →
        (table.mapResponses name (Answer.records payload)).issues = []) :
      Verdict session kind (.ok response)
        (.ok (table.mapResponses name (Answer.records payload)).mapped)
  /-- Records that cannot be mapped, where that matters. -/
  | mapping (heard : ¬ response.Refuses) (read : response.Reads payload)
      (fine : ¬ Answer.Reports payload) (maps : session.Maps kind table name)
      (nonempty : Answer.records payload ≠ [])
      (strict : session.settings.mappingStrict = true)
      (issues : (table.mapResponses name (Answer.records payload)).issues ≠ []) :
      Verdict session kind (.ok response)
        (.error (.mapping (table.mapResponses name (Answer.records payload)).issues))

def verdict (session : Session) (kind : Option String) : Reply → Except Error (List Attributes)
  | .error failure => .error (.transport failure.url failure.message)
  | .ok response => session.judge kind response

variable {session : Session} {kind : Option String} {response : Response} {payload : Json}

theorem judge_of_refuses (refused : response.Refuses) :
    session.judge kind response = .error (.auth session.commandUrl response.status) := by
  simp [judge, response.isRefusal_iff.mpr refused]

theorem judge_of_unread (heard : ¬ response.Refuses)
    (unread : ∀ payload, ¬ response.Reads payload) :
    session.judge kind response = .error (.response response.status response.body) := by
  have noPayload : response.payload? = none := by
    apply Option.eq_none_iff_forall_ne_some.mpr
    intro payload found
    exact unread payload ((Response.payload?_eq_some_iff heard).mp found)
  simp [judge, mt response.isRefusal_iff.mp heard, noPayload]

theorem judge_of_reads (heard : ¬ response.Refuses) (read : response.Reads payload) :
    session.judge kind response =
      if Answer.reportsFailure payload then .error (.command response.status payload)
      else session.callerRecords kind (Answer.records payload) := by
  have found := (Response.payload?_eq_some_iff heard).mpr read
  simp [judge, mt response.isRefusal_iff.mp heard, found]

theorem callerRecords_of_maps {table : Mapping.Table} {name : String} {records : List Attributes}
    (maps : session.Maps kind table name) (nonempty : records ≠ []) :
    session.callerRecords kind records =
      if session.settings.mappingStrict && !(table.mapResponses name records).issues.isEmpty then
        .error (.mapping (table.mapResponses name records).issues)
      else .ok (table.mapResponses name records).mapped := by
  obtain ⟨mapper, named, found⟩ := maps
  have known : table.hasQualifier name = true := found
  simp [callerRecords, mapper, named, known, nonempty]

theorem callerRecords_of_unmapped {records : List Attributes}
    (unmapped : ∀ table name, session.Maps kind table name → records = []) :
    session.callerRecords kind records = .ok records := by
  unfold callerRecords
  split
  · rename_i table name mapper
    by_cases known : table.hasQualifier name = true
    · have none := unmapped table name ⟨mapper, rfl, known⟩
      simp [none]
    · simp [known]
  · rfl

theorem Verdict.eq_verdict {reply : Reply} {result : Except Error (List Attributes)}
    (rule : session.Verdict kind reply result) : result = session.verdict kind reply := by
  cases rule with
  | transport failure => rfl
  | auth refused => rw [verdict, judge_of_refuses refused]
  | response heard unread => rw [verdict, judge_of_unread heard unread]
  | command heard read reports =>
    rw [verdict, judge_of_reads heard read, if_pos ((Answer.reportsFailure_iff _).mpr reports)]
  | plain heard read fine unmapped =>
    rw [verdict, judge_of_reads heard read, if_neg (mt (Answer.reportsFailure_iff _).mp fine),
      callerRecords_of_unmapped unmapped]
  | mapped heard read fine maps nonempty accepted =>
    rw [verdict, judge_of_reads heard read, if_neg (mt (Answer.reportsFailure_iff _).mp fine),
      callerRecords_of_maps maps nonempty]
    by_cases strict : session.settings.mappingStrict = true
    · simp [accepted strict]
    · simp [strict]
  | mapping heard read fine maps nonempty strict issues =>
    rw [verdict, judge_of_reads heard read, if_neg (mt (Answer.reportsFailure_iff _).mp fine),
      callerRecords_of_maps maps nonempty]
    simp [strict, issues]

/-- Some rule applies to every outcome. -/
theorem verdict_rule (session : Session) (kind : Option String) (reply : Reply) :
    session.Verdict kind reply (session.verdict kind reply) := by
  cases reply with
  | error failure => exact .transport failure
  | ok response =>
    rw [verdict]
    by_cases refused : response.Refuses
    · rw [judge_of_refuses refused]
      exact .auth refused
    by_cases unread : ∀ payload, ¬ response.Reads payload
    · rw [judge_of_unread refused unread]
      exact .response refused unread
    obtain ⟨payload, read⟩ : ∃ payload, response.Reads payload := by simpa using unread
    rw [judge_of_reads refused read]
    split
    · rename_i reports
      exact .command refused read ((Answer.reportsFailure_iff _).mp reports)
    rename_i reportsNot
    have fine := mt (Answer.reportsFailure_iff _).mpr reportsNot
    by_cases unmapped : ∀ table name, session.Maps kind table name → Answer.records payload = []
    · rw [callerRecords_of_unmapped unmapped]
      exact .plain refused read fine unmapped
    obtain ⟨table, name, maps, nonempty⟩ : ∃ table name, session.Maps kind table name ∧
        Answer.records payload ≠ [] := by
      simpa using unmapped
    rw [callerRecords_of_maps maps nonempty]
    split
    · rename_i rejected
      obtain ⟨strict, issues⟩ := Bool.and_eq_true_iff.mp rejected
      exact .mapping refused read fine maps nonempty strict (by simpa using issues)
    · rename_i kept
      apply Verdict.mapped refused read fine maps nonempty
      intro strict
      simpa [strict] using kept

/-- The rules say all there is to say about an outcome, and never two things. -/
theorem verdict_iff {reply : Reply} {result : Except Error (List Attributes)} :
    session.Verdict kind reply result ↔ result = session.verdict kind reply := by
  constructor
  · exact Verdict.eq_verdict
  · rintro rfl
    exact verdict_rule session kind reply

end Session

end MqAdmin
