import MqAdmin.Error
import MqAdmin.Proofs.Session.Verdict

namespace MqAdmin

def IsWord (code : Int) : Prop := -twoTo 63 ≤ code ∧ code < twoTo 63

instance (code : Int) : Decidable (IsWord code) := inferInstanceAs (Decidable (_ ∧ _))

theorem Json.signedWord?_eq_some_iff {value : Json} {code : Int} :
    value.signedWord? = some code ↔ value = .ofInt code ∧ IsWord code := by
  unfold signedWord?
  split
  · rename_i whole
    simp only [Option.ite_none_right_eq_some, Bool.and_eq_true, decide_eq_true_eq,
      Option.some.injEq, ofInt, Json.number.injEq, Number.integer.injEq, IsWord]
    constructor
    · rintro ⟨bounds, rfl⟩
      exact ⟨rfl, bounds⟩
    · rintro ⟨rfl, bounds⟩
      exact ⟨bounds, rfl⟩
  · rename_i other
    constructor
    · intro read
      cases read
    · rintro ⟨same, _⟩
      exact absurd same (other code)

namespace Answer

/-- Whether a payload has a value under one of the two names of a code: that of the whole command,
or that of its items. -/
def HasUnder (payload code : Json) (overall item : String) : Prop :=
  payload.get? overall = some code ∨ ∃ entry ∈ items payload, entry.get? item = some code

/-- Whether a value stands in a payload as a completion code or as a reason code. -/
def HasCode (payload code : Json) : Prop :=
  HasUnder payload code "overallCompletionCode" "completionCode" ∨
    HasUnder payload code "overallReasonCode" "reasonCode"

/-- Whether some code of a payload is a number other than zero. -/
def HasNumber (payload : Json) : Prop :=
  ∃ number : Number, HasCode payload (.number number) ∧ number.isZero = false

/-- Whether some code of a payload is an integer of 64 signed bits other than zero. -/
def HasWord (payload : Json) : Prop :=
  ∃ code, HasCode payload (.ofInt code) ∧ IsWord code ∧ code ≠ 0

theorem HasWord.hasNumber {payload : Json} (told : HasWord payload) : HasNumber payload := by
  obtain ⟨code, stands, _, nonzero⟩ := told
  exact ⟨.integer code, stands, by simpa [Number.isZero] using nonzero⟩

theorem reports_iff_hasNumber (payload : Json) : Reports payload ↔ HasNumber payload := by
  constructor
  · intro reports
    cases reports with
    | overall named code =>
      obtain ⟨number, found, nonzero⟩ := code
      rcases List.mem_cons.mp named with rfl | named
      · exact ⟨number, .inl (.inl found), nonzero⟩
      · exact ⟨number, .inr (.inl (List.mem_singleton.mp named ▸ found)), nonzero⟩
    | item listed member named code =>
      obtain ⟨number, found, nonzero⟩ := code
      have present := (mem_items_iff payload _).mpr ⟨_, listed, member⟩
      rcases List.mem_cons.mp named with rfl | named
      · exact ⟨number, .inl (.inr ⟨_, present, found⟩), nonzero⟩
      · exact ⟨number, .inr (.inr ⟨_, present, List.mem_singleton.mp named ▸ found⟩), nonzero⟩
  · have of_under {overall item : String} {number : Number}
        (named : overall ∈ ["overallCompletionCode", "overallReasonCode"])
        (namedItem : item ∈ ["completionCode", "reasonCode"])
        (under : HasUnder payload (.number number) overall item)
        (nonzero : number.isZero = false) : Reports payload := by
      rcases under with found | ⟨entry, present, found⟩
      · exact .overall named ⟨number, found, nonzero⟩
      · obtain ⟨listed, isList, member⟩ := (mem_items_iff payload entry).mp present
        exact .item isList member namedItem ⟨number, found, nonzero⟩
    rintro ⟨number, completion | reason, nonzero⟩
    · exact of_under (by simp) (by simp) completion nonzero
    · exact of_under (by simp) (by simp) reason nonzero

/-- The code that a field holds, if it is an integer of 64 signed bits. -/
def word? (value : Json) (name : String) : Option Int := (value.get? name).bind Json.signedWord?

theorem word?_eq_some_iff {value : Json} {name : String} {code : Int} :
    word? value name = some code ↔ value.get? name = some (.ofInt code) ∧ IsWord code := by
  rw [word?, Option.bind_eq_some_iff]
  constructor
  · rintro ⟨held, found, read⟩
    obtain ⟨rfl, bounds⟩ := Json.signedWord?_eq_some_iff.mp read
    exact ⟨found, bounds⟩
  · rintro ⟨found, bounds⟩
    exact ⟨_, found, Json.signedWord?_eq_some_iff.mpr ⟨rfl, bounds⟩⟩

end Answer

namespace Error

/-- Whether an error tells a code other than zero. -/
def TellsCode (error : Error) : Prop :=
  ∃ code, code ≠ 0 ∧ (error.completionCode? = some code ∨ error.reasonCode? = some code)

/-- The overall code comes first, then the first of the items' codes; zero only if there is no
other. -/
theorem code?_command (overall item : String) (status : Nat) (payload : Json) :
    (Error.command status payload).code? overall item =
      ((Answer.word? payload overall).filter (· ≠ 0)).or
        ((((Answer.items payload).filterMap (Answer.word? · item)).find? (· ≠ 0)).or
          (Answer.word? payload overall)) := by
  change _ = Option.or (((payload.get? overall).bind Json.signedWord?).filter _) _
  unfold code?
  dsimp only
  cases Option.filter _ ((payload.get? overall).bind Json.signedWord?) <;> rfl

theorem code?_command_iff (overall item : String) (status : Nat) (payload : Json) :
    (∃ code, code ≠ 0 ∧ (Error.command status payload).code? overall item = some code) ↔
      ∃ code, Answer.HasUnder payload (.ofInt code) overall item ∧ IsWord code ∧ code ≠ 0 := by
  rw [code?_command]
  cases first : (Answer.word? payload overall).filter (· ≠ 0) with
  | some code =>
    obtain ⟨found, nonzero⟩ := Option.filter_eq_some_iff.mp first
    have nonzero : code ≠ 0 := by simpa using nonzero
    obtain ⟨held, bounds⟩ := Answer.word?_eq_some_iff.mp found
    exact ⟨fun _ => ⟨code, .inl held, bounds, nonzero⟩, fun _ => ⟨code, nonzero, rfl⟩⟩
  | none =>
    have notOverall (code : Int) (nonzero : code ≠ 0) :
        Answer.word? payload overall ≠ some code := by
      intro found
      simp [found, nonzero] at first
    constructor
    · rintro ⟨code, nonzero, told⟩
      rw [Option.none_or] at told
      rcases Option.or_eq_some_iff.mp told with listed | ⟨_, whole⟩
      · obtain ⟨entry, member, found⟩ :=
          List.mem_filterMap.mp (List.mem_of_find?_eq_some listed)
        obtain ⟨held, bounds⟩ := Answer.word?_eq_some_iff.mp found
        exact ⟨code, .inr ⟨entry, member, held⟩, bounds, nonzero⟩
      · exact absurd whole (notOverall code nonzero)
    · rintro ⟨code, held | ⟨entry, member, held⟩, bounds, nonzero⟩
      · exact absurd (Answer.word?_eq_some_iff.mpr ⟨held, bounds⟩) (notOverall code nonzero)
      · have listed : code ∈ (Answer.items payload).filterMap (Answer.word? · item) :=
          List.mem_filterMap.mpr ⟨entry, member, Answer.word?_eq_some_iff.mpr ⟨held, bounds⟩⟩
        cases search : ((Answer.items payload).filterMap (Answer.word? · item)).find? (· ≠ 0) with
        | some told => exact ⟨told, by simpa using List.find?_some search, rfl⟩
        | none =>
          have zero := List.find?_eq_none.mp search code listed
          exact absurd nonzero (by simpa using zero)

theorem tellsCode_iff (status : Nat) (payload : Json) :
    (Error.command status payload).TellsCode ↔ Answer.HasWord payload := by
  have completion := code?_command_iff "overallCompletionCode" "completionCode" status payload
  have reason := code?_command_iff "overallReasonCode" "reasonCode" status payload
  simp only [TellsCode, completionCode?, reasonCode?, and_or_left, exists_or, completion, reason,
    Answer.HasWord, Answer.HasCode, or_and_right]

end Error

/-- What tells a code is a failure. A failure tells one exactly if not all its codes other than zero
are numbers beyond the integers of 64 signed bits. -/
theorem Answer.reportsFailure_iff_tells (status : Nat) (payload : Json) :
    ((Error.command status payload).TellsCode → reportsFailure payload = true) ∧
      ((reportsFailure payload = true ↔ (Error.command status payload).TellsCode) ↔
        (HasNumber payload → HasWord payload)) := by
  rw [reportsFailure_iff, reports_iff_hasNumber, Error.tellsCode_iff]
  constructor
  · exact HasWord.hasNumber
  · constructor
    · exact Iff.mp
    · intro told
      exact ⟨told, HasWord.hasNumber⟩

/-- Codes with a point are a failure and are not told. -/
example : let payload : Json := .object [("overallCompletionCode", .number (.real (.ofNat 2))),
      ("overallReasonCode", .number (.real (.ofNat 2085)))]
    Answer.reportsFailure payload = true ∧
      (Error.command 200 payload).completionCode? = none ∧
      (Error.command 200 payload).reasonCode? = none := by
  decide +kernel

end MqAdmin
