import MqAdmin.CommandLine.Parameter
import MqAdmin.Proofs.Number.Integer
import MqAdmin.Proofs.Text.Blank

namespace MqAdmin

namespace CommandLine

/-- What a text stands for as a value: an integer of 64 signed bits, a truth value, or else
itself. -/
inductive Reads : String → Json → Prop where
  | integer {text : String} {value : Int} (signed : Signed text.toList value)
      (fits : IsWord value) : Reads text (.ofInt value)
  | yes : Reads "true" (.bool true)
  | no : Reads "false" (.bool false)
  | text {text : String} (other : ∀ value, Signed text.toList value → ¬ IsWord value)
      (notTrue : text ≠ "true") (notFalse : text ≠ "false") : Reads text (.string text)

/-- Whether a text falls into what stands before its first equals sign and what stands after it. -/
structure Cut (text before after : String) : Prop where
  whole : text = before ++ "=" ++ after
  first : '=' ∉ before.toList

inductive Told (text : String) : Except ParameterFault (String × Json) → Prop where
  | noValue (unmarked : '=' ∉ text.toList) : Told text (.error (.noValue text))
  | emptyKey {before after : String} (cut : Cut text before after)
      (blank : Text.AllBlank before) : Told text (.error (.emptyKey text))
  | pair {before after key : String} {value : Json} (cut : Cut text before after)
      (trims : Text.Trims before key) (filled : key ≠ "") (reads : Reads after value) :
      Told text (.ok (key, value))

/-- Whether a text can be a key: it is not empty, no blanks stand at its ends, and there is no
equals sign in it. -/
structure IsKey (key : String) : Prop where
  filled : key ≠ ""
  trimmed : Text.trim key = key
  unmarked : '=' ∉ key.toList

/-- Whether a value can be that of an attribute: an integer of 64 signed bits, a truth value, or a
text that stands for neither. -/
inductive IsValue : Json → Prop where
  | integer {value : Int} (fits : IsWord value) : IsValue (.ofInt value)
  | bool (value : Bool) : IsValue (.bool value)
  | text {text : String} (other : ∀ value, Signed text.toList value → ¬ IsWord value)
      (notTrue : text ≠ "true") (notFalse : text ≠ "false") : IsValue (.string text)

def parameterText (key : String) (value : Json) : String := key ++ "=" ++ value.plainText

theorem reads_iff {text : String} {value : Json} :
    Reads text value ↔ parameterValue text.toList = value := by
  constructor
  · intro reads
    cases reads with
    | integer signed fits =>
      rw [parameterValue, signedWord?_eq_some_iff.mpr ⟨signed, fits⟩]
    | yes => rfl
    | no => rfl
    | text other notTrue notFalse =>
      have unread : signedWord? text.toList = none := by
        apply Option.eq_none_iff_forall_ne_some.mpr
        intro value found
        obtain ⟨signed, fits⟩ := signedWord?_eq_some_iff.mp found
        exact other value signed fits
      rw [parameterValue, unread]
      dsimp only
      rw [if_neg (mt String.toList_inj.mp notTrue), if_neg (mt String.toList_inj.mp notFalse),
        String.ofList_toList]
  · intro same
    subst same
    unfold parameterValue
    split
    · rename_i value found
      obtain ⟨signed, fits⟩ := signedWord?_eq_some_iff.mp found
      exact .integer signed fits
    · rename_i unread
      split
      · rename_i yes
        rw [String.toList_inj.mp yes]
        exact .yes
      · rename_i notTrue
        split
        · rename_i no
          rw [String.toList_inj.mp no]
          exact .no
        · rename_i notFalse
          rw [String.ofList_toList]
          refine .text ?_ (mt (congrArg String.toList) notTrue)
            (mt (congrArg String.toList) notFalse)
          intro value signed fits
          rw [signedWord?_eq_some_iff.mpr ⟨signed, fits⟩] at unread
          cases unread

theorem cut_iff {text before after : String} : Cut text before after ↔
    Text.cutAt (· = '=') text.toList = some (before.toList, after.toList) := by
  constructor
  · intro cut
    have letters : text.toList = before.toList ++ '=' :: after.toList := by
      rw [cut.whole, String.toList_append, String.toList_append, List.append_assoc]
      rfl
    rw [letters]
    apply Text.cutAt_append
    · intro c member
      have other : c ≠ '=' := fun same => cut.first (same ▸ member)
      simpa using other
    · rfl
  · intro found
    obtain ⟨mark, passes, whole, earlier⟩ := Text.cutAt_eq_some found
    have same : mark = '=' := by simpa using passes
    subst same
    refine ⟨?_, ?_⟩
    · apply String.toList_inj.mp
      rw [whole, String.toList_append, String.toList_append, List.append_assoc]
      rfl
    · intro member
      simpa using earlier '=' member

theorem Told.eq_parameter? {text : String} {result : Except ParameterFault (String × Json)}
    (told : Told text result) : parameter? text = result := by
  cases told with
  | noValue unmarked =>
    have uncut : Text.cutAt (· = '=') text.toList = none := by
      apply Text.cutAt_eq_none
      intro c member
      have other : c ≠ '=' := fun same => unmarked (same ▸ member)
      simpa using other
    rw [parameter?, uncut]
  | @emptyKey before after cut blank =>
    have empty : Text.trimChars before.toList = [] :=
      String.ofList_eq_empty_iff.mp (Text.trims_iff.mp (Text.trims_empty_iff.mpr blank)).symm
    rw [parameter?, cut_iff.mp cut]
    dsimp only
    rw [empty]
    rfl
  | @pair before after key value cut trims filled reads =>
    have same : Text.trimChars before.toList = key.toList := by
      rw [Text.trims_iff.mp trims, Text.trim, String.toList_ofList]
    have letters : key.toList.isEmpty = false := by
      rw [List.isEmpty_eq_false_iff]
      exact mt String.toList_eq_nil_iff.mp filled
    rw [parameter?, cut_iff.mp cut]
    dsimp only
    rw [same, letters, reads_iff.mp reads, String.ofList_toList]
    rfl

theorem exists_told (text : String) : ∃ result, Told text result := by
  by_cases marked : '=' ∈ text.toList
  · obtain ⟨first, last, whole, unmarked⟩ := List.eq_append_cons_of_mem marked
    have cut : Cut text (.ofList first) (.ofList last) := by
      refine ⟨?_, ?_⟩
      · apply String.toList_inj.mp
        simp [whole]
      · rwa [String.toList_ofList]
    by_cases blank : Text.AllBlank (.ofList first)
    · exact ⟨_, .emptyKey cut blank⟩
    · have trims := Text.trims_iff.mpr (rfl : Text.trim (.ofList first) = _)
      refine ⟨_, .pair cut trims ?_ (reads_iff.mpr rfl)⟩
      intro empty
      exact blank (Text.trims_empty_iff.mp (empty ▸ trims))
  · exact ⟨_, .noValue marked⟩

/-- The rules say what is read of a text, and nothing else. -/
theorem told_iff {text : String} {result : Except ParameterFault (String × Json)} :
    Told text result ↔ parameter? text = result := by
  constructor
  · exact Told.eq_parameter?
  · intro same
    obtain ⟨other, told⟩ := exists_told text
    rw [← same, told.eq_parameter?]
    exact told

theorem IsValue.reads {value : Json} (valid : IsValue value) : Reads value.plainText value := by
  cases valid with
  | @integer number fits =>
    have letters : (Json.ofInt number).plainText.toList = (Number.integer number).text.toList :=
      String.toList_ofList
    exact .integer (letters ▸ signed_text number) fits
  | bool value =>
    cases value
    · exact .no
    · exact .yes
  | text other notTrue notFalse => exact .text other notTrue notFalse

theorem Reads.isValue {text : String} {value : Json} (reads : Reads text value) :
    IsValue value := by
  cases reads with
  | integer _ fits => exact .integer fits
  | yes => exact .bool true
  | no => exact .bool false
  | text other notTrue notFalse => exact .text other notTrue notFalse

theorem parameter?_parameterText {key : String} {value : Json} (isKey : IsKey key)
    (isValue : IsValue value) : parameter? (parameterText key value) = .ok (key, value) := by
  apply Told.eq_parameter?
  have trims : Text.Trims key key := Text.trims_iff.mpr isKey.trimmed.symm
  exact .pair ⟨rfl, isKey.unmarked⟩ trims isKey.filled isValue.reads

theorem isKey_of_cut {text before after key : String} (cut : Cut text before after)
    (trims : Text.Trims before key) (filled : key ≠ "") : IsKey key where
  filled := filled
  trimmed := (Text.trims_iff.mp trims.again).symm
  unmarked := by
    obtain ⟨first, last, whole, _⟩ := trims.between
    intro member
    apply cut.first
    simp [whole, member]

/-- An attribute that is read comes back from its text, and so does every key and value that can be
read. Nothing is read of a text exactly if it has no equals sign, or only blanks before the
first. -/
theorem parameter_round_trip :
    (∀ text key value, parameter? text = .ok (key, value) →
      parameter? (parameterText key value) = .ok (key, value)) ∧
    (∀ key value, IsKey key → IsValue value →
      parameter? (parameterText key value) = .ok (key, value)) ∧
    ∀ text, (∃ fault, parameter? text = .error fault) ↔
      '=' ∉ text.toList ∨ ∃ before after, Cut text before after ∧ Text.AllBlank before := by
  refine ⟨?_, ?_, ?_⟩
  · intro text key value read
    cases told_iff.mpr read with
    | pair cut trims filled reads =>
      exact parameter?_parameterText (isKey_of_cut cut trims filled) reads.isValue
  · intro key value isKey isValue
    exact parameter?_parameterText isKey isValue
  · intro text
    constructor
    · rintro ⟨fault, read⟩
      cases told_iff.mpr read with
      | noValue unmarked => exact .inl unmarked
      | emptyKey cut blank => exact .inr ⟨_, _, cut, blank⟩
    · rintro (unmarked | ⟨before, after, cut, blank⟩)
      · exact ⟨_, told_iff.mp (.noValue unmarked)⟩
      · exact ⟨_, told_iff.mp (.emptyKey cut blank)⟩

/-- The least integer with zeros in front of it, and the text of one that is too large. -/
theorem parameter_round_trip_limits :
    parameter? "depth=-09223372036854775808" = .ok ("depth", .ofInt (-9223372036854775808)) ∧
      parameter? (parameterText "depth" (.ofInt (-9223372036854775808))) =
        .ok ("depth", .ofInt (-9223372036854775808)) ∧
      parameter? (parameterText "description" (.string "+9223372036854775808")) =
        .ok ("description", .string "+9223372036854775808") := by
  obtain ⟨again, back, _⟩ := parameter_round_trip
  have read : parameter? "depth=-09223372036854775808" =
      .ok ("depth", .ofInt (-9223372036854775808)) := by decide +kernel
  refine ⟨read, again _ _ _ read, back _ _ ⟨by decide, by decide, by decide⟩ ?_⟩
  refine .text ?_ (by decide) (by decide)
  intro value signed fits
  have unread : signedWord? "+9223372036854775808".toList = none := by decide +kernel
  rw [signedWord?_eq_some_iff.mpr ⟨signed, fits⟩] at unread
  cases unread

end CommandLine

end MqAdmin
