import MqAdmin.Proofs.Document.Decoding
import MqAdmin.Proofs.Document.Numerals
import MqAdmin.Proofs.Number.Finite

namespace MqAdmin

def Number.IsFinite (number : Number) : Prop := number.toBinary64.isFinite = true

namespace Document

inductive Finite : Document → Prop where
  | null : Finite .null
  | bool (value : Bool) : Finite (.bool value)
  | number {value : Option Number} (finite : ∀ number ∈ value, number.IsFinite) :
      Finite (.number value)
  | string (text : Option String) : Finite (.string text)
  | array {items : List Document} (finite : ∀ item ∈ items, Finite item) : Finite (.array items)
  | object {fields : List (Option String × Document)} (finite : ∀ field ∈ fields, Finite field.2) :
      Finite (.object fields)

section Numbers

theorem gatherDigits_lt {start : Nat} (word : start < twoTo 64) (cs : List Char) :
    (gatherDigits start cs).1 < twoTo 64 := by
  induction cs generalizing start with
  | nil => exact word
  | cons c rest ih =>
    simp only [gatherDigits]
    split
    · rename_i fits
      exact ih fits
    · exact word

theorem isFinite_integer {value : Int} (word : value.natAbs ≤ twoTo 64) :
    (Number.integer value).IsFinite :=
  (Binary64.ofRatio_moderate word).isFinite

theorem numberOf_isFinite {negative : Bool} {whole fraction : List Char} {exponent : Option Int}
    {number : Number} (read : numberOf negative whole fraction exponent = some number) :
    number.IsFinite := by
  have word : (gatherDigits 0 whole).1 < twoTo 64 := gatherDigits_lt (by decide) whole
  simp only [numberOf] at read
  split at read
  · split at read
    · cases read
      exact isFinite_integer (by omega)
    · split at read
      · cases read
        have start : (Binary64.ofNat (gatherDigits 0 whole).1).Moderate :=
          Binary64.ofRatio_moderate (Nat.le_of_lt word)
        exact start.isFinite
      · cases read
        exact isFinite_integer (by omega)
  · obtain ⟨value, scaled, rfl⟩ := Option.map_eq_some_iff.mp read
    exact Binary64.ofScaled_isFinite (gatherDigits_lt word fraction) scaled

theorem readNumber_isFinite {negative : Bool} {cs rest : List Char} {value : Option Number}
    (read : readNumber negative cs = some (value, rest)) : Finite (.number value) := by
  simp only [readNumber_eq, Option.bind_eq_bind, Option.bind_eq_some_iff, Option.pure_def,
    Option.some.injEq, Prod.mk.injEq] at read
  obtain ⟨whole, _, _, _, fraction, _, power, _, rfl, _⟩ := read
  exact .number fun number held => numberOf_isFinite held

end Numbers

section Steps

variable {fuel : Nat} {cs rest : List Char}
  (documents : ∀ cs document rest, readDocument fuel cs = some (document, rest) → document.Finite)
  (itemLists : ∀ cs items rest, readItems fuel cs = some (items, rest) →
    ∀ item ∈ items, item.Finite)
  (fieldLists : ∀ cs fields rest, readFields fuel cs = some (fields, rest) →
    ∀ field ∈ fields, field.2.Finite)

include itemLists fieldLists in
private theorem finite_document {document : Document}
    (read : readDocument (fuel + 1) cs = some (document, rest)) : document.Finite := by
  rw [readDocument] at read
  split at read
  case h_4 =>
    obtain ⟨found, _, same⟩ := Option.map_eq_some_iff.mp read
    cases same
    exact .string _
  case h_5 =>
    split at read
    · cases read
      exact .array (by simp)
    · obtain ⟨found, items, same⟩ := Option.map_eq_some_iff.mp read
      cases same
      exact .array (itemLists _ _ _ items)
  case h_6 =>
    split at read
    · cases read
      exact .object (by simp)
    · obtain ⟨found, fields, same⟩ := Option.map_eq_some_iff.mp read
      cases same
      exact .object (fieldLists _ _ _ fields)
  case h_7 | h_8 =>
    obtain ⟨found, number, same⟩ := Option.map_eq_some_iff.mp read
    cases same
    exact readNumber_isFinite number
  all_goals
    cases read
    constructor

include documents itemLists in
private theorem finite_items {items : List Document}
    (read : readItems (fuel + 1) cs = some (items, rest)) : ∀ item ∈ items, item.Finite := by
  rw [readItems, Option.bind_eq_bind, Option.bind_eq_some_iff] at read
  obtain ⟨⟨item, more⟩, first, read⟩ := read
  have finite : item.Finite := documents _ _ _ first
  simp only at read
  split at read
  · obtain ⟨found, others, same⟩ := Option.map_eq_some_iff.mp read
    cases same
    exact List.forall_mem_cons.mpr ⟨finite, itemLists _ _ _ others⟩
  · cases read
    exact List.forall_mem_singleton.mpr finite
  · cases read

include documents fieldLists in
private theorem finite_fields {fields : List (Option String × Document)}
    (read : readFields (fuel + 1) cs = some (fields, rest)) :
    ∀ field ∈ fields, field.2.Finite := by
  simp only [readFields, Option.bind_eq_bind] at read
  split at read
  · obtain ⟨⟨name, more⟩, _, read⟩ := Option.bind_eq_some_iff.mp read
    simp only at read
    split at read
    · simp only [Option.bind_some] at read
      obtain ⟨⟨value, next⟩, first, read⟩ := Option.bind_eq_some_iff.mp read
      have finite : value.Finite := documents _ _ _ first
      simp only at read
      split at read
      · obtain ⟨found, others, same⟩ := Option.bind_eq_some_iff.mp read
        cases same
        exact List.forall_mem_cons.mpr ⟨finite, fieldLists _ _ _ others⟩
      · cases read
        exact List.forall_mem_singleton.mpr finite
      · cases read
    · cases read
  · cases read

end Steps

private theorem read_finite (fuel : Nat) :
    (∀ cs document rest, readDocument fuel cs = some (document, rest) → document.Finite) ∧
    (∀ cs items rest, readItems fuel cs = some (items, rest) → ∀ item ∈ items, item.Finite) ∧
    ∀ cs fields rest, readFields fuel cs = some (fields, rest) →
      ∀ field ∈ fields, field.2.Finite := by
  induction fuel with
  | zero => simp [readDocument, readItems, readFields]
  | succ fuel ih =>
    obtain ⟨documents, itemLists, fieldLists⟩ := ih
    exact ⟨fun _ _ _ => finite_document itemLists fieldLists,
      fun _ _ _ => finite_items documents itemLists,
      fun _ _ _ => finite_fields documents fieldLists⟩

theorem ofJsonText?_finite {text : String} {document : Document}
    (read : ofJsonText? text = some document) : document.Finite := by
  obtain ⟨⟨found, rest⟩, reading, ended⟩ := Option.bind_eq_some_iff.mp read
  obtain ⟨_, _, same⟩ := Option.bind_eq_some_iff.mp ended
  cases same
  exact (read_finite _).1 _ _ _ reading

theorem Finite.binary64 {document : Document} {x : Binary64} (finite : document.Finite)
    (read : document.binary64? = some x) : x.isFinite = true := by
  cases finite with
  | @number value held =>
    cases value with
    | none => cases read
    | some number =>
      cases read
      exact held number rfl
  | _ => cases read

end Document

namespace Record

theorem mem_knownFields {known : List String} {fields : List (Option String × Document)}
    {found : List (String × Document)} (read : knownFields known fields = some found) :
    ∀ field ∈ found, (some field.1, field.2) ∈ fields := by
  induction fields generalizing found with
  | nil =>
    cases read
    simp
  | cons first rest ih =>
    obtain ⟨name, value⟩ := first
    obtain ⟨key, rfl, read⟩ := Option.bind_eq_some_iff.mp read
    obtain ⟨others, later, read⟩ := Option.bind_eq_some_iff.mp read
    have members : ∀ field ∈ others, (some field.1, field.2) ∈ (some key, value) :: rest :=
      fun field member => List.mem_cons_of_mem _ (ih later field member)
    split at read
    · obtain ⟨_, _, same⟩ := Option.bind_eq_some_iff.mp read
      cases same
      exact List.forall_mem_cons.mpr ⟨List.mem_cons_self, members⟩
    · cases read
      exact members

/-- The fields of a record are parts of the document. -/
theorem of?_finite {known : List String} {document : Document} {record : Record}
    (finite : document.Finite) (read : of? known document = some record) :
    ∀ field ∈ record.fields, field.2.Finite := by
  cases finite with
  | object fields =>
    obtain ⟨found, known, rfl⟩ := Option.map_eq_some_iff.mp read
    exact fun field member => fields _ (mem_knownFields known field member)
  | array items =>
    simp only [of?] at read
    split at read
    · cases read
      exact fun field member => items _ (List.of_mem_zip member).2
    · cases read
  | _ => cases read

theorem withDefault_isFinite {record : Record} {name : String} {usual x : Binary64}
    (finite : ∀ field ∈ record.fields, field.2.Finite) (usually : usual.isFinite = true)
    (read : record.withDefault name Document.binary64? usual = some x) : x.isFinite = true := by
  rcases withDefault_cases read with rfl | ⟨field, member, decoded⟩
  · exact usually
  · exact (finite field member).binary64 decoded

end Record

end MqAdmin
