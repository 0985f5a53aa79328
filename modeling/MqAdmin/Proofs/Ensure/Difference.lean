import MqAdmin.Ensure.Converge
import MqAdmin.Proofs.Json.Texts

/-!
When values agree. Each is compared as a text; a list agrees with another if they are written alike,
so one text that has become longer is enough to tell two lists apart.
-/

namespace MqAdmin.Ensure

open Json

theorem agrees_iff {desired current : Json} : agrees desired current = true ↔
    (Text.trimChars desired.plainText.toList).map Char.toLower =
      (Text.trimChars current.plainText.toList).map Char.toLower := by
  simp [agrees, norm, Text.asciiLower, Text.trim, ← String.toList_inj, String.toList_map]

theorem agrees_refl (value : Json) : agrees value value = true := agrees_iff.mpr rfl

theorem agrees_words {text other : String} (word : Text.IsWord text)
    (otherWord : Text.IsWord other) :
    agrees (.string text) (.string other) = true ↔ Text.SameLetters text other := by
  rw [agrees_iff, plainText, plainText, Text.trimChars_of_word word,
    Text.trimChars_of_word otherWord, Text.SameLetters]

theorem agrees_arrays {items others : List Json} :
    agrees (.array items) (.array others) = true ↔
      ([','].intercalate (items.map (write false 1))).map Char.toLower =
        ([','].intercalate (others.map (write false 1))).map Char.toLower := by
  have plain (items : List Json) : Text.trimChars (Json.array items).plainText.toList =
      '[' :: [','].intercalate (items.map (write false 1)) ++ [']'] := by
    rw [plainText, compact, String.toList_ofList, write_array]
    · apply Text.trimChars_eq_self
      · intro c first
        cases first
        decide
      · intro c last
        rw [List.getLast?_concat] at last
        cases last
        decide
    · intro text same
      cases same
  rw [agrees_iff, plain, plain]
  simp

section Lists

variable {items : List Json} {first second : Json → List Char}

theorem intercalate_alike (alike : ∀ item ∈ items,
    (first item).map Char.toLower = (second item).map Char.toLower) :
    ([','].intercalate (items.map first)).map Char.toLower =
      ([','].intercalate (items.map second)).map Char.toLower := by
  induction items with
  | nil => rfl
  | cons item rest ih =>
    obtain ⟨head, tail⟩ := List.forall_mem_cons.mp alike
    cases rest with
    | nil => simpa [List.intercalate_singleton] using head
    | cons next others =>
      have later := ih tail
      simp only [List.map_cons] at later
      simp only [List.map_cons, List.intercalate_cons_cons, List.map_append, head, later]

private theorem length_intercalate_cons (part next : List Char) (rest : List (List Char)) :
    ([','].intercalate (part :: next :: rest)).length =
      part.length + (1 + ([','].intercalate (next :: rest)).length) := by
  simp [List.intercalate_cons_cons, Nat.add_comm 1]

theorem intercalate_le (le : ∀ item ∈ items, (first item).length ≤ (second item).length) :
    ([','].intercalate (items.map first)).length ≤
      ([','].intercalate (items.map second)).length := by
  induction items with
  | nil => exact Nat.le_refl 0
  | cons item rest ih =>
    obtain ⟨head, tail⟩ := List.forall_mem_cons.mp le
    cases rest with
    | nil => simpa [List.intercalate_singleton] using head
    | cons next others =>
      have later := ih tail
      simp only [List.map_cons, length_intercalate_cons] at later ⊢
      omega

/-- A list in which some items are written longer and none shorter is written longer. -/
theorem intercalate_lt (le : ∀ item ∈ items, (first item).length ≤ (second item).length)
    (lt : ∃ item ∈ items, (first item).length < (second item).length) :
    ([','].intercalate (items.map first)).length <
      ([','].intercalate (items.map second)).length := by
  induction items with
  | nil => simp at lt
  | cons item rest ih =>
    obtain ⟨head, tail⟩ := List.forall_mem_cons.mp le
    cases rest with
    | nil => simpa [List.intercalate_singleton] using lt
    | cons next others =>
      have least := intercalate_le tail
      simp only [List.map_cons] at least
      simp only [List.map_cons, length_intercalate_cons]
      obtain ⟨chosen, member, longer⟩ := lt
      rcases List.mem_cons.mp member with same | later
      · subst same
        omega
      · have more := ih tail ⟨chosen, later, longer⟩
        simp only [List.map_cons] at more
        omega

end Lists

/-- Whether a text that takes another's place is that text up to the case of letters, or longer. -/
structure Replaces (text other : String) : Prop where
  word : Text.IsWord text
  otherWord : Text.IsWord other
  longer : Text.SameLetters text other ∨ text.length < other.length

namespace Replaces

variable {text other : String}

private theorem write_word (word : Text.IsWord text) :
    write false 1 (.string text) = '"' :: text.toList ++ ['"'] := by
  rw [write, quote_of_word word]

theorem write_alike (replaces : Replaces text other) (same : Text.SameLetters text other) :
    (write false 1 (.string text)).map Char.toLower =
      (write false 1 (.string other)).map Char.toLower := by
  rw [Text.SameLetters] at same
  simp [write_word replaces.word, write_word replaces.otherWord, same]

theorem length_le (replaces : Replaces text other) : text.length ≤ other.length := by
  rcases replaces.longer with same | longer
  · have lengths := congrArg List.length same
    simp only [List.length_map, String.length_toList] at lengths
    exact Nat.le_of_eq lengths
  · exact Nat.le_of_lt longer

theorem write_length (replaces : Replaces text other) :
    (write false 1 (.string other)).length =
      (write false 1 (.string text)).length + (other.length - text.length) := by
  have least := replaces.length_le
  simp only [write_word replaces.word, write_word replaces.otherWord, List.length_append,
    List.length_cons, List.length_nil, String.length_toList]
  omega

end Replaces

/-- With other texts in its place a value agrees with itself exactly if all are the same up to the
case of letters. -/
theorem agrees_mapTexts_iff {value : Json} {change : String → String}
    (replaces : ∀ text ∈ value.texts, Replaces text (change text)) :
    agrees value (value.mapTexts change) = true ↔
      ∀ text ∈ value.texts, Text.SameLetters text (change text) := by
  cases value with
  | string text =>
    obtain ⟨word, otherWord, _⟩ := replaces text (List.mem_singleton_self text)
    simp [mapTexts, mapText, texts, agrees_words word otherWord]
  | array items =>
    have each (text : String) (member : .string text ∈ items) : Replaces text (change text) :=
      replaces text (List.mem_filterMap.mpr ⟨_, member, rfl⟩)
    rw [mapTexts, agrees_arrays, List.map_map]
    constructor
    · intro alike text member
      obtain ⟨item, listed, read⟩ := List.mem_filterMap.mp member
      cases item <;> simp only [string?, reduceCtorEq, Option.some.injEq] at read
      subst read
      apply (each _ listed).longer.resolve_right
      intro longer
      have shorter : ([','].intercalate (items.map (write false 1))).length <
          ([','].intercalate (items.map (write false 1 ∘ mapText change))).length := by
        apply intercalate_lt
        · intro item member
          cases item with
          | string text =>
            have more := (each text member).write_length
            simp only [Function.comp, mapText]
            omega
          | _ => exact Nat.le_refl _
        · refine ⟨_, listed, ?_⟩
          have more := (each _ listed).write_length
          simp only [Function.comp, mapText]
          omega
      have lengths := congrArg List.length alike
      simp only [List.length_map] at lengths
      omega
    · intro same
      apply intercalate_alike
      intro item member
      cases item with
      | string text =>
        exact (each text member).write_alike
          (same text (List.mem_filterMap.mpr ⟨_, member, rfl⟩))
      | _ => rfl
  | _ => simp [mapTexts, mapText, texts, agrees_refl]

end MqAdmin.Ensure
