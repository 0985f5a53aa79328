import MqAdmin.Json.Printer
import MqAdmin.Proofs.Text.Blank
import MqAdmin.Text.Case

namespace MqAdmin

namespace Text

/-- Whether two texts are the same up to the case of ASCII letters. -/
def SameLetters (text other : String) : Prop :=
  text.toList.map Char.toLower = other.toList.map Char.toLower

instance (text other : String) : Decidable (SameLetters text other) :=
  inferInstanceAs (Decidable (_ = _))

/-- Whether a text consists of letters, digits and underscores of ASCII. -/
def IsWord (text : String) : Prop := ∀ c ∈ text.toList, c.isAlphanum = true ∨ c = '_'

instance (text : String) : Decidable (IsWord text) :=
  decidable_of_iff (text.toList.all fun c => c.isAlphanum || c == '_') (by simp [IsWord])

theorem toNat_of_word {c : Char} (word : c.isAlphanum = true ∨ c = '_') :
    (48 ≤ c.toNat ∧ c.toNat ≤ 57) ∨ (65 ≤ c.toNat ∧ c.toNat ≤ 90) ∨
      (97 ≤ c.toNat ∧ c.toNat ≤ 122) ∨ c.toNat = 95 := by
  rcases word with letter | same
  · have ranges : ((decide (65 ≤ c.val ∧ c.val ≤ 90) || (97 ≤ c.val && c.val ≤ 122)) ||
        (48 ≤ c.val && c.val ≤ 57)) = true := letter
    simp only [Bool.or_eq_true, Bool.and_eq_true, decide_eq_true_eq, UInt32.le_iff_toNat_le]
      at ranges
    have codes : (65 : UInt32).toNat = 65 ∧ (90 : UInt32).toNat = 90 ∧
        (97 : UInt32).toNat = 97 ∧ (122 : UInt32).toNat = 122 ∧ (48 : UInt32).toNat = 48 ∧
        (57 : UInt32).toNat = 57 := by decide
    simp only [Char.toNat]
    omega
  · subst same
    decide

theorem isBlank_of_word {c : Char} (word : c.isAlphanum = true ∨ c = '_') : isBlank c = false := by
  have codes := toNat_of_word word
  simp [isBlank, blankRanges]
  omega

theorem trimChars_of_word {text : String} (word : IsWord text) :
    trimChars text.toList = text.toList :=
  trimChars_eq_self (fun c first => isBlank_of_word (word c (List.mem_of_mem_head? first)))
    (fun c last => isBlank_of_word (word c (List.mem_of_getLast? last)))

end Text

namespace Json

/-- The texts in a value: itself, or those in a list. -/
def texts : Json → List String
  | .string text => [text]
  | .array items => items.filterMap string?
  | _ => []

def mapText (change : String → String) : Json → Json
  | .string text => .string (change text)
  | other => other

/-- A value with other texts in place of its own. -/
def mapTexts (change : String → String) : Json → Json
  | .array items => .array (items.map (mapText change))
  | item => item.mapText change

theorem mapText_mapText (first second : String → String) (item : Json) :
    (item.mapText first).mapText second = item.mapText (second ∘ first) := by
  cases item <;> rfl

theorem mapTexts_mapTexts (first second : String → String) (value : Json) :
    (value.mapTexts first).mapTexts second = value.mapTexts (second ∘ first) := by
  cases value with
  | array items => simp [mapTexts, mapText_mapText]
  | _ => rfl

theorem mapTexts_id (value : Json) : value.mapTexts id = value := by
  have same : mapText id = id := by
    funext item
    cases item <;> rfl
  cases value with
  | array items => simp [mapTexts, same]
  | _ => rfl

theorem mapTexts_eq_self {change : String → String} {value : Json}
    (stays : ∀ text ∈ value.texts, change text = text) : value.mapTexts change = value := by
  have item (item : Json) (stays : ∀ text, item.string? = some text → change text = text) :
      item.mapText change = item := by
    cases item with
    | string text => exact congrArg string (stays text rfl)
    | _ => rfl
  cases value with
  | array items =>
    refine congrArg array ((List.map_congr_left fun listed member => ?_).trans (List.map_id items))
    exact item listed fun text read =>
      stays text (List.mem_filterMap.mpr ⟨listed, member, read⟩)
  | string text => exact congrArg string (stays text (by simp [texts]))
  | _ => rfl

@[simp] theorem texts_mapTexts (change : String → String) (value : Json) :
    (value.mapTexts change).texts = value.texts.map change := by
  have read (item : Json) : (item.mapText change).string? = item.string?.map change := by
    cases item <;> rfl
  cases value with
  | array items =>
    simp only [mapTexts, texts, List.filterMap_map, List.map_filterMap]
    exact congrArg (List.filterMap · items) (funext read)
  | _ => rfl

theorem writeItems_eq_map (spread : Bool) (level : Nat) (items : List Json) :
    writeItems spread level items = items.map (write spread level) := by
  induction items with
  | nil => rfl
  | cons item rest ih => rw [writeItems, ih, List.map_cons]

theorem write_array (items : List Json) : write false 0 (.array items) =
    '[' :: [','].intercalate (items.map (write false 1)) ++ [']'] := by
  rw [write, writeItems_eq_map, enclose]
  cases items <;> simp [lineBreak, List.intercalate_nil]

theorem escapeChar_of_word {c : Char} (word : c.isAlphanum = true ∨ c = '_') :
    escapeChar c = [c] := by
  have codes := Text.toNat_of_word word
  have apart (mark : Char) (outside : mark.toNat < 48 ∨ mark.toNat = 92) : c ≠ mark := by
    rintro rfl
    omega
  have printable : ¬ c.toNat < 32 := by omega
  simp [escapeChar, printable, apart '"' (by decide), apart '\\' (by decide),
    apart '\x08' (by decide), apart '\x0c' (by decide), apart '\n' (by decide),
    apart '\r' (by decide), apart '\t' (by decide)]

private theorem flatMap_escapeChar {cs : List Char}
    (word : ∀ c ∈ cs, c.isAlphanum = true ∨ c = '_') : cs.flatMap escapeChar = cs := by
  induction cs with
  | nil => rfl
  | cons c rest ih =>
    obtain ⟨first, others⟩ := List.forall_mem_cons.mp word
    rw [List.flatMap_cons, escapeChar_of_word first, ih others, List.singleton_append]

theorem quote_of_word {text : String} (word : Text.IsWord text) :
    quote text = '"' :: text.toList ++ ['"'] := by
  rw [quote, flatMap_escapeChar word]

end Json

end MqAdmin
