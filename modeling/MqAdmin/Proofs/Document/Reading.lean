import Mathlib.Tactic.SplitIfs
import MqAdmin.Proofs.Document.Numerals

/-!
The text of a value is read back as the value, on one line and spread over lines, if its numbers
are. Every part is read in front of whatever may follow it, and the text is always long enough for
the steps that reading it takes.
-/

namespace MqAdmin

/-- Whether a number comes back from its text: an integer that a machine word holds, or a finite
number that is read back. -/
def Number.Legible : Number → Prop
  | .integer value => -twoTo 63 ≤ value ∧ value < twoTo 64
  | .real value => value.isFinite = true ∧ value.ReadsBack

namespace Json

mutual

/-- Whether all numbers in a value come back from their texts. -/
def Legible : Json → Prop
  | .number value => value.Legible
  | .array items => LegibleItems items
  | .object fields => LegibleFields fields
  | _ => True

def LegibleItems : List Json → Prop
  | [] => True
  | item :: rest => item.Legible ∧ LegibleItems rest

def LegibleFields : List (String × Json) → Prop
  | [] => True
  | (_, value) :: rest => value.Legible ∧ LegibleFields rest

end

theorem legibleItems_iff {items : List Json} :
    LegibleItems items ↔ ∀ item ∈ items, item.Legible := by
  induction items with
  | nil => simp [LegibleItems]
  | cons item rest ih => rw [LegibleItems, ih, List.forall_mem_cons]

theorem legibleFields_iff {fields : List (String × Json)} :
    LegibleFields fields ↔ ∀ field ∈ fields, field.2.Legible := by
  induction fields with
  | nil => simp [LegibleFields]
  | cons field rest ih => rw [LegibleFields, ih, List.forall_mem_cons]

theorem legible_ofStrings (texts : List String) : (ofStrings texts).Legible := by
  rw [ofStrings, Legible, legibleItems_iff, List.forall_mem_map]
  exact fun _ _ => trivial

theorem legible_mapValues {α : Type} (encode : α → Json) (each : ∀ value, (encode value).Legible)
    (map : KeyMap α) : (ofAttributes (map.mapValues encode)).Legible := by
  rw [ofAttributes, Legible, legibleFields_iff, KeyMap.mapValues, List.forall_mem_map]
  exact fun entry _ => each entry.2

theorem legible_ofNat {value : Nat} (word : value < twoTo 64) : (ofNat value).Legible :=
  ⟨by omega, by omega⟩

end Json

namespace Document

section Texts

variable {read : List Char} {rest : List Char}

theorem readText_letter {c plain : Char} (other : c ≠ 'u') (escape : jsonEscape? c = some plain) :
    readText read none false ('\\' :: c :: rest) = readText (plain :: read) none false rest := by
  rw [readText]
  · simp [escape]
  · exact fun _ _ _ _ _ same => absurd same other

theorem readText_unit {a b c d : Char} {code : Nat} (value : readHex 0 [a, b, c, d] = some code)
    (low : code < 0xD800) : readText read none false ('\\' :: 'u' :: a :: b :: c :: d :: rest) =
      readText (Char.ofNat code :: read) none false rest := by
  have noSecond : ¬ (0xDC00 ≤ code ∧ code ≤ 0xDFFF) := by omega
  have noFirst : ¬ (0xD800 ≤ code ∧ code ≤ 0xDBFF) := by omega
  rw [readText]
  simp [value, noSecond, noFirst]

theorem readText_plain {c : Char} (quote : c ≠ '"') (backslash : c ≠ '\\')
    (printable : ¬ c.toNat < 32) :
    readText read none false (c :: rest) = readText (c :: read) none false rest := by
  rw [readText]
  · simp [printable]
  · exact quote
  · exact fun _ _ _ _ _ same => absurd same backslash
  · exact fun _ _ same => absurd same backslash

theorem readHex_hexPair : ∀ code < 32, readHex 0 ('0' :: '0' :: Json.hexPair code) = some code := by
  decide

theorem readText_escapeChar (c : Char) : readText read none false (Json.escapeChar c ++ rest) =
    readText (c :: read) none false rest := by
  rw [Json.escapeChar]
  split_ifs with quote backslash backspace feed line carriage tab control
  iterate 7
    · subst_vars
      exact readText_letter (by decide) rfl
  · refine (readText_unit (readHex_hexPair c.toNat control) (by omega)).trans ?_
    rw [Char.ofNat_toNat]
    rfl
  · exact readText_plain quote backslash control

theorem readText_escaped (cs : List Char) :
    readText read none false (cs.flatMap Json.escapeChar ++ '"' :: rest) =
      some (some (String.ofList (read.reverse ++ cs)), rest) := by
  induction cs generalizing read with
  | nil => simp [readText]
  | cons c cs ih => simp [List.append_assoc, readText_escapeChar, ih]

theorem readText_quote (text : String) :
    readText [] none false (text.toList.flatMap Json.escapeChar ++ '"' :: rest) =
      some (some text, rest) := by
  rw [readText_escaped, List.reverse_nil, List.nil_append, String.ofList_toList]

end Texts

def Blank (cs : List Char) : Prop := ∀ c ∈ cs, isJsonBlank c = true

theorem blank_lineBreak (spread : Bool) (level : Nat) : Blank (Json.lineBreak spread level) := by
  rw [Json.lineBreak]
  split
  · refine List.forall_mem_cons.mpr ⟨by decide, fun c member => ?_⟩
    rw [List.eq_of_mem_replicate member]
    decide
  · exact fun _ member => absurd member List.not_mem_nil

namespace Blank

variable {blanks : List Char} (blank : Blank blanks)
include blank

theorem skipBlanks (cs : List Char) : skipBlanks (blanks ++ cs) = Document.skipBlanks cs := by
  induction blanks with
  | nil => rfl
  | cons c rest ih =>
    obtain ⟨first, others⟩ := List.forall_mem_cons.mp blank
    rw [← ih others]
    simp [Document.skipBlanks, first]

theorem closes {rest : List Char} (closes : Closes rest) : Closes (blanks ++ rest) := by
  cases blanks with
  | nil => exact closes
  | cons c others =>
    intro first head
    cases head
    exact .inl (blank c List.mem_cons_self)

theorem readDocument (fuel : Nat) (cs : List Char) :
    readDocument fuel (blanks ++ cs) = Document.readDocument fuel cs := by
  cases fuel with
  | zero => rfl
  | succ fuel => rw [Document.readDocument, Document.readDocument, blank.skipBlanks]

theorem readItems (fuel : Nat) (cs : List Char) :
    readItems fuel (blanks ++ cs) = Document.readItems fuel cs := by
  cases fuel with
  | zero => rfl
  | succ fuel => rw [Document.readItems, Document.readItems, blank.readDocument]

theorem readFields (fuel : Nat) (cs : List Char) :
    readFields fuel (blanks ++ cs) = Document.readFields fuel cs := by
  cases fuel with
  | zero => rfl
  | succ fuel => rw [Document.readFields, Document.readFields, blank.skipBlanks]

end Blank

section Steps

variable {fuel : Nat} {cs more rest closing : List Char}

theorem readItems_last {item : Document} (blank : Blank closing)
    (read : readDocument fuel cs = some (item, closing ++ ']' :: rest)) :
    readItems (fuel + 1) cs = some ([item], rest) := by
  rw [readItems, read]
  simp [blank.skipBlanks, skipBlanks_cons (c := ']') (by decide)]

theorem readItems_next {item : Document} {items : List Document}
    (read : readDocument fuel cs = some (item, ',' :: more))
    (others : readItems fuel more = some (items, rest)) :
    readItems (fuel + 1) cs = some (item :: items, rest) := by
  rw [readItems, read]
  simp [skipBlanks_cons (c := ',') (by decide), others]

private theorem quote_append (name : String) (rest : List Char) : Json.quote name ++ rest =
    '"' :: (name.toList.flatMap Json.escapeChar ++ '"' :: rest) := by
  simp [Json.quote]

theorem readFields_last {name : String} {value : Document} (blank : Blank closing)
    (read : readDocument fuel more = some (value, closing ++ '\x7d' :: rest)) :
    readFields (fuel + 1) (Json.quote name ++ ':' :: more) = some ([(some name, value)], rest) := by
  rw [readFields, quote_append, skipBlanks_cons (by decide)]
  simp [readText_quote, skipBlanks_cons (c := ':') (by decide), read, blank.skipBlanks,
    skipBlanks_cons (c := '\x7d') (by decide)]

theorem readFields_next {name : String} {value : Document} {next : List Char}
    {fields : List (Option String × Document)}
    (read : readDocument fuel more = some (value, ',' :: next))
    (others : readFields fuel next = some (fields, rest)) :
    readFields (fuel + 1) (Json.quote name ++ ':' :: more) =
      some ((some name, value) :: fields, rest) := by
  rw [readFields, quote_append, skipBlanks_cons (by decide)]
  simp [readText_quote, skipBlanks_cons (c := ':') (by decide), read,
    skipBlanks_cons (c := ',') (by decide), others]

theorem readDocument_quote (text : String) :
    readDocument (fuel + 1) (Json.quote text ++ rest) = some (.string (some text), rest) := by
  rw [quote_append, readDocument, skipBlanks_cons (by decide)]
  simp [readText_quote]

theorem readDocument_array {c : Char} {items : List Document} (visible : isJsonBlank c = false)
    (opens : c ≠ ']') (blank : Blank closing)
    (read : readItems fuel (c :: cs) = some (items, rest)) :
    readDocument (fuel + 1) ('[' :: (closing ++ c :: cs)) = some (.array items, rest) := by
  rw [readDocument, skipBlanks_cons (by decide)]
  simp [blank.skipBlanks, skipBlanks_cons visible, opens, read]

theorem readDocument_object {c : Char} {fields : List (Option String × Document)}
    (visible : isJsonBlank c = false) (opens : c ≠ '\x7d') (blank : Blank closing)
    (read : readFields fuel (c :: cs) = some (fields, rest)) :
    readDocument (fuel + 1) ('\x7b' :: (closing ++ c :: cs)) = some (.object fields, rest) := by
  rw [readDocument, skipBlanks_cons (by decide)]
  simp [blank.skipBlanks, skipBlanks_cons visible, opens, read]

end Steps

theorem numeral_text {number : Number} (legible : number.Legible) :
    Numeral number number.text.toList := by
  cases number with
  | integer value => exact numeral_integer legible.1 legible.2
  | real value =>
    obtain ⟨finite, back⟩ := legible
    simpa [Number.text, finite] using back.numeral

/-- The text of a value begins with a character that is no blank and closes no list. -/
theorem write_opens (spread : Bool) (level : Nat) {value : Json} (legible : value.Legible) :
    ∃ c rest, value.write spread level = c :: rest ∧ isJsonBlank c = false ∧ c ≠ ']' := by
  cases value with
  | null => exact ⟨'n', _, rfl, by decide, by decide⟩
  | bool flag => cases flag <;> exact ⟨_, _, rfl, by decide, by decide⟩
  | number number =>
    obtain ⟨c, rest, same, digit | rfl⟩ := (numeral_text legible).opens
    · refine ⟨c, rest, by rw [Json.write, same], isJsonBlank_of_digit digit, ?_⟩
      rintro rfl
      simp at digit
    · exact ⟨'-', rest, by rw [Json.write, same], by decide, by decide⟩
  | string text => exact ⟨'"', _, rfl, by decide, by decide⟩
  | array items =>
    cases items with
    | nil => exact ⟨'[', _, rfl, by decide, by decide⟩
    | cons first items => exact ⟨'[', _, rfl, by decide, by decide⟩
  | object fields =>
    cases fields with
    | nil => exact ⟨'\x7b', _, rfl, by decide, by decide⟩
    | cons first fields => exact ⟨'\x7b', _, rfl, by decide, by decide⟩

/-- Parts with commas between them, each on a line of its own if the text is spread. -/
def separate (spread : Bool) (level : Nat) (parts : List (List Char)) : List Char :=
  (',' :: Json.lineBreak spread level).intercalate parts

theorem separate_cons (spread : Bool) (level : Nat) (first next : List Char)
    (parts : List (List Char)) : separate spread level (first :: next :: parts) =
      first ++ ',' :: (Json.lineBreak spread level ++ separate spread level (next :: parts)) := by
  simp [separate, List.intercalate_cons_cons]

@[simp] theorem separate_singleton (spread : Bool) (level : Nat) (part : List Char) :
    separate spread level [part] = part := by
  simp [separate]

theorem enclose_cons (spread : Bool) (level : Nat) (opening closing : Char) (first : List Char)
    (parts : List (List Char)) : Json.enclose spread level opening closing (first :: parts) =
      opening :: (Json.lineBreak spread (level + 1) ++ (separate spread (level + 1) (first :: parts)
        ++ (Json.lineBreak spread level ++ [closing]))) := by
  simp [Json.enclose, separate]

theorem separate_opens (spread : Bool) (level : Nat) {item : Json} {items : List Json}
    (legible : Json.LegibleItems (item :: items)) :
    ∃ c rest, separate spread (level + 1) (Json.writeItems spread (level + 1) (item :: items)) =
      c :: rest ∧ isJsonBlank c = false ∧ c ≠ ']' := by
  obtain ⟨c, rest, same, visible, opens⟩ := write_opens spread (level + 1) legible.1
  cases items with
  | nil => exact ⟨c, rest, by simp [Json.writeItems, same], visible, opens⟩
  | cons next items =>
    rw [Json.writeItems, Json.writeItems, separate_cons, same, List.cons_append]
    exact ⟨c, _, rfl, visible, opens⟩

/-- The blank between a name's colon and the value. -/
def gap (spread : Bool) : List Char := if spread then [' '] else []

theorem blank_gap (spread : Bool) : Blank (gap spread) := by
  cases spread <;> simp [gap, Blank, isJsonBlank]

theorem writeFields_cons (spread : Bool) (level : Nat) (name : String) (value : Json)
    (rest : List (String × Json)) : Json.writeFields spread level ((name, value) :: rest) =
      (Json.quote name ++ ':' :: (gap spread ++ value.write spread level)) ::
        Json.writeFields spread level rest := by
  cases spread <;> simp [Json.writeFields, gap]

theorem separate_quotes (spread : Bool) (level : Nat) (fields : List (String × Json))
    (present : fields ≠ []) :
    ∃ rest, separate spread level (Json.writeFields spread level fields) = '"' :: rest := by
  match fields with
  | [(name, value)] =>
    rw [writeFields_cons, Json.writeFields, separate_singleton, quote_append]
    exact ⟨_, rfl⟩
  | (name, value) :: (other, next) :: fields =>
    rw [writeFields_cons, writeFields_cons, separate_cons, quote_append]
    exact ⟨_, rfl⟩

mutual

theorem readDocument_write (spread : Bool) (level : Nat) : (value : Json) → value.Legible →
    (fuel : Nat) → 2 * (value.write spread level).length ≤ fuel → (rest : List Char) →
    Closes rest → readDocument fuel (value.write spread level ++ rest) = some (value.document, rest)
  | .null, _, fuel + 1, _, rest, _ => rfl
  | .bool true, _, fuel + 1, _, rest, _ => rfl
  | .bool false, _, fuel + 1, _, rest, _ => rfl
  | .number shown, legible, fuel + 1, _, rest, closes =>
    (numeral_text legible).readDocument closes fuel
  | .string text, _, fuel + 1, _, rest, _ => readDocument_quote text
  | .array [], _, fuel + 1, _, rest, _ => rfl
  | .array (first :: items), legible, fuel + 1, enough, rest, _ => by
    obtain ⟨c, cs, opening, visible, opens⟩ := separate_opens spread level legible
    have items := readItems_write spread (level + 1) (first :: items) (by simp) legible fuel (by
      simp [Json.write, Json.writeItems, enclose_cons] at enough ⊢
      omega) _ (blank_lineBreak spread level) rest
    rw [opening] at items
    rw [Json.write, Json.writeItems, enclose_cons, ← Json.writeItems, opening]
    simpa [Json.document] using
      readDocument_array visible opens (blank_lineBreak spread (level + 1)) items
  | .object [], _, fuel + 1, _, rest, _ => rfl
  | .object (first :: fields), legible, fuel + 1, enough, rest, _ => by
    obtain ⟨cs, opening⟩ := separate_quotes spread (level + 1) (first :: fields) (by simp)
    have fields := readFields_write spread (level + 1) (first :: fields) (by simp) legible fuel (by
      simp [Json.write, Json.writeFields, enclose_cons] at enough ⊢
      omega) _ (blank_lineBreak spread level) rest
    rw [opening] at fields
    rw [Json.write, Json.writeFields, enclose_cons, ← Json.writeFields, opening]
    simpa [Json.document] using
      readDocument_object (by decide) (by decide) (blank_lineBreak spread (level + 1)) fields
  | value, legible, 0, enough, _, _ => by
    obtain ⟨c, rest, same, _⟩ := write_opens spread level legible
    simp [same] at enough

theorem readItems_write (spread : Bool) (level : Nat) : (items : List Json) → items ≠ [] →
    Json.LegibleItems items → (fuel : Nat) →
    2 * (separate spread level (Json.writeItems spread level items)).length + 1 ≤ fuel →
    (closing : List Char) → Blank closing → (rest : List Char) →
    readItems fuel (separate spread level (Json.writeItems spread level items) ++
      (closing ++ ']' :: rest)) = some (Json.documentItems items, rest)
  | [item], _, legible, fuel + 1, enough, closing, blank, rest => by
    have read := readDocument_write spread level item legible.1 fuel (by
      simp [Json.writeItems] at enough
      omega) (closing ++ ']' :: rest) (blank.closes (by simp [Closes]))
    simpa [Json.writeItems, Json.documentItems] using readItems_last blank read
  | item :: next :: items, _, legible, fuel + 1, enough, closing, blank, rest => by
    rw [Json.writeItems, Json.writeItems, separate_cons, ← Json.writeItems] at enough ⊢
    simp only [List.length_append, List.length_cons] at enough
    have read := readDocument_write spread level item legible.1 fuel (by omega)
      (',' :: (Json.lineBreak spread level ++ (separate spread level
        (Json.writeItems spread level (next :: items)) ++ (closing ++ ']' :: rest)))) (.comma _)
    have others := readItems_write spread level (next :: items) (by simp) legible.2 fuel (by omega)
      closing blank rest
    rw [← (blank_lineBreak spread level).readItems] at others
    simpa [Json.documentItems] using readItems_next read others

theorem readFields_write (spread : Bool) (level : Nat) : (fields : List (String × Json)) →
    fields ≠ [] → Json.LegibleFields fields → (fuel : Nat) →
    2 * (separate spread level (Json.writeFields spread level fields)).length + 1 ≤ fuel →
    (closing : List Char) → Blank closing → (rest : List Char) →
    readFields fuel (separate spread level (Json.writeFields spread level fields) ++
      (closing ++ '\x7d' :: rest)) = some (Json.documentFields fields, rest)
  | [(name, value)], _, legible, fuel + 1, enough, closing, blank, rest => by
    rw [writeFields_cons, Json.writeFields, separate_singleton] at enough ⊢
    simp only [List.length_append, List.length_cons] at enough
    have read := readDocument_write spread level value legible.1 fuel (by omega)
      (closing ++ '\x7d' :: rest) (blank.closes (by simp [Closes]))
    rw [← (blank_gap spread).readDocument] at read
    simpa [Json.documentFields] using readFields_last blank read
  | (name, value) :: (other, next) :: fields, _, legible, fuel + 1, enough, closing, blank,
    rest => by
    rw [writeFields_cons, writeFields_cons, separate_cons, ← writeFields_cons] at enough ⊢
    simp only [List.length_append, List.length_cons] at enough
    have read := readDocument_write spread level value legible.1 fuel (by omega)
      (',' :: (Json.lineBreak spread level ++ (separate spread level
        (Json.writeFields spread level ((other, next) :: fields)) ++
          (closing ++ '\x7d' :: rest)))) (.comma _)
    have others := readFields_write spread level ((other, next) :: fields) (by simp) legible.2 fuel
      (by omega) closing blank rest
    rw [← (blank_gap spread).readDocument] at read
    rw [← (blank_lineBreak spread level).readFields] at others
    simpa [Json.documentFields] using readFields_next read others

end

/-- A written value is read back, on one line or spread over lines. -/
theorem ofJsonText?_write (spread : Bool) {value : Json} (legible : value.Legible) :
    ofJsonText? (String.ofList (value.write spread 0)) = some value.document := by
  have read := readDocument_write spread 0 value legible
    (2 * (value.write spread 0).length + 2) (by omega) [] .nil
  rw [List.append_nil] at read
  rw [ofJsonText?, String.toList_ofList, read]
  rfl

theorem ofJsonText?_compact {value : Json} (legible : value.Legible) :
    ofJsonText? value.compact = some value.document :=
  ofJsonText?_write false legible

theorem ofJsonText?_pretty {value : Json} (legible : value.Legible) :
    ofJsonText? value.pretty = some value.document :=
  ofJsonText?_write true legible

end Document

end MqAdmin
