import Mathlib.Data.List.TakeWhile
import Mathlib.Data.Option.Basic
import MqAdmin.Document.JsonText
import MqAdmin.Json.Printer

/-!
Numbers in a JSON text. A number is read alike at the end of a text and in front of anything that
may follow a value, so a numeral is known by what is read when nothing follows.
-/

namespace MqAdmin

namespace Document

/-- Whether a text may follow a value: it is empty, or begins with a blank, a comma or a closing
bracket. -/
def Closes (rest : List Char) : Prop :=
  ∀ c ∈ rest.head?, isJsonBlank c = true ∨ c = ',' ∨ c = ']' ∨ c = '\x7d'

namespace Closes

theorem nil : Closes [] := by simp [Closes]

theorem comma (rest : List Char) : Closes (',' :: rest) := by simp [Closes]

theorem apart {c : Char} {rest : List Char} (closes : Closes (c :: rest)) :
    c.isDigit = false ∧ c ≠ '.' ∧ c ≠ 'e' ∧ c ≠ 'E' ∧ c ≠ '+' ∧ c ≠ '-' := by
  have closing : isJsonBlank c = true ∨ c = ',' ∨ c = ']' ∨ c = '\x7d' := closes c rfl
  simp only [isJsonBlank, Bool.or_eq_true, decide_eq_true_eq, or_assoc] at closing
  rcases closing with rfl | rfl | rfl | rfl | rfl | rfl | rfl <;> decide

variable {rest : List Char}

theorem takeWhile_isDigit (closes : Closes rest) (cs : List Char) :
    (cs ++ rest).takeWhile Char.isDigit = cs.takeWhile Char.isDigit := by
  induction cs with
  | nil =>
    cases rest with
    | nil => rfl
    | cons c rest => simp [closes.apart.1]
  | cons c cs ih => simp [List.takeWhile_cons, ih]

theorem dropWhile_isDigit (closes : Closes rest) (cs : List Char) :
    (cs ++ rest).dropWhile Char.isDigit = cs.dropWhile Char.isDigit ++ rest := by
  induction cs with
  | nil =>
    cases rest with
    | nil => rfl
    | cons c rest => simp [closes.apart.1]
  | cons c cs ih =>
    rw [List.cons_append, List.dropWhile_cons, List.dropWhile_cons, ih]
    split <;> rfl

end Closes

/-- A reading with more text behind it. -/
def followedBy {α : Type} (rest : List Char) (reading : α × List Char) : α × List Char :=
  (reading.1, reading.2 ++ rest)

/-- The digits after a point, if there is one. -/
def readFraction : List Char → Option (List Char × List Char)
  | '.' :: rest => readDigitRun rest
  | rest => some ([], rest)

/-- The exponent after its mark, if there is one. -/
def readPower : List Char → Option (Option Int × List Char)
  | 'e' :: rest | 'E' :: rest => (readExponent rest).map fun (value, rest) => (some value, rest)
  | rest => some (none, rest)

private theorem readFraction_bind {α : Type} (next : List Char × List Char → Option α)
    (cs : List Char) : (match cs with
      | '.' :: rest => readDigitRun rest >>= next
      | rest => some ([], rest) >>= next) = readFraction cs >>= next := by
  cases cs with
  | nil => rfl
  | cons c cs => by_cases point : c = '.' <;> simp [readFraction, point]

private theorem readPower_bind {α : Type} (next : Option Int × List Char → Option α)
    (cs : List Char) : (match cs with
      | 'e' :: rest => ((readExponent rest).map fun (value, rest) => (some value, rest)) >>= next
      | 'E' :: rest => ((readExponent rest).map fun (value, rest) => (some value, rest)) >>= next
      | rest => some (none, rest) >>= next) = readPower cs >>= next := by
  cases cs with
  | nil => rfl
  | cons c cs =>
    by_cases small : c = 'e'
    · simp [readPower, small]
    · by_cases capital : c = 'E' <;> simp [readPower, small, capital]

theorem readNumber_eq (negative : Bool) (cs : List Char) : readNumber negative cs = do
    let whole ← readDigitRun cs
    guard (whole.1.length = 1 || whole.1.head? ≠ some '0')
    let fraction ← readFraction whole.2
    let power ← readPower fraction.2
    return (numberOf negative whole.1 fraction.1 power.1, power.2) := by
  rw [readNumber]
  refine bind_congr fun whole => bind_congr fun _ => ?_
  -- Reading goes on inside every case of what stands next.
  refine (readFraction_bind _ whole.2).trans (bind_congr fun fraction => ?_)
  exact readPower_bind _ fraction.2

/-- A run of digits whose value is changed at once. -/
private def readChanged (change : Nat → Int) (cs : List Char) : Option (Int × List Char) := do
  let (digits, rest) ← readDigitRun cs
  return (change (← natural? digits), rest)

private theorem readExponent_unsigned {c : Char} {cs : List Char} (minus : c ≠ '-')
    (plus : c ≠ '+') : readExponent (c :: cs) = readChanged Int.ofNat (c :: cs) := by
  rw [readExponent]
  · rfl
  · exact fun rest same => minus (List.cons.inj same).1
  · exact fun rest same => plus (List.cons.inj same).1

section Append

variable {rest : List Char} (closes : Closes rest)
include closes

theorem readDigitRun_append (cs : List Char) :
    readDigitRun (cs ++ rest) = (readDigitRun cs).map (followedBy rest) := by
  rw [readDigitRun, readDigitRun, closes.takeWhile_isDigit, closes.dropWhile_isDigit]
  split <;> rfl

theorem readFraction_append (cs : List Char) :
    readFraction (cs ++ rest) = (readFraction cs).map (followedBy rest) := by
  cases cs with
  | nil =>
    cases rest with
    | nil => rfl
    | cons c rest => simp [readFraction, followedBy, closes.apart.2.1]
  | cons c cs =>
    by_cases point : c = '.'
    · subst point
      exact readDigitRun_append closes cs
    · simp [readFraction, followedBy, point]

private theorem readChanged_append (change : Nat → Int) (cs : List Char) :
    readChanged change (cs ++ rest) = (readChanged change cs).map (followedBy rest) := by
  rw [readChanged, readChanged, readDigitRun_append closes]
  cases readDigitRun cs with
  | none => rfl
  | some run => cases found : natural? run.1 <;> simp [followedBy, found]

theorem readExponent_append (cs : List Char) :
    readExponent (cs ++ rest) = (readExponent cs).map (followedBy rest) := by
  cases cs with
  | nil =>
    cases rest with
    | nil => rfl
    | cons c rest =>
      obtain ⟨digit, _, _, _, plus, minus⟩ := closes.apart
      rw [List.nil_append, readExponent_unsigned minus plus]
      simp [readChanged, readDigitRun, digit, readExponent]
  | cons c cs =>
    by_cases minus : c = '-'
    · subst minus
      exact readChanged_append closes (fun n => -n) cs
    · by_cases plus : c = '+'
      · subst plus
        exact readChanged_append closes Int.ofNat cs
      · rw [List.cons_append, readExponent_unsigned minus plus, readExponent_unsigned minus plus]
        exact readChanged_append closes Int.ofNat (c :: cs)

theorem readPower_append (cs : List Char) :
    readPower (cs ++ rest) = (readPower cs).map (followedBy rest) := by
  have marked (cs : List Char) :
      ((readExponent (cs ++ rest)).map fun power => (some power.1, power.2)) =
        ((readExponent cs).map fun power => (some power.1, power.2)).map (followedBy rest) := by
    rw [readExponent_append closes, Option.map_map, Option.map_map]
    rfl
  cases cs with
  | nil =>
    cases rest with
    | nil => rfl
    | cons c rest =>
      obtain ⟨_, _, small, capital, _⟩ := closes.apart
      simp [readPower, followedBy, small, capital]
  | cons c cs =>
    by_cases small : c = 'e'
    · subst small
      exact marked cs
    · by_cases capital : c = 'E'
      · subst capital
        exact marked cs
      · simp [readPower, followedBy, small, capital]

/-- A number is read alike whatever may follow it. -/
theorem readNumber_append (negative : Bool) (cs : List Char) :
    readNumber negative (cs ++ rest) = (readNumber negative cs).map (followedBy rest) := by
  simp only [readNumber_eq, readDigitRun_append closes, readFraction_append closes,
    readPower_append closes, Option.bind_eq_bind, Option.bind_map,
    Option.map_bind, Function.comp_def, followedBy]
  rfl

end Append

section Suffix

variable {cs rest : List Char}

private theorem readDigitRun_suffix {digits : List Char}
    (read : readDigitRun cs = some (digits, rest)) : rest <:+ cs := by
  rw [readDigitRun] at read
  split at read
  · cases read
  · cases read
    exact List.dropWhile_suffix _

private theorem readFraction_suffix {fraction : List Char}
    (read : readFraction cs = some (fraction, rest)) : rest <:+ cs := by
  rw [readFraction.eq_def] at read
  split at read
  · exact (readDigitRun_suffix read).trans (List.suffix_cons _ _)
  · cases read
    exact List.suffix_rfl

private theorem readChanged_suffix (change : Nat → Int) {value : Int}
    (read : readChanged change cs = some (value, rest)) : rest <:+ cs := by
  obtain ⟨run, digits, read⟩ := Option.bind_eq_some_iff.mp read
  obtain ⟨number, _, same⟩ := Option.bind_eq_some_iff.mp read
  cases same
  exact readDigitRun_suffix digits

private theorem readExponent_suffix {value : Int} (read : readExponent cs = some (value, rest)) :
    rest <:+ cs := by
  cases cs with
  | nil => simp [readExponent, readDigitRun] at read
  | cons c cs =>
    by_cases minus : c = '-'
    · subst minus
      exact (readChanged_suffix (fun n => -n) read).trans (List.suffix_cons _ _)
    · by_cases plus : c = '+'
      · subst plus
        exact (readChanged_suffix Int.ofNat read).trans (List.suffix_cons _ _)
      · rw [readExponent_unsigned minus plus] at read
        exact readChanged_suffix Int.ofNat read

private theorem readPower_suffix {power : Option Int} (read : readPower cs = some (power, rest)) :
    rest <:+ cs := by
  rw [readPower.eq_def] at read
  split at read
  iterate 2
    · obtain ⟨found, exponent, same⟩ := Option.map_eq_some_iff.mp read
      cases same
      exact (readExponent_suffix exponent).trans (List.suffix_cons _ _)
  · cases read
    exact List.suffix_rfl

theorem readNumber_suffix {negative : Bool} {number : Option Number}
    (read : readNumber negative cs = some (number, rest)) : rest <:+ cs := by
  simp only [readNumber_eq, Option.bind_eq_bind, Option.bind_eq_some_iff, Option.pure_def,
    Option.some.injEq, Prod.mk.injEq] at read
  obtain ⟨whole, digits, _, _, fraction, places, power, exponent, _, rfl⟩ := read
  exact ((readPower_suffix exponent).trans (readFraction_suffix places)).trans
    (readDigitRun_suffix digits)

end Suffix

theorem eq_number_of_json? {depth : Nat} {document : Document} {number : Number}
    (flawless : document.json? depth = some (.number number)) :
    document = .number (some number) := by
  cases document with
  | number value => simpa [json?] using flawless
  | string text => simp [json?] at flawless
  | array items => cases depth <;> simp [json?] at flawless
  | object fields => cases depth <;> simp [json?, Json.ofAttributes] at flawless
  | _ => simp [json?] at flawless

theorem isJsonBlank_of_digit {c : Char} (digit : c.isDigit = true) : isJsonBlank c = false := by
  rw [isJsonBlank]
  have apart (blank : Char) (other : blank.isDigit = false) : c ≠ blank := by
    rintro rfl
    simp [other] at digit
  simp [apart ' ' (by decide), apart '\n' (by decide), apart '\t' (by decide),
    apart '\r' (by decide)]

theorem skipBlanks_cons {c : Char} {cs : List Char} (visible : isJsonBlank c = false) :
    skipBlanks (c :: cs) = c :: cs := by
  simp [skipBlanks, visible]

theorem readDocument_digit {c : Char} (digit : c.isDigit = true) (cs : List Char) (fuel : Nat) :
    readDocument (fuel + 1) (c :: cs) =
      (readNumber false (c :: cs)).map fun (value, rest) => (.number value, rest) := by
  have apart (other : Char) (noDigit : other.isDigit = false) : c ≠ other := by
    rintro rfl
    simp [noDigit] at digit
  rw [readDocument, skipBlanks_cons (isJsonBlank_of_digit digit)]
  split <;> rename_i same
  all_goals try exact absurd (List.cons.inj same).1 (apart _ (by decide))
  rfl

theorem readDocument_minus (cs : List Char) (fuel : Nat) : readDocument (fuel + 1) ('-' :: cs) =
    (readNumber true cs).map fun (value, rest) => (.number value, rest) := by
  rw [readDocument, skipBlanks_cons (by decide)]
  rfl

theorem readDocument_number {fuel : Nat} {cs rest : List Char} {number : Option Number}
    (read : readDocument fuel cs = some (.number number, rest)) :
    (∃ body, skipBlanks cs = '-' :: body ∧ readNumber true body = some (number, rest)) ∨
      readNumber false (skipBlanks cs) = some (number, rest) := by
  cases fuel with
  | zero => simp [readDocument] at read
  | succ fuel =>
    rw [readDocument] at read
    split at read
    case h_7 body same =>
      obtain ⟨found, numeral, equal⟩ := Option.map_eq_some_iff.mp read
      cases equal
      exact .inl ⟨body, same, numeral⟩
    case h_8 =>
      obtain ⟨found, numeral, equal⟩ := Option.map_eq_some_iff.mp read
      cases equal
      exact .inr numeral
    all_goals try split at read
    all_goals simp at read

/-- Whether a text is read as a number when nothing follows it. -/
inductive Numeral (number : Number) : List Char → Prop where
  | plain {cs : List Char} (read : readNumber false cs = some (some number, [])) :
      Numeral number cs
  | minus {cs : List Char} (read : readNumber true cs = some (some number, [])) :
      Numeral number ('-' :: cs)

namespace Numeral

variable {number : Number} {cs : List Char}

theorem opens (numeral : Numeral number cs) :
    ∃ c rest, cs = c :: rest ∧ (c.isDigit = true ∨ c = '-') := by
  cases numeral with
  | plain read =>
    cases cs with
    | nil => simp [readNumber_eq, readDigitRun] at read
    | cons c rest =>
      by_cases digit : c.isDigit = true
      · exact ⟨c, rest, rfl, .inl digit⟩
      · simp [readNumber_eq, readDigitRun, digit] at read
  | @minus body read => exact ⟨'-', body, rfl, .inr rfl⟩

/-- A numeral is read as its number in front of whatever may follow a value. -/
theorem readDocument {rest : List Char} (numeral : Numeral number cs) (closes : Closes rest)
    (fuel : Nat) :
    readDocument (fuel + 1) (cs ++ rest) = some (.number (some number), rest) := by
  cases numeral with
  | plain read =>
    obtain ⟨c, others, rfl, digit | rfl⟩ := (Numeral.plain read).opens
    · rw [List.cons_append, readDocument_digit digit, ← List.cons_append,
        readNumber_append closes, read]
      rfl
    · simp [readNumber_eq, readDigitRun] at read
  | minus read =>
    rw [List.cons_append, readDocument_minus, readNumber_append closes, read]
    rfl

end Numeral

section Integers

theorem le_ofDigitChars (cs : List Char) (start : Nat) : start ≤ Nat.ofDigitChars 10 cs start := by
  induction cs generalizing start with
  | nil => exact Nat.le_refl start
  | cons c cs ih =>
    rw [Nat.ofDigitChars_cons]
    have rest := ih (10 * start + (c.toNat - '0'.toNat))
    omega

theorem gatherDigits_eq {cs : List Char} {start : Nat}
    (fits : Nat.ofDigitChars 10 cs start < twoTo 64) :
    gatherDigits start cs = (Nat.ofDigitChars 10 cs start, []) := by
  induction cs generalizing start with
  | nil => rfl
  | cons c cs ih =>
    rw [Nat.ofDigitChars_cons, Nat.mul_comm] at fits ⊢
    have below := le_ofDigitChars cs (start * 10 + (c.toNat - '0'.toNat))
    rw [gatherDigits, if_pos (Nat.lt_of_le_of_lt below fits), ih fits]

variable {n : Nat}

theorem isDigit_of_digits : ∀ c ∈ Nat.toDigits 10 n, c.isDigit = true :=
  fun _ member => Nat.isDigit_of_mem_toDigits (by decide) (by decide) member

theorem head?_toDigits (positive : 0 < n) : (Nat.toDigits 10 n).head? ≠ some '0' := by
  induction n using Nat.strongRecOn with
  | ind n ih =>
    by_cases small : n < 10
    · rw [Nat.toDigits_of_lt_base small]
      have digits : ∀ digit < 10, 0 < digit → [Nat.digitChar digit].head? ≠ some '0' := by decide
      exact digits n small positive
    · rw [Nat.toDigits_of_base_le (by decide) (by omega),
        List.head?_append, List.head?_eq_some_head Nat.toDigits_ne_nil, Option.some_or,
        ← List.head?_eq_some_head]
      exact ih (n / 10) (by omega) (by omega)

theorem readDigitRun_of_digits {cs : List Char} (digits : ∀ c ∈ cs, c.isDigit = true)
    (present : cs ≠ []) : readDigitRun cs = some (cs, []) := by
  rw [readDigitRun, List.takeWhile_eq_self_iff.mpr digits, List.dropWhile_eq_nil_iff.mpr digits]
  split
  · exact absurd rfl present
  · rfl

theorem readNumber_toDigits (negative : Bool) (n : Nat) : readNumber negative (Nat.toDigits 10 n) =
    some (numberOf negative (Nat.toDigits 10 n) [] none, []) := by
  have leading : (Nat.toDigits 10 n).length = 1 ∨ (Nat.toDigits 10 n).head? ≠ some '0' := by
    by_cases zero : n = 0
    · subst zero
      exact .inl rfl
    · exact .inr (head?_toDigits (Nat.pos_of_ne_zero zero))
  simp only [readNumber_eq, readDigitRun_of_digits isDigit_of_digits Nat.toDigits_ne_nil]
  simp [leading, readFraction, readPower, guard]

theorem numeral_natural (fits : n < twoTo 64) : Numeral (.integer n) (Nat.toDigits 10 n) := by
  apply Numeral.plain
  have whole : gatherDigits 0 (Nat.toDigits 10 n) = (n, []) := by
    rw [gatherDigits_eq (by rwa [Nat.ofDigitChars_ten_toDigits]), Nat.ofDigitChars_ten_toDigits]
  rw [readNumber_toDigits]
  simp [numberOf, whole]

theorem numeral_negative (positive : 0 < n) (fits : n ≤ twoTo 63) :
    Numeral (.integer (-n)) ('-' :: Nat.toDigits 10 n) := by
  apply Numeral.minus
  have below : n < twoTo 64 := Nat.lt_of_le_of_lt fits (by decide)
  have whole : gatherDigits 0 (Nat.toDigits 10 n) = (n, []) := by
    rw [gatherDigits_eq (by rwa [Nat.ofDigitChars_ten_toDigits]), Nat.ofDigitChars_ten_toDigits]
  rw [readNumber_toDigits]
  simp [numberOf, whole, Nat.not_lt.mpr fits, Nat.ne_of_gt positive]

theorem toList_text_integer (value : Int) : (Number.integer value).text.toList =
    if 0 ≤ value then Nat.toDigits 10 value.toNat else '-' :: Nat.toDigits 10 (-value).toNat := by
  rw [Number.text, Int.toString_eq_repr, Int.repr_eq_if]
  split <;> simp [Nat.repr_eq_ofList_toDigits]

theorem numeral_integer {value : Int} (least : -twoTo 63 ≤ value) (most : value < twoTo 64) :
    Numeral (.integer value) (Number.integer value).text.toList := by
  rw [toList_text_integer]
  split
  · rename_i natural
    have numeral := numeral_natural (n := value.toNat) (by omega)
    rwa [Int.toNat_of_nonneg natural] at numeral
  · rename_i negative
    have numeral := numeral_negative (n := (-value).toNat) (by omega) (by omega)
    rwa [Int.toNat_of_nonneg (by omega), Int.neg_neg] at numeral

end Integers

def Unblank (cs : List Char) : Prop := ∀ c ∈ cs, isJsonBlank c = false

theorem Unblank.skipBlanks {cs : List Char} (unblank : Unblank cs) : skipBlanks cs = cs := by
  cases cs with
  | nil => rfl
  | cons c rest => exact skipBlanks_cons (unblank c List.mem_cons_self)

theorem unblank_toDigits (n : Nat) : Unblank (Nat.toDigits 10 n) :=
  fun c member => isJsonBlank_of_digit (isDigit_of_digits c member)

end Document

open Document

theorem Decimal.unblank_positional (d : Decimal) : Unblank d.positional := by
  have digits := unblank_toDigits d.digits
  have zeros (count : Nat) : Unblank (List.replicate count '0') := by
    intro c member
    rw [List.eq_of_mem_replicate member]
    decide
  have point : isJsonBlank '.' = false := by decide
  have zero : isJsonBlank '0' = false := by decide
  rw [positional]
  split
  · exact List.forall_mem_append.mpr ⟨digits, zeros _⟩
  · split
    · refine List.forall_mem_append.mpr ⟨fun c member => digits c (List.mem_of_mem_take member), ?_⟩
      exact List.forall_mem_cons.mpr ⟨point, fun c member => digits c (List.mem_of_mem_drop member)⟩
    · refine List.forall_mem_append.mpr ⟨?_, digits⟩
      exact List.forall_mem_cons.mpr ⟨zero, List.forall_mem_cons.mpr ⟨point, zeros _⟩⟩

theorem Decimal.unblank_scientific (d : Decimal) : Unblank d.scientific := by
  have digits := unblank_toDigits d.digits
  have sign : isJsonBlank (if d.scale < 0 then '-' else '+') = false := by
    split <;> decide
  refine List.forall_mem_append.mpr ⟨List.forall_mem_append.mpr ⟨fun c member => ?_, ?_⟩, ?_⟩
  · exact digits c (List.mem_of_mem_take member)
  · split
    · exact fun _ member => absurd member List.not_mem_nil
    · refine List.forall_mem_cons.mpr ⟨by decide, fun c member => ?_⟩
      exact digits c (List.mem_of_mem_drop member)
  · exact List.forall_mem_cons.mpr ⟨by decide,
      List.forall_mem_cons.mpr ⟨sign, unblank_toDigits _⟩⟩

namespace Binary64

theorem unblank_documentText (x : Binary64) : Unblank x.documentText.toList := by
  have signed (magnitude : List Char) (unblank : Unblank magnitude) :
      Unblank (x.signText magnitude).toList := by
    rw [signText, String.toList_ofList]
    split
    · exact List.forall_mem_cons.mpr ⟨by decide, unblank⟩
    · exact unblank
  apply signed
  split
  · split
    · refine List.forall_mem_append.mpr ⟨(Decimal.shortest x).unblank_positional, ?_⟩
      exact List.forall_mem_cons.mpr ⟨by decide, List.forall_mem_singleton.mpr (by decide)⟩
    · exact (Decimal.shortest x).unblank_positional
  · exact (Decimal.shortest x).unblank_scientific

/-- Whether the text of a number in a document is read as the number itself. -/
def ReadsBack (x : Binary64) : Prop := Json.parse? x.documentText = some (.number (.real x))

instance (x : Binary64) : Decidable x.ReadsBack := inferInstanceAs (Decidable (_ = _))

theorem ReadsBack.numeral {x : Binary64} (back : x.ReadsBack) :
    Numeral (.real x) x.documentText.toList := by
  have unblank := x.unblank_documentText
  obtain ⟨document, back, flawless⟩ := Option.bind_eq_some_iff.mp back
  cases eq_number_of_json? flawless
  rw [Document.ofJsonText?, Option.bind_eq_bind, Option.bind_eq_some_iff] at back
  obtain ⟨⟨document, rest⟩, read, back⟩ := back
  rw [Option.bind_eq_bind, Option.bind_eq_some_iff] at back
  obtain ⟨_, ended, same⟩ := back
  cases same
  have nothing (cs : List Char) (suffix : rest <:+ cs) (part : cs <:+ x.documentText.toList) :
      rest = [] := by
    have unblankRest : Unblank rest := fun c member =>
      unblank c ((suffix.trans part).subset member)
    have ended : (skipBlanks rest).isEmpty = true := (Option.guard_eq_some' _).mp ended
    rw [unblankRest.skipBlanks] at ended
    exact List.isEmpty_iff.mp ended
  rcases readDocument_number read with ⟨body, minus, number⟩ | number
  · rw [unblank.skipBlanks] at minus
    have part : body <:+ x.documentText.toList := minus ▸ List.suffix_cons '-' body
    cases nothing body (readNumber_suffix number) part
    rw [minus]
    exact .minus number
  · rw [unblank.skipBlanks] at number
    cases nothing _ (readNumber_suffix number) List.suffix_rfl
    exact .plain number

end Binary64

end MqAdmin
