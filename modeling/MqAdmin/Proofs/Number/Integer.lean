import MqAdmin.Number.Reading
import MqAdmin.Proofs.Command.Codes
import MqAdmin.Proofs.Document.Numerals

namespace MqAdmin

/-- Whether characters are one or more decimal digits of a value. -/
structure Digits (cs : List Char) (value : Nat) : Prop where
  present : cs ≠ []
  digits : ∀ c ∈ cs, c.isDigit = true
  value : Nat.ofDigitChars 10 cs 0 = value

theorem readDigits_eq_some_iff {cs : List Char} {start value : Nat} :
    readDigits start cs = some value ↔
      (∀ c ∈ cs, c.isDigit = true) ∧ Nat.ofDigitChars 10 cs start = value := by
  induction cs generalizing start with
  | nil => simp [readDigits, Nat.ofDigitChars_nil]
  | cons c rest ih =>
    rw [readDigits, List.forall_mem_cons, Nat.ofDigitChars_cons, Nat.mul_comm 10 start]
    by_cases digit : c.isDigit = true
    · rw [if_pos digit, ih]
      simp [digit]
    · rw [if_neg digit]
      simp [digit]

theorem natural?_eq_some_iff {cs : List Char} {value : Nat} :
    natural? cs = some value ↔ Digits cs value := by
  cases cs with
  | nil =>
    constructor
    · intro read
      cases read
    · intro digits
      exact absurd rfl digits.present
  | cons c rest =>
    rw [natural?, readDigits_eq_some_iff]
    constructor
    · rintro ⟨digits, value⟩
      exact ⟨List.cons_ne_nil c rest, digits, value⟩
    · intro digits
      exact ⟨digits.digits, digits.value⟩

theorem digits_toDigits (n : Nat) : Digits (Nat.toDigits 10 n) n where
  present := Nat.toDigits_ne_nil
  digits := Document.isDigit_of_digits
  value := Nat.ofDigitChars_ten_toDigits

theorem Digits.unsigned {c : Char} {rest : List Char} {value : Nat}
    (digits : Digits (c :: rest) value) : c ≠ '-' ∧ c ≠ '+' := by
  have digit := digits.digits c List.mem_cons_self
  constructor
  · rintro rfl
    cases digit
  · rintro rfl
    cases digit

/-- The integers that characters can stand for: digits with an optional sign. -/
inductive Signed : List Char → Int → Prop where
  | plain {cs : List Char} {value : Nat} (digits : Digits cs value) : Signed cs value
  | plus {cs : List Char} {value : Nat} (digits : Digits cs value) : Signed ('+' :: cs) value
  | minus {cs : List Char} {value : Nat} (digits : Digits cs value) : Signed ('-' :: cs) (-value)

/-- The integer that characters stand for, whatever its size. -/
def signed? : List Char → Option Int
  | '-' :: rest => (natural? rest).map fun n : Nat => -(n : Int)
  | '+' :: rest => (natural? rest).map Int.ofNat
  | cs => (natural? cs).map Int.ofNat

theorem signed?_eq_some_iff {cs : List Char} {value : Int} :
    signed? cs = some value ↔ Signed cs value := by
  constructor
  · intro read
    unfold signed? at read
    split at read
    all_goals
      obtain ⟨n, found, same⟩ := Option.map_eq_some_iff.mp read
      have digits := natural?_eq_some_iff.mp found
      subst same
    · exact .minus digits
    · exact .plus digits
    · exact .plain digits
  · intro signed
    cases signed with
    | @plain cs n digits =>
      have read := natural?_eq_some_iff.mpr digits
      unfold signed?
      split
      · exact absurd rfl digits.unsigned.1
      · exact absurd rfl digits.unsigned.2
      · rw [read]
        rfl
    | plus digits =>
      rw [signed?, natural?_eq_some_iff.mpr digits]
      rfl
    | minus digits =>
      rw [signed?, natural?_eq_some_iff.mpr digits]
      rfl

/-- Exactly the signed digits whose value is of 64 signed bits are read as an integer. -/
theorem signedWord?_eq_some_iff {cs : List Char} {value : Int} :
    signedWord? cs = some value ↔ Signed cs value ∧ IsWord value := by
  have parts : signedWord? cs = (signed? cs).bind fun value => do
      guard (-twoTo 63 ≤ value && value < twoTo 63)
      return value := by
    unfold signedWord?
    split
    · rename_i rest
      rw [signed?]
      cases natural? rest <;> rfl
    · rfl
    · rename_i minus plus
      rw [signed?]
      · rfl
      · exact minus
      · exact plus
  rw [parts, Option.bind_eq_some_iff]
  constructor
  · rintro ⟨found, read, kept⟩
    obtain ⟨_, within, same⟩ := Option.bind_eq_some_iff.mp kept
    cases same
    have bounds := (Option.guard_eq_some' _).mp within
    exact ⟨signed?_eq_some_iff.mp read, by simpa [IsWord] using bounds⟩
  · rintro ⟨signed, fits⟩
    refine ⟨value, signed?_eq_some_iff.mpr signed, ?_⟩
    have bounds : (-twoTo 63 ≤ value && value < twoTo 63) = true := by simpa [IsWord] using fits
    rw [bounds]
    rfl

theorem signed_text (value : Int) : Signed (Number.integer value).text.toList value := by
  rw [Document.toList_text_integer]
  split
  · rename_i natural
    have digits := Signed.plain (digits_toDigits value.toNat)
    rwa [Int.toNat_of_nonneg natural] at digits
  · rename_i negative
    have digits := Signed.minus (digits_toDigits (-value).toNat)
    rwa [Int.toNat_of_nonneg (by omega), Int.neg_neg] at digits

end MqAdmin
