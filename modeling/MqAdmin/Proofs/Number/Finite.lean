import MqAdmin.Number.Reading
import MqAdmin.Proofs.Number.Rounding

namespace MqAdmin

namespace Binary64

section Powers

variable {b k : Nat} {x : Binary64}

theorem roundUnits_twoTo (positive : 0 < b) :
    roundUnits (twoTo (52 + k) * b) b = min ((k + 1) * twoTo 52) infinityCode := by
  have placed : place (twoTo (52 + k) * b) b = k := by
    have exponent : (twoTo (52 + k)).log2 = 52 + k := Nat.log2_two_pow
    rw [place, Nat.mul_div_cancel _ positive, exponent]
    omega
  have digits : significand (twoTo (52 + k) * b) b = twoTo 52 := by
    have whole : twoTo (52 + k) * b = twoTo 52 * (b * twoTo k) + 0 := by
      rw [twoTo_add, Nat.add_zero, Nat.mul_assoc, Nat.mul_comm (twoTo k)]
    rw [significand, placed, whole]
    exact roundHalfEven_add (Nat.mul_pos positive (twoTo_pos k))
  rw [roundUnits_eq, placed, digits, Nat.succ_mul]

theorem units_twoTo (code : x.code = (k + 1) * twoTo 52) : x.units = twoTo (52 + k) := by
  rw [Nat.succ_mul] at code
  rw [units_of_code (Nat.le_refl _) (by decide) code, twoTo_add]

end Powers

theorem unitsPerOne_eq : unitsPerOne = twoTo 1074 := by decide +kernel

theorem unitsPerOne_pos : 0 < unitsPerOne := by
  rw [unitsPerOne_eq]
  exact twoTo_pos 1074

/-- Whether a magnitude is at most two to the 64th. -/
def Moderate (x : Binary64) : Prop :=
  ∃ k, 52 + k = 64 + 1074 ∧ x.code ≤ (k + 1) * twoTo 52

namespace Moderate

variable {x y : Binary64}

theorem isFinite (moderate : x.Moderate) : x.isFinite = true := by
  obtain ⟨k, sum, most⟩ := moderate
  have below : (1086 + 1) * twoTo 52 < infinityCode := by decide
  obtain rfl : k = 1086 := by omega
  exact decide_eq_true (Nat.lt_of_le_of_lt most below)

theorem ofUnits {negative : Bool} {a b : Nat} (positive : 0 < b)
    (most : ∀ k, 52 + k = 64 + 1074 → a ≤ twoTo (52 + k) * b) :
    (ofUnits negative a b).Moderate := by
  refine ⟨1086, rfl, ?_⟩
  calc roundUnits a b
      ≤ roundUnits (twoTo (52 + 1086) * b) b := roundUnits_mono positive (most 1086 rfl)
    _ = min ((1086 + 1) * twoTo 52) infinityCode := roundUnits_twoTo positive
    _ ≤ (1086 + 1) * twoTo 52 := Nat.min_le_left _ _

theorem units_le {k : Nat} (moderate : x.Moderate) (sum : 52 + k = 64 + 1074) :
    x.units ≤ twoTo (52 + k) := by
  obtain ⟨l, other, most⟩ := moderate
  obtain rfl : l = k := by omega
  have fits : (l + 1) * twoTo 52 < twoTo 63 := by
    obtain rfl : l = 1086 := by omega
    decide
  let word : Binary64 := ⟨false, (l + 1) * twoTo 52, fits⟩
  have units : word.units = twoTo (52 + l) := units_twoTo rfl
  rw [← units]
  exact units_mono most

end Moderate

theorem ofRatio_moderate {negative : Bool} {n : Nat} (word : n ≤ twoTo 64) :
    (ofRatio negative n 1).Moderate := by
  refine .ofUnits Nat.one_pos fun k sum => ?_
  rw [Nat.mul_one, sum, twoTo_add, unitsPerOne_eq]
  exact Nat.mul_le_mul_right _ word

theorem one_le_powerOfTen (exponent : Nat) : unitsPerOne ≤ (powerOfTen exponent).units := by
  obtain ⟨k, sum⟩ : ∃ k, 1074 = 52 + k := ⟨1022, rfl⟩
  have fits : (k + 1) * twoTo 52 < infinityCode := by
    obtain rfl : k = 1022 := by omega
    decide
  let one : Binary64 := ⟨false, (k + 1) * twoTo 52, Nat.lt_trans fits (by decide)⟩
  have units : one.units = unitsPerOne := by
    rw [unitsPerOne_eq, sum]
    exact units_twoTo rfl
  have least : one.code ≤ (powerOfTen exponent).code := by
    calc (k + 1) * twoTo 52
        = min ((k + 1) * twoTo 52) infinityCode := (Nat.min_eq_left (Nat.le_of_lt fits)).symm
      _ = roundUnits (twoTo (52 + k) * 1) 1 := (roundUnits_twoTo Nat.one_pos).symm
      _ = roundUnits (1 * unitsPerOne) 1 := by
          rw [unitsPerOne_eq, sum, Nat.mul_one, Nat.one_mul]
      _ ≤ roundUnits (tenTo exponent * unitsPerOne) 1 :=
          roundUnits_mono Nat.one_pos (Nat.mul_le_mul_right _ (Nat.one_le_pow _ _ (by decide)))
  rw [← units]
  exact units_mono least

/-- Dividing by what is not below one keeps a number moderate. -/
theorem div_moderate {x y : Binary64} (moderate : x.Moderate) (one : unitsPerOne ≤ y.units) :
    (x.div y).Moderate :=
  .ofUnits (Nat.lt_of_lt_of_le unitsPerOne_pos one) fun _ sum =>
    Nat.mul_le_mul (moderate.units_le sum) one

theorem dividedByPowerOfTen_moderate {x : Binary64} (moderate : x.Moderate)
    (exponent steps : Nat) : (x.dividedByPowerOfTen exponent steps).Moderate := by
  induction steps generalizing x exponent with
  | zero => exact moderate
  | succ steps ih =>
    rw [dividedByPowerOfTen]
    split
    · exact div_moderate moderate (one_le_powerOfTen _)
    · split
      · exact moderate
      · exact ih (div_moderate moderate (one_le_powerOfTen _)) _

/-- A document literal whose significand a word holds never stands for an infinity. -/
theorem ofScaled_isFinite {negative : Bool} {significand : Nat} {exponent : Int} {x : Binary64}
    (word : significand < twoTo 64) (read : ofScaled negative significand exponent = some x) :
    x.isFinite = true := by
  have start : (ofNat significand).Moderate := ofRatio_moderate (Nat.le_of_lt word)
  have signed (y : Binary64) (finite : y.isFinite = true) :
      (if negative = true then y.neg else y).isFinite = true := by
    split <;> exact finite
  simp only [ofScaled] at read
  by_cases small : exponent < 0
  · simp only [small, ↓reduceIte, Option.some.injEq] at read
    exact read ▸ signed _ (dividedByPowerOfTen_moderate start _ _).isFinite
  · by_cases medium : exponent ≤ 308
    · simp only [small, medium, ↓reduceIte, Option.ite_none_right_eq_some, Option.some.injEq]
        at read
      exact read.2 ▸ signed _ read.1
    · simp only [small, medium, ↓reduceIte, Option.ite_none_right_eq_some, Option.some.injEq]
        at read
      exact read.2 ▸ signed _ start.isFinite

end Binary64

end MqAdmin
