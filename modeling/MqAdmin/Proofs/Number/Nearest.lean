import Mathlib.Algebra.Order.Field.Rat
import Mathlib.Algebra.Order.Group.Unbundled.Abs
import Mathlib.Data.Nat.Cast.Order.Field
import Mathlib.Tactic.FieldSimp
import Mathlib.Tactic.Linarith
import MqAdmin.Proofs.Number.Finite

namespace MqAdmin

/-- Whether a natural number is the nearest to a value: it is off by a half at most, and by a half
only if it is even. -/
structure Nearest (n : ℕ) (value : ℚ) : Prop where
  near : |value - n| ≤ 1 / 2
  even : |value - n| = 1 / 2 → Even n

namespace Nearest

variable {m n : ℕ} {value : ℚ}

theorem of_lt (near : |value - n| < 1 / 2) : Nearest n value :=
  ⟨near.le, fun half => absurd half near.ne⟩

/-- There is only one: numbers that are both nearest are at most one apart, and neighbours are not
both even. -/
theorem unique (first : Nearest m value) (second : Nearest n value) : m = n := by
  wlog le : m ≤ n generalizing m n
  · exact (this second first (Nat.le_of_not_le le)).symm
  have below := (abs_le.mp first.near).2
  have above := (abs_le.mp second.near).1
  have bound : (n : ℚ) ≤ (m + 1 : ℕ) := by
    push_cast
    linarith
  have apart : n ≤ m + 1 := by exact_mod_cast bound
  rcases Nat.eq_or_lt_of_le le with same | less
  · exact same
  · -- The value is the half between them.
    obtain rfl : n = m + 1 := by omega
    push_cast at above
    have half : value = m + 1 / 2 := by linarith
    have evenFirst : Even m := first.even (by rw [half, add_sub_cancel_left]; norm_num)
    have evenSecond : Even (m + 1) := second.even (by
      have gap : value - (m + 1 : ℕ) = -(1 / 2) := by
        push_cast
        linarith
      rw [gap]
      norm_num)
    exact absurd evenFirst (Nat.even_add_one.mp evenSecond)

end Nearest

theorem nearest_roundHalfEven (a : ℕ) {b : ℕ} (positive : 0 < b) :
    Nearest (roundHalfEven a b) (a / b) := by
  have divisor : (0 : ℚ) < b := by exact_mod_cast positive
  have parts : (a : ℚ) = b * (a / b : ℕ) + (a % b : ℕ) := by
    exact_mod_cast (Nat.div_add_mod a b).symm
  have whole : (a : ℚ) / b = (a / b : ℕ) + (a % b : ℕ) / b := by
    rw [div_eq_iff divisor.ne', add_mul, div_mul_cancel₀ _ divisor.ne', mul_comm, ← parts]
  have least : (0 : ℚ) ≤ (a % b : ℕ) / b := by positivity
  have less : ((a % b : ℕ) : ℚ) / b < 1 := by
    rw [div_lt_one divisor]
    exact_mod_cast Nat.mod_lt a positive
  rw [whole]
  unfold roundHalfEven
  dsimp only
  rcases Nat.lt_trichotomy (2 * (a % b)) b with small | half | large
  · have rest : ((a % b : ℕ) : ℚ) / b < 1 / 2 := by
      have cast : (2 * (a % b : ℕ) : ℚ) < b := by exact_mod_cast small
      rw [div_lt_iff₀ divisor]
      linarith
    rw [if_pos small]
    exact .of_lt (abs_lt.mpr ⟨by linarith, by linarith⟩)
  · have rest : ((a % b : ℕ) : ℚ) / b = 1 / 2 := by
      have cast : (2 * (a % b : ℕ) : ℚ) = b := by exact_mod_cast half
      rw [div_eq_iff divisor.ne']
      linarith
    rw [if_neg (by omega), if_neg (by omega), rest]
    have even : Even (a / b + a / b % 2) := by
      rw [Nat.even_iff]
      omega
    refine ⟨?_, fun _ => even⟩
    rcases Nat.mod_two_eq_zero_or_one (a / b) with zero | one
    · rw [zero, Nat.add_zero, add_sub_cancel_left]
      norm_num
    · rw [one]
      push_cast
      exact abs_le.mpr ⟨by linarith, by linarith⟩
  · have rest : 1 / 2 < ((a % b : ℕ) : ℚ) / b := by
      have cast : (b : ℚ) < (2 * (a % b : ℕ) : ℚ) := by exact_mod_cast large
      rw [lt_div_iff₀ divisor]
      linarith
    rw [if_neg (by omega), if_pos large]
    apply Nearest.of_lt
    push_cast
    exact abs_lt.mpr ⟨by linarith, by linarith⟩

namespace Binary64

variable {x : Binary64}

def value (x : Binary64) : ℚ := x.signedUnits / unitsPerOne

theorem units_pos (nonzero : 0 < x.code) : 0 < x.units := by
  apply Nat.mul_pos _ (twoTo_pos _)
  by_cases small : x.code < twoTo 52
  · simpa [mantissa, small] using nonzero
  · exact Nat.lt_of_lt_of_le (twoTo_pos 52) (le_mantissa (Nat.not_lt.mp small))

theorem units_eq_zero (zero : x.code = 0) : x.units = 0 := by
  simp [units, mantissa, zero]

theorem signedUnits_neg_iff : x.signedUnits < 0 ↔ x.negative = true ∧ 0 < x.code := by
  rcases Nat.eq_zero_or_pos x.code with zero | positive
  · simp [signedUnits, units_eq_zero zero, zero]
  · have units := units_pos positive
    unfold signedUnits
    split <;> simp_all

theorem value_neg_iff : x.value < 0 ↔ x.signedUnits < 0 := by
  have positive : (0 : ℚ) < unitsPerOne := by exact_mod_cast unitsPerOne_pos
  rw [value, div_lt_iff₀ positive, zero_mul, Int.cast_lt_zero]

theorem isBelowZero_iff (finite : x.isFinite = true) : x.isBelowZero = true ↔ x.value < 0 := by
  have number : x.isNaN = false := by
    have bounded : x.code < infinityCode := of_decide_eq_true finite
    exact decide_eq_false (Nat.not_lt.mpr bounded.le)
  rw [value_neg_iff, signedUnits_neg_iff, isBelowZero, number, Bool.not_false, Bool.true_and,
    decide_eq_true_iff, orderKey]
  split <;> simp_all

theorem value_of_nonneg (nonneg : 0 ≤ x.value) : x.value = (x.units : ℚ) / unitsPerOne := by
  have signed : ¬ x.signedUnits < 0 := fun below => nonneg.not_gt (value_neg_iff.mpr below)
  have plain : x.signedUnits = x.units := by
    unfold signedUnits at signed ⊢
    split at signed <;> simp_all
  rw [value, plain, Int.cast_natCast]

theorem value_lt_iff (nonneg : 0 ≤ x.value) (n : ℕ) :
    x.value < n ↔ x.units < n * unitsPerOne := by
  have positive : (0 : ℚ) < unitsPerOne := by exact_mod_cast unitsPerOne_pos
  rw [value_of_nonneg nonneg, div_lt_iff₀ positive, ← Nat.cast_mul, Nat.cast_lt]

end Binary64

end MqAdmin
