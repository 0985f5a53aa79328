import MqAdmin.Duration
import MqAdmin.Proofs.Number.Rounding

/-!
Lengths of time in seconds keep their order. Up to two to the 53rd whole seconds are counted
exactly, and a fraction never reaches the next one; beyond, a fraction is lost in the rounding.
-/

namespace MqAdmin

namespace Binary64

variable {x y : Binary64}

theorem isNaN_of_code_le (number : x.code ≤ infinityCode) : x.isNaN = false := by
  simpa [isNaN] using number

/-- Numbers that are not negative compare as their codes do. -/
theorem le_of_code_le (plain : x.negative = false) (plainToo : y.negative = false)
    (le : x.code ≤ y.code) (number : y.code ≤ infinityCode) : x.le y = true := by
  simp [Binary64.le, isNaN_of_code_le number, isNaN_of_code_le (Nat.le_trans le number), orderKey,
    plain, plainToo, le]

theorem negative_add (plain : x.negative = false) (plainToo : y.negative = false) :
    (x.add y).negative = false := by
  have sum : ¬ (x.units : Int) + y.units < 0 := by omega
  simp only [add, signedUnits, plain, plainToo]
  repeat' split
  all_goals simp_all [nan, ofUnits]

theorem code_add (plain : x.negative = false) (plainToo : y.negative = false)
    (finite : x.isFinite = true) (finiteToo : y.isFinite = true) :
    (x.add y).code = roundUnits (x.units + y.units) 1 := by
  simp only [add, finite, finiteToo, signedUnits, plain, plainToo]
  simp only [Bool.and_self, Bool.false_eq_true, ↓reduceIte]
  by_cases zero : x.units + y.units = 0
  · have sum : (x.units : Int) + y.units = 0 := by omega
    rw [if_pos sum, zero]
    rfl
  · have sum : (x.units : Int) + y.units ≠ 0 := by omega
    have magnitude : ((x.units : Int) + y.units).natAbs = x.units + y.units := by omega
    rw [if_neg sum, magnitude]
    rfl

theorem code_add_of_infinite (infinite : x.code = infinityCode) (finite : y.isFinite = true) :
    (x.add y).code = infinityCode := by
  have unbounded : x.isFinite = false := by simp [isFinite, infinite]
  have number : x.isNaN = false := isNaN_of_code_le (Nat.le_of_eq infinite)
  have numberToo : y.isNaN = false :=
    isNaN_of_code_le (Nat.le_of_lt (of_decide_eq_true finite))
  simp [add, unbounded, finite, number, numberToo, infinite]

theorem ofNat_code_mono {m n : Nat} (le : m ≤ n) : (ofNat m).code ≤ (ofNat n).code :=
  roundUnits_mono Nat.one_pos (Nat.mul_le_mul_right _ le)

theorem ofNat_code_of_infinite {n : Nat} (infinite : ¬ (ofNat n).isFinite = true) :
    (ofNat n).code = infinityCode :=
  Nat.le_antisymm (roundUnits_le _ _) (by simpa [isFinite] using infinite)

/-- A number of at most 53 bits, moved up to the full precision. -/
theorem moved_up {n : Nat} (nonzero : n ≠ 0) (less : n < twoTo 53) :
    twoTo 52 ≤ n * twoTo (52 - n.log2) ∧ n * twoTo (52 - n.log2) < twoTo 53 := by
  have low : twoTo n.log2 ≤ n := Nat.log2_self_le nonzero
  have high : n < twoTo (n.log2 + 1) := Nat.lt_log2_self
  have short : n.log2 < 53 := (Nat.log2_lt nonzero).mpr less
  constructor
  · calc twoTo 52 = twoTo n.log2 * twoTo (52 - n.log2) := (twoTo_mul_twoTo (by omega)).symm
      _ ≤ n * twoTo (52 - n.log2) := Nat.mul_le_mul_right _ low
  · calc n * twoTo (52 - n.log2)
        < twoTo (n.log2 + 1) * twoTo (52 - n.log2) :=
          Nat.mul_lt_mul_of_pos_right high (twoTo_pos _)
      _ = twoTo 53 := twoTo_mul_twoTo (by omega)

theorem units_moved_up {n : Nat} (nonzero : n ≠ 0) (less : n < twoTo 53) :
    n * unitsPerOne = n * twoTo (52 - n.log2) * twoTo (1022 + n.log2) := by
  have short : n.log2 < 53 := (Nat.log2_lt nonzero).mpr less
  have moved : twoTo (52 - n.log2) * twoTo n.log2 = twoTo 52 := twoTo_mul_twoTo (by omega)
  have one : unitsPerOne = twoTo 52 * twoTo 1022 := by decide +kernel
  rw [one, ← moved, Nat.add_comm 1022, twoTo_add n.log2]
  simp only [Nat.mul_assoc]

/-- Up to two to the 53rd every natural number is counted exactly. -/
theorem units_ofNat {n : Nat} (le : n ≤ twoTo 53) : (ofNat n).units = n * unitsPerOne := by
  rcases Nat.lt_or_eq_of_le le with less | same
  · by_cases zero : n = 0
    · subst zero
      decide +kernel
    obtain ⟨full, fits⟩ := moved_up zero less
    have units := units_moved_up zero less
    have code : (ofNat n).code = (1022 + n.log2) * twoTo 52 + n * twoTo (52 - n.log2) := by
      have rounded : roundUnits (n * twoTo (52 - n.log2) * twoTo (1022 + n.log2) + 0) 1 =
          min ((1022 + n.log2) * twoTo 52 + n * twoTo (52 - n.log2)) infinityCode :=
        roundUnits_add full fits (twoTo_pos _)
      have short : n.log2 < 53 := (Nat.log2_lt zero).mpr less
      have bounded : (1022 + n.log2) * twoTo 52 ≤ 1074 * twoTo 52 :=
        Nat.mul_le_mul_right _ (by omega)
      have room : 1074 * twoTo 52 + twoTo 53 ≤ infinityCode := by decide
      rw [Nat.add_zero, ← units] at rounded
      exact rounded.trans (Nat.min_eq_left
        (Nat.le_trans (Nat.add_le_add bounded (Nat.le_of_lt fits)) room))
    rw [units_of_code full fits code, units]
  · subst same
    decide +kernel

end Binary64

namespace Duration

open Binary64

/-- The fraction of a second that some nanoseconds are. -/
def fraction (nanoseconds : Nat) : Binary64 :=
  (Binary64.ofNat nanoseconds).div (Binary64.ofNat nanosecondsPerSecond)

theorem toBinary64_eq (d : Duration) :
    d.toBinary64 = (Binary64.ofNat d.seconds).add (fraction d.subseconds) := rfl

theorem fraction_code_mono {m n : Nat} (le : m ≤ n) : (fraction m).code ≤ (fraction n).code :=
  roundUnits_mono (by decide +kernel) (Nat.mul_le_mul_right _ (units_mono (ofNat_code_mono le)))

theorem fraction_le_most (d : Duration) :
    (fraction d.subseconds).code ≤ (fraction 999999999).code :=
  fraction_code_mono (Nat.le_of_lt_succ (Nat.mod_lt _ (by decide : 0 < nanosecondsPerSecond)))

/-- The fraction of a second is rounded to less than a second. -/
theorem fraction_units_lt (d : Duration) : (fraction d.subseconds).units < unitsPerOne := by
  have bound : (fraction 999999999).units < unitsPerOne := by decide +kernel
  exact Nat.lt_of_le_of_lt (units_mono (fraction_le_most d)) bound

theorem fraction_isFinite (d : Duration) : (fraction d.subseconds).isFinite = true := by
  have bound : (fraction 999999999).code < infinityCode := by decide +kernel
  exact decide_eq_true (Nat.lt_of_le_of_lt (fraction_le_most d) bound)

theorem toBinary64_negative (d : Duration) : d.toBinary64.negative = false :=
  negative_add rfl rfl

theorem toBinary64_code_of_finite {d : Duration} (finite : (Binary64.ofNat d.seconds).isFinite) :
    d.toBinary64.code =
      roundUnits ((Binary64.ofNat d.seconds).units + (fraction d.subseconds).units) 1 :=
  code_add rfl rfl finite (fraction_isFinite d)

/-- Where seconds are not counted one by one any more, a fraction of one is lost. -/
theorem toBinary64_code_of_long {d : Duration} (finite : (Binary64.ofNat d.seconds).isFinite)
    (long : twoTo 53 ≤ d.seconds) : d.toBinary64.code = (Binary64.ofNat d.seconds).code := by
  have bound : (Binary64.ofNat (twoTo 53)).code = 1076 * twoTo 52 := by decide +kernel
  have code := ofNat_code_mono long
  rw [bound] at code
  have normal : twoTo 52 ≤ (Binary64.ofNat d.seconds).code :=
    Nat.le_trans (by decide) code
  have placed : 1075 ≤ (Binary64.ofNat d.seconds).shift :=
    Nat.le_sub_of_add_le ((Nat.le_div_iff_mul_le (twoTo_pos 52)).mpr code)
  have near : 2 * (fraction d.subseconds).units < twoTo (Binary64.ofNat d.seconds).shift := by
    have less := fraction_units_lt d
    have scaled : twoTo 1075 ≤ twoTo (Binary64.ofNat d.seconds).shift := twoTo_le placed
    have double : twoTo 1075 = 2 * unitsPerOne := by decide +kernel
    omega
  rw [toBinary64_code_of_finite finite, roundUnits_units_add normal near]
  exact Nat.min_eq_left (roundUnits_le _ _)

theorem toBinary64_code_le (d : Duration) : d.toBinary64.code ≤ infinityCode := by
  by_cases finite : (Binary64.ofNat d.seconds).isFinite = true
  · rw [toBinary64_code_of_finite finite]
    exact roundUnits_le _ _
  · exact Nat.le_of_eq (code_add_of_infinite (ofNat_code_of_infinite finite) (fraction_isFinite d))

variable {first second : Duration}

theorem toBinary64_code_mono (le : first.nanoseconds ≤ second.nanoseconds) :
    first.toBinary64.code ≤ second.toBinary64.code := by
  have seconds : first.seconds ≤ second.seconds := Nat.div_le_div_right le
  have codes := ofNat_code_mono seconds
  by_cases finite : (Binary64.ofNat second.seconds).isFinite = true
  · have bounded : (Binary64.ofNat second.seconds).code < infinityCode := of_decide_eq_true finite
    have finiteToo : (Binary64.ofNat first.seconds).isFinite = true :=
      decide_eq_true (Nat.lt_of_le_of_lt codes bounded)
    rcases Nat.lt_or_eq_of_le seconds with before | same
    · by_cases long : twoTo 53 ≤ first.seconds
      · rw [toBinary64_code_of_long finiteToo long,
          toBinary64_code_of_long finite (Nat.le_trans long seconds)]
        exact codes
      · -- The fraction does not reach the next second, which is counted exactly.
        have exact : (Binary64.ofNat first.seconds).units = first.seconds * unitsPerOne :=
          units_ofNat (by omega)
        have next : (Binary64.ofNat (first.seconds + 1)).units =
            (first.seconds + 1) * unitsPerOne := units_ofNat (by omega)
        have reached := units_mono (ofNat_code_mono (n := second.seconds) before)
        have less := fraction_units_lt first
        rw [toBinary64_code_of_finite finite, toBinary64_code_of_finite finiteToo]
        apply roundUnits_mono Nat.one_pos
        rw [next, Nat.succ_mul] at reached
        omega
    · have subseconds : first.subseconds ≤ second.subseconds := by
        have splitFirst := Nat.div_add_mod first.nanoseconds nanosecondsPerSecond
        have splitSecond := Nat.div_add_mod second.nanoseconds nanosecondsPerSecond
        simp only [Duration.seconds] at same
        rw [same] at splitFirst
        simp only [Duration.subseconds]
        omega
      have fractions := units_mono (fraction_code_mono subseconds)
      rw [toBinary64_code_of_finite finite, toBinary64_code_of_finite finiteToo, same]
      exact roundUnits_mono Nat.one_pos (Nat.add_le_add_left fractions _)
  · have infinite := ofNat_code_of_infinite finite
    rw [toBinary64_eq second, code_add_of_infinite infinite (fraction_isFinite second)]
    exact toBinary64_code_le first

/-- A longer time is not fewer seconds. -/
theorem toBinary64_le (le : first.nanoseconds ≤ second.nanoseconds) :
    first.toBinary64.le second.toBinary64 = true :=
  le_of_code_le first.toBinary64_negative second.toBinary64_negative (toBinary64_code_mono le)
    second.toBinary64_code_le

end Duration

end MqAdmin
