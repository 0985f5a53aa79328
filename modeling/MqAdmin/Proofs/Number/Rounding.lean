import MqAdmin.Number.Binary64

/-!
Rounding to double precision keeps the order of what is rounded. A number of full precision is its
own rounding, and so is everything that lies less than half a place above it.
-/

namespace MqAdmin

theorem twoTo_pos (exponent : Nat) : 0 < twoTo exponent := Nat.two_pow_pos exponent

theorem twoTo_add (first second : Nat) : twoTo (first + second) = twoTo first * twoTo second :=
  Nat.pow_add 2 first second

theorem twoTo_mul_twoTo {first second total : Nat} (sum : first + second = total) :
    twoTo first * twoTo second = twoTo total := by
  rw [← twoTo_add, sum]

theorem twoTo_le {first second : Nat} (le : first ≤ second) : twoTo first ≤ twoTo second :=
  Nat.pow_le_pow_right (by decide) le

section HalfEven

variable {a b c n : Nat}

theorem roundHalfEven_cases (a b : Nat) :
    roundHalfEven a b = a / b ∨ roundHalfEven a b = a / b + 1 := by
  simp only [roundHalfEven]
  split
  · exact .inl rfl
  · split
    · exact .inr rfl
    · omega

theorem roundHalfEven_mono (le : a ≤ c) (b : Nat) : roundHalfEven a b ≤ roundHalfEven c b := by
  have quotients : a / b ≤ c / b := Nat.div_le_div_right le
  rcases Nat.lt_or_eq_of_le quotients with below | same
  · have first := roundHalfEven_cases a b
    have second := roundHalfEven_cases c b
    omega
  · have rests : a % b ≤ c % b := by
      have splitA := Nat.div_add_mod a b
      have splitC := Nat.div_add_mod c b
      rw [same] at splitA
      omega
    simp only [roundHalfEven, same]
    repeat' split
    all_goals omega

theorem roundHalfEven_le (below : a < n * b) : roundHalfEven a b ≤ n := by
  have positive : 0 < b := Nat.pos_of_ne_zero (by rintro rfl; simp at below)
  have quotient : a / b < n := (Nat.div_lt_iff_lt_mul positive).mpr below
  have rounded := roundHalfEven_cases a b
  omega

theorem le_roundHalfEven (positive : 0 < b) (above : n * b ≤ a) : n ≤ roundHalfEven a b := by
  have quotient : n ≤ a / b := (Nat.le_div_iff_mul_le positive).mpr above
  have rounded := roundHalfEven_cases a b
  omega

/-- What lies less than half a step above a multiple is rounded down to it. -/
theorem roundHalfEven_add (near : 2 * c < b) : roundHalfEven (n * b + c) b = n := by
  have positive : 0 < b := by omega
  have quotient : (n * b + c) / b = n := by
    rw [Nat.mul_comm, Nat.mul_add_div positive, Nat.div_eq_of_lt (by omega), Nat.add_zero]
  have rest : (n * b + c) % b = c := by
    rw [Nat.mul_comm, Nat.mul_add_mod, Nat.mod_eq_of_lt (by omega)]
  simp only [roundHalfEven, quotient, rest, near, ↓reduceIte]

end HalfEven

namespace Binary64

/-- The power of two, in units, by which the significand of a rounded quotient counts. -/
def place (a b : Nat) : Nat := (a / b).log2 - 52

def significand (a b : Nat) : Nat := roundHalfEven a (b * twoTo (place a b))

theorem roundUnits_eq (a b : Nat) :
    roundUnits a b = min (place a b * twoTo 52 + significand a b) infinityCode := rfl

section Place

variable {a b c : Nat}

theorem significand_le (positive : 0 < b) : significand a b ≤ twoTo 53 := by
  apply roundHalfEven_le
  have quotient : a / b < twoTo ((a / b).log2 + 1) := Nat.lt_log2_self
  have exponent : twoTo ((a / b).log2 + 1) ≤ twoTo (53 + place a b) :=
    twoTo_le (by simp only [place]; omega)
  have below : a < twoTo (53 + place a b) * b :=
    (Nat.div_lt_iff_lt_mul positive).mp (Nat.lt_of_lt_of_le quotient exponent)
  rwa [twoTo_add, Nat.mul_assoc, Nat.mul_comm (twoTo (place a b))] at below

theorem le_significand (positive : 0 < b) (placed : 0 < place a b) :
    twoTo 52 ≤ significand a b := by
  have exponent : (a / b).log2 = 52 + place a b := by
    simp only [place] at placed ⊢
    omega
  have nonzero : a / b ≠ 0 := by
    intro none
    rw [none, Nat.log2_zero] at exponent
    omega
  have quotient : twoTo (a / b).log2 ≤ a / b := Nat.log2_self_le nonzero
  rw [exponent, twoTo_add, Nat.le_div_iff_mul_le positive, Nat.mul_assoc,
    Nat.mul_comm (twoTo (place a b))] at quotient
  exact le_roundHalfEven (Nat.mul_pos positive (twoTo_pos _)) quotient

theorem place_mono (le : a ≤ c) (b : Nat) : place a b ≤ place c b := by
  have quotients : a / b ≤ c / b := Nat.div_le_div_right le
  by_cases none : a / b = 0
  · simp [place, none]
  · have logs : (a / b).log2 ≤ (c / b).log2 := by
      have low : twoTo (a / b).log2 ≤ a / b := Nat.log2_self_le none
      exact (Nat.le_log2 (by omega)).mpr (Nat.le_trans low quotients)
    simp only [place]
    omega

/-- Rounding keeps the order: in one place the significands are ordered, and beyond it every
significand counts for more than the greatest one before. -/
theorem roundUnits_mono (positive : 0 < b) (le : a ≤ c) : roundUnits a b ≤ roundUnits c b := by
  have codes : place a b * twoTo 52 + significand a b ≤ place c b * twoTo 52 + significand c b := by
    rcases Nat.lt_or_eq_of_le (place_mono le b) with before | same
    · have most := significand_le (a := a) positive
      have least : twoTo 52 ≤ significand c b := le_significand positive (by omega)
      have double : twoTo 53 = twoTo 52 + twoTo 52 := by decide
      have gap : (place a b + 1) * twoTo 52 ≤ place c b * twoTo 52 :=
        Nat.mul_le_mul_right _ before
      rw [Nat.succ_mul] at gap
      omega
    · have significands : significand a b ≤ significand c b := by
        simp only [significand, same]
        exact roundHalfEven_mono le _
      rw [same]
      omega
  rw [roundUnits_eq, roundUnits_eq]
  omega

/-- A number of full precision and less than half a place more is rounded to the number. -/
theorem roundUnits_add {m place extra : Nat} (full : twoTo 52 ≤ m) (fits : m < twoTo 53)
    (near : 2 * extra < twoTo place) :
    roundUnits (m * twoTo place + extra) 1 = min (place * twoTo 52 + m) infinityCode := by
  have least : twoTo (52 + place) ≤ m * twoTo place + extra := by
    have scaled : twoTo 52 * twoTo place ≤ m * twoTo place := Nat.mul_le_mul_right _ full
    rw [twoTo_add]
    omega
  have most : m * twoTo place + extra < twoTo (52 + place + 1) := by
    have scaled : (m + 1) * twoTo place ≤ twoTo 53 * twoTo place := Nat.mul_le_mul_right _ fits
    rw [← twoTo_mul_twoTo (show 53 + place = 52 + place + 1 by omega)]
    rw [Nat.succ_mul] at scaled
    omega
  have nonzero : m * twoTo place + extra ≠ 0 := by
    have positive := twoTo_pos (52 + place)
    omega
  have exponent : (m * twoTo place + extra).log2 = 52 + place :=
    (Nat.log2_eq_iff nonzero).mpr ⟨least, most⟩
  have placed : Binary64.place (m * twoTo place + extra) 1 = place := by
    rw [Binary64.place, Nat.div_one, exponent]
    omega
  rw [roundUnits_eq, significand, placed, Nat.one_mul, roundHalfEven_add near]

end Place

section Units

variable {x y : Binary64}

theorem mantissa_lt (x : Binary64) : x.mantissa < twoTo 53 := by
  have double : twoTo 53 = twoTo 52 + twoTo 52 := by decide
  have rest : x.code % twoTo 52 < twoTo 52 := Nat.mod_lt _ (twoTo_pos 52)
  simp only [mantissa]
  split <;> omega

theorem le_mantissa (normal : twoTo 52 ≤ x.code) : twoTo 52 ≤ x.mantissa := by
  simp only [mantissa, Nat.not_lt.mpr normal, ↓reduceIte]
  omega

theorem code_eq (normal : twoTo 52 ≤ x.code) : x.shift * twoTo 52 + x.mantissa = x.code := by
  have quotient : 1 ≤ x.code / twoTo 52 := (Nat.le_div_iff_mul_le (twoTo_pos 52)).mpr (by omega)
  have parts := Nat.div_add_mod x.code (twoTo 52)
  have whole : (x.shift + 1) * twoTo 52 = twoTo 52 * (x.code / twoTo 52) := by
    rw [shift, Nat.sub_add_cancel quotient, Nat.mul_comm]
  simp only [mantissa, Nat.not_lt.mpr normal, ↓reduceIte]
  rw [Nat.succ_mul] at whole
  omega

/-- The place and the significand of a number are read off its code. -/
theorem units_of_code {m place : Nat} (full : twoTo 52 ≤ m) (fits : m < twoTo 53)
    (code : x.code = place * twoTo 52 + m) : x.units = m * twoTo place := by
  have least := le_mantissa (x := x) (by omega)
  have most := mantissa_lt x
  have parts := code_eq (x := x) (by omega)
  have double : twoTo 53 = twoTo 52 + twoTo 52 := by decide
  have same : x.shift = place := by
    rw [code] at parts
    rcases Nat.lt_trichotomy x.shift place with before | same | after
    · have gap : (x.shift + 1) * twoTo 52 ≤ place * twoTo 52 := Nat.mul_le_mul_right _ before
      rw [Nat.succ_mul] at gap
      omega
    · exact same
    · have gap : (place + 1) * twoTo 52 ≤ x.shift * twoTo 52 := Nat.mul_le_mul_right _ after
      rw [Nat.succ_mul] at gap
      omega
  rw [code, same] at parts
  rw [units, same, show x.mantissa = m by omega]

theorem units_mono (le : x.code ≤ y.code) : x.units ≤ y.units := by
  by_cases small : x.code < twoTo 52
  · have unshifted : x.shift = 0 := by simp [shift, Nat.div_eq_of_lt small]
    have least : x.mantissa ≤ y.mantissa := by
      by_cases too : y.code < twoTo 52
      · simpa [mantissa, small, too] using le
      · have full := le_mantissa (Nat.not_lt.mp too)
        have part : x.mantissa = x.code := by simp [mantissa, small]
        omega
    rw [units, units, unshifted]
    exact Nat.mul_le_mul least (twoTo_le (Nat.zero_le _))
  · have normal := Nat.not_lt.mp small
    have normalToo := Nat.le_trans normal le
    have shifts : x.shift ≤ y.shift := Nat.sub_le_sub_right (Nat.div_le_div_right le) 1
    rcases Nat.lt_or_eq_of_le shifts with before | same
    · have most := mantissa_lt x
      have least := le_mantissa normalToo
      calc x.mantissa * twoTo x.shift
          ≤ twoTo 53 * twoTo x.shift := Nat.mul_le_mul_right _ (Nat.le_of_lt most)
        _ = twoTo (53 + x.shift) := (twoTo_add 53 x.shift).symm
        _ = twoTo 52 * twoTo (1 + x.shift) := (twoTo_mul_twoTo (by omega)).symm
        _ ≤ y.mantissa * twoTo y.shift := Nat.mul_le_mul least (twoTo_le (by omega))
    · have codeX := code_eq normal
      have codeY := code_eq normalToo
      rw [same] at codeX
      rw [units, units, same]
      exact Nat.mul_le_mul_right _ (by omega)

/-- A number is the rounding of itself and of everything less than half a place more. -/
theorem roundUnits_units_add {extra : Nat} (normal : twoTo 52 ≤ x.code)
    (near : 2 * extra < twoTo x.shift) :
    roundUnits (x.units + extra) 1 = min x.code infinityCode := by
  rw [units, roundUnits_add (le_mantissa normal) (mantissa_lt x) near, code_eq normal]

end Units

end Binary64

end MqAdmin
