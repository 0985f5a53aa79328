/-!
Double-precision numbers as exact values. A finite magnitude is a whole multiple of the least
positive one, so all arithmetic here is arithmetic of natural numbers followed by one rounding
to the nearest number, ties going to the even one.
-/

namespace MqAdmin

abbrev twoTo (exponent : Nat) : Nat := Nat.pow 2 exponent

abbrev tenTo (exponent : Nat) : Nat := Nat.pow 10 exponent

/-- The quotient of two naturals, rounded to the nearest; a half goes to the even neighbour. -/
def roundHalfEven (a b : Nat) : Nat :=
  let below := a / b
  let rest := a % b
  if 2 * rest < b then below else if b < 2 * rest then below + 1 else below + below % 2

/-- A sign and the code of a magnitude. Codes ascend with the magnitudes; that of infinity is
`Binary64.infinityCode`, and those above it are no numbers. -/
structure Binary64 where
  negative : Bool
  code : Nat
  code_lt : code < twoTo 63
deriving DecidableEq

namespace Binary64

def infinityCode : Nat := 2047 * twoTo 52

def isFinite (x : Binary64) : Bool := x.code < infinityCode

def isNaN (x : Binary64) : Bool := infinityCode < x.code

def isZero (x : Binary64) : Bool := x.code == 0

/-- The significand of a finite number: 53 bits, fewer only for the subnormal ones. -/
def mantissa (x : Binary64) : Nat :=
  if x.code < twoTo 52 then x.code else twoTo 52 + x.code % twoTo 52

/-- The power of two by which the significand counts least positive numbers. -/
def shift (x : Binary64) : Nat := x.code / twoTo 52 - 1

/-- A finite magnitude as a multiple of the least positive number. -/
def units (x : Binary64) : Nat := x.mantissa * twoTo x.shift

def unitsPerOne : Nat := twoTo 1074

/-- The code nearest to `a / b` least positive numbers; what is too large becomes infinity. -/
def roundUnits (a b : Nat) : Nat :=
  let shift := (a / b).log2 - 52
  min (shift * twoTo 52 + roundHalfEven a (b * twoTo shift)) infinityCode

theorem roundUnits_le (a b : Nat) : roundUnits a b ≤ infinityCode := Nat.min_le_right _ _

def ofUnits (negative : Bool) (a b : Nat) : Binary64 :=
  ⟨negative, roundUnits a b, Nat.lt_of_le_of_lt (roundUnits_le a b) (by decide)⟩

def ofRatio (negative : Bool) (a b : Nat) : Binary64 := ofUnits negative (a * unitsPerOne) b

def infinity (negative : Bool) : Binary64 := ⟨negative, infinityCode, by decide⟩

def nan : Binary64 := ⟨false, infinityCode + twoTo 51, by decide⟩

def zero : Binary64 := ⟨false, 0, by decide⟩

instance : Inhabited Binary64 := ⟨zero⟩

def neg (x : Binary64) : Binary64 := { x with negative := !x.negative }

def ofInt (n : Int) : Binary64 := ofRatio (n < 0) n.natAbs 1

def ofNat (n : Nat) : Binary64 := ofRatio false n 1

def mul (x y : Binary64) : Binary64 :=
  ofUnits (x.negative != y.negative) (x.units * y.units) unitsPerOne

/-- The quotient of two finite numbers, the second not zero. -/
def div (x y : Binary64) : Binary64 :=
  ofRatio (x.negative != y.negative) x.units y.units

def signedUnits (x : Binary64) : Int := if x.negative then -(x.units : Int) else x.units

/-- The sum; of two zeros it is negative only if both are. -/
def add (x y : Binary64) : Binary64 :=
  if x.isFinite && y.isFinite then
    let sum := x.signedUnits + y.signedUnits
    if sum = 0 then { zero with negative := x.negative && y.negative }
    else ofUnits (sum < 0) sum.natAbs 1
  else if x.isNaN || y.isNaN then nan
  else if x.isFinite then y
  else if y.isFinite then x
  else if x.negative = y.negative then x else nan

/-- A key that orders numbers as their values do; the two zeros share one. -/
def orderKey (x : Binary64) : Int := if x.negative then -(x.code : Int) else x.code

/-- Comparison of values; nothing compares with what is no number. -/
def le (x y : Binary64) : Bool := !x.isNaN && !y.isNaN && x.orderKey ≤ y.orderKey

def isBelowZero (x : Binary64) : Bool := !x.isNaN && x.orderKey < 0

end Binary64

end MqAdmin
