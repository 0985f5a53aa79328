import MqAdmin.Number.Binary64

namespace MqAdmin

/-- A decimal number: digits times a power of ten. -/
structure Decimal where
  digits : Nat
  exponent : Int
deriving DecidableEq

namespace Decimal

/-- Moves trailing zeros of the digits into the exponent. -/
def strip (digits : Nat) (exponent : Int) : (places : Nat) → Decimal
  | 0 => ⟨digits, exponent⟩
  | places + 1 =>
    if digits % 10 = 0 && digits ≠ 0 then strip (digits / 10) (exponent + 1) places
    else ⟨digits, exponent⟩

/-- The largest power of ten not above `a / b`, as an exponent, for a positive quotient. -/
def leadingExponent (a b : Nat) : Int :=
  let guess := ((a.log2 : Int) - b.log2 - 1) * 30103 / 100000 - 1
  let fits (k : Int) : Bool := b * tenTo k.toNat ≤ a * tenTo (-k).toNat
  if fits (guess + 3) then guess + 3 else if fits (guess + 2) then guess + 2
  else if fits (guess + 1) then guess + 1 else guess

/-- The multiple of `10 ^ k` that reads back as the number, the nearer one if there are two. All
lengths are in quarters of the least positive number. -/
def nearestOnGrid? (x : Binary64) (k : Int) : Option Nat :=
  let up := tenTo (-k).toNat
  let grid := 4 * Binary64.unitsPerOne * tenTo k.toNat
  let value := 4 * x.units * up
  let step := twoTo x.shift
  let stepDown := if x.mantissa = twoTo 52 && x.shift ≠ 0 then step else 2 * step
  let least := value - stepDown * up
  let most := value + 2 * step * up
  let inclusive := x.mantissa % 2 == 0
  let below := value / grid
  let belowReads := if inclusive then least ≤ below * grid else least < below * grid
  let aboveReads := if inclusive then (below + 1) * grid ≤ most else (below + 1) * grid < most
  let belowIsNearer := 2 * (value - below * grid) < grid ||
    (2 * (value - below * grid) == grid && below % 2 == 0)
  if belowReads && (belowIsNearer || !aboveReads) then some below
  else if aboveReads then some (below + 1)
  else none

/-- Tries ever finer grids, up to 17 digits. -/
def shortestFrom (x : Binary64) (lead : Int) (digits : Nat) : (tries : Nat) → Decimal
  | 0 => ⟨0, 0⟩
  | tries + 1 =>
    match nearestOnGrid? x (lead - digits) with
    | some found => strip found (lead - digits) 20
    | none => shortestFrom x lead (digits + 1) tries

/-- The shortest decimal that reads back as a finite magnitude, and of those the nearest. -/
def shortest (x : Binary64) : Decimal :=
  if x.isZero then ⟨0, 0⟩
  else shortestFrom x (leadingExponent x.units Binary64.unitsPerOne) 0 18

def digitChars (d : Decimal) : List Char := Nat.toDigits 10 d.digits

/-- The exponent of the first digit. -/
def scale (d : Decimal) : Int := d.exponent + d.digitChars.length - 1

/-- All digits written out around the point; without a fraction there is no point. -/
def positional (d : Decimal) : List Char :=
  let digits := d.digitChars
  let whole := d.scale + 1
  if 0 ≤ d.exponent then digits ++ List.replicate d.exponent.toNat '0'
  else if 0 < whole then digits.take whole.toNat ++ '.' :: digits.drop whole.toNat
  else '0' :: '.' :: List.replicate (-whole).toNat '0' ++ digits

/-- One digit before the point, and an exponent that always has a sign. -/
def scientific (d : Decimal) : List Char :=
  let fraction := match d.digitChars.drop 1 with
    | [] => []
    | rest => '.' :: rest
  d.digitChars.take 1 ++ fraction ++ 'e' :: (if d.scale < 0 then '-' else '+') ::
    Nat.toDigits 10 d.scale.natAbs

end Decimal

namespace Binary64

def signText (x : Binary64) (magnitude : List Char) : String :=
  String.ofList (if x.negative then '-' :: magnitude else magnitude)

def nonFiniteText (x : Binary64) : String :=
  if x.isNaN then "NaN" else x.signText "inf".toList

/-- Which numbers are written positionally, by the exponent of the first digit, and whether a
whole number shows a zero after the point. -/
structure Layout where
  plainFrom : Int
  plainBelow : Int
  showsFraction : Bool

/-- Documents write 0.00001 and 1000000000000000.0 positionally, and no whole number bare. -/
def Layout.document : Layout := ⟨-5, 16, true⟩

def documentText (x : Binary64) : String :=
  let d := Decimal.shortest x
  x.signText <|
    if Layout.document.plainFrom ≤ d.scale && d.scale < Layout.document.plainBelow then
      let text := d.positional
      if Layout.document.showsFraction && 0 ≤ d.exponent then text ++ ['.', '0'] else text
    else d.scientific

/-- The text of a number in a message: positional whatever its size. -/
def messageText (x : Binary64) : String :=
  if x.isFinite then x.signText (Decimal.shortest x).positional else x.nonFiniteText

/-- The exact value rounded to one decimal place; a half goes to the even digit. -/
def tenthsText (x : Binary64) : String :=
  if x.isFinite then
    let tenths := roundHalfEven (x.units * 10) unitsPerOne
    x.signText (Nat.toDigits 10 (tenths / 10) ++ '.' :: Nat.toDigits 10 (tenths % 10))
  else x.nonFiniteText

end Binary64

end MqAdmin
