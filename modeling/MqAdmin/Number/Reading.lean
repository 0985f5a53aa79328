import MqAdmin.Number.Binary64

/-!
Numbers from decimal text: integers of a machine word, double-precision numbers rounded once from
the exact value, and the scaled reading of document literals.
-/

namespace MqAdmin

/-- The value of a run of decimal digits, in front of which `value` was read. -/
def readDigits (value : Nat) : List Char → Option Nat
  | [] => some value
  | c :: rest =>
    if c.isDigit then readDigits (value * 10 + (c.toNat - '0'.toNat)) rest else none

def natural? : List Char → Option Nat
  | [] => none
  | c :: rest => readDigits 0 (c :: rest)

/-- A natural number below two to the 64th, with an optional plus sign. -/
def word? (cs : List Char) : Option Nat := do
  let digits := match cs with
    | '+' :: rest => rest
    | _ => cs
  let value ← natural? digits
  guard (value < twoTo 64)
  return value

/-- An integer of 64 signed bits, with an optional sign. -/
def signedWord? (cs : List Char) : Option Int := do
  let value : Int ← match cs with
    | '-' :: rest => (natural? rest).map fun n => -(n : Int)
    | '+' :: rest => (natural? rest).map Int.ofNat
    | _ => (natural? cs).map Int.ofNat
  guard (-twoTo 63 ≤ value && value < twoTo 63)
  return value

namespace Binary64

def ofDecimal (negative : Bool) (digits : Nat) (exponent : Int) : Binary64 :=
  let size := (Nat.toDigits 10 digits).length + exponent
  if digits = 0 || size < -330 then { zero with negative }
  else if 310 < size then infinity negative
  else ofRatio negative (digits * tenTo exponent.toNat) (tenTo (-exponent).toNat)

def powerOfTen (exponent : Nat) : Binary64 := ofNat (tenTo exponent)

/-- Divides by a power of ten, in steps of at most `10 ^ 308`; each step rounds. -/
def dividedByPowerOfTen (x : Binary64) (exponent : Nat) : (steps : Nat) → Binary64
  | 0 => x
  | steps + 1 =>
    if exponent ≤ 308 then x.div (powerOfTen exponent)
    else if x.isZero then x
    else dividedByPowerOfTen (x.div (powerOfTen 308)) (exponent - 308) steps

/-- The number a document literal stands for: its significand becomes a number first, which is
then scaled, so two roundings can show. None if it is too large. -/
def ofScaled (negative : Bool) (significand : Nat) (exponent : Int) : Option Binary64 :=
  let start := ofNat significand
  let sign (x : Binary64) : Binary64 := if negative then x.neg else x
  if exponent < 0 then some (sign (dividedByPowerOfTen start exponent.natAbs 4))
  else if exponent ≤ 308 then
    let scaled := start.mul (powerOfTen exponent.natAbs)
    if scaled.isFinite then some (sign scaled) else none
  else if start.isZero then some (sign start)
  else none

/-- The parts of a decimal literal: digits, and how many of them stand after the point. -/
structure Literal where
  digits : Nat
  places : Nat
  exponent : Int

/-- An exponent mark with its optional sign and digits, or nothing. -/
def exponent? : List Char → Option Int
  | [] => some 0
  | mark :: rest =>
    if mark = 'e' || mark = 'E' then
      match rest with
      | '-' :: digits => (natural? digits).map fun n => -(n : Int)
      | '+' :: digits => (natural? digits).map Int.ofNat
      | digits => (natural? digits).map Int.ofNat
    else none

/-- A literal with digits before or after an optional point. -/
def literal? (cs : List Char) : Option Literal := do
  let whole := cs.takeWhile Char.isDigit
  match cs.dropWhile Char.isDigit with
  | '.' :: rest =>
    let fraction := rest.takeWhile Char.isDigit
    let digits ← natural? (whole ++ fraction)
    return ⟨digits, fraction.length, ← exponent? (rest.dropWhile Char.isDigit)⟩
  | rest =>
    let digits ← natural? whole
    return ⟨digits, 0, ← exponent? rest⟩

def ofLiteral (negative : Bool) (l : Literal) : Binary64 :=
  ofDecimal negative l.digits (l.exponent - l.places)

/-- A number as people type it: a literal, `inf`, `infinity` or `nan` in any case, with a sign. -/
def parse? (cs : List Char) : Option Binary64 :=
  let (negative, body) := match cs with
    | '-' :: rest => (true, rest)
    | '+' :: rest => (false, rest)
    | _ => (false, cs)
  let word := String.ofList (body.map Char.toLower)
  if word = "inf" || word = "infinity" then some (infinity negative)
  else if word = "nan" then some { nan with negative }
  else (literal? body).map (ofLiteral negative)

end Binary64

end MqAdmin
