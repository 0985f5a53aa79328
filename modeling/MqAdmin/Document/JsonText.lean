import MqAdmin.Document.Basic
import MqAdmin.Number.Reading
import MqAdmin.Text.Blank

/-!
Reading JSON text. The grammar decides whether a text is a document at all; flaws that the grammar
allows, such as a number out of range, stay in the document.
-/

namespace MqAdmin.Document

/-- The four blanks that may stand between the parts of a JSON text. -/
def isJsonBlank (c : Char) : Bool := c = ' ' || c = '\n' || c = '\t' || c = '\r'

def skipBlanks (cs : List Char) : List Char := cs.dropWhile isJsonBlank

def jsonEscape? : Char → Option Char
  | '"' => some '"'
  | '\\' => some '\\'
  | '/' => some '/'
  | 'b' => some '\x08'
  | 'f' => some '\x0c'
  | 'n' => some '\n'
  | 'r' => some '\r'
  | 't' => some '\t'
  | _ => none

def hexDigit? (c : Char) : Option Nat :=
  if c.isDigit then some (c.toNat - '0'.toNat)
  else if 'a' ≤ c && c ≤ 'f' then some (c.toNat - 'a'.toNat + 10)
  else if 'A' ≤ c && c ≤ 'F' then some (c.toNat - 'A'.toNat + 10)
  else none

/-- The value of a run of hexadecimal digits, in front of which `value` was read. -/
def readHex (value : Nat) : List Char → Option Nat
  | [] => some value
  | c :: rest => (hexDigit? c).bind fun digit => readHex (value * 16 + digit) rest

/-- Reads the rest of a text after its opening quote. What was read so far is given in reverse;
`half` is the first half of a surrogate pair if that was read last. -/
def readText (read : List Char) (half : Option Nat) (flawed : Bool) :
    List Char → Option (Option String × List Char)
  | [] => none
  | '"' :: rest =>
    some (if flawed || half.isSome then none else some (String.ofList read.reverse), rest)
  | '\\' :: 'u' :: a :: b :: c :: d :: rest => do
    let unit ← readHex 0 [a, b, c, d]
    if 0xDC00 ≤ unit && unit ≤ 0xDFFF then
      match half with
      | some first =>
        let code := 0x10000 + (first - 0xD800) * 1024 + (unit - 0xDC00)
        readText (Char.ofNat code :: read) none flawed rest
      | none => readText read none true rest
    else if 0xD800 ≤ unit && unit ≤ 0xDBFF then
      readText read (some unit) (flawed || half.isSome) rest
    else readText (Char.ofNat unit :: read) none (flawed || half.isSome) rest
  | '\\' :: c :: rest => do
    let plain ← jsonEscape? c
    readText (plain :: read) none (flawed || half.isSome) rest
  | c :: rest =>
    if c.toNat < 32 then none else readText (c :: read) none (flawed || half.isSome) rest

/-- Appends digits to a significand while it stays below two to the 64th; gives the digits that
no longer fit. -/
def gatherDigits (significand : Nat) : List Char → Nat × List Char
  | [] => (significand, [])
  | c :: rest =>
    let next := significand * 10 + (c.toNat - '0'.toNat)
    if next < twoTo 64 then gatherDigits next rest else (significand, c :: rest)

/-- The number of a literal. Without point and exponent it is an integer if a word holds it; minus
zero is none. Whole digits that do not fit count as powers of ten, such digits after the point are
dropped. -/
def numberOf (negative : Bool) (whole fraction : List Char) (exponent : Option Int) :
    Option Number :=
  let (significand, left) := gatherDigits 0 whole
  if left.isEmpty && fraction.isEmpty && exponent.isNone then
    if !negative then some (.integer significand)
    else if significand = 0 || twoTo 63 < significand then
      some (.real (Binary64.ofNat significand).neg)
    else some (.integer (-significand))
  else
    let (significand, unused) := gatherDigits significand fraction
    let scale : Int := left.length - (fraction.length - unused.length : Nat) + exponent.getD 0
    (Binary64.ofScaled negative significand scale).map .real

/-- The digits at the beginning, at least one. -/
def readDigitRun (cs : List Char) : Option (List Char × List Char) :=
  match cs.takeWhile Char.isDigit with
  | [] => none
  | digits => some (digits, cs.dropWhile Char.isDigit)

def readExponent : List Char → Option (Int × List Char)
  | '-' :: rest => do
    let (digits, rest) ← readDigitRun rest
    return (-(← natural? digits : Nat), rest)
  | '+' :: rest => do
    let (digits, rest) ← readDigitRun rest
    return ((← natural? digits : Nat), rest)
  | cs => do
    let (digits, rest) ← readDigitRun cs
    return ((← natural? digits : Nat), rest)

/-- Reads a number after its sign. Only a lone zero may begin with a zero. -/
def readNumber (negative : Bool) (cs : List Char) : Option (Option Number × List Char) := do
  let (whole, rest) ← readDigitRun cs
  guard (whole.length = 1 || whole.head? ≠ some '0')
  let (fraction, rest) ← match rest with
    | '.' :: rest => readDigitRun rest
    | rest => some ([], rest)
  let (exponent, rest) ← match rest with
    | 'e' :: rest | 'E' :: rest => (readExponent rest).map fun (value, rest) => (some value, rest)
    | rest => some (none, rest)
  return (numberOf negative whole fraction exponent, rest)

mutual

def readDocument : (fuel : Nat) → List Char → Option (Document × List Char)
  | 0, _ => none
  | fuel + 1, cs =>
    match skipBlanks cs with
    | 'n' :: 'u' :: 'l' :: 'l' :: rest => some (.null, rest)
    | 't' :: 'r' :: 'u' :: 'e' :: rest => some (.bool true, rest)
    | 'f' :: 'a' :: 'l' :: 's' :: 'e' :: rest => some (.bool false, rest)
    | '"' :: rest => (readText [] none false rest).map fun (text, rest) => (.string text, rest)
    | '[' :: rest => match skipBlanks rest with
      | ']' :: rest => some (.array [], rest)
      | rest => (readItems fuel rest).map fun (items, rest) => (.array items, rest)
    | '\x7b' :: rest => match skipBlanks rest with
      | '\x7d' :: rest => some (.object [], rest)
      | rest => (readFields fuel rest).map fun (fields, rest) => (.object fields, rest)
    | '-' :: rest => (readNumber true rest).map fun (value, rest) => (.number value, rest)
    | rest => (readNumber false rest).map fun (value, rest) => (.number value, rest)

def readItems : (fuel : Nat) → List Char → Option (List Document × List Char)
  | 0, _ => none
  | fuel + 1, cs => do
    let (item, rest) ← readDocument fuel cs
    match skipBlanks rest with
    | ',' :: rest => (readItems fuel rest).map fun (items, rest) => (item :: items, rest)
    | ']' :: rest => some ([item], rest)
    | _ => none

def readFields : (fuel : Nat) → List Char → Option (List (Option String × Document) × List Char)
  | 0, _ => none
  | fuel + 1, cs => do
    let (name, rest) ← match skipBlanks cs with
      | '"' :: rest => readText [] none false rest
      | _ => none
    let rest ← match skipBlanks rest with
      | ':' :: rest => some rest
      | _ => none
    let (value, rest) ← readDocument fuel rest
    match skipBlanks rest with
    | ',' :: rest => do
      let (fields, rest) ← readFields fuel rest
      return ((name, value) :: fields, rest)
    | '\x7d' :: rest => some ([(name, value)], rest)
    | _ => none

end

/-- The document that a JSON text holds. Every second step reads a character, so the fuel is
enough. -/
def ofJsonText? (text : String) : Option Document := do
  let cs := text.toList
  let (document, rest) ← readDocument (2 * cs.length + 2) cs
  guard (skipBlanks rest).isEmpty
  return document

end MqAdmin.Document

namespace MqAdmin.Json

/-- The value that a JSON text holds; it has no flaws and does not nest too deep. -/
def parse? (text : String) : Option Json :=
  (Document.ofJsonText? text).bind (·.json? Document.deepest)

end MqAdmin.Json
