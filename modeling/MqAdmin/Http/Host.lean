import MqAdmin.Http.Percent
import MqAdmin.Number.Binary64
import MqAdmin.Text.Blank

namespace MqAdmin.Http

inductive Host where
  | name (text : String)
  | four (value : Nat)
  | eight (groups : List Nat)
deriving DecidableEq

namespace Host

/-- The value of digits in a base up to sixteen. -/
def number? (base : Nat) (digits : List Char) : Option Nat :=
  digits.foldlM (fun value c => do
    let digit ← hexValue? c
    guard (digit < base)
    return value * base + digit) 0

/-- A number in an address of four: hexadecimal after 0x, octal after another zero. -/
def part? : List Char → Option Nat
  | [] => none
  | '0' :: 'x' :: digits | '0' :: 'X' :: digits => number? 16 digits
  | '0' :: digit :: digits => number? 8 (digit :: digits)
  | digits => number? 10 digits

/-- The parts of a name; a point at the end counts for nothing. -/
def parts (cs : List Char) : List (List Char) :=
  let all := Text.pieces (· = '.') cs
  if all.length > 1 && all.getLast? == some [] then all.dropLast else all

/-- Whether a name is meant to be an address of numbers: its last part is one. -/
def endsInNumber (cs : List Char) : Bool :=
  match (parts cs).getLast? with
  | none | some [] => false
  | some last => last.all Char.isDigit || (last.take 2 == ['0', 'x'] && (part? last).isSome)

/-- The value of an address of up to four numbers: the last one fills the places that are left. -/
def four? (cs : List Char) : Option Nat := do
  let numbers ← (parts cs).mapM part?
  guard (numbers.length ≤ 4)
  let last ← numbers.getLast?
  let first := numbers.dropLast
  guard (first.all (· ≤ 255) && last < twoTo (8 * (5 - numbers.length)))
  return (first.foldl (· * 256 + ·) 0) * twoTo (8 * (5 - numbers.length)) + last

/-- One of the four numbers at the end of an address of groups: decimal and without a zero in
front. -/
def octet? (digits : List Char) : Option Nat := do
  guard (!digits.isEmpty && digits.all Char.isDigit)
  guard (digits.length == 1 || digits.head? != some '0')
  let value ← number? 10 digits
  guard (value ≤ 255)
  return value

def group? (digits : List Char) : Option (List Nat) := do
  guard (!digits.isEmpty && digits.length ≤ 4)
  return [← number? 16 digits]

def dotted? (cs : List Char) : Option (List Nat) := do
  match ← (Text.pieces (· = '.') cs).mapM octet? with
  | [a, b, c, d] => return [a * 256 + b, c * 256 + d]
  | _ => none

/-- Groups between colons; the last may be written as four decimal numbers. -/
def groups? (cs : List Char) (mayBeDotted : Bool) : Option (List Nat) := do
  if cs.isEmpty then return []
  let all := Text.pieces (· = ':') cs
  let last ← all.getLast?
  let first ← all.dropLast.mapM group?
  let ending ← if mayBeDotted && last.contains '.' then dotted? last else group? last
  return first.flatten ++ ending

/-- Cuts a text at its first two colons in a row. -/
def cutAtGap : List Char → Option (List Char × List Char)
  | ':' :: ':' :: rest => some ([], rest)
  | c :: rest => (cutAtGap rest).map fun (before, after) => (c :: before, after)
  | [] => none

/-- The eight groups of an address; two colons in a row stand for one group of zero or more. -/
def eight? (cs : List Char) : Option (List Nat) := do
  match cutAtGap cs with
  | none =>
    let groups ← groups? cs true
    guard (groups.length == 8)
    return groups
  | some (before, after) =>
    let left ← groups? before false
    let right ← groups? after true
    guard (left.length + right.length ≤ 7)
    return left ++ List.replicate (8 - left.length - right.length) 0 ++ right

def isForbidden (c : Char) : Bool :=
  c.toNat ≤ 32 || c.toNat == 127 || "#/:<>?@[\\]^|%".toList.contains c

def parse? (cs : List Char) : Option Host :=
  match cs with
  | [] => none
  | '[' :: rest => do
    guard (rest.getLast? == some ']')
    return .eight (← eight? rest.dropLast)
  | _ => do
    let text ← String.fromUTF8? (ByteArray.mk (unescape cs).toArray)
    let name := text.toList.map Char.toLower
    guard (!name.isEmpty && !name.any isForbidden)
    if endsInNumber name then return .four (← four? name) else return .name (String.ofList name)

end Host

end MqAdmin.Http
