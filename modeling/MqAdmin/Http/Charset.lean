import MqAdmin.Text.Blank

/-!
From the bytes of a document to its text. A byte order mark settles that they are UTF-8 and is
dropped; else the content type may name a character set. Bytes that are no character are replaced.
-/

namespace MqAdmin.Http

inductive Charset where
  | utf8
  | western
deriving DecidableEq

namespace Charset

def westernNames : List String := [
  "ansi_x3.4-1968", "ascii", "cp1252", "cp819", "csisolatin1", "ibm819", "iso-8859-1",
  "iso-ir-100", "iso8859-1", "iso88591", "iso_8859-1", "iso_8859-1:1987", "l1", "latin1",
  "us-ascii", "windows-1252", "x-cp1252"]

/-- The character set of a name; unknown names mean UTF-8. -/
def ofName (name : String) : Charset :=
  if (Text.trim name).map Char.toLower ∈ westernNames then .western else .utf8

/-- The western characters from 0x80 on that differ from their code points. -/
def westernSpecials : List Nat := [
  0x20AC, 0x81, 0x201A, 0x192, 0x201E, 0x2026, 0x2020, 0x2021,
  0x2C6, 0x2030, 0x160, 0x2039, 0x152, 0x8D, 0x17D, 0x8F,
  0x90, 0x2018, 0x2019, 0x201C, 0x201D, 0x2022, 0x2013, 0x2014,
  0x2DC, 0x2122, 0x161, 0x203A, 0x153, 0x9D, 0x17E, 0x178]

def westernChar (byte : UInt8) : Char :=
  let code := byte.toNat
  if code < 0x80 then .ofNat code else .ofNat (westernSpecials.getD (code - 0x80) code)

/-- How many bytes a UTF-8 character with the given first byte has, the least and greatest second
byte it admits, and its first bits; none if no character begins so. -/
def lead? (byte : UInt8) : Option (Nat × Nat × Nat × Nat) :=
  let b := byte.toNat
  if b < 0xC2 then none
  else if b < 0xE0 then some (1, 0x80, 0xBF, b - 0xC0)
  else if b < 0xF0 then
    some (2, if b = 0xE0 then 0xA0 else 0x80, if b = 0xED then 0x9F else 0xBF, b - 0xE0)
  else if b < 0xF5 then
    some (3, if b = 0xF0 then 0x90 else 0x80, if b = 0xF4 then 0x8F else 0xBF, b - 0xF0)
  else none

/-- Where a reader of UTF-8 is: how many bytes its character lacks, the bounds of the next one, and
the bits so far. -/
structure Pending where
  lacking : Nat
  least : Nat
  greatest : Nat
  bits : Nat

def replacement : Char := .ofNat 0xFFFD

def start (byte : UInt8) : List Char × Option Pending :=
  if byte < 0x80 then ([.ofNat byte.toNat], none)
  else match lead? byte with
    | some (lacking, least, greatest, bits) => ([], some ⟨lacking, least, greatest, bits⟩)
    | none => ([replacement], none)

def step (pending : Option Pending) (byte : UInt8) : List Char × Option Pending :=
  match pending with
  | none => start byte
  | some pending =>
    if pending.least ≤ byte.toNat && byte.toNat ≤ pending.greatest then
      let bits := pending.bits * 64 + (byte.toNat - 0x80)
      if pending.lacking ≤ 1 then ([.ofNat bits], none)
      else ([], some ⟨pending.lacking - 1, 0x80, 0xBF, bits⟩)
    else
      let (cs, next) := start byte
      (replacement :: cs, next)

def utf8Chars (pending : Option Pending) : List UInt8 → List Char
  | [] => if pending.isSome then [replacement] else []
  | byte :: rest =>
    let (cs, next) := step pending byte
    cs ++ utf8Chars next rest

def decode : Charset → List UInt8 → String
  | _, 0xEF :: 0xBB :: 0xBF :: bytes => String.ofList (utf8Chars none bytes)
  | .utf8, bytes => String.ofList (utf8Chars none bytes)
  | .western, bytes => String.ofList (bytes.map westernChar)

/-- The character set that a content type names in its parameters. -/
def ofContentType (value : String) : Charset :=
  match Text.pieces (· = ';') value.toList with
  | [] => .utf8
  | _ :: parameters =>
    let named := parameters.findSome? fun parameter => do
      let (name, value) ← Text.cutAt (· = '=') (Text.trimChars parameter)
      guard (name.map Char.toLower == "charset".toList)
      return String.ofList (value.filter (· ≠ '"'))
    named.elim .utf8 ofName

example : decode .utf8 [0xEF, 0xBB, 0xBF, 0xC3, 0xA9, 0xFF] = "é\uFFFD" := by decide +kernel
example : decode (ofContentType "text/plain; Charset=\"latin1\"") [0xE9, 0x80] = "é€" := by
  decide +kernel

end Charset

end MqAdmin.Http
