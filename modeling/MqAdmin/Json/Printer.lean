import MqAdmin.Json.Basic

/-!
The text of a JSON value: compact, without any blanks, or spread over lines indented by two blanks
a level. A number that is not finite is written as null.
-/

namespace MqAdmin

def Number.text : Number → String
  | .integer value => toString value
  | .real value => if value.isFinite then value.documentText else "null"

namespace Json

/-- The two lower-case hexadecimal digits of a byte. -/
def hexPair (code : Nat) : List Char := [Nat.digitChar (code / 16), Nat.digitChar (code % 16)]

/-- Quotes, backslashes and control characters are escaped; everything else stands for itself. -/
def escapeChar (c : Char) : List Char :=
  if c = '"' then ['\\', '"']
  else if c = '\\' then ['\\', '\\']
  else if c = '\x08' then ['\\', 'b']
  else if c = '\x0c' then ['\\', 'f']
  else if c = '\n' then ['\\', 'n']
  else if c = '\r' then ['\\', 'r']
  else if c = '\t' then ['\\', 't']
  else if c.toNat < 32 then ['\\', 'u', '0', '0'] ++ hexPair c.toNat
  else [c]

def quote (text : String) : List Char := '"' :: text.toList.flatMap escapeChar ++ ['"']

/-- The start of a new line at a level, in a text that is spread over lines. -/
def lineBreak (spread : Bool) (level : Nat) : List Char :=
  if spread then '\n' :: List.replicate (2 * level) ' ' else []

/-- Encloses parts in brackets and separates them by commas; no parts make a closed pair. -/
def enclose (spread : Bool) (level : Nat) (opening closing : Char) (parts : List (List Char)) :
    List Char :=
  if parts.isEmpty then [opening, closing]
  else
    let inner := lineBreak spread (level + 1)
    opening :: inner ++ (',' :: inner).intercalate parts ++ lineBreak spread level ++ [closing]

mutual

def write (spread : Bool) (level : Nat) : Json → List Char
  | .null => "null".toList
  | .bool value => if value then "true".toList else "false".toList
  | .number value => value.text.toList
  | .string text => quote text
  | .array items => enclose spread level '[' ']' (writeItems spread (level + 1) items)
  | .object fields => enclose spread level '\x7b' '\x7d' (writeFields spread (level + 1) fields)

def writeItems (spread : Bool) (level : Nat) : List Json → List (List Char)
  | [] => []
  | item :: rest => write spread level item :: writeItems spread level rest

def writeFields (spread : Bool) (level : Nat) : List (String × Json) → List (List Char)
  | [] => []
  | (name, value) :: rest =>
    let separator := if spread then [':', ' '] else [':']
    (quote name ++ separator ++ write spread level value) :: writeFields spread level rest

end

def compact (value : Json) : String := String.ofList (write false 0 value)

def pretty (value : Json) : String := String.ofList (write true 0 value)

/-- The text that stands for a value in a message or a comparison: a string is its own text. -/
def plainText : Json → String
  | .string text => text
  | value => value.compact

end Json

end MqAdmin
