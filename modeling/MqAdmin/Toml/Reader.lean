import MqAdmin.Toml.Scalar
import MqAdmin.Toml.Table

namespace MqAdmin.Toml

/-- How many arrays and braces may stand inside one another, and how long a dotted key may be. -/
def deepest : Nat := 79

def skipLineBlanks (cs : List Char) : List Char := cs.dropWhile isLineBlank

def isBareKeyChar (c : Char) : Bool := c.isAlphanum || c = '_' || c = '-'

def keyPart? (cs : List Char) : Option (String × List Char) :=
  match cs with
  | '"' :: rest => readQuoted [] rest
  | '\x27' :: rest => readLiteral [] rest
  | _ => match cs.takeWhile isBareKeyChar with
    | [] => none
    | part => some (String.ofList part, cs.dropWhile isBareKeyChar)

/-- The parts of a key with blanks around them and dots between them. -/
def keyParts? : (fuel : Nat) → List Char → Option (List String × List Char)
  | 0, _ => none
  | fuel + 1, cs => do
    let (part, rest) ← keyPart? (skipLineBlanks cs)
    match skipLineBlanks rest with
    | '.' :: rest => do
      let (parts, rest) ← keyParts? fuel rest
      return (part :: parts, rest)
    | rest => return ([part], rest)

/-- A key: the path to its table and its last part. -/
def key? (cs : List Char) : Option ((List String × String) × List Char) := do
  let (parts, rest) ← keyParts? deepest cs
  return ((parts.dropLast, ← parts.getLast?), rest)

def skipComment : List Char → List Char
  | '#' :: rest => rest.dropWhile isTextChar
  | cs => cs

/-- Skips blanks, line breaks and comments, as they may stand inside an array. -/
def skipFiller : (fuel : Nat) → List Char → List Char
  | 0, cs => cs
  | fuel + 1, cs => match skipLineBlanks cs with
    | '\n' :: rest | '\r' :: '\n' :: rest => skipFiller fuel rest
    | '#' :: rest => skipFiller fuel (rest.dropWhile isTextChar)
    | rest => rest

mutual

/-- Reads a value. Both the fuel and the nesting that is left bound what stands inside it. -/
def readValue : (fuel depth : Nat) → List Char → Option (Document × List Char)
  | 0, _, _ => none
  | fuel + 1, depth, cs => match cs with
    | '"' :: _ | '\x27' :: _ => (text? cs).map fun (text, rest) => (.string (some text), rest)
    | 't' :: 'r' :: 'u' :: 'e' :: rest => some (.bool true, rest)
    | 'f' :: 'a' :: 'l' :: 's' :: 'e' :: rest => some (.bool false, rest)
    | '[' :: rest => match depth with
      | 0 => none
      | depth + 1 => do
        let (items, rest) ← readItems fuel depth (skipFiller rest.length rest)
        return (.array items, rest)
    | '\x7b' :: rest => match depth with
      | 0 => none
      | depth + 1 => do
        let (assignments, rest) ← match skipLineBlanks rest with
          | '\x7d' :: rest => some ([], rest)
          | rest => readAssignments fuel depth rest
        let entries ← assignments.foldlM assign []
        return (.object (documentFields entries), rest)
    | _ => numberOrInstant? cs

/-- Reads the items of an array up to its end; a comma may follow the last. -/
def readItems : (fuel depth : Nat) → List Char → Option (List Document × List Char)
  | 0, _, _ => none
  | fuel + 1, depth, cs => match cs with
    | ']' :: rest => some ([], rest)
    | _ => do
      let (item, rest) ← readValue fuel depth cs
      match skipFiller rest.length rest with
      | ',' :: rest => do
        let (items, rest) ← readItems fuel depth (skipFiller rest.length rest)
        return (item :: items, rest)
      | ']' :: rest => return ([item], rest)
      | _ => none

def readAssignments : (fuel depth : Nat) → List Char → Option (List Assignment × List Char)
  | 0, _, _ => none
  | fuel + 1, depth, cs => do
    let ((path, key), rest) ← key? cs
    let (value, rest) ← readValue fuel depth (skipLineBlanks (← expect? '=' rest))
    match skipLineBlanks rest with
    | ',' :: rest => do
      let (assignments, rest) ← readAssignments fuel depth rest
      return (⟨path, key, value⟩ :: assignments, rest)
    | '\x7d' :: rest => return ([⟨path, key, value⟩], rest)
    | _ => none

end

/-- What is left after the end of a line, before which a comment may stand. -/
def endLine? (cs : List Char) : Option (List Char) :=
  match skipComment (skipLineBlanks cs) with
  | [] => some []
  | rest => newline? rest

/-- A header: whether it is doubled, and its key. -/
def header? (cs : List Char) : Option ((Bool × List String × String) × List Char) :=
  match cs with
  | '[' :: '[' :: rest => do
    let ((path, key), rest) ← key? rest
    let rest ← expect? ']' (← expect? ']' rest)
    return ((true, path, key), rest)
  | '[' :: rest => do
    let ((path, key), rest) ← key? rest
    return ((false, path, key), ← expect? ']' rest)
  | _ => none

/-- Reads lines: the assignments up to the first header, and the sections after it. -/
def readLines : (fuel : Nat) → List Char → Option (List Assignment × List Section)
  | 0, _ => none
  | fuel + 1, cs =>
    match skipLineBlanks cs with
    | [] => some ([], [])
    | '#' :: rest => do readLines fuel (← endLine? ('#' :: rest))
    | '\n' :: rest | '\r' :: '\n' :: rest => readLines fuel rest
    | '[' :: rest => do
      let ((repeated, path, key), rest) ← header? ('[' :: rest)
      let (assignments, sections) ← readLines fuel (← endLine? rest)
      return ([], ⟨repeated, path, key, assignments⟩ :: sections)
    | rest => do
      let ((path, key), rest) ← key? rest
      let afterSign := skipLineBlanks (← expect? '=' rest)
      let (value, rest) ← readValue (2 * afterSign.length + 2) deepest afterSign
      let (assignments, sections) ← readLines fuel (← endLine? rest)
      return (⟨path, key, value⟩ :: assignments, sections)

end MqAdmin.Toml

namespace MqAdmin.Document

/-- The document that a TOML text holds. A mark for the byte order at the beginning is skipped. -/
def ofTomlText? (text : String) : Option Document := do
  let cs := match text.toList with
    | '\ufeff' :: rest => rest
    | cs => cs
  let (assignments, sections) ← Toml.readLines (cs.length + 1) cs
  let root ← assignments.foldlM Toml.assign []
  let entries ← sections.foldlM Toml.addSection root
  return .object (Toml.documentFields entries)

end MqAdmin.Document
