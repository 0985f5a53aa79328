import MqAdmin.Document.JsonText

/-!
The scalars of TOML: texts in their four forms, numbers, and points in time. Every reader here
takes the characters that belong to its scalar and gives those that follow.
-/

namespace MqAdmin.Toml

def isLineBlank (c : Char) : Bool := c = ' ' || c = '\t'

/-- The characters that a comment or a text may hold: no control characters but the tab. -/
def isTextChar (c : Char) : Bool := c = '\t' || (' ' ≤ c && c ≠ '\x7f')

/-- A line break: a line feed, which a carriage return may precede. -/
def newline? : List Char → Option (List Char)
  | '\n' :: rest => some rest
  | '\r' :: '\n' :: rest => some rest
  | _ => none

def skipNewline (cs : List Char) : List Char := (newline? cs).getD cs

def escape? : Char → Option Char
  | 'b' => some '\x08'
  | 't' => some '\t'
  | 'n' => some '\n'
  | 'f' => some '\x0c'
  | 'r' => some '\r'
  | '"' => some '"'
  | '\\' => some '\\'
  | _ => none

/-- The character with the code that hexadecimal digits give, if there is one. -/
def codeChar? (digits : List Char) : Option Char := do
  let code ← Document.readHex 0 digits
  guard code.isValidChar
  return Char.ofNat code

/-- Reads the rest of a quoted text on one line; what was read so far is given in reverse. -/
def readQuoted (read : List Char) : List Char → Option (String × List Char)
  | [] => none
  | '"' :: rest => some (String.ofList read.reverse, rest)
  | '\\' :: 'u' :: a :: b :: c :: d :: rest => do
    readQuoted ((← codeChar? [a, b, c, d]) :: read) rest
  | '\\' :: 'U' :: a :: b :: c :: d :: e :: f :: g :: h :: rest => do
    readQuoted ((← codeChar? [a, b, c, d, e, f, g, h]) :: read) rest
  | '\\' :: c :: rest => do readQuoted ((← escape? c) :: read) rest
  | c :: rest => if isTextChar c then readQuoted (c :: read) rest else none

/-- Whether a backslash that is followed by these characters ends its line. -/
def endsLine (cs : List Char) : Bool := (newline? (cs.dropWhile isLineBlank)).isSome

/-- Reads the rest of a quoted text that may span lines. After a backslash at the end of a line
blanks and line breaks are skipped. Up to two quotes may stand together, also before the end. -/
def readQuotedLines (read : List Char) (skipping : Bool) : List Char → Option (String × List Char)
  | [] => none
  | '"' :: '"' :: '"' :: '"' :: '"' :: rest =>
    some (String.ofList ('"' :: '"' :: read).reverse, rest)
  | '"' :: '"' :: '"' :: '"' :: rest => some (String.ofList ('"' :: read).reverse, rest)
  | '"' :: '"' :: '"' :: rest => some (String.ofList read.reverse, rest)
  | '\r' :: '\n' :: rest => readQuotedLines (if skipping then read else '\n' :: read) skipping rest
  | '\n' :: rest => readQuotedLines (if skipping then read else '\n' :: read) skipping rest
  | '\\' :: 'u' :: a :: b :: c :: d :: rest => do
    readQuotedLines ((← codeChar? [a, b, c, d]) :: read) false rest
  | '\\' :: 'U' :: a :: b :: c :: d :: e :: f :: g :: h :: rest => do
    readQuotedLines ((← codeChar? [a, b, c, d, e, f, g, h]) :: read) false rest
  | '\\' :: c :: rest =>
    if endsLine (c :: rest) then readQuotedLines read true (c :: rest)
    else do readQuotedLines ((← escape? c) :: read) false rest
  | c :: rest =>
    if skipping && isLineBlank c then readQuotedLines read true rest
    else if isTextChar c then readQuotedLines (c :: read) false rest
    else none

def readLiteral (read : List Char) : List Char → Option (String × List Char)
  | [] => none
  | '\x27' :: rest => some (String.ofList read.reverse, rest)
  | c :: rest => if isTextChar c then readLiteral (c :: read) rest else none

def readLiteralLines (read : List Char) : List Char → Option (String × List Char)
  | [] => none
  | '\x27' :: '\x27' :: '\x27' :: '\x27' :: '\x27' :: rest =>
    some (String.ofList ('\x27' :: '\x27' :: read).reverse, rest)
  | '\x27' :: '\x27' :: '\x27' :: '\x27' :: rest =>
    some (String.ofList ('\x27' :: read).reverse, rest)
  | '\x27' :: '\x27' :: '\x27' :: rest => some (String.ofList read.reverse, rest)
  | '\r' :: '\n' :: rest => readLiteralLines ('\n' :: read) rest
  | '\n' :: rest => readLiteralLines ('\n' :: read) rest
  | c :: rest => if isTextChar c then readLiteralLines (c :: read) rest else none

/-- A text in any of its forms. A line break right after an opening triple is dropped. -/
def text? : List Char → Option (String × List Char)
  | '"' :: '"' :: '"' :: rest => readQuotedLines [] false (skipNewline rest)
  | '"' :: rest => readQuoted [] rest
  | '\x27' :: '\x27' :: '\x27' :: rest => readLiteralLines [] (skipNewline rest)
  | '\x27' :: rest => readLiteral [] rest
  | _ => none

/-- Digits with single underscores between them; gives the digits. An underscore without a digit
after it is an error. -/
def digitRun? (isDigit : Char → Bool) : List Char → Option (List Char × List Char)
  | '_' :: c :: rest =>
    if isDigit c then (digitRun? isDigit rest).map fun (digits, rest) => (c :: digits, rest)
    else none
  | '_' :: [] => none
  | c :: rest =>
    if isDigit c then (digitRun? isDigit rest).map fun (digits, rest) => (c :: digits, rest)
    else some ([], c :: rest)
  | [] => some ([], [])

def digits? (isDigit : Char → Bool) : List Char → Option (List Char × List Char)
  | c :: rest =>
    if isDigit c then (digitRun? isDigit rest).map fun (digits, rest) => (c :: digits, rest)
    else none
  | [] => none

/-- Decimal digits of which the first is zero only if it is the only one. -/
def wholeDigits? : List Char → Option (List Char × List Char)
  | '0' :: rest => some (['0'], rest)
  | cs => digits? Char.isDigit cs

def integer? (value : Int) : Option Number :=
  if -twoTo 63 ≤ value && value < twoTo 63 then some (.integer value) else none

/-- A value in hexadecimal, octal or binary digits after the mark. -/
def radix? (radix : Nat) (cs : List Char) : Option (Number × List Char) := do
  let isDigit (c : Char) : Bool := match Document.hexDigit? c with
    | some value => value < radix
    | none => false
  let (digits, rest) ← digits? isDigit cs
  let value := digits.foldl (fun value c => value * radix + (Document.hexDigit? c).getD 0) 0
  return (← integer? value, rest)

def exponent? : List Char → Option (Option Int × List Char)
  | 'e' :: rest | 'E' :: rest => do
    let (negative, rest) := match rest with
      | '-' :: rest => (true, rest)
      | '+' :: rest => (false, rest)
      | rest => (false, rest)
    let (digits, rest) ← digits? Char.isDigit rest
    let value ← natural? digits
    return (some (if negative then -(value : Int) else value), rest)
  | rest => some (none, rest)

def fraction? : List Char → Option (List Char × List Char)
  | '.' :: rest => digits? Char.isDigit rest
  | rest => some ([], rest)

/-- A number after its sign. Too large a one is an error only if it is positive. -/
def decimal? (negative : Bool) (cs : List Char) : Option (Number × List Char) := do
  let (whole, rest) ← wholeDigits? cs
  let (fraction, rest) ← fraction? rest
  let (exponent, rest) ← exponent? rest
  let digits ← natural? (whole ++ fraction)
  if fraction.isEmpty && exponent.isNone then
    return (← integer? (if negative then -(digits : Int) else digits), rest)
  else
    let value := Binary64.ofDecimal negative digits (exponent.getD 0 - fraction.length)
    guard (value.isFinite || negative)
    return (.real value, rest)

/-- The names of numbers that have no digits. -/
def special? (negative : Bool) : List Char → Option (Number × List Char)
  | 'i' :: 'n' :: 'f' :: rest => some (.real (.infinity negative), rest)
  | 'n' :: 'a' :: 'n' :: rest => some (.real { Binary64.nan with negative }, rest)
  | _ => none

/-- A number in any of its forms. Only a decimal one has a sign. -/
def number? : List Char → Option (Number × List Char)
  | '0' :: 'x' :: rest => radix? 16 rest
  | '0' :: 'o' :: rest => radix? 8 rest
  | '0' :: 'b' :: rest => radix? 2 rest
  | '+' :: rest => (special? false rest).or (decimal? false rest)
  | '-' :: rest => (special? true rest).or (decimal? true rest)
  | cs => (special? false cs).or (decimal? false cs)

/-- A number of exactly `count` digits within bounds. -/
def fixed? (count least most : Nat) (cs : List Char) : Option (Nat × List Char) := do
  let value ← natural? (cs.take count)
  guard (count ≤ cs.length && least ≤ value && value ≤ most)
  return (value, cs.drop count)

def expect? (c : Char) : List Char → Option (List Char)
  | d :: rest => if c = d then some rest else none
  | [] => none

def isLeapYear (year : Nat) : Bool :=
  year % 4 == 0 && (year % 100 != 0 || year % 400 == 0)

def daysOfMonth (year month : Nat) : Nat :=
  if month = 2 then (if isLeapYear year then 29 else 28)
  else if month = 4 || month = 6 || month = 9 || month = 11 then 30
  else 31

def date? (cs : List Char) : Option (List Char) := do
  let (year, rest) ← fixed? 4 0 9999 cs
  let (month, rest) ← fixed? 2 1 12 (← expect? '-' rest)
  let (_, rest) ← fixed? 2 1 (daysOfMonth year month) (← expect? '-' rest)
  return rest

/-- A time of day with seconds, which may have a fraction. -/
def time? (cs : List Char) : Option (List Char) := do
  let (_, rest) ← fixed? 2 0 23 cs
  let (_, rest) ← fixed? 2 0 59 (← expect? ':' rest)
  let (_, rest) ← fixed? 2 0 60 (← expect? ':' rest)
  match rest with
  | '.' :: rest =>
    guard (!(rest.takeWhile Char.isDigit).isEmpty)
    return rest.dropWhile Char.isDigit
  | rest => return rest

/-- The difference from universal time, if it is given. -/
def zone? : List Char → Option (List Char)
  | 'Z' :: rest | 'z' :: rest => some rest
  | '+' :: rest | '-' :: rest => do
    let (_, rest) ← fixed? 2 0 23 rest
    let (_, rest) ← fixed? 2 0 59 (← expect? ':' rest)
    return rest
  | rest => some rest

/-- Whether the characters begin like a day: then they must be one. -/
def looksLikeDate (cs : List Char) : Bool :=
  (natural? (cs.take 4)).isSome && cs[4]? = some '-'

/-- Whether the characters begin like a time of day: then they must be one. -/
def looksLikeTime (cs : List Char) : Bool :=
  (fixed? 2 0 23 cs).isSome && cs[2]? = some ':'

def dateTime? (cs : List Char) : Option (List Char) := do
  let rest ← date? cs
  match rest with
  | c :: time =>
    if (c = 'T' || c = 't' || c = ' ') && looksLikeTime time then zone? (← time? time)
    else return rest
  | [] => return []

/-- A point in time is a record of one entry under a name that nothing else has. -/
def instant (written : List Char) : Document :=
  .object [(some "$__toml_private_datetime", .string (some (String.ofList written)))]

/-- A scalar that begins with a sign or a digit. -/
def numberOrInstant? (cs : List Char) : Option (Document × List Char) := do
  let whole (rest : List Char) : Document := instant (cs.take (cs.length - rest.length))
  if looksLikeDate cs then
    let rest ← dateTime? cs
    return (whole rest, rest)
  else if looksLikeTime cs then
    let rest ← time? cs
    return (whole rest, rest)
  else
    let (number, rest) ← number? cs
    return (.number (some number), rest)

end MqAdmin.Toml
