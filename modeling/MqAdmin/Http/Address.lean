import MqAdmin.Http.Host

/-!
Addresses of documents on the web. Reading one settles what a client asks its server for: blanks at
the ends and line breaks are dropped, backslashes count as slashes, segments of dots are walked,
and what may not stand for itself is escaped.
-/

namespace MqAdmin.Http

/-- An absolute address. The fragment is not part of it. -/
structure Address where
  isSecure : Bool
  host : Host
  service : Option Nat
  segments : List (List Char)
  query : Option (List Char)
deriving DecidableEq

namespace Address

def isSlash (c : Char) : Bool := c = '/' || c = '\\'

def isEscapedInPath (c : Char) : Bool :=
  c.toNat < 33 || 126 < c.toNat || "\"#<>?^\x60\x7b\x7d".toList.contains c

def isEscapedInQuery (c : Char) : Bool :=
  c.toNat < 33 || 126 < c.toNat || "\"#<>\x27".toList.contains c

/-- How many points a segment consists of, if of one or two; a point may be escaped. -/
def points? : List Char → Option Nat
  | '.' :: rest => more rest
  | '%' :: '2' :: 'e' :: rest | '%' :: '2' :: 'E' :: rest => more rest
  | _ => none
where
  more : List Char → Option Nat
    | [] => some 1
    | ['.'] | ['%', '2', 'e'] | ['%', '2', 'E'] => some 2
    | _ => none

/-- Walks segments: one point stays, two go back, and either at the end leaves the place before it
open. -/
def walk (walked : List (List Char)) : List (List Char) → List (List Char)
  | [] => walked
  | segment :: rest =>
    let isLast := rest.isEmpty
    match points? segment with
    | some 1 => walk (if isLast then walked ++ [[]] else walked) rest
    | some _ => walk (if isLast then walked.dropLast ++ [[]] else walked.dropLast) rest
    | none => walk (walked ++ [escape isEscapedInPath segment]) rest

def segmentsOf (path : List Char) : List (List Char) :=
  walk [] (Text.pieces isSlash (path.drop 1))

/-- The number of a service; there may be none after its colon. -/
def service? (digits : List Char) : Option (Option Nat) := do
  guard (digits.all Char.isDigit)
  if digits.isEmpty then return none
  let number ← Host.number? 10 digits
  guard (number < twoTo 16)
  return some number

/-- Cuts a host from the number of its service at the first colon outside brackets. -/
def cutService (inBrackets : Bool) : List Char → List Char × List Char
  | [] => ([], [])
  | c :: rest =>
    if c = ':' && !inBrackets then ([], rest)
    else
      let (host, service) := cutService (c = '[' || inBrackets && c ≠ ']') rest
      (c :: host, service)

/-- The text after the last at sign: what is before it names a user. -/
def withoutUser (cs : List Char) : List Char := (cs.reverse.takeWhile (· ≠ '@')).reverse

/-- The text without blanks and control characters at its ends, and without line breaks. -/
def cleaned (text : String) : List Char :=
  let isOuter (c : Char) : Bool := c.toNat ≤ 32
  let inner := (text.toList.dropWhile isOuter).reverse.dropWhile isOuter
  inner.reverse.filter fun c => c ≠ '\t' && c ≠ '\n' && c ≠ '\r'

/-- Whether a text names the secure scheme; none if it names neither. -/
def secure? (scheme : List Char) : Option Bool :=
  [("http", false), ("https", true)].lookup (String.ofList (scheme.map Char.toLower))

def parse? (text : String) : Option Address := do
  let (scheme, afterScheme) ← Text.cutAt (· = ':') (cleaned text)
  let isSecure ← secure? scheme
  let ends (c : Char) : Bool := isSlash c || c = '?' || c = '#'
  let located := afterScheme.dropWhile isSlash
  let (host, service) := cutService false (withoutUser (located.takeWhile (!ends ·)))
  let host ← Host.parse? host
  let service ← service? service
  let place := (located.dropWhile (!ends ·)).takeWhile (· ≠ '#')
  let query := match place.dropWhile (· ≠ '?') with
    | [] => none
    | _ :: query => some (escape isEscapedInQuery query)
  return { isSecure, host, service, query, segments := segmentsOf (place.takeWhile (· ≠ '?')) }

/-- What a client asks the server for: the path and the query. -/
def target (address : Address) : String :=
  let path := address.segments.flatMap ('/' :: ·)
  String.ofList <| path ++ match address.query with
    | some query => '?' :: query
    | none => []

def target? (text : String) : Option String := (parse? text).map target

example : target? "http://h:9/a/../é?q=1#f" = some "/%C3%A9?q=1" := by decide +kernel
example : target? "https://h" = some "/" := by decide +kernel
example : target? "http://h/a/b/.." = some "/a/" := by decide +kernel
example : target? "http://[::1]:1//x" = some "//x" := by decide +kernel
example : target? "http://" = none := by decide +kernel
example : target? "/relative" = none := by decide +kernel
example : target? "http://1.2.3.256/" = none := by decide +kernel

end Address

end MqAdmin.Http
