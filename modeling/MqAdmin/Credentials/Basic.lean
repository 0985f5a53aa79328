import MqAdmin.Document.Record
import MqAdmin.Text.Base64
import MqAdmin.Text.Blank
import MqAdmin.Text.Quoted

/-!
How a session shows who it is: by a name and password with every request, by a token that one login
obtains, or by a certificate, which shows in no header.
-/

namespace MqAdmin

inductive Credentials where
  | basic (username password : String)
  | ltpa (username password : String)
  | certificate (certificatePath : String) (keyPath : Option String)
deriving DecidableEq

namespace Credentials

def cookieName : String := "LtpaToken2"

def cookieStart : List Char := cookieName.toList ++ ['=']

/-- The token in the first of the parts between semicolons that sets the cookie; blanks around a
part do not count, and an empty token is none. -/
def extractToken (cookies : String) : Option String :=
  let parts := (Text.pieces (· = ';') cookies.toList).map Text.trimChars
  match parts.findSome? (Text.stripStart cookieStart) with
  | some [] => none
  | some token => some (String.ofList token)
  | none => none

/-- Adds the headers that each request carries. Only a login's token that is not empty counts. -/
def addHeaders (credentials : Credentials) (token : Option String) (headers : KeyMap String) :
    KeyMap String :=
  match credentials with
  | .basic username password =>
    headers.insert "Authorization" ("Basic " ++ Text.Base64.encode (username ++ ":" ++ password))
  | .ltpa .. => match token with
    | some token =>
      if token.isEmpty then headers else headers.insert "Cookie" (cookieName ++ "=" ++ token)
    | none => headers
  | .certificate .. => headers

/-- A summary for people, without the password. -/
def summary : Credentials → String
  | .basic username _ => "Basic \x7b username: " ++ Text.quoted .text username ++ ", .. \x7d"
  | .ltpa username _ => "Ltpa \x7b username: " ++ Text.quoted .text username ++ ", .. \x7d"
  | .certificate certificatePath keyPath =>
    let key := match keyPath with
      | some path => "Some(" ++ Text.quoted .path path ++ ")"
      | none => "None"
    "Certificate \x7b cert_path: " ++ Text.quoted .path certificatePath ++ ", key_path: " ++ key ++
      " \x7d"

def json : Credentials → Json
  | .basic username password => .object [
    ("type", .string "basic"), ("username", .string username), ("password", .string password)]
  | .ltpa username password => .object [
    ("type", .string "ltpa"), ("username", .string username), ("password", .string password)]
  | .certificate certificatePath keyPath => .object [
    ("type", .string "certificate"), ("cert_path", .string certificatePath),
    ("key_path", match keyPath with
      | some path => .string path
      | none => .null)]

/-- Takes the field that tells the kind out of the fields of an object; it stands there once. -/
def takeKind : List (Option String × Document) →
    Option (Option Document × List (Option String × Document))
  | [] => some (none, [])
  | (name, value) :: rest => do
    let (kind, others) ← takeKind rest
    if name = some "type" then
      guard kind.isNone
      return (some value, others)
    else return (kind, (name, value) :: others)

/-- The kind and the rest of a document: a field of an object or the first item of a list. -/
def splitKind : Document → Option (String × Document)
  | .object fields => do
    let (kind, others) ← takeKind fields
    return (← (← kind).string?, .object others)
  | .array (kind :: items) => do return (← kind.string?, .array items)
  | _ => none

/-- Decodes credentials. What the kind does not know is passed over, but has to be flawless. -/
def decode? (document : Document) : Option Credentials := do
  guard (document.json? Document.deepest).isSome
  let (kind, content) ← splitKind document
  match kind with
  | "basic" => do
    let record ← Record.of? ["username", "password"] content
    return .basic (← record.required "username" Document.string?)
      (← record.required "password" Document.string?)
  | "ltpa" => do
    let record ← Record.of? ["username", "password"] content
    return .ltpa (← record.required "username" Document.string?)
      (← record.required "password" Document.string?)
  | "certificate" => do
    let record ← Record.of? ["cert_path", "key_path"] content
    return .certificate (← record.required "cert_path" Document.string?)
      (← record.withDefault "key_path" (Document.optional? Document.string?) none)
  | _ => none

end Credentials

end MqAdmin
