import MqAdmin.Text.Base64
import MqAdmin.Text.Blank

/-!
Sections of PEM text. Text between sections and sections with unknown labels are passed over; in a
section with a known label the text must decode.
-/

namespace MqAdmin.Credentials

inductive SectionKind where
  | certificate
  | publicKey
  | rsaPrivateKey
  | privateKey
  | ecPrivateKey
  | revocationList
  | certificateRequest
  | helloConfig
deriving DecidableEq

def SectionKind.ofLabel? (label : String) : Option SectionKind :=
  [("CERTIFICATE", .certificate), ("PUBLIC KEY", .publicKey),
    ("RSA PRIVATE KEY", .rsaPrivateKey), ("PRIVATE KEY", .privateKey),
    ("EC PRIVATE KEY", .ecPrivateKey), ("X509 CRL", .revocationList),
    ("CERTIFICATE REQUEST", .certificateRequest), ("ECHCONFIG", .helloConfig)].lookup label

structure PemSection where
  kind : SectionKind
  bytes : List UInt8
deriving DecidableEq

namespace Pem

/-- The lines of a text with their ends; each carriage return and each line feed ends one. -/
def lines : List Char → List (List Char)
  | [] => []
  | c :: rest =>
    if c = '\n' || c = '\r' then [c] :: lines rest
    else match lines rest with
      | [] => [[c]]
      | line :: others => (c :: line) :: others

def beginMark : List Char := "-----BEGIN ".toList

/-- The label between a section's opening mark and the five dashes that close the line. -/
def label? (afterMark : List Char) : Option (List Char) :=
  let ending := afterMark.reverse.takeWhile fun c =>
    c = '-' || c = '\n' || c = '\r' || c = ' '
  let beforeEnding := afterMark.take (afterMark.length - ending.length)
  if ending.count '-' = 5 then
    some (beforeEnding ++ ending.reverse.takeWhile (· ≠ '-'))
  else none

/-- Where a reader of lines is: inside which section, and what that holds so far. -/
structure State where
  label : Option (List Char)
  content : List Char

def State.outside : State := ⟨none, []⟩

/-- Reads lines to the end. A section must not stay open. -/
def sections (state : State) : List (List Char) → Option (List PemSection)
  | [] => if state.label.isNone then some [] else none
  | line :: rest =>
    match Text.stripStart beginMark line with
    | some afterMark => do
      let label ← label? afterMark
      sections { state with label := some label } rest
    | none => match state.label with
      | none => sections state rest
      | some label =>
        if ("-----END ".toList ++ label ++ "-----".toList).isPrefixOf line then
          match SectionKind.ofLabel? (String.ofList label) with
          | none => sections .outside rest
          | some kind => do
            let bytes ← Text.Base64.decode state.content
            let others ← sections .outside rest
            return ⟨kind, bytes⟩ :: others
        else sections { state with content := state.content ++ line } rest

def sections? (text : String) : Option (List PemSection) :=
  sections .outside (lines text.toList)

end Pem

end MqAdmin.Credentials
