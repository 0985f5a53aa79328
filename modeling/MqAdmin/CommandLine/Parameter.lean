import MqAdmin.Json.Basic
import MqAdmin.Number.Reading
import MqAdmin.Text.Blank

/-!
Attributes on the command line, as `key=value`. A value that reads as an integer or as a truth value
is one; any other stays a text.
-/

namespace MqAdmin.CommandLine

inductive ParameterFault where
  | noValue (text : String)
  | emptyKey (text : String)
deriving DecidableEq

def ParameterFault.message : ParameterFault → String
  | .noValue text => "expected key=value, got '" ++ text ++ "'"
  | .emptyKey text => "empty key in '" ++ text ++ "'"

def parameterValue (text : List Char) : Json :=
  match signedWord? text with
  | some value => .ofInt value
  | none =>
    if text = "true".toList then .bool true
    else if text = "false".toList then .bool false
    else .string (String.ofList text)

/-- The attribute in a text: what stands before the first equals sign, without blanks around it, and
what stands after it. -/
def parameter? (text : String) : Except ParameterFault (String × Json) :=
  match Text.cutAt (· = '=') text.toList with
  | none => .error (.noValue text)
  | some (key, value) =>
    let key := Text.trimChars key
    if key.isEmpty then .error (.emptyKey text)
    else .ok (String.ofList key, parameterValue value)

end MqAdmin.CommandLine
