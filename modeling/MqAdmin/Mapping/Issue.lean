import MqAdmin.Json.Printer

namespace MqAdmin.Mapping

/-- Whether names go from the caller to the wire or back. -/
inductive Direction where
  | request
  | response
deriving DecidableEq, Inhabited

def Direction.name : Direction → String
  | .request => "request"
  | .response => "response"

inductive Reason where
  | unknownKey
  | unknownValue
  | unknownQualifier
deriving DecidableEq, Inhabited

def Reason.name : Reason → String
  | .unknownKey => "unknown_key"
  | .unknownValue => "unknown_value"
  | .unknownQualifier => "unknown_qualifier"

structure Issue where
  direction : Direction
  reason : Reason
  attributeName : String
  /-- The value that is not known, if that is the reason. -/
  attributeValue : Option Json := none
  /-- The position of the record in a list of records. -/
  objectIndex : Option Nat := none
  qualifier : String
deriving DecidableEq, Inhabited

def Issue.text (issue : Issue) : String :=
  let value := match issue.attributeValue with
    | some value => "=" ++ value.compact
    | none => ""
  let position := match issue.objectIndex with
    | some index => " (object " ++ toString index ++ ")"
    | none => ""
  issue.direction.name ++ " " ++ issue.reason.name ++ ": " ++ issue.attributeName ++ value ++
    position

end MqAdmin.Mapping
