import MqAdmin.Json.Basic

namespace MqAdmin.Answer

/-- The items of an answer; none if they are not a list. -/
def items (payload : Json) : List Json :=
  ((payload.get? "commandResponse").bind Json.array?).getD []

def hasCode (value : Json) (name : String) : Bool :=
  match value.get? name with
  | some code => code.isNonZeroNumber
  | none => false

/-- Whether the queue manager reports a failure, of the whole command or of an item. -/
def reportsFailure (payload : Json) : Bool :=
  hasCode payload "overallCompletionCode" || hasCode payload "overallReasonCode" ||
    (items payload).any fun item => hasCode item "completionCode" || hasCode item "reasonCode"

def objectsName : String := "objects"

/-- A nested object's record: its own attributes over those of the item, without the list. -/
def nestedRecord (parameters object : Attributes) : Attributes :=
  (parameters.filter fun name _ => name ≠ objectsName).union object

/-- The records of one item: its attributes, or one record for each nested object. -/
def itemRecords (item : Json) : List Attributes :=
  match (item.get? "parameters").bind Json.object? with
  | none => []
  | some parameters => match (parameters.get? objectsName).bind Json.array? with
    | none => [parameters]
    | some objects => (objects.filterMap Json.object?).map (nestedRecord parameters)

def records (payload : Json) : List Attributes := (items payload).flatMap itemRecords

end MqAdmin.Answer
