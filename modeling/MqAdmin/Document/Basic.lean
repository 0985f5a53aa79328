import MqAdmin.Json.Basic

/-!
Documents as they are written, before anyone has asked what they mean: names may repeat, a number
may lie outside every range and a text may hold half of a surrogate pair. Such a flaw matters only
where the flawed part is used.
-/

namespace MqAdmin

/-- A document. A missing number or text is one that no value can hold. -/
inductive Document where
  | null
  | bool (value : Bool)
  | number (value : Option Number)
  | string (text : Option String)
  | array (items : List Document)
  | object (fields : List (Option String × Document))
deriving Inhabited

mutual

/-- The document that a value is written as. -/
def Json.document : Json → Document
  | .null => .null
  | .bool value => .bool value
  | .number value => .number (some value)
  | .string text => .string (some text)
  | .array items => .array (Json.documentItems items)
  | .object fields => .object (Json.documentFields fields)

def Json.documentItems : List Json → List Document
  | [] => []
  | item :: rest => item.document :: Json.documentItems rest

def Json.documentFields : List (String × Json) → List (Option String × Document)
  | [] => []
  | (name, value) :: rest => (some name, value.document) :: Json.documentFields rest

end

namespace Document

/-- How many containers may stand inside one another where a value is read. -/
def deepest : Nat := 127

mutual

/-- The value of a flawless document that nests at most `depth` containers. The fields of an
object ascend, and a repeated name takes its last value. -/
def json? (depth : Nat) : Document → Option Json
  | .null => some .null
  | .bool value => some (.bool value)
  | .number value => value.map .number
  | .string text => text.map .string
  | .array items => match depth with
    | 0 => none
    | depth + 1 => (jsonItems? depth items).map .array
  | .object fields => match depth with
    | 0 => none
    | depth + 1 => (jsonFields? depth fields).map fun pairs =>
      .ofAttributes (KeyMap.ofList pairs)

def jsonItems? (depth : Nat) : List Document → Option (List Json)
  | [] => some []
  | item :: rest => do
    let value ← json? depth item
    let values ← jsonItems? depth rest
    return value :: values

def jsonFields? (depth : Nat) : List (Option String × Document) → Option (List (String × Json))
  | [] => some []
  | (name, field) :: rest => do
    let key ← name
    let value ← json? depth field
    let values ← jsonFields? depth rest
    return (key, value) :: values

end

end Document

end MqAdmin
