import MqAdmin.Mapping.Issue
import MqAdmin.Mapping.Table

/-!
Mapping records of attributes. A request attribute whose name and value together stand for a
wire pair becomes that pair. Any other attribute gets the name its table gives, and its value is
mapped by the table for its wire name; what the tables do not know stays as it is.
-/

namespace MqAdmin.Mapping

namespace QualifierTable

def keys (table : QualifierTable) : Direction → KeyMap String
  | .request => table.requestKeys
  | .response => table.responseKeys

def values (table : QualifierTable) : Direction → KeyMap (KeyMap String)
  | .request => table.requestValues
  | .response => table.responseValues

/-- The wire pair that a request attribute stands for as a whole. -/
def pair? (table : QualifierTable) (direction : Direction) (name : String) (value : Json) :
    Option WirePair :=
  match direction with
  | .request => do
    let pairs ← table.requestPairs.get? name
    pairs.get? (← value.string?)
  | .response => none

end QualifierTable

/-- The name under which an attribute is looked up; on the wire the letter case does not count. -/
def lookupName : Direction → String → String
  | .request, name => name
  | .response, name => Text.upper name

namespace QualifierTable

/-- The attribute's other name, or its own if the table has none. -/
def targetName (table : QualifierTable) (direction : Direction) (name : String) : String :=
  ((table.keys direction).get? (lookupName direction name)).getD name

/-- The wire name of an attribute, which decides how its value is mapped. -/
def wireName (table : QualifierTable) (direction : Direction) (name : String) : String :=
  match direction with
  | .request => table.targetName .request name
  | .response => lookupName .response name

end QualifierTable

/-- A text is mapped; whatever the table does not know, and anything else, stays. -/
def mapItem (values : KeyMap String) (item : Json) : Json :=
  match item with
  | .string text => .string ((values.get? text).getD text)
  | other => other

/-- A text is mapped, and so are the texts in a list. -/
def mapValue (values : KeyMap String) (value : Json) : Json :=
  match value with
  | .array items => .array (items.map (mapItem values))
  | other => mapItem values other

def isUnknown (values : KeyMap String) (item : Json) : Bool :=
  match item with
  | .string text => !values.contains text
  | _ => false

def unknownItems (values : KeyMap String) (value : Json) : List Json :=
  match value with
  | .array items => items.filter (isUnknown values)
  | other => [other].filter (isUnknown values)

namespace QualifierTable

def target (table : QualifierTable) (direction : Direction) (name : String) (value : Json) :
    String × Json :=
  match table.pair? direction name value with
  | some pair => (pair.key, .string pair.value)
  | none =>
    (table.targetName direction name,
      match (table.values direction).get? (table.wireName direction name) with
      | some values => mapValue values value
      | none => value)

/-- The issues of one attribute: its name first, then its values in order. -/
def issues (table : QualifierTable) (qualifier : String) (direction : Direction)
    (index : Option Nat) (name : String) (value : Json) : List Issue :=
  match table.pair? direction name value with
  | some _ => []
  | none =>
    let key :=
      if (table.keys direction).contains (lookupName direction name) then []
      else [{ direction, reason := .unknownKey, attributeName := name, objectIndex := index,
              qualifier }]
    let unknown := match (table.values direction).get? (table.wireName direction name) with
      | some values => unknownItems values value
      | none => []
    key ++ unknown.map fun item =>
      { direction, reason := .unknownValue, attributeName := name, attributeValue := some item,
        objectIndex := index, qualifier }

end QualifierTable

structure Outcome (α : Type) where
  mapped : α
  issues : List Issue
deriving DecidableEq

namespace Table

/-- Maps a record, in ascending order of the names; of attributes with one target the last
counts. -/
def mapRecord (table : Table) (qualifier : String) (direction : Direction) (index : Option Nat)
    (attributes : Attributes) : Outcome Attributes :=
  if attributes.isEmpty then ⟨∅, []⟩
  else match table.qualifier? qualifier with
    | none =>
      ⟨attributes, [{ direction, reason := .unknownQualifier, attributeName := qualifier,
                      objectIndex := index, qualifier }]⟩
    | some maps =>
      ⟨KeyMap.ofList (attributes.entries.map fun entry => maps.target direction entry.1 entry.2),
        attributes.entries.flatMap fun entry =>
          maps.issues qualifier direction index entry.1 entry.2⟩

def mapRequest (table : Table) (qualifier : String) (attributes : Attributes) :
    Outcome Attributes :=
  table.mapRecord qualifier .request none attributes

def mapResponse (table : Table) (qualifier : String) (attributes : Attributes) :
    Outcome Attributes :=
  table.mapRecord qualifier .response none attributes

/-- Wire records in caller's names; each issue tells its record's position. -/
def mapResponses (table : Table) (qualifier : String) (records : List Attributes) :
    Outcome (List Attributes) :=
  let outcomes := records.zipIdx.map fun (record, index) =>
    table.mapRecord qualifier .response (some index) record
  ⟨outcomes.map (·.mapped), outcomes.flatMap (·.issues)⟩

def isAll (name : String) : Bool := Text.sameIgnoringCase name "all"

def mapNames (table : Table) (qualifier : String) (names : List String) :
    Outcome (List String) :=
  match table.qualifier? qualifier with
  | none => ⟨names, []⟩
  | some maps =>
    ⟨names.map fun name => if isAll name then name else (maps.requestKeys.get? name).getD name,
      (names.filter fun name => !isAll name && !maps.requestKeys.contains name).map fun name =>
        { direction := .request, reason := .unknownKey, attributeName := name, qualifier }⟩

/-- Adds the command's further names when all attributes are asked for. -/
def expandMacros (table : Table) (verb wireQualifier : String) (names : List String) :
    List String :=
  match table.command? verb wireQualifier with
  | some entry => if names.any isAll then names ++ entry.macros else names
  | none => names

end Table

end MqAdmin.Mapping
