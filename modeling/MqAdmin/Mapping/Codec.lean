import MqAdmin.Document.Record
import MqAdmin.Mapping.Issue
import MqAdmin.Mapping.Override

namespace MqAdmin.Mapping

def textsJson (map : KeyMap String) : Json := .ofAttributes (map.mapValues .string)

def nestedJson {α : Type} (inner : KeyMap α → Json) (map : KeyMap (KeyMap α)) : Json :=
  .ofAttributes (map.mapValues inner)

namespace WirePair

def json (pair : WirePair) : Json :=
  .object [("key", .string pair.key), ("value", .string pair.value)]

def decode? (document : Document) : Option WirePair := do
  let record ← Record.of? ["key", "value"] document
  return { key := ← record.required "key" Document.string?
           value := ← record.required "value" Document.string? }

end WirePair

namespace CommandEntry

/-- Macros are left out if there are none. -/
def json (entry : CommandEntry) : Json :=
  .object <| ("qualifier", .string entry.qualifier) ::
    if entry.macros.isEmpty then []
    else [("response_parameter_macros", .ofStrings entry.macros)]

def decode? (document : Document) : Option CommandEntry := do
  let record ← Record.of? ["qualifier", "response_parameter_macros"] document
  return { qualifier := ← record.required "qualifier" Document.string?
           macros := ← record.withDefault "response_parameter_macros"
             (Document.list? Document.string?) [] }

end CommandEntry

namespace QualifierTable

def json (table : QualifierTable) : Json :=
  .object [
    ("request_key_map", textsJson table.requestKeys),
    ("request_value_map", nestedJson textsJson table.requestValues),
    ("request_key_value_map",
      nestedJson (fun pairs => .ofAttributes (pairs.mapValues WirePair.json)) table.requestPairs),
    ("response_key_map", textsJson table.responseKeys),
    ("response_value_map", nestedJson textsJson table.responseValues)]

def decode? (document : Document) : Option QualifierTable := do
  let record ← Record.of? ["request_key_map", "request_value_map", "request_key_value_map",
    "response_key_map", "response_value_map"] document
  let texts := Document.map? Document.string?
  return { requestKeys := ← record.withDefault "request_key_map" texts ∅
           requestValues := ← record.withDefault "request_value_map" (Document.map? texts) ∅
           requestPairs := ← record.withDefault "request_key_value_map"
             (Document.map? (Document.map? WirePair.decode?)) ∅
           responseKeys := ← record.withDefault "response_key_map" texts ∅
           responseValues := ← record.withDefault "response_value_map" (Document.map? texts) ∅ }

end QualifierTable

namespace Table

/-- The version is left out if there is none. -/
def json (table : Table) : Json :=
  .object <| [
    ("commands", .ofAttributes (table.commands.mapValues CommandEntry.json)),
    ("qualifiers", .ofAttributes (table.qualifiers.mapValues QualifierTable.json))] ++
    match table.version with
    | some version => [("version", Json.ofNat version.toNat)]
    | none => []

def version? (document : Document) : Option UInt32 :=
  (document.naturalBelow? (twoTo 32)).map UInt32.ofNat

def decode? (document : Document) : Option Table := do
  let record ← Record.of? ["commands", "qualifiers", "version"] document
  return { commands := ← record.withDefault "commands" (Document.map? CommandEntry.decode?) ∅
           qualifiers := ← record.withDefault "qualifiers"
             (Document.map? QualifierTable.decode?) ∅
           version := ← record.withDefault "version" (Document.optional? version?) none }

end Table

namespace OverrideMode

def name : OverrideMode → String
  | .merge => "merge"
  | .replace => "replace"

def json (mode : OverrideMode) : Json := .string mode.name

def decode? (form : VariantForm) : Document → Option OverrideMode :=
  Document.variant? form [("merge", .merge), ("replace", .replace)]

end OverrideMode

namespace Issue

/-- A value and a position are left out if there are none. -/
def json (issue : Issue) : Json :=
  .object <| [
    ("direction", .string issue.direction.name),
    ("reason", .string issue.reason.name),
    ("attribute_name", .string issue.attributeName)] ++
    (match issue.attributeValue with
      | some value => [("attribute_value", value)]
      | none => []) ++
    (match issue.objectIndex with
      | some index => [("object_index", Json.ofNat index)]
      | none => []) ++
    [("qualifier", .string issue.qualifier)]

/-- The attribute's value stands one level below the top, so it may nest one level less. -/
def decode? (document : Document) : Option Issue := do
  let record ← Record.of? ["direction", "reason", "attribute_name", "attribute_value",
    "object_index", "qualifier"] document
  return { direction := ← record.required "direction"
             (Document.variant? .json [("request", .request), ("response", .response)])
           reason := ← record.required "reason"
             (Document.variant? .json [("unknown_key", .unknownKey),
               ("unknown_value", .unknownValue), ("unknown_qualifier", .unknownQualifier)])
           attributeName := ← record.required "attribute_name" Document.string?
           attributeValue := ← record.option "attribute_value"
             (Document.json? (Document.deepest - 1))
           objectIndex := ← record.option "object_index" (Document.naturalBelow? (twoTo 64))
           qualifier := ← record.required "qualifier" Document.string? }

end Issue

end MqAdmin.Mapping
