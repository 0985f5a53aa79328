import MqAdmin.Document.Record

namespace MqAdmin.Ensure

/-- The qualifiers by which an object is displayed, defined and altered. -/
structure Target where
  display : String
  define : String
  alter : String
deriving DecidableEq

namespace Target

def uniform (qualifier : String) : Target := ⟨qualifier, qualifier, qualifier⟩

/-- Queues of every type are displayed alike. -/
def queue (qualifier : String) : Target := ⟨"QUEUE", qualifier, qualifier⟩

end Target

def targets : List (String × Target) := [
  ("qlocal", .queue "QLOCAL"), ("qremote", .queue "QREMOTE"), ("qalias", .queue "QALIAS"),
  ("qmodel", .queue "QMODEL"), ("channel", .uniform "CHANNEL"),
  ("authinfo", .uniform "AUTHINFO"), ("listener", .uniform "LISTENER"),
  ("namelist", .uniform "NAMELIST"), ("process", .uniform "PROCESS"),
  ("service", .uniform "SERVICE"), ("topic", .uniform "TOPIC"), ("sub", .uniform "SUB"),
  ("stgclass", .uniform "STGCLASS"), ("comminfo", .uniform "COMMINFO"),
  ("cfstruct", .uniform "CFSTRUCT")]

inductive Action where
  | created
  | updated
  | unchanged
deriving DecidableEq

def Action.name : Action → String
  | .created => "created"
  | .updated => "updated"
  | .unchanged => "unchanged"

/-- What was done, and the names of the attributes that were altered. -/
structure Outcome where
  action : Action
  changed : List String := []
deriving DecidableEq

namespace Outcome

def json (outcome : Outcome) : Json :=
  .object <| ("action", .string outcome.action.name) ::
    if outcome.changed.isEmpty then [] else [("changed", .ofStrings outcome.changed)]

def decode? (document : Document) : Option Outcome := do
  let record ← Record.of? ["action", "changed"] document
  return { action := ← record.required "action"
             (Document.variant? .json [("created", .created), ("updated", .updated),
               ("unchanged", .unchanged)])
           changed := ← record.withDefault "changed" (Document.list? Document.string?) [] }

end Outcome

end MqAdmin.Ensure
