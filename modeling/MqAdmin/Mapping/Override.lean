import MqAdmin.Mapping.Table

/-!
Laying one mapping table over another. Commands are always replaced one by one; a kind of object
that both tables have is either merged entry by entry or taken from the upper table whole.
-/

namespace MqAdmin.Mapping

/-- What becomes of a kind of object that both tables have. -/
inductive OverrideMode where
  | merge
  | replace
deriving DecidableEq, Inhabited

/-- Both maps of maps together; the inner maps under a name in both are united. -/
def mergeNested {α : Type} (lower upper : KeyMap (KeyMap α)) : KeyMap (KeyMap α) :=
  upper.entries.foldl (fun merged entry =>
    merged.insert entry.1 (((merged.get? entry.1).getD ∅).union entry.2)) lower

def QualifierTable.merge (lower upper : QualifierTable) : QualifierTable where
  requestKeys := lower.requestKeys.union upper.requestKeys
  requestValues := mergeNested lower.requestValues upper.requestValues
  requestPairs := mergeNested lower.requestPairs upper.requestPairs
  responseKeys := lower.responseKeys.union upper.responseKeys
  responseValues := mergeNested lower.responseValues upper.responseValues

namespace Table

def overrideQualifiers (mode : OverrideMode) (lower upper : KeyMap QualifierTable) :
    KeyMap QualifierTable :=
  upper.entries.foldl (fun merged entry =>
    merged.insert entry.1 <| match mode, merged.get? entry.1 with
      | .merge, some present => present.merge entry.2
      | _, _ => entry.2) lower

/-- The table with another laid over it; it keeps its version. -/
def withOverrides (table upper : Table) (mode : OverrideMode) : Table where
  commands := table.commands.union upper.commands
  qualifiers := overrideQualifiers mode table.qualifiers upper.qualifiers
  version := table.version

end Table

end MqAdmin.Mapping
