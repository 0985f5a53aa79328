import Mathlib.Data.List.Basic
import MqAdmin.Mapping.Bundled
import MqAdmin.Proofs.Mapping.Override
import MqAdmin.Proofs.Mapping.Places

namespace MqAdmin.Mapping

theorem get?_mergeNested_of_absent {α : Type} {lower upper : KeyMap (KeyMap α)} {name : String}
    (absent : upper.get? name = none) : (mergeNested lower upper).get? name = lower.get? name := by
  rw [mergeNested_eq, KeyMap.get?_overlay, absent, Option.merge_none_right]

namespace QualifierTable

/-- The wire name by which a table looks up the texts of an attribute. What stands for a pair has no
texts that are looked up. -/
inductive LooksUp (maps : QualifierTable) (name : String) (value : Json) :
    Direction → (wire : String) → Prop where
  | sent (alone : ∀ pair, ¬ maps.Stands name value pair) :
      LooksUp maps name value .request ((maps.requestKeys.get? name).getD name)
  | heard : LooksUp maps name value .response (Text.upper name)

/-- Whether a layer says nothing about an attribute: it has no other name for it, no pair that it
may stand for, and no map for the texts under its wire name by the table below. -/
structure Spares (layer below : QualifierTable) (direction : Direction) (name : String)
    (value : Json) : Prop where
  unnamed : (layer.keys direction).get? (lookupName direction name) = none
  unpaired : direction = .request → layer.requestPairs.get? name = none
  untold : ∀ wire, below.LooksUp name value direction wire →
    (layer.values direction).get? wire = none

variable {below layer : QualifierTable} {direction : Direction} {name : String} {value : Json}

theorem looksUp_wireName (plain : below.pair? direction name value = none) :
    below.LooksUp name value direction (below.wireName direction name) := by
  cases direction with
  | request => exact .sent (pair?_eq_none_iff.mp plain)
  | response => exact .heard

section Spared

variable (spares : layer.Spares below direction name value)

include spares

theorem Spares.pair?_merge :
    (below.merge layer).pair? direction name value = below.pair? direction name value := by
  cases direction with
  | response => rfl
  | request =>
    have same : (below.merge layer).requestPairs.get? name = below.requestPairs.get? name :=
      get?_mergeNested_of_absent (spares.unpaired rfl)
    simp only [pair?, same]

theorem Spares.get?_keys_merge :
    ((below.merge layer).keys direction).get? (lookupName direction name) =
      (below.keys direction).get? (lookupName direction name) := by
  have united : (below.merge layer).keys direction =
      (below.keys direction).union (layer.keys direction) := by
    cases direction <;> rfl
  rw [united, KeyMap.get?_union, spares.unnamed, Option.none_or]

theorem Spares.targetName_merge :
    (below.merge layer).targetName direction name = below.targetName direction name := by
  rw [targetName, targetName, spares.get?_keys_merge]

theorem Spares.wireName_merge :
    (below.merge layer).wireName direction name = below.wireName direction name := by
  cases direction with
  | request => exact spares.targetName_merge
  | response => rfl

theorem Spares.get?_values_merge (plain : below.pair? direction name value = none) :
    ((below.merge layer).values direction).get? (below.wireName direction name) =
      (below.values direction).get? (below.wireName direction name) := by
  have merged : (below.merge layer).values direction =
      mergeNested (below.values direction) (layer.values direction) := by
    cases direction <;> rfl
  rw [merged]
  exact get?_mergeNested_of_absent (spares.untold _ (looksUp_wireName plain))

theorem Spares.target_merge :
    (below.merge layer).target direction name value = below.target direction name value := by
  unfold target
  rw [spares.pair?_merge]
  cases plain : below.pair? direction name value with
  | some pair => rfl
  | none =>
    dsimp only
    rw [spares.targetName_merge, spares.wireName_merge, spares.get?_values_merge plain]

theorem Spares.issues_merge (qualifier : String) (index : Option Nat) :
    (below.merge layer).issues qualifier direction index name value =
      below.issues qualifier direction index name value := by
  unfold issues
  rw [spares.pair?_merge]
  cases plain : below.pair? direction name value with
  | some pair => rfl
  | none =>
    dsimp only
    rw [KeyMap.contains, KeyMap.contains, spares.get?_keys_merge, spares.wireName_merge,
      spares.get?_values_merge plain]

end Spared

end QualifierTable

namespace Table

structure MapsAlike (table other : Table) (kind : String) : Prop where
  records : ∀ direction index attributes,
    table.mapRecord kind direction index attributes =
      other.mapRecord kind direction index attributes
  lists : ∀ records, table.mapResponses kind records = other.mapResponses kind records
  names : ∀ names, table.mapNames kind names = other.mapNames kind names
  present : table.hasQualifier kind = other.hasQualifier kind

variable {table layer : Table} {mode : OverrideMode} {kind : String}

theorem mapsAlike_of_qualifier {other : Table}
    (same : table.qualifier? kind = other.qualifier? kind) : table.MapsAlike other kind := by
  have records (direction : Direction) (index : Option Nat) (attributes : Attributes) :
      table.mapRecord kind direction index attributes =
        other.mapRecord kind direction index attributes := by
    rw [mapRecord, mapRecord, same]
  refine ⟨records, fun list => ?_, fun names => ?_, ?_⟩
  · simp only [mapResponses, records]
  · rw [mapNames, mapNames, same]
  · exact congrArg Option.isSome same

/-- A record is mapped attribute by attribute, so that it is enough to spare each of them. -/
theorem mapRecord_merge_of_spares {below : QualifierTable} {direction : Direction}
    {attributes : Attributes} (known : table.qualifier? kind = some below)
    (spared : ∀ above, layer.qualifier? kind = some above → ∀ name value,
      attributes.get? name = some value → above.Spares below direction name value)
    (index : Option Nat) : (table.withOverrides layer .merge).mapRecord kind direction index
        attributes = table.mapRecord kind direction index attributes := by
  have overlay := isOverlay_withOverrides .merge table layer
  cases found : layer.qualifier? kind with
  | none => exact (mapsAlike_of_qualifier (overlay.lowerOnly kind found)).records ..
  | some above =>
    have spares (entry : String × Json) (member : entry ∈ attributes.entries) :
        above.Spares below direction entry.1 entry.2 :=
      spared above found _ _ (KeyMap.get?_eq_some_iff.mpr member)
    have merged : (table.withOverrides layer .merge).qualifier? kind =
        some (below.merge above) := by
      rw [qualifier?_withOverrides, known, found]
      rfl
    rw [mapRecord_of_qualifier known, mapRecord_of_qualifier merged]
    congr 1
    · exact congrArg KeyMap.ofList (List.map_congr_left fun entry member =>
        (spares entry member).target_merge)
    · exact List.flatMap_congr fun entry member => (spares entry member).issues_merge kind index

theorem command?_withOverrides (verb wireQualifier : String)
    (absent : layer.command? verb wireQualifier = none) :
    (table.withOverrides layer mode).command? verb wireQualifier =
      table.command? verb wireQualifier := by
  have absent : layer.commands.get? (verb ++ " " ++ wireQualifier) = none := absent
  rw [command?, (isOverlay_withOverrides mode table layer).commands, absent, Option.none_or,
    command?]

/-- A layer is local. A merged one changes nothing for records of whose attributes it says nothing,
whatever else it says of their kind. In either way of laying it, kinds of objects that it does not
name are mapped as before, and commands that it does not list concern the same kind and bring the
same further names. -/
theorem overrides_local (table layer : Table) :
    (∀ kind below direction index attributes, table.qualifier? kind = some below →
      (∀ above, layer.qualifier? kind = some above → ∀ name value,
        attributes.get? name = some value → above.Spares below direction name value) →
      (table.withOverrides layer .merge).mapRecord kind direction index attributes =
        table.mapRecord kind direction index attributes) ∧
    ∀ mode,
      (∀ kind, layer.qualifier? kind = none →
        (table.withOverrides layer mode).MapsAlike table kind) ∧
      ∀ verb wireQualifier, layer.command? verb wireQualifier = none →
        (table.withOverrides layer mode).resolveQualifier verb wireQualifier =
            table.resolveQualifier verb wireQualifier ∧
          ∀ names, (table.withOverrides layer mode).expandMacros verb wireQualifier names =
            table.expandMacros verb wireQualifier names := by
  refine ⟨fun kind below direction index attributes known spared =>
    mapRecord_merge_of_spares known spared index, fun mode => ⟨?_, ?_⟩⟩
  · intro kind absent
    exact mapsAlike_of_qualifier ((isOverlay_withOverrides mode table layer).lowerOnly kind absent)
  · intro verb wireQualifier absent
    have same : (table.withOverrides layer mode).command? verb wireQualifier =
        table.command? verb wireQualifier := command?_withOverrides verb wireQualifier absent
    constructor
    · rw [resolveQualifier, resolveQualifier, same]
    · intro names
      rw [expandMacros, expandMacros, same]

/-- Another wire name and another text for the transport of listeners. -/
def transports : Table where
  commands := .ofAscending
    [("DISPLAY LISTENER", { qualifier := "listener", macros := ["BACKLOG"] })]
  qualifiers := .ofAscending [("listener",
    { requestKeys := .ofAscending [("transport_type", "TRANSPORT")]
      requestValues := .ofAscending [("TRPTYPE", .ofAscending [("tcp", "IP")])] })]

/-- A listener without a transport is sent as before; with one it is not. Queues, and commands for
them, are left alone. -/
theorem overrides_local_listener :
    let layered := Table.bundled.withOverrides transports .merge
    let record : Attributes := .ofAscending
      [("port", .ofNat 1414), ("replace", .string "yes"), ("start_mode", .string "manual")]
    let moved : Attributes := .ofAscending [("transport_type", .string "tcp")]
    layered.mapRecord "listener" .request none record =
        ⟨.ofAscending [("CONTROL", .string "MANUAL"), ("PORT", .ofNat 1414),
          ("REPLACE", .string "YES")], []⟩ ∧
      layered.mapRecord "listener" .request none moved ≠
        Table.bundled.mapRecord "listener" .request none moved ∧
      layered.MapsAlike Table.bundled "queue" ∧
      layered.resolveQualifier "DISPLAY" "QUEUE" =
        Table.bundled.resolveQualifier "DISPLAY" "QUEUE" := by
  intro layered record moved
  obtain ⟨spared, unnamed⟩ := overrides_local Table.bundled transports
  have known : Table.bundled.qualifier? "listener" = some Bundled.listener := by decide +kernel
  have unsaid : ∀ above ∈ transports.qualifier? "listener", ∀ entry ∈ record.entries,
      above.requestKeys.get? entry.1 = none ∧ above.requestPairs.get? entry.1 = none ∧
      above.requestValues.get? ((Bundled.listener.requestKeys.get? entry.1).getD entry.1) =
        none := by decide +kernel
  have same := spared "listener" Bundled.listener .request none record known ?_
  · obtain ⟨queues, commands⟩ := unnamed .merge
    refine ⟨same.trans (by decide +kernel), by decide +kernel,
      queues "queue" (by decide +kernel), (commands "DISPLAY" "QUEUE" (by decide +kernel)).1⟩
  · intro above layer name value listed
    obtain ⟨keys, pairs, values⟩ :=
      unsaid above layer (name, value) (KeyMap.get?_eq_some_iff.mp listed)
    refine ⟨keys, fun _ => pairs, ?_⟩
    rintro wire ⟨⟩
    exact values

end Table

end MqAdmin.Mapping
