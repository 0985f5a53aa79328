import Mathlib.Data.List.Nodup
import Mathlib.Data.Set.Function
import MqAdmin.Mapping.Bundled
import MqAdmin.Proofs.Mapping.Troubles

/-!
Responses whose wire names are spelled in other letter cases. Small letters stand behind capitals in
the order of names, so the attributes of such a response come in another order; but each of them
has a place of its own, and what it becomes depends on the capitals of its name alone.
-/

namespace MqAdmin

namespace Mapping

def Issue.naming (name : String) (issue : Issue) : Issue := { issue with attributeName := name }

/-- Whether one record is another whose names are spelled anew, with the same capitals. -/
structure Respells (spell : String → String) (record other : Attributes) : Prop where
  names : Set.BijOn spell {name | name ∈ record.keys} {name | name ∈ other.keys}
  capitals : ∀ name ∈ record.keys, Text.upper (spell name) = Text.upper name
  values : ∀ name ∈ record.keys, other.get? (spell name) = record.get? name

/-- Up to their order the entries are those of the one record under the other names. -/
theorem Respells.entries_perm {spell : String → String} {record other : Attributes}
    (respells : Respells spell record other) :
    other.entries.Perm (record.entries.map fun entry => (spell entry.1, entry.2)) := by
  have key {name : String} {value : Json} (listed : (name, value) ∈ record.entries) :
      name ∈ record.keys := List.mem_map_of_mem listed
  have nodup : (record.entries.map fun entry => (spell entry.1, entry.2)).Nodup := by
    refine record.entries_nodup.map_on fun one listed two too same => ?_
    have spelled : spell one.1 = spell two.1 := (Prod.ext_iff.mp same).1
    have value : one.2 = two.2 := (Prod.ext_iff.mp same).2
    exact Prod.ext (respells.names.injOn (key listed) (key too) spelled) value
  refine (List.perm_ext_iff_of_nodup other.entries_nodup nodup).mpr fun ⟨spelled, value⟩ => ?_
  rw [List.mem_map]
  constructor
  · intro listed
    obtain ⟨name, member, rfl⟩ := respells.names.surjOn (List.mem_map_of_mem listed)
    have found := (respells.values name member).symm.trans (KeyMap.get?_eq_some_iff.mpr listed)
    exact ⟨(name, value), KeyMap.get?_eq_some_iff.mp found, rfl⟩
  · rintro ⟨⟨name, kept⟩, listed, same⟩
    cases same
    rw [← KeyMap.get?_eq_some_iff, respells.values name (key listed)]
    exact KeyMap.get?_eq_some_iff.mpr listed

namespace QualifierTable

/-- Whether no two wire names stand for one caller's name. -/
def OneToOne (maps : QualifierTable) : Prop :=
  ∀ wire other name, maps.responseKeys.get? wire = some name →
    maps.responseKeys.get? other = some name → wire = other

theorem oneToOne_of_nodup {maps : QualifierTable}
    (nodup : (maps.responseKeys.entries.map Prod.snd).Nodup) : maps.OneToOne := by
  intro wire other name found too
  have same := List.inj_on_of_nodup_map nodup (KeyMap.get?_eq_some_iff.mp found)
    (KeyMap.get?_eq_some_iff.mp too) rfl
  exact congrArg Prod.fst same

variable {maps : QualifierTable} {name spelled caller : String} {value : Json}

theorem target_heard (known : maps.responseKeys.get? (Text.upper name) = some caller) :
    maps.target .response name value =
      (caller, value.mapTexts (recode (maps.responseValues.get? (Text.upper name)))) :=
  (Goes.heard rfl (by rw [known]; rfl)).target_eq

/-- Only the capitals of a known wire name count. -/
theorem target_respelled (same : Text.upper spelled = Text.upper name)
    (known : maps.responseKeys.contains (Text.upper name) = true) :
    maps.target .response spelled value = maps.target .response name value := by
  obtain ⟨caller, found⟩ := Option.isSome_iff_exists.mp known
  rw [target_heard found, target_heard (same ▸ found), same]

theorem issues_respelled (same : Text.upper spelled = Text.upper name) (qualifier : String)
    (index : Option Nat) : maps.issues qualifier .response index spelled value =
      (maps.issues qualifier .response index name value).map (·.naming spelled) := by
  have troubles : maps.plainTroubles .response spelled value =
      maps.plainTroubles .response name value := by
    simp only [plainTroubles, wireName, lookupName, same]
  rw [issues_of_plain rfl, issues_of_plain rfl, troubles, List.map_map]
  exact List.map_congr_left fun trouble _ => by cases trouble <;> rfl

/-- Whether a table knows the names of a wire record, no two of which have the same capitals. -/
structure Hears (maps : QualifierTable) (record : Attributes) : Prop where
  known : ∀ name ∈ record.keys, maps.responseKeys.contains (Text.upper name) = true
  apart : ∀ one ∈ record.keys, ∀ two ∈ record.keys, Text.upper one = Text.upper two → one = two

section Records

variable {record other : Attributes} {spell : String → String}

theorem Hears.distinct (hears : maps.Hears record) (oneToOne : maps.OneToOne) :
    (record.entries.map fun entry => maps.target .response entry.1 entry.2).Pairwise
      fun a b => a.1 ≠ b.1 := by
  refine List.pairwise_map.mpr (record.ascending.imp_of_mem fun {one two} listed too less => ?_)
  have key : one.1 ∈ record.keys := List.mem_map_of_mem listed
  have keyToo : two.1 ∈ record.keys := List.mem_map_of_mem too
  obtain ⟨caller, found⟩ := Option.isSome_iff_exists.mp (hears.known _ key)
  obtain ⟨callerToo, foundToo⟩ := Option.isSome_iff_exists.mp (hears.known _ keyToo)
  rw [target_heard found, target_heard foundToo]
  rintro rfl
  have same := hears.apart _ key _ keyToo (oneToOne _ _ _ found foundToo)
  exact String.lt_irrefl _ (same ▸ less)

theorem Hears.image_respelled (hears : maps.Hears record) (oneToOne : maps.OneToOne)
    (respells : Respells spell record other) :
    maps.image .response other = maps.image .response record := by
  have targets : ((record.entries.map fun entry => (spell entry.1, entry.2)).map fun entry =>
        maps.target .response entry.1 entry.2) =
      record.entries.map fun entry => maps.target .response entry.1 entry.2 := by
    rw [List.map_map]
    refine List.map_congr_left fun entry listed => ?_
    have key : entry.1 ∈ record.keys := List.mem_map_of_mem listed
    exact target_respelled (respells.capitals _ key) (hears.known _ key)
  have perm := respells.entries_perm.map fun entry => maps.target .response entry.1 entry.2
  rw [targets] at perm
  exact (KeyMap.ofList_eq_of_perm perm.symm (hears.distinct oneToOne)).symm

theorem recordIssues_respelled (respells : Respells spell record other) (qualifier : String)
    (index : Option Nat) :
    (maps.recordIssues qualifier .response index other).Perm
      ((maps.recordIssues qualifier .response index record).map fun issue =>
        issue.naming (spell issue.attributeName)) := by
  have perm := respells.entries_perm.flatMap_right fun entry =>
    maps.issues qualifier .response index entry.1 entry.2
  rw [List.flatMap_map] at perm
  refine perm.trans (.of_eq ?_)
  rw [recordIssues, List.map_flatMap]
  refine List.flatMap_congr fun entry listed => ?_
  rw [issues_respelled (respells.capitals _ (List.mem_map_of_mem listed))]
  refine List.map_congr_left fun issue member => ?_
  rw [attributeName_of_mem_issues member]

end Records

end QualifierTable

theorem bundled_oneToOne : ∀ table ∈ Bundled.qualifiers.entries, table.2.OneToOne := by
  have nodup : ∀ table ∈ Bundled.qualifiers.entries,
      (table.2.responseKeys.entries.map Prod.snd).Nodup := by
    decide +kernel
  exact fun table listed => QualifierTable.oneToOne_of_nodup (nodup table listed)

/-- In all bundled tables, and in any other in which no two wire names stand for one caller's name:
a record of known wire names is heard as one whose names are spelled in other letter cases. The
issues are the same up to their order, each with the name that its attribute was given. -/
theorem heard_in_any_case {table : Table} {qualifier : String} {maps : QualifierTable}
    (found : table.qualifier? qualifier = some maps) (oneToOne : maps.OneToOne)
    {record other : Attributes} (hears : maps.Hears record) {spell : String → String}
    (respells : Respells spell record other) :
    (∀ entry ∈ Table.bundled.qualifiers.entries, entry.2.OneToOne) ∧
    (table.mapResponse qualifier other).mapped = (table.mapResponse qualifier record).mapped ∧
    (table.mapResponse qualifier other).issues.Perm
      ((table.mapResponse qualifier record).issues.map fun issue =>
        issue.naming (spell issue.attributeName)) := by
  simp only [Table.mapResponse, Table.mapRecord_of_qualifier found]
  exact ⟨bundled_oneToOne, hears.image_respelled oneToOne respells,
    QualifierTable.recordIssues_respelled respells qualifier none⟩

/-- A queue's record with two unknown texts. Capitals come before small letters, so the issues of
the one spelling come in another order than those of the other. -/
theorem heard_in_any_case_queue :
    let record : Attributes := .ofAscending [("DefPsist", .string "MAYBE"),
      ("maxdepth", .number (.integer 5000)), ("usage", .array [.string "ODD", .string "NORMAL"])]
    let other : Attributes := .ofAscending [("MAXDEPTH", .number (.integer 5000)),
      ("USAGE", .array [.string "ODD", .string "NORMAL"]), ("defpsist", .string "MAYBE")]
    let spell (name : String) := if name = "DefPsist" then "defpsist" else Text.upper name
    Bundled.queue.Hears record ∧ Respells spell record other ∧
      (Table.bundled.mapResponse "queue" other).mapped =
        (Table.bundled.mapResponse "queue" record).mapped ∧
      (Table.bundled.mapResponse "queue" other).issues.Perm
        ((Table.bundled.mapResponse "queue" record).issues.map fun issue =>
          issue.naming (spell issue.attributeName)) := by
  intro record other spell
  have found : Table.bundled.qualifier? "queue" = some Bundled.queue := by decide +kernel
  have oneToOne := bundled_oneToOne _ (KeyMap.get?_eq_some_iff.mp found)
  have hears : Bundled.queue.Hears record := ⟨by decide +kernel, by decide +kernel⟩
  have respells : Respells spell record other := by
    refine ⟨⟨?_, ?_, ?_⟩, by decide +kernel, by decide +kernel⟩
    · show ∀ name ∈ record.keys, spell name ∈ other.keys
      decide +kernel
    · show ∀ one ∈ record.keys, ∀ two ∈ record.keys, spell one = spell two → one = two
      decide +kernel
    · show ∀ spelled ∈ other.keys, ∃ name ∈ record.keys, spell name = spelled
      decide +kernel
  exact ⟨hears, respells, (heard_in_any_case found oneToOne hears respells).2⟩

end Mapping

end MqAdmin
