import Mathlib.Tactic.Choose
import MqAdmin.Proofs.Mapping.Places

namespace MqAdmin.Mapping

inductive Trouble where
  | name
  | text (text : String)

def Trouble.issue (qualifier : String) (direction : Direction) (index : Option Nat)
    (name : String) : Trouble → Issue
  | .name =>
    { direction, reason := .unknownKey, attributeName := name, objectIndex := index, qualifier }
  | .text unknown =>
    { direction, reason := .unknownValue, attributeName := name,
      attributeValue := some (.string unknown), objectIndex := index, qualifier }

/-- The issue that reports that there is no table. -/
def Issue.ofKind (qualifier : String) (direction : Direction) (index : Option Nat) : Issue :=
  { direction, reason := .unknownQualifier, attributeName := qualifier, objectIndex := index,
    qualifier }

def Issue.at (position : Nat) (issue : Issue) : Issue := { issue with objectIndex := some position }

def nameTroubles (found : Option String) : List Trouble := if found.isSome then [] else [.name]

/-- The texts of a value that are not known where there is a map for them, each as often as it
occurs. -/
def textTroubles (values : Option (KeyMap String)) (value : Json) : List Trouble :=
  match values with
  | some known => (value.texts.filter fun text => !known.contains text).map .text
  | none => []

namespace QualifierTable

/-- What is wrong with an attribute, its name first. What stands for a pair is in no trouble. -/
inductive Troubled (maps : QualifierTable) (name : String) (value : Json) :
    Direction → List Trouble → Prop where
  | pair {pair : WirePair} (stands : maps.Stands name value pair) :
      Troubled maps name value .request []
  | sent {wire : String} (alone : ∀ pair, ¬ maps.Stands name value pair)
      (renamed : (maps.requestKeys.get? name).getD name = wire) :
      Troubled maps name value .request
        (nameTroubles (maps.requestKeys.get? name) ++
          textTroubles (maps.requestValues.get? wire) value)
  | heard {wire : String} (capitals : Text.upper name = wire) :
      Troubled maps name value .response
        (nameTroubles (maps.responseKeys.get? wire) ++
          textTroubles (maps.responseValues.get? wire) value)

end QualifierTable

theorem unknownItems_eq (known : KeyMap String) (value : Json) : unknownItems known value =
    (value.texts.filter fun text => !known.contains text).map .string := by
  have items (list : List Json) : list.filter (isUnknown known) =
      ((list.filterMap Json.string?).filter fun text => !known.contains text).map .string := by
    induction list with
    | nil => rfl
    | cons item rest ih =>
      cases item with
      | string text =>
        simp only [List.filterMap_cons, Json.string?, List.filter_cons, isUnknown, ih]
        split <;> rfl
      | _ => simpa [List.filterMap_cons, List.filter_cons, isUnknown, Json.string?] using ih
  cases value with
  | array list => exact items list
  | string text => exact items [.string text]
  | _ => rfl

namespace QualifierTable

variable {maps : QualifierTable} {name : String} {value : Json} {direction : Direction}

/-- The troubles of an attribute that stands for itself. -/
def plainTroubles (maps : QualifierTable) (direction : Direction) (name : String) (value : Json) :
    List Trouble :=
  nameTroubles ((maps.keys direction).get? (lookupName direction name)) ++
    textTroubles ((maps.values direction).get? (maps.wireName direction name)) value

theorem issues_of_plain (plain : maps.pair? direction name value = none) (qualifier : String)
    (index : Option Nat) : maps.issues qualifier direction index name value =
      (maps.plainTroubles direction name value).map
        (Trouble.issue qualifier direction index name) := by
  simp only [issues, plain, plainTroubles, List.map_append]
  congr 1
  · rw [KeyMap.contains, nameTroubles]
    split <;> rfl
  · cases (maps.values direction).get? (maps.wireName direction name) with
    | none => rfl
    | some known => simp [unknownItems_eq, textTroubles, Trouble.issue]

theorem exists_troubled (maps : QualifierTable) (direction : Direction) (name : String)
    (value : Json) : ∃ troubles, maps.Troubled name value direction troubles ∧
      ∀ qualifier index, maps.issues qualifier direction index name value =
        troubles.map (Trouble.issue qualifier direction index name) := by
  cases direction with
  | request =>
    cases stands : maps.pair? .request name value with
    | some pair =>
      exact ⟨[], .pair (pair?_eq_some_iff.mp stands), fun _ _ => by rw [issues, stands]; rfl⟩
    | none => exact ⟨_, .sent (pair?_eq_none_iff.mp stands) rfl, issues_of_plain stands⟩
  | response => exact ⟨_, .heard rfl, issues_of_plain rfl⟩

theorem attributeName_of_mem_issues {qualifier : String} {index : Option Nat} {issue : Issue}
    (member : issue ∈ maps.issues qualifier direction index name value) :
    issue.attributeName = name := by
  obtain ⟨troubles, _, same⟩ := maps.exists_troubled direction name value
  rw [same] at member
  obtain ⟨trouble, _, rfl⟩ := List.mem_map.mp member
  cases trouble <;> rfl

/-- The issues of a record ascend by the names of its attributes. -/
theorem recordIssues_ascend (maps : QualifierTable) (qualifier : String) (direction : Direction)
    (index : Option Nat) (attributes : Attributes) :
    (maps.recordIssues qualifier direction index attributes).Pairwise fun first second =>
      first.attributeName ≤ second.attributeName := by
  rw [recordIssues, List.pairwise_flatMap]
  constructor
  · intro entry _
    refine List.pairwise_of_forall_mem_list fun first member second listed => ?_
    have same : first.attributeName = second.attributeName :=
      (attributeName_of_mem_issues member).trans (attributeName_of_mem_issues listed).symm
    exact same ▸ String.le_refl _
  · refine attributes.ascending.imp fun {one two} before first member second listed => ?_
    rw [attributeName_of_mem_issues member, attributeName_of_mem_issues listed]
    exact Std.le_of_lt before

end QualifierTable

theorem Table.mapRecord_at (table : Table) (qualifier : String) (direction : Direction)
    (position : Nat) (record : Attributes) :
    table.mapRecord qualifier direction (some position) record =
      ⟨(table.mapRecord qualifier direction none record).mapped,
        (table.mapRecord qualifier direction none record).issues.map (·.at position)⟩ := by
  cases found : table.qualifier? qualifier with
  | none =>
    simp only [mapRecord, found]
    split <;> rfl
  | some maps =>
    have one (entry : String × Json) :
        maps.issues qualifier direction (some position) entry.1 entry.2 =
          (maps.issues qualifier direction none entry.1 entry.2).map (·.at position) := by
      obtain ⟨troubles, _, same⟩ := maps.exists_troubled direction entry.1 entry.2
      rw [same, same, List.map_map]
      exact List.map_congr_left fun trouble _ => by cases trouble <;> rfl
    simp only [mapRecord_of_qualifier found, QualifierTable.recordIssues, one, List.map_flatMap]

/-- The issues of a record are exact: none if it is empty, one for the table if that is missing, and
otherwise what is wrong with the attributes, one after another as the names ascend. Records of a
list are mapped one by one, and their issues follow one another with the records' positions. -/
theorem Table.issues_exact (table : Table) (qualifier : String) (direction : Direction)
    (index : Option Nat) (attributes : Attributes) (records : List Attributes) :
    let issues := (table.mapRecord qualifier direction index attributes).issues
    (attributes = ∅ → issues = []) ∧
    (attributes ≠ ∅ → table.qualifier? qualifier = none →
      issues = [.ofKind qualifier direction index]) ∧
    (∀ maps, table.qualifier? qualifier = some maps →
      (issues.Pairwise fun first second => first.attributeName ≤ second.attributeName) ∧
      ∃ troubles : String → Json → List Trouble,
        (∀ name value, maps.Troubled name value direction (troubles name value)) ∧
        issues = attributes.entries.flatMap fun (name, value) =>
          (troubles name value).map (Trouble.issue qualifier direction index name)) ∧
    (table.mapResponses qualifier records).mapped =
      records.map (fun record => (table.mapResponse qualifier record).mapped) ∧
    (table.mapResponses qualifier records).issues =
      records.zipIdx.flatMap fun (record, position) =>
        (table.mapResponse qualifier record).issues.map (·.at position) := by
  refine ⟨?_, fun nonempty absent => ?_, fun maps found => ⟨?_, ?_⟩, ?_, ?_⟩
  · rintro rfl
    rfl
  · have filled : attributes.isEmpty = false :=
      Bool.eq_false_iff.mpr fun empty => nonempty (KeyMap.isEmpty_iff.mp empty)
    simp [mapRecord, filled, absent, Issue.ofKind]
  · rw [mapRecord_of_qualifier found]
    exact maps.recordIssues_ascend qualifier direction index attributes
  · rw [mapRecord_of_qualifier found]
    choose troubles troubled same using maps.exists_troubled direction
    exact ⟨troubles, troubled, by simp only [QualifierTable.recordIssues, same]⟩
  · have zipped : (table.mapResponses qualifier records).mapped =
        records.zipIdx.map ((fun record => (table.mapResponse qualifier record).mapped) ∘
          Prod.fst) := by
      simp [mapResponses, mapResponse, mapRecord_at, Function.comp_def]
    rw [zipped, ← List.map_map, List.zipIdx_map_fst]
  · simp only [mapResponses, mapRecord_at, List.flatMap_map]
    rfl

end MqAdmin.Mapping
