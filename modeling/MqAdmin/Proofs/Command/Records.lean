import Mathlib.Algebra.Ring.Nat
import Mathlib.Data.List.Forall2
import MqAdmin.Command.Answer
import MqAdmin.Proofs.KeyMap

namespace MqAdmin

theorem forall₂_iff_eq_map {α β : Type} {relates : α → β → Prop} {change : α → β}
    (defined : ∀ one other, relates one other ↔ other = change one) {ones : List α}
    {others : List β} : List.Forall₂ relates ones others ↔ others = ones.map change := by
  have same : relates = fun one other => change one = other := by
    funext one other
    exact propext ((defined one other).trans eq_comm)
  rw [same, ← List.forall₂_map_left_iff, List.forall₂_eq_eq_eq, eq_comm]

namespace Json

variable {found : Option Json} {listed : List Json} {attributes : Attributes}

theorem bind_array?_eq_some_iff :
    found.bind array? = some listed ↔ found = some (.array listed) := by
  rcases found with _ | value
  · simp
  · cases value <;> simp [array?]

theorem bind_array?_eq_none_iff :
    found.bind array? = none ↔ ∀ listed, found ≠ some (.array listed) := by
  simp only [Option.eq_none_iff_forall_ne_some, ne_eq, bind_array?_eq_some_iff]

theorem bind_object?_eq_some_iff : found.bind object? = some attributes ↔
    ∃ fields, found = some (.object fields) ∧ attributes = .ofList fields := by
  rcases found with _ | value
  · simp
  · cases value <;> simp [object?, eq_comm]

end Json

namespace Answer

/-- Whether the items of a payload are those; there are none where there is no list of them. -/
inductive Lists (payload : Json) : List Json → Prop where
  | array (found : payload.get? "commandResponse" = some (.array listed)) : Lists payload listed
  | missing (other : ∀ listed, payload.get? "commandResponse" ≠ some (.array listed)) :
      Lists payload []

def HasParameters (item : Json) (parameters : Attributes) : Prop :=
  ∃ fields, item.get? "parameters" = some (.object fields) ∧ parameters = .ofList fields

/-- Whether a record is a nested object's: the object's attributes, and of its parent's those that
the object does not have itself, the list of nested objects apart. -/
structure Overlays (parent object record : Attributes) : Prop where
  own : ∀ name value, object.get? name = some value → record.get? name = some value
  inherited : ∀ name, object.get? name = none → name ≠ "objects" →
    record.get? name = parent.get? name
  apart : object.get? "objects" = none → record.get? "objects" = none

/-- The records of the entries of a list of nested objects. An entry that is no object gives
none. -/
inductive Nests (parent : Attributes) : List Json → List Attributes → Prop where
  | nil : Nests parent [] []
  | skipped (other : ∀ fields, entry ≠ .object fields) (rest : Nests parent entries rows) :
      Nests parent (entry :: entries) rows
  | object (overlays : Overlays parent (.ofList fields) row) (rest : Nests parent entries rows) :
      Nests parent (.object fields :: entries) (row :: rows)

inductive Gives (item : Json) : List Attributes → Prop where
  | nothing (bare : ∀ parameters, ¬ HasParameters item parameters) : Gives item []
  | whole (has : HasParameters item parameters)
      (flat : ∀ entries, parameters.get? "objects" ≠ some (.array entries)) :
      Gives item [parameters]
  | nested (has : HasParameters item parameters)
      (listed : parameters.get? "objects" = some (.array entries))
      (nests : Nests parameters entries rows) : Gives item rows

def recordCount (item : Json) : Nat :=
  match item.get? "parameters" with
  | some (.object fields) =>
    match (KeyMap.ofList fields).get? "objects" with
    | some (.array entries) => entries.countP fun entry => entry.object?.isSome
    | _ => 1
  | _ => 0

/-- Where a record can have an attribute for nested objects from: from a nested object that has one
itself, or from an item whose attribute of that name is no list. -/
inductive KeepsObjects (item : Json) (row : Attributes) : Prop where
  | own (has : HasParameters item parameters)
      (listed : parameters.get? "objects" = some (.array entries))
      (member : .object fields ∈ entries) (overlays : Overlays parameters (.ofList fields) row)
      (present : ((KeyMap.ofList fields).get? "objects").isSome) : KeepsObjects item row
  | plain (has : HasParameters item row)
      (flat : ∀ entries, row.get? "objects" ≠ some (.array entries)) : KeepsObjects item row

/-- Whether records are those of the listed items: what the items give, in order. -/
structure Flattens (listed : List Json) (rows : List Attributes) : Prop where
  inOrder : ∃ given, List.Forall₂ Gives listed given ∧ rows = given.flatten ∧
    ∀ other, List.Forall₂ Gives listed other → other = given
  length : rows.length = (listed.map recordCount).sum
  objects : ∀ row ∈ rows, (row.get? "objects").isSome → ∃ item ∈ listed, KeepsObjects item row

section Items

variable {payload item : Json} {listed : List Json} {parameters : Attributes}

theorem lists_iff : Lists payload listed ↔ listed = items payload := by
  unfold items
  cases found : (payload.get? "commandResponse").bind Json.array? with
  | some known =>
    have array := Json.bind_array?_eq_some_iff.mp found
    constructor
    · intro lists
      cases lists with
      | array other => simpa [array, eq_comm] using other
      | missing other => exact absurd array (other known)
    · rintro rfl
      exact .array array
  | none =>
    have missing := Json.bind_array?_eq_none_iff.mp found
    constructor
    · intro lists
      cases lists with
      | array other => exact absurd other (missing listed)
      | missing => rfl
    · rintro rfl
      exact .missing missing

theorem hasParameters_iff : HasParameters item parameters ↔
    (item.get? "parameters").bind Json.object? = some parameters :=
  Json.bind_object?_eq_some_iff.symm

end Items

section Nested

variable {parent object row : Attributes} {entries : List Json} {rows : List Attributes}

theorem get?_nestedRecord (parent object : Attributes) (name : String) :
    (nestedRecord parent object).get? name =
      (object.get? name).or (if name = "objects" then none else parent.get? name) := by
  rw [nestedRecord, KeyMap.get?_union, KeyMap.get?_filter, objectsName]
  congr 1
  by_cases same : name = "objects"
  · simp [same]
  · cases parent.get? name <;> simp [same]

theorem overlays_iff : Overlays parent object row ↔ row = nestedRecord parent object := by
  constructor
  · intro overlays
    refine KeyMap.ext_get? fun name => ?_
    rw [get?_nestedRecord]
    cases own : object.get? name with
    | some value => exact overlays.own name value own
    | none =>
      by_cases same : name = "objects"
      · subst same
        simpa using overlays.apart own
      · simpa [same] using overlays.inherited name own same
  · rintro rfl
    constructor
    · intro name value own
      simp [get?_nestedRecord, own]
    · intro name none apart
      simp [get?_nestedRecord, none, apart]
    · intro none
      simp [get?_nestedRecord, none]

theorem nests_iff : Nests parent entries rows ↔
    rows = (entries.filterMap Json.object?).map (nestedRecord parent) := by
  induction entries generalizing rows with
  | nil =>
    constructor
    · intro nests
      cases nests
      rfl
    · rintro rfl
      exact .nil
  | cons entry entries ih =>
    constructor
    · intro nests
      cases nests with
      | skipped other rest =>
        have none : entry.object? = none := by
          cases entry with
          | object fields => exact absurd rfl (other fields)
          | _ => rfl
        rw [List.filterMap_cons_none none]
        exact ih.mp rest
      | object overlays rest =>
        rw [overlays_iff.mp overlays, ih.mp rest]
        rfl
    · rintro rfl
      cases entry with
      | object fields => exact .object (overlays_iff.mpr rfl) (ih.mpr rfl)
      | _ => exact .skipped nofun (ih.mpr rfl)

theorem Nests.exists_object (nests : Nests parent entries rows) (member : row ∈ rows) :
    ∃ fields, .object fields ∈ entries ∧ Overlays parent (.ofList fields) row := by
  induction nests with
  | nil => cases member
  | skipped other rest ih =>
    obtain ⟨fields, listed, overlays⟩ := ih member
    exact ⟨fields, List.mem_cons_of_mem _ listed, overlays⟩
  | object own rest ih =>
    rcases List.mem_cons.mp member with rfl | later
    · exact ⟨_, List.mem_cons_self, own⟩
    · obtain ⟨fields, listed, overlays⟩ := ih later
      exact ⟨fields, List.mem_cons_of_mem _ listed, overlays⟩

end Nested

section Item

variable {item : Json} {rows : List Attributes} {row : Attributes}

theorem gives_iff : Gives item rows ↔ rows = itemRecords item := by
  unfold itemRecords
  cases held : (item.get? "parameters").bind Json.object? with
  | none =>
    have bare (parameters : Attributes) : ¬ HasParameters item parameters := by
      simp [hasParameters_iff, held]
    constructor
    · intro gives
      cases gives with
      | nothing => rfl
      | whole has | nested has => exact absurd has (bare _)
    · rintro rfl
      exact .nothing bare
  | some parameters =>
    have has := hasParameters_iff.mpr held
    have only {other : Attributes} (too : HasParameters item other) : other = parameters :=
      Option.some.inj ((hasParameters_iff.mp too).symm.trans held)
    dsimp only [objectsName]
    cases list : (parameters.get? "objects").bind Json.array? with
    | none =>
      have flat := Json.bind_array?_eq_none_iff.mp list
      constructor
      · intro gives
        cases gives with
        | nothing bare => exact absurd has (bare _)
        | whole too => rw [only too]
        | nested too listed =>
          rw [only too] at listed
          exact absurd listed (flat _)
      · rintro rfl
        exact .whole has flat
    | some entries =>
      have listed := Json.bind_array?_eq_some_iff.mp list
      constructor
      · intro gives
        cases gives with
        | nothing bare => exact absurd has (bare _)
        | whole too flat =>
          rw [only too] at flat
          exact absurd listed (flat _)
        | nested too other nests =>
          rw [only too] at other nests
          rw [listed] at other
          cases other
          exact nests_iff.mp nests
      · rintro rfl
        exact .nested has listed (nests_iff.mpr rfl)

theorem length_itemRecords (item : Json) : (itemRecords item).length = recordCount item := by
  have gives : Gives item (itemRecords item) := gives_iff.mpr rfl
  generalize itemRecords item = rows at gives
  unfold recordCount
  cases gives with
  | nothing bare =>
    split
    · rename_i fields held
      exact absurd ⟨fields, held, rfl⟩ (bare _)
    · rfl
  | whole has flat =>
    obtain ⟨fields, held, rfl⟩ := has
    simp [held]
  | nested has listed nests =>
    obtain ⟨fields, held, rfl⟩ := has
    simp only [held, listed]
    rw [nests_iff.mp nests, List.length_map, List.length_filterMap_eq_countP]

theorem keepsObjects_of_mem (member : row ∈ itemRecords item)
    (present : (row.get? "objects").isSome) : KeepsObjects item row := by
  have gives : Gives item (itemRecords item) := gives_iff.mpr rfl
  generalize itemRecords item = rows at gives member
  cases gives with
  | nothing bare => cases member
  | whole has flat =>
    cases List.mem_singleton.mp member
    exact .plain has flat
  | nested has listed nests =>
    obtain ⟨fields, listedToo, overlays⟩ := nests.exists_object member
    refine .own has listed listedToo overlays ?_
    by_contra none
    have absent := overlays.apart (by simpa using none)
    simp [absent] at present

end Item

theorem flattens_itemRecords (listed : List Json) :
    Flattens listed (listed.flatMap itemRecords) where
  inOrder := by
    have all {given : List (List Attributes)} :
        List.Forall₂ Gives listed given ↔ given = listed.map itemRecords :=
      forall₂_iff_eq_map @gives_iff
    exact ⟨_, all.mpr rfl, List.flatMap_def .., fun _ => all.mp⟩
  length := by simp [List.length_flatMap, length_itemRecords]
  objects row member present := by
    obtain ⟨item, among, own⟩ := List.mem_flatMap.mp member
    exact ⟨item, among, keepsObjects_of_mem own present⟩

/-- The records of an answer are what its items give, one after another, as many as these are, and
an attribute for nested objects is left only where it is an object's own or no list. The items of
two answers put together give their records put together. -/
theorem records_flatten (payload : Json) :
    (∃ listed, Lists payload listed ∧ (∀ other, Lists payload other → other = listed) ∧
      Flattens listed (records payload)) ∧
    ∀ further whole listed others, Lists payload listed → Lists further others →
      Lists whole (listed ++ others) → records whole = records payload ++ records further := by
  constructor
  · exact ⟨items payload, lists_iff.mpr rfl, fun _ => lists_iff.mp, flattens_itemRecords _⟩
  · intro further whole listed others own more both
    rw [records, ← lists_iff.mp both, List.flatMap_append, lists_iff.mp own, lists_iff.mp more]
    rfl

/-- What has no parameters gives nothing, and neither does a nested object that is none. -/
example :
    let item (parameters : Json) : Json := .object [("parameters", parameters)]
    records (.object [("commandResponse", .array [
        .string "no item", item (.string "no parameters"),
        item (.object [("QUEUE", .string "Q1"), ("objects", .string "no list")]),
        item (.object [("CONN", .string "C1"), ("objects", .array [
          .ofInt 1, .object [("OBJNAME", .string "Q2")],
          .object [("CONN", .string "C2"), ("OBJNAME", .string "Q3")]])])])]) =
      [.ofAscending [("QUEUE", .string "Q1"), ("objects", .string "no list")],
        .ofAscending [("CONN", .string "C1"), ("OBJNAME", .string "Q2")],
        .ofAscending [("CONN", .string "C2"), ("OBJNAME", .string "Q3")]] := by
  decide +kernel

end Answer

end MqAdmin
