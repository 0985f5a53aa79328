import Mathlib.Data.Option.Basic
import MqAdmin.Document.Record
import MqAdmin.Proofs.KeyMap

namespace MqAdmin

namespace Json

theorem documentItems_eq_map (items : List Json) : documentItems items = items.map document := by
  induction items with
  | nil => rfl
  | cons item rest ih => rw [documentItems, ih, List.map_cons]

theorem documentFields_eq_map (fields : List (String × Json)) :
    documentFields fields = fields.map fun field => (some field.1, field.2.document) := by
  induction fields with
  | nil => rfl
  | cons field rest ih => rw [documentFields, ih, List.map_cons]

end Json

namespace Document

section Containers

variable {α : Type} {decode : Document → Option α} {encode : α → Json}

theorem list?_ofStrings (texts : List String) :
    list? string? (Json.ofStrings texts).document = some texts := by
  rw [Json.ofStrings, Json.document, Json.documentItems_eq_map, list?]
  induction texts with
  | nil => rfl
  | cons text rest ih => simp_all [List.mapM_cons, Json.document, string?]

private theorem pairs?_document (back : ∀ value, decode (encode value).document = some value)
    (entries : List (String × α)) :
    pairs? decode (Json.object (entries.map fun entry => (entry.1, encode entry.2))).document =
      some entries := by
  rw [Json.document, Json.documentFields_eq_map, pairs?]
  induction entries with
  | nil => rfl
  | cons entry rest ih => simp_all [List.mapM_cons]

theorem map?_mapValues (back : ∀ value, decode (encode value).document = some value)
    (map : KeyMap α) :
    map? decode (Json.ofAttributes (map.mapValues encode)).document = some map := by
  rw [map?, Json.ofAttributes, KeyMap.mapValues, pairs?_document back, Option.map_some,
    KeyMap.ofList_entries]

end Containers

theorem naturalBelow?_ofNat {bound value : Nat} (below : value < bound) :
    naturalBelow? bound (Json.ofNat value).document = some value := by
  simp [naturalBelow?, Json.ofNat, Json.ofInt, Json.document, below]

theorem optional?_ofNat {α : Type} (decode : Document → Option α) (value : Nat) :
    optional? decode (Json.ofNat value).document =
      (decode (Json.ofNat value).document).map some := rfl

theorem lt_of_naturalBelow? {bound value : Nat} {document : Document}
    (read : document.naturalBelow? bound = some value) : value < bound := by
  rw [naturalBelow?.eq_def] at read
  split at read
  · split at read
    · rename_i number inside
      cases read
      simp only [Bool.and_eq_true, decide_eq_true_eq] at inside
      omega
    · cases read
  · cases read

end Document

namespace Record

variable {known : List String} {fields : List (String × Json)}

theorem knownFields_documentFields (names : ∀ field ∈ fields, field.1 ∈ known)
    (distinct : (fields.map (·.1)).Nodup) : knownFields known (Json.documentFields fields) =
      some (fields.map fun field => (field.1, field.2.document)) := by
  induction fields with
  | nil => rfl
  | cons field rest ih =>
    obtain ⟨first, others⟩ := List.forall_mem_cons.mp names
    obtain ⟨fresh, apart⟩ := List.nodup_cons.mp distinct
    have unrepeated : (rest.map fun field => (field.1, field.2.document)).any (·.1 == field.1) =
        false := by
      simp only [List.any_eq_false, List.forall_mem_map, beq_iff_eq]
      exact fun other member same => fresh (List.mem_map.mpr ⟨other, member, same⟩)
    have contained : known.contains field.1 = true := List.contains_iff_mem.mpr first
    simp only [Json.documentFields, knownFields, ih others apart, Option.bind_eq_bind,
      Option.bind_some, contained, ↓reduceIte, unrepeated, List.map_cons]
    rfl

section Fields

variable {α : Type} {named : Bool} {name other : String} {value : Document}
  {rest : List (String × Document)} {decode : Document → Option α} {missing : Option α}

@[simp] theorem read_first :
    (⟨named, (name, value) :: rest⟩ : Record).read name decode missing = decode value := by
  rw [read, List.lookup_cons_self]

@[simp] theorem read_later (different : name ≠ other) :
    (⟨named, (other, value) :: rest⟩ : Record).read name decode missing =
      (⟨named, rest⟩ : Record).read name decode missing := by
  rw [read, read, List.lookup_cons, beq_eq_false_iff_ne.mpr different]

/-- A field that may be left out holds what its document says or what stands for a missing one. -/
theorem withDefault_cases {record : Record} {usual found : α}
    (read : record.withDefault name decode usual = some found) :
    found = usual ∨ ∃ field ∈ record.fields, decode field.2 = some found := by
  rw [withDefault, Record.read] at read
  split at read
  · rename_i value given
    obtain ⟨before, after, parts, _⟩ := List.lookup_eq_some_iff.mp given
    exact .inr ⟨(name, value), by simp [parts], read⟩
  · exact .inl (Option.some.inj read).symm

@[simp] theorem read_missing : (⟨named, []⟩ : Record).read name decode missing = missing := rfl

end Fields

/-- The record of an object whose fields are known, in the order of declaration. -/
theorem of?_document (distinct : known.Nodup) (order : (fields.map (·.1)).Sublist known) :
    of? known (Json.object fields).document =
      some ⟨true, fields.map fun field => (field.1, field.2.document)⟩ := by
  have names : ∀ field ∈ fields, field.1 ∈ known := fun field member =>
    order.subset (List.mem_map_of_mem member)
  rw [Json.document, of?, knownFields_documentFields names (distinct.sublist order),
    Option.map_some]

end Record

end MqAdmin
