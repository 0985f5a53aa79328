import MqAdmin.KeyMap

namespace MqAdmin.KeyMap

variable {α β : Type}

theorem keys_ascending (map : KeyMap α) : map.keys.Pairwise (· < ·) :=
  List.pairwise_map.mpr map.ascending

theorem entries_nodup (map : KeyMap α) : map.entries.Nodup := by
  refine map.ascending.imp fun {one two} less => ?_
  rintro rfl
  exact String.lt_irrefl _ less

@[simp] theorem get?_emptyCollection (name : String) : (∅ : KeyMap α).get? name = none := rfl

@[simp] theorem insert_insert (map : KeyMap α) (name : String) (first second : α) :
    (map.insert name first).insert name second = map.insert name second := by
  refine ext_get? fun other => ?_
  by_cases same : other = name <;> simp [same]

theorem isEmpty_iff {map : KeyMap α} : map.isEmpty = true ↔ map = ∅ := by
  constructor
  · intro none
    obtain ⟨entries, ascending⟩ := map
    have empty : entries = [] := List.isEmpty_iff.mp none
    subst empty
    rfl
  · rintro rfl
    rfl

private theorem lookup_eq_some_iff {list : List (String × α)} {name : String} {value : α}
    (ascending : list.Pairwise fun a b => a.1 < b.1) :
    list.lookup name = some value ↔ (name, value) ∈ list := by
  induction list with
  | nil => simp
  | cons entry rest ih =>
    obtain ⟨other, kept⟩ := entry
    obtain ⟨head, tail⟩ := List.pairwise_cons.mp ascending
    by_cases same : name = other
    · subst same
      have gone : (name, value) ∉ rest := fun member => String.lt_irrefl name (head _ member)
      simp [gone, eq_comm]
    · simp [List.lookup_cons, beq_eq_false_iff_ne.mpr same, same, ih tail]

/-- The entries of a map are what lookups find. -/
theorem get?_eq_some_iff {map : KeyMap α} {name : String} {value : α} :
    map.get? name = some value ↔ (name, value) ∈ map.entries :=
  lookup_eq_some_iff map.ascending

theorem eq_empty_iff {map : KeyMap α} : map = ∅ ↔ ∀ name, map.get? name = none := by
  constructor
  · rintro rfl name
    rfl
  · intro none
    exact ext_get? fun name => by simp [none name]

private theorem lookup_filter {list : List (String × α)} {keep : String → α → Bool} {name : String}
    (ascending : list.Pairwise fun a b => a.1 < b.1) :
    (list.filter fun entry => keep entry.1 entry.2).lookup name =
      (list.lookup name).filter (keep name) := by
  apply Option.ext
  intro value
  rw [lookup_eq_some_iff (ascending.filter _), List.mem_filter, Option.filter_eq_some_iff,
    lookup_eq_some_iff ascending]

@[simp] theorem get?_filter (keep : String → α → Bool) (map : KeyMap α) (name : String) :
    (map.filter keep).get? name = (map.get? name).filter (keep name) :=
  lookup_filter map.ascending

@[simp] theorem get?_ofList_nil (name : String) :
    (ofList ([] : List (String × α))).get? name = none := rfl

theorem mem_of_get?_ofList {list : List (String × α)} {name : String} {value : α}
    (found : (ofList list).get? name = some value) : (name, value) ∈ list := by
  induction list with
  | nil => simp [ofList] at found
  | cons entry rest ih =>
    obtain ⟨other, kept⟩ := entry
    rw [get?_ofList_cons, Option.or_eq_some_iff] at found
    rcases found with later | ⟨_, own⟩
    · exact List.mem_cons_of_mem _ (ih later)
    · split at own
      · rename_i same
        cases own
        simp [same]
      · cases own

/-- A map made from a list finds a value on which all entries of the name agree. -/
theorem get?_ofList_eq_some {list : List (String × α)} {name : String} {value : α}
    (member : (name, value) ∈ list) (agree : ∀ other, (name, other) ∈ list → other = value) :
    (ofList list).get? name = some value := by
  induction list with
  | nil => simp at member
  | cons entry rest ih =>
    obtain ⟨other, kept⟩ := entry
    rw [get?_ofList_cons, Option.or_eq_some_iff]
    by_cases later : (name, value) ∈ rest
    · exact .inl (ih later fun different found => agree different (List.mem_cons_of_mem _ found))
    · right
      have head : (name, value) = (other, kept) :=
        (List.mem_cons.mp member).resolve_right later
      cases head
      refine ⟨?_, by simp⟩
      apply Option.eq_none_iff_forall_ne_some.mpr
      intro different found
      have listed := mem_of_get?_ofList found
      exact later (agree different (List.mem_cons_of_mem _ listed) ▸ listed)

@[simp] theorem ofList_entries (map : KeyMap α) : ofList map.entries = map := by
  refine ext_get? fun name => Option.ext fun value => ?_
  constructor
  · intro found
    exact get?_eq_some_iff.mpr (mem_of_get?_ofList found)
  · intro found
    apply get?_ofList_eq_some (get?_eq_some_iff.mp found)
    intro other member
    have same := get?_eq_some_iff.mpr member
    exact Option.some.inj (same.symm.trans found)

theorem not_contains_iff {map : KeyMap α} {name : String} :
    ¬ map.contains name = true ↔ map.get? name = none := by
  rw [contains, Bool.not_eq_true, Option.isSome_eq_false_iff, Option.isNone_iff_eq_none]

theorem mem_keys_iff {map : KeyMap α} {name : String} :
    name ∈ map.keys ↔ ∃ value, map.get? name = some value := by
  simp [keys, get?_eq_some_iff]

section OfList

variable {list : List (String × α)} {name : String}

theorem get?_ofList_eq_none_iff :
    (ofList list).get? name = none ↔ ∀ entry ∈ list, entry.1 ≠ name := by
  induction list with
  | nil => simp
  | cons entry rest ih =>
    rw [get?_ofList_cons, Option.or_eq_none_iff, ih, List.forall_mem_cons, and_comm]
    simp [eq_comm]

private theorem length_place_of_absent (value : α) (absent : list.lookup name = none) :
    (place name value list).length = list.length + 1 := by
  induction list with
  | nil => rfl
  | cons entry rest ih =>
    obtain ⟨different, gone⟩ := List.forall_mem_cons.mp (List.lookup_eq_none_iff.mp absent)
    rw [place]
    split
    · rfl
    · split
      · rename_i same
        exact absurd same (bne_iff_ne.mp different)
      · simp [ih (List.lookup_eq_none_iff.mpr gone)]

theorem size_ofList_cons (entry : String × α) (rest : List (String × α)) :
    (ofList (entry :: rest)).size =
      if (ofList rest).contains entry.1 then (ofList rest).size else (ofList rest).size + 1 := by
  rw [ofList]
  split
  · rfl
  · rename_i absent
    exact length_place_of_absent entry.2 (not_contains_iff.mp absent)

theorem size_ofList_le : (ofList list).size ≤ list.length := by
  induction list with
  | nil => exact Nat.le_refl 0
  | cons entry rest ih =>
    rw [size_ofList_cons, List.length_cons]
    split <;> omega

/-- A map made from a list keeps all entries exactly if no two of them have one name. -/
theorem size_ofList_eq_length_iff :
    (ofList list).size = list.length ↔ list.Pairwise fun a b => a.1 ≠ b.1 := by
  induction list with
  | nil => simp [ofList, size, empty]
  | cons entry rest ih =>
    rw [size_ofList_cons, List.length_cons, List.pairwise_cons, ← ih]
    have below : (ofList rest).size ≤ rest.length := size_ofList_le
    split
    · rename_i present
      have repeated : ¬ ∀ other ∈ rest, entry.1 ≠ other.1 := by
        intro fresh
        have absent := get?_ofList_eq_none_iff.mpr fun other member => (fresh other member).symm
        simp [contains, absent] at present
      simp only [repeated, false_and, iff_false]
      omega
    · rename_i absent
      have fresh : ∀ other ∈ rest, entry.1 ≠ other.1 := fun other member =>
        (get?_ofList_eq_none_iff.mp (not_contains_iff.mp absent) other member).symm
      rw [Nat.add_right_cancel_iff, and_iff_right fresh]

theorem get?_ofList_of_distinct {value : α} (distinct : list.Pairwise fun a b => a.1 ≠ b.1) :
    (ofList list).get? name = some value ↔ (name, value) ∈ list := by
  induction list with
  | nil => simp
  | cons entry rest ih =>
    obtain ⟨fresh, later⟩ := List.pairwise_cons.mp distinct
    rw [get?_ofList_cons, Option.or_eq_some_iff, ih later, List.mem_cons]
    constructor
    · rintro (member | ⟨_, own⟩)
      · exact .inr member
      · split at own
        · rename_i same
          exact .inl (Prod.ext same (Option.some.inj own).symm)
        · cases own
    · rintro (rfl | member)
      · exact .inr ⟨get?_ofList_eq_none_iff.mpr fun other listed => (fresh other listed).symm,
          by simp⟩
      · exact .inl member

/-- With distinct names the order of a list does not matter. -/
theorem ofList_eq_of_perm {other : List (String × α)} (perm : list.Perm other)
    (distinct : list.Pairwise fun a b => a.1 ≠ b.1) : ofList list = ofList other := by
  have too : other.Pairwise fun a b => a.1 ≠ b.1 := (perm.pairwise_iff Ne.symm).mp distinct
  refine ext_get? fun name => Option.ext fun value => ?_
  rw [get?_ofList_of_distinct distinct, get?_ofList_of_distinct too, perm.mem_iff]

private theorem get?_ofList_map {change : String × α → String × β} {value : β}
    (ascending : list.Pairwise fun a b => a.1 < b.1) :
    (ofList (list.map change)).get? name = some value ↔
      ∃ entry ∈ list, change entry = (name, value) ∧
        ∀ other ∈ list, (change other).1 = name → other.1 ≤ entry.1 := by
  induction list with
  | nil => simp
  | cons first rest ih =>
    obtain ⟨head, tail⟩ := List.pairwise_cons.mp ascending
    rw [List.map_cons, get?_ofList_cons, Option.or_eq_some_iff, ih tail]
    constructor
    · rintro (⟨entry, member, same, greatest⟩ | ⟨gone, own⟩)
      · refine ⟨entry, List.mem_cons_of_mem _ member, same, ?_⟩
        exact List.forall_mem_cons.mpr ⟨fun _ => Std.le_of_lt (head entry member), greatest⟩
      · split at own
        · rename_i same
          refine ⟨first, List.mem_cons_self, Prod.ext same.symm (Option.some.inj own), ?_⟩
          refine List.forall_mem_cons.mpr ⟨fun _ => String.le_refl _, fun other member too => ?_⟩
          have absent := get?_ofList_eq_none_iff.mp gone
          exact absurd too (absent _ (List.mem_map_of_mem member))
        · cases own
    · rintro ⟨entry, member, same, greatest⟩
      obtain ⟨_, others⟩ := List.forall_mem_cons.mp greatest
      rcases List.mem_cons.mp member with rfl | later
      · right
        refine ⟨get?_ofList_eq_none_iff.mpr fun image listed named => ?_, by simp [same]⟩
        obtain ⟨other, source, rfl⟩ := List.mem_map.mp listed
        exact absurd (head other source) (String.not_lt.mpr (others other source named))
      · exact .inl ⟨entry, later, same, others⟩

/-- Entries that are changed one by one: of those that come to one name the last counts. -/
theorem get?_ofList_map_entries {map : KeyMap α} {change : String × α → String × β} {value : β} :
    (ofList (map.entries.map change)).get? name = some value ↔
      ∃ entry ∈ map.entries, change entry = (name, value) ∧
        ∀ other ∈ map.entries, (change other).1 = name → other.1 ≤ entry.1 :=
  get?_ofList_map map.ascending

end OfList

end MqAdmin.KeyMap
