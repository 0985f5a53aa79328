/-!
Finite maps from names to values, kept as a strictly ascending list of entries. The order is the
order of the names' code points, which is also the byte order of their encoded form, so whatever
walks a map walks it in that order. Two maps with the same lookups are equal.
-/

namespace MqAdmin

structure KeyMap (α : Type) where
  entries : List (String × α)
  ascending : entries.Pairwise fun a b => a.1 < b.1
deriving DecidableEq

namespace KeyMap

variable {α β : Type}

/-- Puts an entry at its place in an ascending list; a present name takes the new value. -/
def place (name : String) (value : α) : List (String × α) → List (String × α)
  | [] => [(name, value)]
  | (other, kept) :: rest =>
    if name < other then (name, value) :: (other, kept) :: rest
    else if name = other then (name, value) :: rest
    else (other, kept) :: place name value rest

theorem mem_place {name : String} {value : α} {entry : String × α} :
    {list : List (String × α)} → entry ∈ place name value list →
      entry = (name, value) ∨ entry ∈ list
  | [], member => by simpa [place] using member
  | (other, kept) :: rest, member => by
    rw [place] at member
    split at member
    · simpa using member
    · split at member
      · rcases List.mem_cons.mp member with same | later
        · exact .inl same
        · exact .inr (List.mem_cons_of_mem _ later)
      · rcases List.mem_cons.mp member with same | later
        · exact .inr (same ▸ List.mem_cons_self)
        · exact (mem_place later).imp id (List.mem_cons_of_mem _)

theorem ascending_place (name : String) (value : α) :
    {list : List (String × α)} → (list.Pairwise fun a b => a.1 < b.1) →
      (place name value list).Pairwise fun a b => a.1 < b.1
  | [], _ => by simp [place]
  | (other, kept) :: rest, valid => by
    obtain ⟨head, tail⟩ := List.pairwise_cons.mp valid
    rw [place]
    split
    · rename_i before
      refine List.pairwise_cons.mpr ⟨fun entry member => ?_, valid⟩
      rcases List.mem_cons.mp member with same | later
      · exact same ▸ before
      · exact String.lt_trans before (head entry later)
    · rename_i notBefore
      split
      · rename_i same
        exact List.pairwise_cons.mpr ⟨fun entry member => same ▸ head entry member, tail⟩
      · rename_i different
        refine List.pairwise_cons.mpr ⟨fun entry member => ?_, ascending_place name value tail⟩
        rcases mem_place member with same | later
        · have after := Std.lt_of_le_of_ne (String.not_lt.mp notBefore) (Ne.symm different)
          exact same ▸ after
        · exact head entry later

def empty : KeyMap α := ⟨[], List.Pairwise.nil⟩

instance : EmptyCollection (KeyMap α) := ⟨empty⟩
instance : Inhabited (KeyMap α) := ⟨empty⟩

def insert (map : KeyMap α) (name : String) (value : α) : KeyMap α :=
  ⟨place name value map.entries, ascending_place name value map.ascending⟩

def get? (map : KeyMap α) (name : String) : Option α := map.entries.lookup name

def contains (map : KeyMap α) (name : String) : Bool := (map.get? name).isSome

def keys (map : KeyMap α) : List String := map.entries.map (·.1)

def size (map : KeyMap α) : Nat := map.entries.length

def isEmpty (map : KeyMap α) : Bool := map.entries.isEmpty

/-- The entries of a list as a map; of entries with one name the last counts. -/
def ofList : List (String × α) → KeyMap α
  | [] => empty
  | (name, value) :: rest =>
    let map := ofList rest
    if map.contains name then map else map.insert name value

def ascends : List (String × α) → Bool
  | [] => true
  | [_] => true
  | first :: second :: rest => first.1 < second.1 && ascends (second :: rest)

theorem pairwise_of_ascends : {list : List (String × α)} → ascends list = true →
    list.Pairwise fun a b => a.1 < b.1
  | [], _ => List.Pairwise.nil
  | [_], _ => by simp
  | first :: second :: rest, inOrder => by
    rw [ascends, Bool.and_eq_true, decide_eq_true_iff] at inOrder
    have tail := pairwise_of_ascends inOrder.2
    refine List.pairwise_cons.mpr ⟨fun entry member => ?_, tail⟩
    rcases List.mem_cons.mp member with same | later
    · exact same ▸ inOrder.1
    · exact String.lt_trans inOrder.1 ((List.pairwise_cons.mp tail).1 entry later)

def ofAscending (entries : List (String × α))
    (inOrder : ascends entries = true := by decide +kernel) : KeyMap α :=
  ⟨entries, pairwise_of_ascends inOrder⟩

/-- Both maps together; a name in both takes the value of the second. -/
def union (first second : KeyMap α) : KeyMap α :=
  second.entries.foldl (fun map entry => map.insert entry.1 entry.2) first

def mapValues (change : α → β) (map : KeyMap α) : KeyMap β :=
  ⟨map.entries.map fun entry => (entry.1, change entry.2), by
    exact List.pairwise_map.mpr map.ascending⟩

def filter (keep : String → α → Bool) (map : KeyMap α) : KeyMap α :=
  ⟨map.entries.filter fun entry => keep entry.1 entry.2, map.ascending.filter _⟩

@[simp] theorem get?_empty (name : String) : (empty : KeyMap α).get? name = none := rfl

theorem lookup_place (name other : String) (value : α) : (list : List (String × α)) →
    (place name value list).lookup other =
      if other = name then some value else list.lookup other
  | [] => by
    by_cases same : other = name
    · simp [place, same]
    · simp [place, same, List.lookup_cons, beq_eq_false_iff_ne.mpr same]
  | (head, kept) :: rest => by
    rw [place]
    split
    · by_cases same : other = name
      · simp [same]
      · simp [same, List.lookup_cons, beq_eq_false_iff_ne.mpr same]
    · split
      · rename_i equal
        subst equal
        by_cases same : other = name
        · simp [same]
        · simp [same, List.lookup_cons, beq_eq_false_iff_ne.mpr same]
      · rename_i different
        rw [List.lookup_cons, List.lookup_cons, lookup_place name other value rest]
        by_cases same : other = name
        · subst same
          simp [beq_eq_false_iff_ne.mpr different]
        · simp [same]

@[simp] theorem get?_insert (map : KeyMap α) (name other : String) (value : α) :
    (map.insert name value).get? other = if other = name then some value else map.get? other :=
  lookup_place name other value map.entries

/-- Lookup in a map made from a list: the last entry with the name. -/
theorem get?_ofList_cons (name other : String) (value : α) (rest : List (String × α)) :
    (ofList ((name, value) :: rest)).get? other =
      ((ofList rest).get? other).or (if other = name then some value else none) := by
  rw [ofList]
  split
  · rename_i present
    by_cases same : other = name
    · subst same
      obtain ⟨found, isFound⟩ := Option.isSome_iff_exists.mp present
      simp [isFound]
    · simp [same]
  · rename_i absent
    rw [get?_insert]
    by_cases same : other = name
    · subst same
      have none : (ofList rest).get? other = none := by
        simpa [contains] using absent
      simp [none]
    · simp [same]

private theorem lookup_eq_none_of_below {list : List (String × α)} {name : String}
    (below : ∀ entry ∈ list, name < entry.1) : list.lookup name = none := by
  refine List.lookup_eq_none_iff.mpr fun entry member => ?_
  have less := below entry member
  exact bne_iff_ne.mpr fun same => String.lt_irrefl name (same ▸ less)

private theorem entries_eq_of_lookup : {first second : List (String × α)} →
    (first.Pairwise fun a b => a.1 < b.1) → (second.Pairwise fun a b => a.1 < b.1) →
    (∀ name, first.lookup name = second.lookup name) → first = second
  | [], [], _, _, _ => rfl
  | [], (name, _) :: _, _, _, same => by simpa using same name
  | (name, _) :: _, [], _, _, same => by simpa using same name
  | (name, value) :: first, (other, kept) :: second, one, two, same => by
    obtain ⟨headOne, tailOne⟩ := List.pairwise_cons.mp one
    obtain ⟨headTwo, tailTwo⟩ := List.pairwise_cons.mp two
    have equal : name = other := by
      rcases Std.lt_trichotomy name other with less | equal | more
      · have found := same name
        have gone : second.lookup name = none := lookup_eq_none_of_below fun entry member =>
          String.lt_trans less (headTwo entry member)
        have differs : (name == other) = false := beq_eq_false_iff_ne.mpr fun equal => by
          subst equal
          exact String.lt_irrefl _ less
        simp [List.lookup_cons, gone, differs] at found
      · exact equal
      · have found := same other
        have gone : first.lookup other = none := lookup_eq_none_of_below fun entry member =>
          String.lt_trans more (headOne entry member)
        have differs : (other == name) = false := beq_eq_false_iff_ne.mpr fun equal => by
          subst equal
          exact String.lt_irrefl _ more
        simp [List.lookup_cons, gone, differs] at found
    subst equal
    have values : value = kept := by simpa using same name
    subst values
    have rests : first = second := entries_eq_of_lookup tailOne tailTwo fun key => by
      by_cases equal : key = name
      · subst equal
        rw [lookup_eq_none_of_below headOne, lookup_eq_none_of_below headTwo]
      · have found := same key
        simpa [List.lookup_cons, beq_eq_false_iff_ne.mpr equal] using found
    rw [rests]

/-- A map is determined by its lookups. -/
theorem ext_get? {first second : KeyMap α} (same : ∀ name, first.get? name = second.get? name) :
    first = second := by
  obtain ⟨one, ascendingOne⟩ := first
  obtain ⟨two, ascendingTwo⟩ := second
  have equal : one = two := entries_eq_of_lookup ascendingOne ascendingTwo same
  subst equal
  rfl

private theorem get?_foldl_insert (name : String) : (list : List (String × α)) →
    (list.Pairwise fun a b => a.1 < b.1) → (map : KeyMap α) →
    (list.foldl (fun map entry => map.insert entry.1 entry.2) map).get? name =
      (list.lookup name).or (map.get? name)
  | [], _, _ => rfl
  | (other, value) :: rest, valid, map => by
    obtain ⟨head, tail⟩ := List.pairwise_cons.mp valid
    rw [List.foldl_cons, get?_foldl_insert name rest tail, get?_insert, List.lookup_cons]
    by_cases same : name = other
    · subst same
      simp [lookup_eq_none_of_below head]
    · simp [same, beq_eq_false_iff_ne.mpr same]

/-- Lookup in a union asks the second map first. -/
@[simp] theorem get?_union (first second : KeyMap α) (name : String) :
    (first.union second).get? name = (second.get? name).or (first.get? name) :=
  get?_foldl_insert name second.entries second.ascending first

@[simp] theorem get?_mapValues (change : α → β) (map : KeyMap α) (name : String) :
    (map.mapValues change).get? name = (map.get? name).map change := by
  simp only [get?, mapValues]
  induction map.entries with
  | nil => rfl
  | cons entry rest ih =>
    rw [List.map_cons, List.lookup_cons, List.lookup_cons, ih]
    split <;> simp_all

end KeyMap

end MqAdmin
