import MqAdmin.Mapping.Override
import MqAdmin.Proofs.KeyMap

namespace MqAdmin

namespace KeyMap

variable {α : Type}

/-- A map laid over another one; `combine` makes one value of the lower and the upper value of a
name in both. -/
def overlay (combine : α → α → α) (lower upper : KeyMap α) : KeyMap α :=
  upper.entries.foldl (fun merged entry =>
    merged.insert entry.1 (((merged.get? entry.1).map (combine · entry.2)).getD entry.2)) lower

section Overlay

variable {combine : α → α → α}

/-- By induction on the entries that are laid over the map: after the first one, its name occurs
in none of the others. -/
private theorem get?_foldl_overlay (name : String) (list : List (String × α))
    (ascending : list.Pairwise fun a b => a.1 < b.1) (lower : KeyMap α) :
    (list.foldl (fun merged entry => merged.insert entry.1
        (((merged.get? entry.1).map (combine · entry.2)).getD entry.2)) lower).get? name =
      Option.merge combine (lower.get? name) (list.lookup name) := by
  induction list generalizing lower with
  | nil => cases found : lower.get? name <;> simp [found]
  | cons entry rest ih =>
    obtain ⟨other, value⟩ := entry
    obtain ⟨head, tail⟩ := List.pairwise_cons.mp ascending
    rw [List.foldl_cons, ih tail, get?_insert, List.lookup_cons]
    by_cases same : name = other
    · subst same
      have gone : rest.lookup name = none := by
        apply Option.eq_none_iff_forall_ne_some.mpr
        intro value found
        have member := (get?_eq_some_iff : get? ⟨rest, tail⟩ name = some value ↔ _).mp found
        exact String.lt_irrefl name (head _ member)
      cases lower.get? name <;> simp [gone]
    · simp [same, beq_eq_false_iff_ne.mpr same]

@[simp] theorem get?_overlay (lower upper : KeyMap α) (name : String) :
    (overlay combine lower upper).get? name =
      Option.merge combine (lower.get? name) (upper.get? name) :=
  get?_foldl_overlay name upper.entries upper.ascending lower

theorem overlay_assoc
    (assoc : ∀ a b c, combine (combine a b) c = combine a (combine b c))
    (first second third : KeyMap α) :
    overlay combine (overlay combine first second) third =
      overlay combine first (overlay combine second third) := by
  refine ext_get? fun name => ?_
  simp only [get?_overlay]
  cases first.get? name <;> cases second.get? name <;> cases third.get? name <;> simp [assoc]

theorem overlay_again (assoc : ∀ a b c, combine (combine a b) c = combine a (combine b c))
    (idem : ∀ a, combine a a = a) (lower upper : KeyMap α) :
    overlay combine (overlay combine lower upper) upper = overlay combine lower upper := by
  refine (overlay_assoc assoc lower upper upper).trans (congrArg _ (ext_get? fun name => ?_))
  rw [get?_overlay]
  cases upper.get? name <;> simp [idem]

end Overlay

theorem union_assoc (first second third : KeyMap α) :
    (first.union second).union third = first.union (second.union third) :=
  ext_get? fun name => by simp [Option.or_assoc]

@[simp] theorem union_self (map : KeyMap α) : map.union map = map :=
  ext_get? fun name => by simp

@[simp] theorem empty_union (map : KeyMap α) : (∅ : KeyMap α).union map = map :=
  ext_get? fun name => by simp

def IsOverlay (lower upper whole : KeyMap α) : Prop :=
  ∀ name, whole.get? name = (upper.get? name).or (lower.get? name)

/-- Whether a map of maps is one laid over another, name by outer name and name by inner name. -/
def IsDeepOverlay (lower upper whole : KeyMap (KeyMap α)) : Prop :=
  ∀ name, whole.contains name = (lower.contains name || upper.contains name) ∧
    ∀ inner, (whole.get? name).bind (·.get? inner) =
      ((upper.get? name).bind (·.get? inner)).or ((lower.get? name).bind (·.get? inner))

end KeyMap

namespace Mapping

theorem mergeNested_eq {α : Type} (lower upper : KeyMap (KeyMap α)) :
    mergeNested lower upper = KeyMap.overlay KeyMap.union lower upper := by
  have step (present : Option (KeyMap α)) (value : KeyMap α) :
      (present.getD ∅).union value = (present.map (·.union value)).getD value := by
    cases present <;> simp
  simp only [mergeNested, KeyMap.overlay, step]

theorem isDeepOverlay_mergeNested {α : Type} (lower upper : KeyMap (KeyMap α)) :
    KeyMap.IsDeepOverlay lower upper (mergeNested lower upper) := by
  intro name
  rw [mergeNested_eq]
  simp only [KeyMap.contains, KeyMap.get?_overlay]
  cases lower.get? name <;> cases upper.get? name <;> simp

namespace QualifierTable

/-- Whether the tables of a kind of object are those of one laid over those of another. -/
structure IsOverlay (lower upper whole : QualifierTable) : Prop where
  requestKeys : lower.requestKeys.IsOverlay upper.requestKeys whole.requestKeys
  requestValues : lower.requestValues.IsDeepOverlay upper.requestValues whole.requestValues
  requestPairs : lower.requestPairs.IsDeepOverlay upper.requestPairs whole.requestPairs
  responseKeys : lower.responseKeys.IsOverlay upper.responseKeys whole.responseKeys
  responseValues : lower.responseValues.IsDeepOverlay upper.responseValues whole.responseValues

theorem isOverlay_merge (lower upper : QualifierTable) :
    lower.IsOverlay upper (lower.merge upper) where
  requestKeys _ := KeyMap.get?_union ..
  requestValues := isDeepOverlay_mergeNested _ _
  requestPairs := isDeepOverlay_mergeNested _ _
  responseKeys _ := KeyMap.get?_union ..
  responseValues := isDeepOverlay_mergeNested _ _

theorem merge_assoc (first second third : QualifierTable) :
    (first.merge second).merge third = first.merge (second.merge third) := by
  simp only [merge, mergeNested_eq, KeyMap.union_assoc, KeyMap.overlay_assoc KeyMap.union_assoc]

theorem merge_self (table : QualifierTable) : table.merge table = table := by
  have nested {α : Type} (map : KeyMap (KeyMap α)) : mergeNested map map = map := by
    refine KeyMap.ext_get? fun name => ?_
    rw [mergeNested_eq, KeyMap.get?_overlay]
    cases map.get? name <;> simp
  simp only [merge, nested, KeyMap.union_self]

end QualifierTable

namespace OverrideMode

def combine : OverrideMode → QualifierTable → QualifierTable → QualifierTable
  | .merge, lower, upper => lower.merge upper
  | .replace, _, upper => upper

theorem combine_assoc (mode : OverrideMode) (first second third : QualifierTable) :
    mode.combine (mode.combine first second) third =
      mode.combine first (mode.combine second third) := by
  cases mode with
  | merge => exact first.merge_assoc second third
  | replace => rfl

theorem combine_self (mode : OverrideMode) (table : QualifierTable) :
    mode.combine table table = table := by
  cases mode with
  | merge => exact table.merge_self
  | replace => rfl

end OverrideMode

namespace Table

theorem overrideQualifiers_eq (mode : OverrideMode) (lower upper : KeyMap QualifierTable) :
    overrideQualifiers mode lower upper = KeyMap.overlay mode.combine lower upper := by
  unfold overrideQualifiers KeyMap.overlay
  congr 1
  funext merged entry
  cases mode <;> cases merged.get? entry.1 <;> rfl

/-- Whether a table is one laid over another: the commands of the upper one count, kinds of objects
that only one of them has are that one's, and those of both are laid over each other or replaced. -/
structure IsOverlay (mode : OverrideMode) (lower upper whole : Table) : Prop where
  version : whole.version = lower.version
  commands : lower.commands.IsOverlay upper.commands whole.commands
  lowerOnly : ∀ kind, upper.qualifier? kind = none → whole.qualifier? kind = lower.qualifier? kind
  upperOnly : ∀ kind, lower.qualifier? kind = none → whole.qualifier? kind = upper.qualifier? kind
  both : ∀ kind below above, lower.qualifier? kind = some below →
    upper.qualifier? kind = some above → ∃ maps, whole.qualifier? kind = some maps ∧
      match mode with
      | .merge => below.IsOverlay above maps
      | .replace => maps = above

theorem qualifier?_withOverrides (mode : OverrideMode) (lower upper : Table) (kind : String) :
    (lower.withOverrides upper mode).qualifier? kind =
      Option.merge mode.combine (lower.qualifier? kind) (upper.qualifier? kind) := by
  rw [qualifier?, withOverrides, overrideQualifiers_eq, KeyMap.get?_overlay]
  rfl

theorem isOverlay_withOverrides (mode : OverrideMode) (lower upper : Table) :
    lower.IsOverlay mode upper (lower.withOverrides upper mode) := by
  have found := qualifier?_withOverrides mode lower upper
  constructor
  · rfl
  · intro name
    exact KeyMap.get?_union ..
  · intro kind absent
    rw [found, absent]
    cases lower.qualifier? kind <;> rfl
  · intro kind absent
    rw [found, absent]
    cases upper.qualifier? kind <;> rfl
  · intro kind below above present too
    refine ⟨mode.combine below above, by rw [found, present, too]; rfl, ?_⟩
    cases mode with
    | merge => exact below.isOverlay_merge above
    | replace => rfl

/-- Overlays act on tables: two layers are the same as both of them put together, a layer that lies
there already and an empty one change nothing, and a layer does to every entry what an overlay
does. -/
theorem withOverrides_acts (mode : OverrideMode) (table first second : Table) :
    (table.withOverrides first mode).withOverrides second mode =
        table.withOverrides (first.withOverrides second mode) mode ∧
      (table.withOverrides first mode).withOverrides first mode =
        table.withOverrides first mode ∧
      table.withOverrides {} mode = table ∧
      table.IsOverlay mode first (table.withOverrides first mode) := by
  refine ⟨?_, ?_, rfl, isOverlay_withOverrides mode table first⟩
  · simp only [withOverrides, overrideQualifiers_eq, KeyMap.union_assoc,
      KeyMap.overlay_assoc mode.combine_assoc]
  · simp only [withOverrides, overrideQualifiers_eq, KeyMap.union_assoc, KeyMap.union_self,
      KeyMap.overlay_again mode.combine_assoc mode.combine_self]

end Table

end Mapping

end MqAdmin
