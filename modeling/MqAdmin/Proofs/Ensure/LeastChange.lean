import MqAdmin.Ensure.Converge
import MqAdmin.Proofs.KeyMap
import MqAdmin.Proofs.Session.Course

namespace MqAdmin.Ensure

/-- Whether a desired attribute is missing, or has a value that is not the desired one. -/
inductive Differs (current : Attributes) (name : String) (desired : Json) : Prop where
  | missing (absent : current.get? name = none)
  | other {value : Json} (present : current.get? name = some value)
      (unlike : norm desired ≠ norm value)

/-- The least change that brings current attributes to desired ones. -/
structure LeastChange (desired current change : Attributes) : Prop where
  exact : ∀ name value, change.get? name = some value ↔
    desired.get? name = some value ∧ Differs current name value
  names : ∀ name, name ∈ change.keys ↔
    ∃ value, desired.get? name = some value ∧ Differs current name value
  ascending : change.keys.Pairwise (· < ·)
  converges : changed desired (current.union change) = ∅
  least : ∀ overlay, changed desired (current.union overlay) = ∅ →
    ∀ name value, change.get? name = some value →
      ∃ laid, overlay.get? name = some laid ∧ norm value = norm laid

theorem agrees_iff_norm {desired current : Json} :
    agrees desired current = true ↔ norm desired = norm current := beq_iff_eq

theorem agrees_equivalence : Equivalence fun one other => agrees one other = true where
  refl _ := agrees_iff_norm.mpr rfl
  symm same := agrees_iff_norm.mpr (agrees_iff_norm.mp same).symm
  trans first second := agrees_iff_norm.mpr
    ((agrees_iff_norm.mp first).trans (agrees_iff_norm.mp second))

section Change

variable {desired current overlay : Attributes} {name : String} {value : Json}

theorem isMet_iff : isMet current name value = true ↔
    ∃ kept, current.get? name = some kept ∧ norm value = norm kept := by
  unfold isMet
  cases current.get? name with
  | none => simp
  | some kept => simp [agrees_iff_norm]

theorem differs_iff : Differs current name value ↔ ¬ isMet current name value = true := by
  rw [isMet_iff]
  constructor
  · rintro differs ⟨kept, found, same⟩
    cases differs with
    | missing absent =>
      rw [absent] at found
      cases found
    | other present unlike =>
      rw [present] at found
      cases found
      exact unlike same
  · intro unmet
    cases found : current.get? name with
    | none => exact .missing found
    | some kept => exact .other found fun same => unmet ⟨kept, found, same⟩

theorem get?_changed_iff : (changed desired current).get? name = some value ↔
    desired.get? name = some value ∧ Differs current name value := by
  rw [changed, KeyMap.get?_filter, Option.filter_eq_some_iff, differs_iff, Bool.not_eq_true',
    Bool.not_eq_true]

theorem isMet_of_unchanged (wanted : desired.get? name = some value)
    (unchanged : (changed desired current).get? name = none) : isMet current name value = true := by
  simpa [changed, wanted] using unchanged

theorem changed_eq_empty_iff : changed desired current = ∅ ↔
    ∀ name value, desired.get? name = some value → isMet current name value = true := by
  rw [KeyMap.eq_empty_iff]
  constructor
  · intro unchanged name value wanted
    exact isMet_of_unchanged wanted (unchanged name)
  · intro met name
    apply Option.eq_none_iff_forall_ne_some.mpr
    intro value listed
    obtain ⟨wanted, differs⟩ := get?_changed_iff.mp listed
    exact differs_iff.mp differs (met name value wanted)

theorem changed_union_changed (desired current : Attributes) :
    changed desired (current.union (changed desired current)) = ∅ := by
  refine changed_eq_empty_iff.mpr fun name value wanted => isMet_iff.mpr ?_
  rw [KeyMap.get?_union]
  cases listed : (changed desired current).get? name with
  | some laid =>
    have own := (get?_changed_iff.mp listed).1
    rw [wanted] at own
    cases own
    exact ⟨value, rfl, rfl⟩
  | none => simpa using isMet_iff.mp (isMet_of_unchanged wanted listed)

/-- Whatever leaves nothing to be changed has every changed attribute. -/
theorem exists_laid (settled : changed desired (current.union overlay) = ∅)
    (listed : (changed desired current).get? name = some value) :
    ∃ laid, overlay.get? name = some laid ∧ norm value = norm laid := by
  obtain ⟨wanted, differs⟩ := get?_changed_iff.mp listed
  obtain ⟨kept, found, same⟩ := isMet_iff.mp (changed_eq_empty_iff.mp settled name value wanted)
  rw [KeyMap.get?_union, Option.or_eq_some_iff] at found
  rcases found with laid | ⟨_, old⟩
  · exact ⟨kept, laid, same⟩
  · exact absurd (isMet_iff.mpr ⟨kept, old, same⟩) (differs_iff.mp differs)

end Change

section Report

variable {σ : Type} {world : World σ} {session after : Session} {state : σ} {outcome : Outcome}

/-- An operation that ends with a fixed value succeeds with nothing else. -/
theorem eq_of_bind_pure {α β : Type} {first : Operation α} {fixed value : β}
    (ended : ((first >>= fun _ => pure fixed).course world session state).ending =
      .ok (.ok value, after)) : value = fixed := by
  rw [Operation.course_bind] at ended
  generalize first.course world session state = course at ended
  obtain ⟨events, ending, later⟩ := course
  rcases ending with cause | ⟨error | found, between⟩
  · cases ended
  · cases ended
  · cases ended
    rfl

theorem changed_of_alter {command : Command} {desired current : Attributes}
    (ended : ((alter command desired current).course world session state).ending =
      .ok (.ok outcome, after)) : outcome.changed = (changed desired current).keys := by
  rw [alter_eq] at ended
  by_cases met : changed desired current = ∅
  · rw [if_pos (KeyMap.isEmpty_iff.mpr met)] at ended
    cases ended
    rw [met]
    rfl
  · rw [if_neg (mt KeyMap.isEmpty_iff.mp met)] at ended
    rw [eq_of_bind_pure ended]

end Report

/-- Values are compared by an equivalence, and the attributes that are found to differ are the least
change, found with their names in ascending order. An alteration that succeeds reports these. -/
theorem changed_leastChange (desired current : Attributes) :
    (Equivalence fun one other => agrees one other = true) ∧
    (∀ one other, agrees one other = true ↔ norm one = norm other) ∧
    difference desired current = ⟨(changed desired current).keys, changed desired current⟩ ∧
    LeastChange desired current (changed desired current) ∧
    ∀ {σ : Type} (world : World σ) (session after : Session) (state : σ) (command : Command)
      (outcome : Outcome), ((alter command desired current).course world session state).ending =
        .ok (.ok outcome, after) → outcome.changed = (changed desired current).keys := by
  refine ⟨agrees_equivalence, fun _ _ => agrees_iff_norm, difference_eq desired current, ?_,
    fun _ _ _ _ _ _ => changed_of_alter⟩
  constructor
  · exact fun _ _ => get?_changed_iff
  · intro name
    simp only [KeyMap.mem_keys_iff, get?_changed_iff]
  · exact KeyMap.keys_ascending _
  · exact changed_union_changed desired current
  · exact fun overlay settled name value listed => exists_laid settled listed

end MqAdmin.Ensure
