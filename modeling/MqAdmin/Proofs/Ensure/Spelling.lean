import MqAdmin.Ensure.Target
import MqAdmin.Proofs.Ensure.Difference
import MqAdmin.Proofs.Mapping.Coherence

/-!
What comes back of the attributes that the bundled table knows. A few texts are taken for a value
although the table gives another one back for it, and what says whether an object may be replaced
does not come back at all.
-/

namespace MqAdmin.Ensure

open Mapping

instance (text other : String) : Decidable (Replaces text other) :=
  decidable_of_iff (Text.IsWord text ∧ Text.IsWord other ∧
      (Text.SameLetters text other ∨ text.length < other.length))
    ⟨fun facts => ⟨facts.1, facts.2.1, facts.2.2⟩, fun replaces =>
      ⟨replaces.word, replaces.otherWord, replaces.longer⟩⟩

/-- The texts of an attribute for which another text comes back. -/
def respelled (kind name : String) : List String :=
  if kind = "channel" ∧ name = "channel_type" then
    ["SDR", "SVR", "RCVR", "RQSTR", "CLNTCONN", "SVRCONN", "CLUSSDR", "CLUSRCVR"]
  else if kind = "listener" ∧ name = "start_mode" then ["QMGR", "STARTONLY"]
  else []

/-- The attributes that say whether a definition may replace an object. -/
def replaceFlags : List String := ["replace", "noreplace"]

section Bundled

theorem bundled_pairsApart : ∀ table ∈ Bundled.qualifiers.entries, table.2.PairsApart := by
  decide +kernel

theorem flag_of_pairs : ∀ table ∈ Bundled.qualifiers.entries,
    ∀ entry ∈ table.2.requestPairs.entries, entry.1 ∈ replaceFlags := by
  decide +kernel

theorem not_flag_of_key : ∀ table ∈ Bundled.qualifiers.entries,
    ∀ entry ∈ table.2.requestKeys.entries, entry.1 ∉ replaceFlags := by
  decide +kernel

/-- Whether every text that is sent for a kind of object comes back the same up to the case of
letters, or longer if it is one of the respelled. -/
def SpellsBack (kind : String) (maps : QualifierTable) : Prop :=
  ∀ entry ∈ maps.requestKeys.entries, ∀ sent ∈ maps.requestValues.get? entry.2,
    ∀ text ∈ sent.entries, Replaces text.1 (recode (maps.responseValues.get? entry.2) text.2) ∧
      (Text.SameLetters text.1 (recode (maps.responseValues.get? entry.2) text.2) ↔
        text.1 ∉ respelled kind entry.1)

instance (kind : String) (maps : QualifierTable) : Decidable (SpellsBack kind maps) :=
  inferInstanceAs (Decidable (∀ entry ∈ maps.requestKeys.entries, _))

theorem bundled_spellsBack : ∀ table ∈ Bundled.qualifiers.entries,
    SpellsBack table.1 table.2 := by
  decide +kernel

theorem respelled_of_unsent : ∀ table ∈ Bundled.qualifiers.entries,
    ∀ entry ∈ table.2.requestKeys.entries, table.2.requestValues.get? entry.2 = none →
      respelled table.1 entry.1 = [] := by
  decide +kernel

end Bundled

/-- The kind of object that a target's objects are, by the bundled table. -/
def Target.kind (target : Target) : String :=
  Table.bundled.resolveQualifier "DISPLAY" (Text.upper target.display)

theorem define_kind : ∀ entry ∈ targets,
    Table.bundled.resolveQualifier "DEFINE" (Text.upper entry.2.define) = entry.2.kind := by
  decide +kernel

theorem hasQualifier_kind : ∀ entry ∈ targets,
    Table.bundled.hasQualifier entry.2.kind = true := by
  decide +kernel

/-- Whether a desired record asks for nothing that does not come back as it was asked for. -/
def Settled (kind : String) (desired : Attributes) : Prop :=
  ∀ entry ∈ desired.entries, entry.1 ∉ replaceFlags ∧
    ∀ text ∈ entry.2.texts, text ∉ respelled kind entry.1

instance (kind : String) (desired : Attributes) : Decidable (Settled kind desired) :=
  inferInstanceAs (Decidable (∀ entry ∈ desired.entries, _))

section Returned

variable {kind : String} {maps : QualifierTable} {name wire : String} {value : Json}

theorem agrees_back_iff (bundled : Table.bundled.qualifier? kind = some maps)
    (known : maps.requestKeys.get? name = some wire)
    (texts : IsKnown (maps.requestValues.get? wire) value) :
    agrees value (value.mapTexts (recode (maps.responseValues.get? wire) ∘
        recode (maps.requestValues.get? wire))) = true ↔
      ∀ text ∈ value.texts, text ∉ respelled kind name := by
  have table := KeyMap.get?_eq_some_iff.mp bundled
  have entry := KeyMap.get?_eq_some_iff.mp known
  have inverse := (bundled_coherent _ table).texts_return known
  cases given : maps.requestValues.get? wire with
  | none =>
    have unspelled : respelled kind name = [] := respelled_of_unsent _ table _ entry given
    rw [given] at inverse
    cases taken : maps.responseValues.get? wire with
    | some heard =>
      rw [taken] at inverse
      cases inverse
    | none => simp [unspelled, Json.mapTexts_id, agrees_refl]
  | some sent =>
    have spelled (text : String) (member : text ∈ value.texts) :
        let back := (recode (maps.responseValues.get? wire) ∘ recode (some sent)) text
        Replaces text back ∧ (Text.SameLetters text back ↔ text ∉ respelled kind name) := by
      obtain ⟨coded, found⟩ := texts sent given text member
      have back := bundled_spellsBack _ table _ entry sent given _
        (KeyMap.get?_eq_some_iff.mp found)
      simpa [recode, found] using back
    rw [agrees_mapTexts_iff fun text member => (spelled text member).1]
    exact forall₂_congr fun text member => (spelled text member).2

/-- A record that was mapped to the wire and back leaves nothing to be changed exactly if it is
settled. -/
theorem changed_returned_iff (bundled : Table.bundled.qualifier? kind = some maps)
    {desired : Attributes} (clean : ∀ entry ∈ desired.entries, maps.Clean entry.1 entry.2) :
    changed desired (maps.returned desired) = ∅ ↔ Settled kind desired := by
  have table := KeyMap.get?_eq_some_iff.mp bundled
  have coherent := bundled_coherent _ table
  have apart := bundled_pairsApart _ table
  have met_iff (name : String) (value : Json) (member : desired.get? name = some value) :
      isMet (maps.returned desired) name value = true ↔
        name ∉ replaceFlags ∧ ∀ text ∈ value.texts, text ∉ respelled kind name := by
    cases clean _ (KeyMap.get?_eq_some_iff.mp member) with
    | flag pair stands =>
      obtain ⟨_, _, _, paired, _⟩ := QualifierTable.exists_of_flag stands
      have flag : name ∈ replaceFlags :=
        flag_of_pairs _ table _ (KeyMap.get?_eq_some_iff.mp paired)
      have gone : (maps.returned desired).get? name = none :=
        QualifierTable.get?_returned_of_flag coherent apart clean stands
      simp [isMet, gone, flag]
    | known wire plain known texts =>
      have unflagged : name ∉ replaceFlags :=
        not_flag_of_key _ table _ (KeyMap.get?_eq_some_iff.mp known)
      have back := QualifierTable.get?_returned coherent apart clean member plain known
      simp only [isMet, back, unflagged, not_false_eq_true, true_and]
      exact agrees_back_iff bundled known texts
  rw [KeyMap.eq_empty_iff]
  constructor
  · rintro none ⟨name, value⟩ listed
    have member := KeyMap.get?_eq_some_iff.mpr listed
    have gone := none name
    rw [changed, KeyMap.get?_filter, member] at gone
    refine (met_iff name value member).mp ?_
    simpa using gone
  · intro settled name
    rw [changed, KeyMap.get?_filter]
    cases member : desired.get? name with
    | none => rfl
    | some value =>
      have met := (met_iff name value member).mpr
        (settled _ (KeyMap.get?_eq_some_iff.mp member))
      simp [met]

end Returned

end MqAdmin.Ensure
