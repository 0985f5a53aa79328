import MqAdmin.Mapping.Bundled
import MqAdmin.Proofs.Mapping.Places

/-!
Records that are mapped twice in one direction. In a stable table an attribute gets a name that is
not the name of another attribute, and a text that does not stand for yet another one; so what was
mapped stays as it is, whatever attributes it came of and however many of them came to one place.
-/

namespace MqAdmin.Mapping

/-- Whether a map for texts leaves the texts that it gives as they are. -/
def Settles (values : KeyMap String) : Prop :=
  ∀ entry ∈ values.entries, recode (some values) entry.2 = entry.2

instance (values : KeyMap String) : Decidable (Settles values) :=
  inferInstanceAs (Decidable (∀ entry ∈ values.entries, _))

theorem Settles.recode_recode {values : KeyMap String} (settles : Settles values) (text : String) :
    recode (some values) (recode (some values) text) = recode (some values) text := by
  cases known : values.get? text with
  | none =>
    have stays : recode (some values) text = text := by simp [recode, known]
    rw [stays, stays]
  | some coded =>
    rw [recode_some known]
    exact settles _ (KeyMap.get?_eq_some_iff.mp known)

namespace QualifierTable

/-- Whether no wire name of an attribute is a name for callers. -/
def SentApart (maps : QualifierTable) : Prop :=
  ∀ entry ∈ maps.requestKeys.entries,
    maps.requestKeys.get? entry.2 = none ∧ maps.requestPairs.get? entry.2 = none

instance (maps : QualifierTable) : Decidable maps.SentApart :=
  inferInstanceAs (Decidable (∀ entry ∈ maps.requestKeys.entries, _))

/-- Whether a table has nothing to say about the wire names of pairs, and nothing about the texts of
what does not stand for one of them. -/
def PairsStay (maps : QualifierTable) : Prop :=
  ∀ entry ∈ maps.requestPairs.entries, maps.requestValues.get? entry.1 = none ∧
    ∀ pair ∈ entry.2.entries, maps.requestKeys.get? pair.2.key = none ∧
      maps.requestPairs.get? pair.2.key = none ∧ maps.requestValues.get? pair.2.key = none

instance (maps : QualifierTable) : Decidable maps.PairsStay :=
  inferInstanceAs (Decidable (∀ entry ∈ maps.requestPairs.entries, _))

/-- Whether a caller's name in capitals is the wire name that it belongs to, or none at all. -/
def HeardApart (maps : QualifierTable) : Prop :=
  ∀ entry ∈ maps.responseKeys.entries, Text.upper entry.2 = entry.1 ∨
    (maps.responseKeys.get? (Text.upper entry.2) = none ∧
      maps.responseValues.get? (Text.upper entry.2) = none)

instance (maps : QualifierTable) : Decidable maps.HeardApart :=
  inferInstanceAs (Decidable (∀ entry ∈ maps.responseKeys.entries, _))

/-- A table by which nothing changes that was mapped by it before. -/
structure Stable (maps : QualifierTable) : Prop where
  sent : maps.SentApart
  pairs : maps.PairsStay
  heard : maps.HeardApart
  texts : ∀ direction, ∀ entry ∈ (maps.values direction).entries, Settles entry.2

instance (maps : QualifierTable) : Decidable maps.Stable :=
  decidable_of_iff (maps.SentApart ∧ maps.PairsStay ∧ maps.HeardApart ∧
      (∀ entry ∈ maps.requestValues.entries, Settles entry.2) ∧
      ∀ entry ∈ maps.responseValues.entries, Settles entry.2)
    ⟨fun ⟨sent, pairs, heard, request, response⟩ =>
      ⟨sent, pairs, heard, fun direction => by cases direction <;> assumption⟩,
      fun stable => ⟨stable.sent, stable.pairs, stable.heard, stable.texts .request,
        stable.texts .response⟩⟩

variable {maps : QualifierTable} {name place : String} {value result : Json}
  {direction : Direction} {attributes : Attributes}

theorem Stable.texts_again (stable : maps.Stable) (direction : Direction) (wire : String)
    (value : Json) :
    (value.mapTexts (recode ((maps.values direction).get? wire))).mapTexts
        (recode ((maps.values direction).get? wire)) =
      value.mapTexts (recode ((maps.values direction).get? wire)) := by
  rw [Json.mapTexts_mapTexts]
  cases found : (maps.values direction).get? wire with
  | none => rfl
  | some values =>
    have settles := stable.texts direction _ (KeyMap.get?_eq_some_iff.mp found)
    exact congrArg (value.mapTexts ·) (funext settles.recode_recode)

theorem goes_self_of_unknown (unpaired : ∀ pair, ¬ maps.Stands name value pair)
    (unnamed : maps.requestKeys.get? name = none)
    (stays : value.mapTexts (recode (maps.requestValues.get? name)) = value) :
    maps.Goes name value .request name value := by
  have kept : (maps.requestKeys.get? name).getD name = name := by
    rw [unnamed, Option.getD_none]
  have goes : maps.Goes name value .request _ _ := .sent unpaired kept
  rwa [stays] at goes

theorem goes_self_of_kept {wire : String} (capitals : Text.upper name = wire)
    (kept : (maps.responseKeys.get? wire).getD name = name)
    (stays : value.mapTexts (recode (maps.responseValues.get? wire)) = value) :
    maps.Goes name value .response name value := by
  have goes : maps.Goes name value .response _ _ := .heard capitals kept
  rwa [stays] at goes

theorem not_stands_of_unpaired (unpaired : maps.requestPairs.get? name = none) (pair : WirePair) :
    ¬ maps.Stands name value pair := by
  rintro ⟨_, pairs, _, found, _⟩
  rw [unpaired] at found
  cases found

/-- What an attribute became becomes nothing else. -/
theorem Stable.goes_again (stable : maps.Stable)
    (goes : maps.Goes name value direction place result) :
    maps.Goes place result direction place result := by
  cases goes with
  | pair stands =>
    obtain ⟨text, pairs, _, paired, given⟩ := stands
    obtain ⟨unnamed, unpaired, unvalued⟩ := (stable.pairs _ (KeyMap.get?_eq_some_iff.mp paired)).2
      _ (KeyMap.get?_eq_some_iff.mp given)
    refine goes_self_of_unknown (not_stands_of_unpaired unpaired) unnamed ?_
    rw [unvalued, recode_none, Json.mapTexts_id]
  | sent alone renamed =>
    have stays := stable.texts_again .request place value
    cases known : maps.requestKeys.get? name with
    | some wire =>
      rw [known, Option.getD_some] at renamed
      subst renamed
      obtain ⟨unnamed, unpaired⟩ := stable.sent _ (KeyMap.get?_eq_some_iff.mp known)
      exact goes_self_of_unknown (not_stands_of_unpaired unpaired) unnamed stays
    | none =>
      rw [known, Option.getD_none] at renamed
      subst renamed
      refine goes_self_of_unknown (fun pair stands => ?_) known stays
      -- A name that may stand for pairs has no map for its texts, so the value is what it was.
      obtain ⟨text, pairs, same, paired, given⟩ := stands
      have unvalued := (stable.pairs _ (KeyMap.get?_eq_some_iff.mp paired)).1
      rw [unvalued, recode_none, Json.mapTexts_id] at same
      exact alone pair ⟨text, pairs, same, paired, given⟩
  | @heard wire _ capitals renamed =>
    have stays := stable.texts_again .response wire value
    cases known : maps.responseKeys.get? wire with
    | none =>
      rw [known, Option.getD_none] at renamed
      subst renamed
      exact goes_self_of_kept capitals (by rw [known, Option.getD_none]) stays
    | some caller =>
      rw [known, Option.getD_some] at renamed
      subst renamed
      rcases stable.heard _ (KeyMap.get?_eq_some_iff.mp known) with own | ⟨unnamed, unvalued⟩
      · exact goes_self_of_kept own (by rw [known, Option.getD_some]) stays
      · dsimp only at unnamed unvalued
        refine goes_self_of_kept rfl (by rw [unnamed, Option.getD_none]) ?_
        rw [unvalued, recode_none, Json.mapTexts_id]

theorem image_eq_self (stay : ∀ name value, attributes.get? name = some value →
    maps.Goes name value direction name value) : maps.image direction attributes = attributes := by
  have same : (attributes.entries.map fun entry => maps.target direction entry.1 entry.2) =
      attributes.entries := by
    refine (List.map_congr_left fun entry listed => ?_).trans (List.map_id _)
    exact (stay _ _ (KeyMap.get?_eq_some_iff.mpr listed)).target_eq
  rw [image, same, KeyMap.ofList_entries]

theorem Stable.image_image (stable : maps.Stable) (direction : Direction)
    (attributes : Attributes) :
    maps.image direction (maps.image direction attributes) = maps.image direction attributes := by
  apply image_eq_self
  intro place result found
  obtain ⟨name, value, _, goes, _⟩ := get?_image_iff.mp found
  exact stable.goes_again goes

end QualifierTable

theorem bundled_stable : ∀ table ∈ Bundled.qualifiers.entries, table.2.Stable := by
  decide +kernel

/-- By a stable table, or by none, a record is mapped twice as it is mapped once. -/
theorem Table.mapRecord_again {table : Table} {qualifier : String}
    (stable : ∀ maps, table.qualifier? qualifier = some maps → maps.Stable)
    (direction : Direction) (index : Option Nat) (attributes : Attributes) :
    let mapped := (table.mapRecord qualifier direction index attributes).mapped
    (table.mapRecord qualifier direction index mapped).mapped = mapped := by
  cases found : table.qualifier? qualifier with
  | none => simp only [mapped_of_absent found]
  | some maps =>
    simp only [mapRecord_of_qualifier found]
    exact (stable maps found).image_image direction attributes

/-- Whatever record a caller has, and whether its names are those of the caller, of the wire, of
pairs or of nothing known: by the bundled table it is mapped twice as it is mapped once, in either
direction. -/
theorem bundled_mapped_again (qualifier : String) (attributes : Attributes) :
    (Table.bundled.mapRequest qualifier
        (Table.bundled.mapRequest qualifier attributes).mapped).mapped =
      (Table.bundled.mapRequest qualifier attributes).mapped ∧
    (Table.bundled.mapResponse qualifier
        (Table.bundled.mapResponse qualifier attributes).mapped).mapped =
      (Table.bundled.mapResponse qualifier attributes).mapped := by
  have stable (maps : QualifierTable) (found : Table.bundled.qualifier? qualifier = some maps) :
      maps.Stable := bundled_stable _ (KeyMap.get?_eq_some_iff.mp found)
  exact ⟨Table.mapRecord_again stable .request none attributes,
    Table.mapRecord_again stable .response none attributes⟩

end MqAdmin.Mapping
