import Mathlib.Data.List.Pairwise
import MqAdmin.Command.Basic
import MqAdmin.Proofs.Mapping.RoundTrip

namespace MqAdmin.Mapping

namespace QualifierTable

def Stands (maps : QualifierTable) (name : String) (value : Json) (pair : WirePair) : Prop :=
  ∃ text pairs, value = .string text ∧ maps.requestPairs.get? name = some pairs ∧
    pairs.get? text = some pair

/-- The place that an attribute goes to, and its value there. What a table does not know stays as
it is. The maps for texts are named by the wire name, which is the new name in a request and the
name in capitals in a response. -/
inductive Goes (maps : QualifierTable) (name : String) (value : Json) :
    Direction → (place : String) → (result : Json) → Prop where
  | pair {pair : WirePair} (stands : maps.Stands name value pair) :
      Goes maps name value .request pair.key (.string pair.value)
  | sent {wire : String} (alone : ∀ pair, ¬ maps.Stands name value pair)
      (renamed : (maps.requestKeys.get? name).getD name = wire) :
      Goes maps name value .request wire (value.mapTexts (recode (maps.requestValues.get? wire)))
  | heard {wire caller : String} (capitals : Text.upper name = wire)
      (renamed : (maps.responseKeys.get? wire).getD name = caller) :
      Goes maps name value .response caller
        (value.mapTexts (recode (maps.responseValues.get? wire)))

variable {maps : QualifierTable} {name place : String} {value result : Json}
  {direction : Direction}

theorem pair?_eq_some_iff {pair : WirePair} :
    maps.pair? .request name value = some pair ↔ maps.Stands name value pair := by
  constructor
  · exact exists_of_flag
  · rintro ⟨text, pairs, rfl, found, stands⟩
    simp [pair?, found, Json.string?, stands]

theorem pair?_eq_none_iff :
    maps.pair? .request name value = none ↔ ∀ pair, ¬ maps.Stands name value pair := by
  simp only [Option.eq_none_iff_forall_ne_some, ne_eq, pair?_eq_some_iff]

/-- The texts of a value, mapped by the table for a wire name if there is one. -/
theorem mapTexts_eq_match (values : Option (KeyMap String)) (value : Json) :
    (match values with
      | some known => mapValue known value
      | none => value) = value.mapTexts (recode values) := by
  cases values with
  | none => rw [recode_none, Json.mapTexts_id]
  | some known => exact mapValue_eq_mapTexts known value

theorem target_of_plain (plain : maps.pair? direction name value = none) :
    maps.target direction name value = (maps.targetName direction name,
      value.mapTexts (recode ((maps.values direction).get? (maps.wireName direction name)))) := by
  rw [target, plain]
  exact congrArg (Prod.mk _) (mapTexts_eq_match ..)

theorem Goes.target_eq (goes : maps.Goes name value direction place result) :
    maps.target direction name value = (place, result) := by
  cases goes with
  | pair stands => exact target_flag (pair?_eq_some_iff.mpr stands)
  | sent alone renamed =>
    subst renamed
    exact target_of_plain (pair?_eq_none_iff.mpr alone)
  | heard capitals renamed =>
    subst capitals renamed
    exact target_of_plain rfl

theorem goes_target (maps : QualifierTable) (name : String) (value : Json)
    (direction : Direction) : maps.Goes name value direction
      (maps.target direction name value).1 (maps.target direction name value).2 := by
  cases direction with
  | request =>
    cases stands : maps.pair? .request name value with
    | some pair =>
      rw [target_flag stands]
      exact .pair (pair?_eq_some_iff.mp stands)
    | none =>
      rw [target_of_plain stands]
      exact .sent (pair?_eq_none_iff.mp stands) rfl
  | response =>
    rw [target_of_plain rfl]
    exact .heard rfl rfl

theorem goes_iff : maps.Goes name value direction place result ↔
    maps.target direction name value = (place, result) := by
  constructor
  · exact Goes.target_eq
  · intro same
    have goes := maps.goes_target name value direction
    rwa [same] at goes

/-- Whether a record is what comes of attributes: each place that one of them goes to holds the
value of the last one that goes there. -/
structure Gathers (maps : QualifierTable) (direction : Direction) (attributes mapped : Attributes) :
    Prop where
  goes : ∀ name value, attributes.get? name = some value →
    ∃ place result, maps.Goes name value direction place result ∧
      ∀ other different, maps.Goes name value direction other different →
        other = place ∧ different = result
  keys : ∀ place, place ∈ mapped.keys ↔ ∃ name value result,
    attributes.get? name = some value ∧ maps.Goes name value direction place result
  last : ∀ place result, mapped.get? place = some result ↔ ∃ name value,
    attributes.get? name = some value ∧ maps.Goes name value direction place result ∧
      ∀ other kept different, attributes.get? other = some kept →
        maps.Goes other kept direction place different → other ≤ name
  size : mapped.size = attributes.size ↔ ∀ name value other kept place result different,
    attributes.get? name = some value → attributes.get? other = some kept →
      maps.Goes name value direction place result →
      maps.Goes other kept direction place different → name = other

theorem get?_image_iff {attributes : Attributes} :
    (maps.image direction attributes).get? place = some result ↔ ∃ name value,
      attributes.get? name = some value ∧ maps.Goes name value direction place result ∧
        ∀ other kept different, attributes.get? other = some kept →
          maps.Goes other kept direction place different → other ≤ name := by
  rw [image, KeyMap.get?_ofList_map_entries]
  constructor
  · rintro ⟨⟨name, value⟩, member, same, greatest⟩
    refine ⟨name, value, KeyMap.get?_eq_some_iff.mpr member, goes_iff.mpr same, ?_⟩
    intro other kept different listed goes
    exact greatest (other, kept) (KeyMap.get?_eq_some_iff.mp listed)
      (congrArg Prod.fst goes.target_eq)
  · rintro ⟨name, value, member, goes, greatest⟩
    refine ⟨(name, value), KeyMap.get?_eq_some_iff.mp member, goes.target_eq, ?_⟩
    rintro ⟨other, kept⟩ listed rfl
    exact greatest other kept _ (KeyMap.get?_eq_some_iff.mpr listed) (maps.goes_target ..)

theorem mem_keys_image_iff {attributes : Attributes} :
    place ∈ (maps.image direction attributes).keys ↔ ∃ name value result,
      attributes.get? name = some value ∧ maps.Goes name value direction place result := by
  rw [KeyMap.mem_keys_iff]
  constructor
  · rintro ⟨result, found⟩
    obtain ⟨name, value, member, goes, _⟩ := get?_image_iff.mp found
    exact ⟨name, value, result, member, goes⟩
  · rintro ⟨name, value, result, member, goes⟩
    apply Option.isSome_iff_exists.mp
    rw [Option.isSome_iff_ne_none]
    intro gone
    have listed : (place, result) ∈ attributes.entries.map fun entry =>
        maps.target direction entry.1 entry.2 :=
      List.mem_map.mpr ⟨(name, value), KeyMap.get?_eq_some_iff.mp member, goes.target_eq⟩
    exact KeyMap.get?_ofList_eq_none_iff.mp gone _ listed rfl

/-- No attribute is lost exactly if no two of them go to one place. -/
theorem size_image_eq_iff {attributes : Attributes} :
    (maps.image direction attributes).size = attributes.size ↔
      ∀ name value other kept place result different,
        attributes.get? name = some value → attributes.get? other = some kept →
        maps.Goes name value direction place result →
        maps.Goes other kept direction place different → name = other := by
  have length : (attributes.entries.map fun entry =>
      maps.target direction entry.1 entry.2).length = attributes.size := List.length_map ..
  rw [image, ← length, KeyMap.size_ofList_eq_length_iff, List.pairwise_map]
  constructor
  · intro apart name value other kept place result different member listed goes too
    have symm : Std.Symm fun first second : String × Json =>
        (maps.target direction first.1 first.2).1 ≠ (maps.target direction second.1 second.2).1 :=
      ⟨fun _ _ => Ne.symm⟩
    have same : (maps.target direction name value).1 = (maps.target direction other kept).1 := by
      rw [goes.target_eq, too.target_eq]
    by_contra distinct
    exact apart.forall (KeyMap.get?_eq_some_iff.mp member) (KeyMap.get?_eq_some_iff.mp listed)
      (fun equal => distinct (congrArg Prod.fst equal)) same
  · intro unique
    refine attributes.ascending.imp_of_mem fun {first second} member listed before same => ?_
    have goes := maps.goes_target second.1 second.2 direction
    rw [← same] at goes
    have equal := unique _ _ _ _ _ _ _ (KeyMap.get?_eq_some_iff.mpr member)
      (KeyMap.get?_eq_some_iff.mpr listed) (maps.goes_target ..) goes
    exact String.lt_irrefl _ (equal ▸ before)

theorem gathers_image (maps : QualifierTable) (direction : Direction) (attributes : Attributes) :
    maps.Gathers direction attributes (maps.image direction attributes) where
  goes name value _ := by
    refine ⟨_, _, maps.goes_target name value direction, fun other different goes => ?_⟩
    rw [goes.target_eq]
    exact ⟨rfl, rfl⟩
  keys _ := mem_keys_image_iff
  last _ _ := get?_image_iff
  size := size_image_eq_iff

end QualifierTable

theorem Table.mapped_of_absent {table : Table} {qualifier : String}
    (absent : table.qualifier? qualifier = none) (direction : Direction) (index : Option Nat)
    (attributes : Attributes) :
    (table.mapRecord qualifier direction index attributes).mapped = attributes := by
  unfold mapRecord
  split
  · rename_i none
    exact (KeyMap.isEmpty_iff.mp none).symm
  · rw [absent]

/-- Strictness decides whether issues stop a command, and nothing else about it. -/
theorem prepare_eq_ok_iff {table : Table} {strict : Bool} {command : Command}
    {prepared : Prepared} : command.prepare (some table) strict = .ok prepared ↔
      command.prepare (some table) false = .ok prepared ∧
        (strict = true → (table.mapRequest
          (table.resolveQualifier (Text.upper command.verb) (Text.upper command.qualifier))
          command.parameters).issues = []) := by
  unfold Command.prepare
  dsimp only
  generalize table.mapRequest (table.resolveQualifier (Text.upper command.verb)
    (Text.upper command.qualifier)) command.parameters = request
  obtain ⟨mapped, issues⟩ := request
  cases strict with
  | false => simp
  | true => cases issues <;> simp

/-- A record loses attributes only where several of them go to one place, and there the last of them
stays. Without a table for its kind nothing in it changes. Whether issues are minded makes no
difference to what becomes of it. -/
theorem Table.mapRecord_gathers (table : Table) (qualifier : String) (direction : Direction)
    (index : Option Nat) (attributes : Attributes) :
    let mapped := (table.mapRecord qualifier direction index attributes).mapped
    (table.qualifier? qualifier = none → mapped = attributes) ∧
    (∀ maps, table.qualifier? qualifier = some maps →
      maps.Gathers direction attributes mapped) ∧
    ∀ (command : Command) (strict : Bool) (prepared : Prepared),
      command.prepare (some table) strict = .ok prepared ↔
        command.prepare (some table) false = .ok prepared ∧
          (strict = true → (table.mapRequest
            (table.resolveQualifier (Text.upper command.verb) (Text.upper command.qualifier))
            command.parameters).issues = []) := by
  refine ⟨fun absent => mapped_of_absent absent direction index attributes, fun maps found => ?_,
    fun _ _ _ => prepare_eq_ok_iff⟩
  · rw [mapRecord_of_qualifier found]
    exact maps.gathers_image direction attributes

end MqAdmin.Mapping
