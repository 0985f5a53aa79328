import MqAdmin.Mapping.Bundled
import MqAdmin.Proofs.Mapping.RoundTrip

/-!
Records whose names a coherent table knows. There the names of the two sides are paired off, so a
record takes up as many places on the one side as on the other, and the texts that one side hears
are the ones that the other takes back.
-/

namespace MqAdmin

theorem KeyMap.keys_eq_of_contains {α β : Type} {first : KeyMap α} {second : KeyMap β}
    (same : ∀ name, first.contains name = second.contains name) : first.keys = second.keys := by
  have keys {γ : Type} (map : KeyMap γ) : (map.mapValues fun _ => ()).keys = map.keys := by
    simp [KeyMap.keys, mapValues, Function.comp_def]
  rw [← keys first, ← keys second]
  refine congrArg KeyMap.keys (ext_get? fun name => ?_)
  have present := same name
  rw [contains, contains] at present
  rw [get?_mapValues, get?_mapValues]
  cases one : first.get? name <;> cases two : second.get? name <;> simp_all

namespace Mapping

theorem bundled_coherent : ∀ table ∈ Bundled.qualifiers.entries, table.2.Coherent := by
  decide +kernel

section Inverse

variable {sent heard : Option (KeyMap String)} {value : Json}

theorem Inverse.takes_back (inverse : Inverse sent heard) (known : IsKnown heard value) :
    IsKnown sent (value.mapTexts (recode heard)) ∧
      (value.mapTexts (recode heard)).mapTexts (recode sent) = value := by
  cases sent with
  | none =>
    cases heard with
    | some heard => cases inverse
    | none => exact ⟨fun _ absent => (by cases absent), by simp [Json.mapTexts_id]⟩
  | some sent =>
    cases heard with
    | none => cases inverse
    | some heard =>
      have back : ∀ text ∈ value.texts,
          sent.get? (recode (some heard) text) = some text := by
        intro text member
        obtain ⟨taken, found⟩ := known heard rfl text member
        rw [recode_some found]
        exact inverse.2 _ (KeyMap.get?_eq_some_iff.mp found)
      refine ⟨?_, ?_⟩
      · rintro _ ⟨⟩ text member
        rw [Json.texts_mapTexts] at member
        obtain ⟨given, listed, rfl⟩ := List.mem_map.mp member
        exact ⟨given, back given listed⟩
      · rw [Json.mapTexts_mapTexts]
        exact Json.mapTexts_eq_self fun text member => recode_some (back text member)

end Inverse

def Direction.back : Direction → Direction
  | .request => .response
  | .response => .request

namespace QualifierTable

/-- Whether an attribute of the one name is an attribute of the other name on the other side. -/
def Renames (maps : QualifierTable) : Direction → (name other : String) → Prop
  | .request, name, wire => maps.requestKeys.get? name = some wire
  | .response, wire, name =>
    maps.responseKeys.get? wire = some name ∧ maps.requestKeys.get? name = some wire

def Knows (maps : QualifierTable) (direction : Direction) (attributes : Attributes) : Prop :=
  ∀ entry ∈ attributes.entries, ∃ other, maps.Renames direction entry.1 other

/-- The map for the texts of a renamed attribute, if there is one. -/
def textMap (maps : QualifierTable) : Direction → (name other : String) → Option (KeyMap String)
  | .request, _, wire => maps.requestValues.get? wire
  | .response, wire, _ => maps.responseValues.get? wire

section Renamed

variable {maps : QualifierTable} {direction : Direction} {name place other : String}
  {value : Json} {attributes : Attributes}

theorem Coherent.renames_back (coherent : maps.Coherent)
    (renames : maps.Renames direction name other) : maps.Renames direction.back other name := by
  cases direction with
  | request => exact ⟨(coherent.name_returns renames).2.1, renames⟩
  | response => exact renames.2

theorem Coherent.renames_forth (coherent : maps.Coherent)
    (back : maps.Renames direction.back other name) : maps.Renames direction name other := by
  have forth := coherent.renames_back back
  cases direction with
  | request => exact forth
  | response => exact forth

theorem Coherent.renames_unique (coherent : maps.Coherent)
    (renames : maps.Renames direction name other) (too : maps.Renames direction place other) :
    place = name := by
  cases direction with
  | request => exact coherent.name_unique renames too
  | response => exact Option.some.inj (too.2.symm.trans renames.2)

theorem Coherent.target_eq (coherent : maps.Coherent)
    (renames : maps.Renames direction name other) :
    maps.target direction name value =
      (other, value.mapTexts (recode (maps.textMap direction name other))) := by
  cases direction with
  | request =>
    have plain : maps.pair? .request name value = none := by
      simp [pair?, (coherent.name_returns renames).2.2]
    exact target_request plain renames
  | response => exact target_response (coherent.name_returns renames.2).1 renames.1

theorem Coherent.issues_eq_nil_iff (coherent : maps.Coherent)
    (renames : maps.Renames direction name other) {qualifier : String} {index : Option Nat} :
    maps.issues qualifier direction index name value = [] ↔
      IsKnown (maps.textMap direction name other) value := by
  have unpaired : maps.pair? direction name value = none := by
    cases direction with
    | request => simp [pair?, (coherent.name_returns renames).2.2]
    | response => rfl
  have found : (maps.keys direction).get? (lookupName direction name) = some other := by
    cases direction with
    | request => exact renames
    | response =>
      rw [lookupName, (coherent.name_returns renames.2).1]
      exact renames.1
  have texts : (maps.values direction).get? (maps.wireName direction name) =
      maps.textMap direction name other := by
    cases direction with
    | request =>
      rw [wireName, targetName, found]
      rfl
    | response =>
      rw [wireName, lookupName, (coherent.name_returns renames.2).1]
      rfl
  simp only [issues, unpaired, KeyMap.contains, found, texts, Option.isSome_some, ↓reduceIte,
    List.nil_append, List.map_eq_nil_iff]
  cases maps.textMap direction name other with
  | none => exact ⟨fun _ _ absent => (by cases absent), fun _ => rfl⟩
  | some known =>
    rw [unknownItems_eq_nil_iff]
    exact ⟨fun each _ same => Option.some.inj same ▸ each, fun each => each known rfl⟩

/-- In a record with known names every attribute has a place of its own on the other side. -/
theorem Coherent.get?_image (coherent : maps.Coherent) (knows : maps.Knows direction attributes)
    (renames : maps.Renames direction name other) :
    (maps.image direction attributes).get? other = (attributes.get? name).map fun value =>
      value.mapTexts (recode (maps.textMap direction name other)) := by
  have own : ∀ entry ∈ attributes.entries,
      (maps.target direction entry.1 entry.2).1 = other → entry.1 = name := by
    intro entry listed same
    obtain ⟨goal, renamed⟩ := knows entry listed
    rw [coherent.target_eq renamed] at same
    exact coherent.renames_unique renames ((show goal = other from same) ▸ renamed)
  cases member : attributes.get? name with
  | some value => exact image_of_unique member (coherent.target_eq renames) own
  | none =>
    apply Option.eq_none_iff_forall_ne_some.mpr
    intro result found
    obtain ⟨entry, listed, same⟩ := exists_of_image found
    have named := own entry listed (congrArg Prod.fst same)
    rw [← named, KeyMap.get?_eq_some_iff.mpr listed] at member
    cases member

/-- Whatever is in the image is there under a name that some attribute has got. -/
theorem Coherent.exists_renames (coherent : maps.Coherent) (knows : maps.Knows direction attributes)
    (found : (maps.image direction attributes).get? other = some value) :
    ∃ name, maps.Renames direction name other := by
  obtain ⟨entry, listed, same⟩ := exists_of_image found
  obtain ⟨goal, renamed⟩ := knows entry listed
  rw [coherent.target_eq renamed] at same
  cases same
  exact ⟨entry.1, renamed⟩

theorem Coherent.recordIssues_eq_nil_iff (coherent : maps.Coherent)
    (knows : maps.Knows direction attributes) {qualifier : String} {index : Option Nat} :
    maps.recordIssues qualifier direction index attributes = [] ↔
      ∀ name other value, maps.Renames direction name other → attributes.get? name = some value →
        IsKnown (maps.textMap direction name other) value := by
  rw [recordIssues, List.flatMap_eq_nil_iff]
  constructor
  · intro each name other value renames member
    exact (coherent.issues_eq_nil_iff renames).mp (each _ (KeyMap.get?_eq_some_iff.mp member))
  · intro each entry listed
    obtain ⟨other, renames⟩ := knows entry listed
    exact (coherent.issues_eq_nil_iff renames).mpr
      (each _ _ _ renames (KeyMap.get?_eq_some_iff.mpr listed))

end Renamed

section Back

variable {maps : QualifierTable} {direction : Direction} {name other qualifier : String}
  {value : Json} {attributes : Attributes} {index : Option Nat}

/-- Known texts become texts that are known on the way back. -/
theorem Coherent.isKnown_back (coherent : maps.Coherent)
    (renames : maps.Renames direction name other)
    (known : IsKnown (maps.textMap direction name other) value) :
    IsKnown (maps.textMap direction.back other name)
      (value.mapTexts (recode (maps.textMap direction name other))) := by
  cases direction with
  | request => exact (coherent.texts_return renames).isKnown known
  | response => exact ((coherent.texts_return renames.2).takes_back known).1

theorem Coherent.knows_back (coherent : maps.Coherent) (knows : maps.Knows direction attributes) :
    maps.Knows direction.back (maps.image direction attributes) := by
  intro entry listed
  obtain ⟨name, renames⟩ := coherent.exists_renames knows (KeyMap.get?_eq_some_iff.mpr listed)
  exact ⟨name, coherent.renames_back renames⟩

/-- Without issues on the way there are none on the way back. -/
theorem Coherent.recordIssues_back (coherent : maps.Coherent)
    (knows : maps.Knows direction attributes)
    (clean : maps.recordIssues qualifier direction index attributes = []) :
    maps.recordIssues qualifier direction.back index (maps.image direction attributes) = [] := by
  have known := (coherent.recordIssues_eq_nil_iff knows).mp clean
  refine (coherent.recordIssues_eq_nil_iff (coherent.knows_back knows)).mpr ?_
  intro other name heard back found
  have renames := coherent.renames_forth back
  rw [coherent.get?_image knows renames, Option.map_eq_some_iff] at found
  obtain ⟨value, member, same⟩ := found
  exact same ▸ coherent.isKnown_back renames (known name other value renames member)

theorem Coherent.get?_back (coherent : maps.Coherent) (knows : maps.Knows direction attributes)
    (renames : maps.Renames direction name other) :
    (maps.image direction.back (maps.image direction attributes)).get? name =
      (attributes.get? name).map fun value =>
        (value.mapTexts (recode (maps.textMap direction name other))).mapTexts
          (recode (maps.textMap direction.back other name)) := by
  rw [coherent.get?_image (coherent.knows_back knows) (coherent.renames_back renames),
    coherent.get?_image knows renames, Option.map_map]
  rfl

theorem Coherent.get?_back_of_unknown (coherent : maps.Coherent)
    (knows : maps.Knows direction attributes)
    (unknown : ∀ other, ¬ maps.Renames direction name other) :
    attributes.get? name = none ∧
      (maps.image direction.back (maps.image direction attributes)).get? name = none := by
  constructor
  · apply Option.eq_none_iff_forall_ne_some.mpr
    intro value member
    obtain ⟨other, renames⟩ := knows _ (KeyMap.get?_eq_some_iff.mp member)
    exact unknown other renames
  · apply Option.eq_none_iff_forall_ne_some.mpr
    intro value found
    obtain ⟨other, back⟩ := coherent.exists_renames (coherent.knows_back knows) found
    exact unknown other (coherent.renames_forth back)

theorem Coherent.keys_back (coherent : maps.Coherent) (knows : maps.Knows direction attributes) :
    (maps.image direction.back (maps.image direction attributes)).keys = attributes.keys := by
  refine KeyMap.keys_eq_of_contains fun name => ?_
  rw [KeyMap.contains, KeyMap.contains]
  by_cases renamed : ∃ other, maps.Renames direction name other
  · obtain ⟨other, renames⟩ := renamed
    rw [coherent.get?_back knows renames, Option.isSome_map]
  · obtain ⟨absent, gone⟩ :=
      coherent.get?_back_of_unknown knows fun other renames => renamed ⟨other, renames⟩
    rw [absent, gone]

/-- What was heard without an issue is sent as it was heard. -/
theorem Coherent.image_heard (coherent : maps.Coherent) (knows : maps.Knows .response attributes)
    (clean : maps.recordIssues qualifier .response index attributes = []) :
    maps.image .request (maps.image .response attributes) = attributes := by
  refine KeyMap.ext_get? fun wire => ?_
  by_cases renamed : ∃ name, maps.Renames .response wire name
  · obtain ⟨name, renames⟩ := renamed
    refine (coherent.get?_back knows renames).trans ?_
    cases member : attributes.get? wire with
    | none => rfl
    | some value =>
      have known := (coherent.recordIssues_eq_nil_iff knows).mp clean _ _ _ renames member
      exact congrArg some ((coherent.texts_return renames.2).takes_back known).2
  · obtain ⟨absent, gone⟩ :=
      coherent.get?_back_of_unknown knows fun name renames => renamed ⟨name, renames⟩
    exact gone.trans absent.symm

end Back

end QualifierTable

/-- What a caller's record is sent as, and what that comes back as: there is no issue, the
attributes have the same names, their texts are those that the table gives back, and sending what
came back is sending the same again. -/
structure Returns (table : Table) (qualifier : String) (maps : QualifierTable)
    (attributes sent : Attributes) (back : Outcome Attributes) : Prop where
  clean : back.issues = []
  keys : back.mapped.keys = attributes.keys
  texts : ∀ name wire value, maps.requestKeys.get? name = some wire →
    attributes.get? name = some value → back.mapped.get? name = some (value.mapTexts
      (recode (maps.responseValues.get? wire) ∘ recode (maps.requestValues.get? wire)))
  again : table.mapRequest qualifier back.mapped = ⟨sent, []⟩

/-- All bundled tables are coherent. In a coherent table what is heard is sent back as it was, and
what is sent comes back under the names it was sent for. -/
theorem coherent_round_trip {table : Table} {qualifier : String} {maps : QualifierTable}
    (found : table.qualifier? qualifier = some maps) (coherent : maps.Coherent) :
    (∀ entry ∈ Table.bundled.qualifiers.entries, entry.2.Coherent) ∧
    (∀ record, maps.Knows .response record →
      (table.mapResponse qualifier record).issues = [] →
      table.mapRequest qualifier (table.mapResponse qualifier record).mapped = ⟨record, []⟩) ∧
    ∀ attributes : Attributes,
      (∀ entry ∈ attributes.entries, maps.requestKeys.contains entry.1 = true) →
      (table.mapRequest qualifier attributes).issues = [] →
      Returns table qualifier maps attributes (table.mapRequest qualifier attributes).mapped
        (table.mapResponse qualifier (table.mapRequest qualifier attributes).mapped) := by
  have heard (record : Attributes) (knows : maps.Knows .response record)
      (clean : maps.recordIssues qualifier .response none record = []) :
      table.mapRequest qualifier (maps.image .response record) = ⟨record, []⟩ := by
    rw [Table.mapRequest, Table.mapRecord_of_qualifier found, coherent.image_heard knows clean]
    exact congrArg (Outcome.mk record) (coherent.recordIssues_back knows clean)
  simp only [Table.mapRequest, Table.mapResponse, Table.mapRecord_of_qualifier found] at heard ⊢
  refine ⟨bundled_coherent, heard, fun attributes named clean => ?_⟩
  have knows : maps.Knows .request attributes := fun entry listed =>
    Option.isSome_iff_exists.mp (named entry listed)
  have cleanBack := coherent.recordIssues_back knows clean
  constructor
  · exact cleanBack
  · exact coherent.keys_back knows
  · intro name wire value known member
    have back := coherent.get?_back knows (show maps.Renames .request name wire from known)
    rw [member, Option.map_some, Json.mapTexts_mapTexts] at back
    exact back
  · have again := heard _ (coherent.knows_back knows) cleanBack
    rw [Table.mapRequest, Table.mapRecord_of_qualifier found]
    exact again

/-- A channel type that is given by its wire text comes back by its name, and is sent the same. -/
theorem coherent_round_trip_channel :
    let caller : Attributes := .ofAscending [("channel_type", .string "RCVR")]
    let wire : Attributes := .ofAscending [("CHLTYPE", .string "RCVR"), ("DESCR", .string "to QM2")]
    Table.bundled.mapRequest "channel" (Table.bundled.mapResponse "channel" wire).mapped =
        ⟨wire, []⟩ ∧
      Returns .bundled "channel" Bundled.channel caller
        (.ofAscending [("CHLTYPE", .string "RCVR")])
        ⟨.ofAscending [("channel_type", .string "receiver")], []⟩ := by
  have found : Table.bundled.qualifier? "channel" = some Bundled.channel := by decide +kernel
  have coherent := bundled_coherent _ (KeyMap.get?_eq_some_iff.mp found)
  obtain ⟨_, heard, returns⟩ := coherent_round_trip found coherent
  have sent : Table.bundled.mapRequest "channel" (.ofAscending [("channel_type", .string "RCVR")]) =
      ⟨.ofAscending [("CHLTYPE", .string "RCVR")], []⟩ := by decide +kernel
  have back : Table.bundled.mapResponse "channel" (.ofAscending [("CHLTYPE", .string "RCVR")]) =
      ⟨.ofAscending [("channel_type", .string "receiver")], []⟩ := by decide +kernel
  refine ⟨heard _ ?_ (by decide +kernel), ?_⟩
  · intro entry listed
    rcases List.mem_cons.mp listed with rfl | listed
    · exact ⟨"channel_type", by decide +kernel, by decide +kernel⟩
    · rw [List.mem_singleton.mp listed]
      exact ⟨"description", by decide +kernel, by decide +kernel⟩
  · have whole := returns (.ofAscending [("channel_type", .string "RCVR")]) (by decide +kernel)
      (congrArg Outcome.issues sent)
    rw [sent, back] at whole
    exact whole

end Mapping

end MqAdmin
