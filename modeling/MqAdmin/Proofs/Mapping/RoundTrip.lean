import MqAdmin.Mapping.Outcome
import MqAdmin.Proofs.Json.Texts
import MqAdmin.Proofs.KeyMap

/-!
From the caller's names to those of the wire and back. In a coherent table an attribute keeps its
name on this way and takes no other attribute's place, and its texts come back as the table gives
them back; what stands for a wire pair as a whole does not come back under its name.
-/

namespace MqAdmin.Mapping

/-- What becomes of a text where there may be a map for texts. -/
def recode (values : Option (KeyMap String)) (text : String) : String :=
  (values.bind fun known => known.get? text).getD text

@[simp] theorem recode_none : recode none = id := rfl

theorem recode_some {values : KeyMap String} {text coded : String}
    (known : values.get? text = some coded) : recode (some values) text = coded := by
  simp [recode, known]

theorem mapValue_eq_mapTexts (values : KeyMap String) (value : Json) :
    mapValue values value = value.mapTexts (recode (some values)) := by
  have same : mapItem values = Json.mapText (recode (some values)) := by
    funext item
    cases item <;> rfl
  cases value with
  | array items => simp [mapValue, Json.mapTexts, same]
  | _ => simp [mapValue, Json.mapTexts, same]

/-- Whether a map for the texts, if there is one, knows all those of a value. -/
def IsKnown (values : Option (KeyMap String)) (value : Json) : Prop :=
  ∀ known, values = some known → ∀ text ∈ value.texts, ∃ coded, known.get? text = some coded

theorem unknownItems_eq_nil_iff {values : KeyMap String} {value : Json} :
    unknownItems values value = [] ↔
      ∀ text ∈ value.texts, ∃ coded, values.get? text = some coded := by
  have known (item : Json) : isUnknown values item = false ↔
      ∀ text, item.string? = some text → ∃ coded, values.get? text = some coded := by
    cases item <;> simp [isUnknown, KeyMap.contains, Json.string?, Option.isSome_iff_exists]
  cases value with
  | array items =>
    simp only [unknownItems, List.filter_eq_nil_iff, Bool.not_eq_true, known, Json.texts,
      List.mem_filterMap]
    constructor
    · rintro each text ⟨item, member, read⟩
      exact each item member text read
    · intro each item member text read
      exact each text ⟨item, member, read⟩
  | string text => simpa [unknownItems, Json.texts, Json.string?] using known (.string text)
  | _ => simp [unknownItems, Json.texts, isUnknown]

/-- Two maps for the texts of one attribute belong together if both or none are there, the second
knows all that the first gives, and the first takes back all that the second gives. -/
def Inverse : Option (KeyMap String) → Option (KeyMap String) → Prop
  | none, none => True
  | some sent, some heard =>
    (∀ entry ∈ sent.entries, heard.contains entry.2 = true) ∧
      ∀ entry ∈ heard.entries, sent.get? entry.2 = some entry.1
  | _, _ => False

instance : (sent heard : Option (KeyMap String)) → Decidable (Inverse sent heard)
  | none, none => isTrue trivial
  | some _, some _ => inferInstanceAs (Decidable (_ ∧ _))
  | none, some _ => isFalse id
  | some _, none => isFalse id

theorem Inverse.isKnown {sent heard : Option (KeyMap String)} {value : Json}
    (inverse : Inverse sent heard) (known : IsKnown sent value) :
    IsKnown heard (value.mapTexts (recode sent)) := by
  rintro back rfl coded member
  cases sent with
  | none => cases inverse
  | some sent =>
    rw [Json.texts_mapTexts] at member
    obtain ⟨text, listed, same⟩ := List.mem_map.mp member
    obtain ⟨given, found⟩ := known sent rfl text listed
    have taken := inverse.1 _ (KeyMap.get?_eq_some_iff.mp found)
    rw [← same, recode]
    simpa [found, KeyMap.contains, Option.isSome_iff_exists] using taken

namespace QualifierTable

/-- Whether every wire name is in capitals and leads back to the caller's name, which stands for no
wire pairs. -/
def NamesReturn (maps : QualifierTable) : Prop :=
  ∀ entry ∈ maps.requestKeys.entries, Text.upper entry.2 = entry.2 ∧
    maps.responseKeys.get? entry.2 = some entry.1 ∧ maps.requestPairs.get? entry.1 = none

instance (maps : QualifierTable) : Decidable maps.NamesReturn :=
  inferInstanceAs (Decidable (∀ entry ∈ maps.requestKeys.entries, _))

/-- Whether the maps for the texts of every attribute belong together. -/
def TextsReturn (maps : QualifierTable) : Prop :=
  ∀ entry ∈ maps.requestKeys.entries,
    Inverse (maps.requestValues.get? entry.2) (maps.responseValues.get? entry.2)

instance (maps : QualifierTable) : Decidable maps.TextsReturn :=
  inferInstanceAs (Decidable (∀ entry ∈ maps.requestKeys.entries, _))

/-- A table whose two directions fit together. -/
structure Coherent (maps : QualifierTable) : Prop where
  names : maps.NamesReturn
  texts : maps.TextsReturn

instance (maps : QualifierTable) : Decidable maps.Coherent :=
  decidable_of_iff (maps.NamesReturn ∧ maps.TextsReturn)
    ⟨fun both => ⟨both.1, both.2⟩, fun coherent => ⟨coherent.names, coherent.texts⟩⟩

/-- Whether the wire names of pairs are in capitals and have nothing to do with the attributes. -/
def PairsApart (maps : QualifierTable) : Prop :=
  ∀ entry ∈ maps.requestPairs.entries, ∀ pair ∈ entry.2.entries,
    Text.upper pair.2.key = pair.2.key ∧ maps.responseKeys.get? pair.2.key = none ∧
      maps.requestKeys.get? pair.2.key = none ∧ maps.requestPairs.get? pair.2.key = none

instance (maps : QualifierTable) : Decidable maps.PairsApart :=
  inferInstanceAs (Decidable (∀ entry ∈ maps.requestPairs.entries, ∀ pair ∈ entry.2.entries, _))

def image (maps : QualifierTable) (direction : Direction) (attributes : Attributes) : Attributes :=
  .ofList (attributes.entries.map fun entry => maps.target direction entry.1 entry.2)

def recordIssues (maps : QualifierTable) (qualifier : String) (direction : Direction)
    (index : Option Nat) (attributes : Attributes) : List Issue :=
  attributes.entries.flatMap fun entry => maps.issues qualifier direction index entry.1 entry.2

end QualifierTable

theorem Table.mapRecord_of_qualifier {table : Table} {qualifier : String} {maps : QualifierTable}
    (found : table.qualifier? qualifier = some maps) (direction : Direction) (index : Option Nat)
    (attributes : Attributes) : table.mapRecord qualifier direction index attributes =
      ⟨maps.image direction attributes,
        maps.recordIssues qualifier direction index attributes⟩ := by
  unfold mapRecord
  split
  · rename_i none
    rw [KeyMap.isEmpty_iff.mp none]
    rfl
  · rw [found]
    rfl

theorem Table.mapResponses_singleton {table : Table} {qualifier : String} {maps : QualifierTable}
    (found : table.qualifier? qualifier = some maps) (record : Attributes) :
    table.mapResponses qualifier [record] =
      ⟨[maps.image .response record], maps.recordIssues qualifier .response (some 0) record⟩ := by
  simp [mapResponses, mapRecord_of_qualifier found]

namespace QualifierTable

variable {maps : QualifierTable} {name wire other : String} {value : Json}

/-- An attribute of a request without an issue stands for a pair, or its name and its texts are
known. -/
inductive Clean (maps : QualifierTable) (name : String) (value : Json) : Prop where
  | flag (pair : WirePair) (stands : maps.pair? .request name value = some pair)
  | known (wire : String) (plain : maps.pair? .request name value = none)
      (known : maps.requestKeys.get? name = some wire)
      (texts : IsKnown (maps.requestValues.get? wire) value)

theorem clean_of_issues {qualifier : String} {index : Option Nat}
    (none : maps.issues qualifier .request index name value = []) : maps.Clean name value := by
  unfold issues at none
  cases stands : maps.pair? .request name value with
  | some pair => exact .flag pair stands
  | none =>
    simp only [stands, List.append_eq_nil_iff, List.map_eq_nil_iff] at none
    obtain ⟨named, texts⟩ := none
    cases known : maps.requestKeys.get? name with
    | none => simp [keys, lookupName, KeyMap.contains, known] at named
    | some wire =>
      refine .known wire stands known fun values found => unknownItems_eq_nil_iff.mp ?_
      simpa [QualifierTable.values, wireName, targetName, keys, lookupName, known, found]
        using texts

theorem Coherent.name_returns (coherent : maps.Coherent)
    (known : maps.requestKeys.get? name = some wire) : Text.upper wire = wire ∧
      maps.responseKeys.get? wire = some name ∧ maps.requestPairs.get? name = none :=
  coherent.names (name, wire) (KeyMap.get?_eq_some_iff.mp known)

theorem Coherent.texts_return (coherent : maps.Coherent)
    (known : maps.requestKeys.get? name = some wire) :
    Inverse (maps.requestValues.get? wire) (maps.responseValues.get? wire) :=
  coherent.texts (name, wire) (KeyMap.get?_eq_some_iff.mp known)

theorem Coherent.name_unique (coherent : maps.Coherent)
    (known : maps.requestKeys.get? name = some wire)
    (too : maps.requestKeys.get? other = some wire) : other = name := by
  have back := (coherent.name_returns known).2.1
  have backToo := (coherent.name_returns too).2.1
  exact Option.some.inj (backToo.symm.trans back)

theorem target_request (plain : maps.pair? .request name value = none)
    (known : maps.requestKeys.get? name = some wire) :
    maps.target .request name value =
      (wire, value.mapTexts (recode (maps.requestValues.get? wire))) := by
  simp only [target, plain, targetName, wireName, keys, values, lookupName, known, Option.getD_some]
  cases maps.requestValues.get? wire with
  | none => rw [recode_none, Json.mapTexts_id]
  | some values => exact congrArg (Prod.mk wire) (mapValue_eq_mapTexts values value)

theorem target_response (capital : Text.upper wire = wire)
    (known : maps.responseKeys.get? wire = some name) :
    maps.target .response wire value =
      (name, value.mapTexts (recode (maps.responseValues.get? wire))) := by
  simp only [target, pair?, targetName, wireName, keys, values, lookupName, capital, known,
    Option.getD_some]
  cases maps.responseValues.get? wire with
  | none => rw [recode_none, Json.mapTexts_id]
  | some values => exact congrArg (Prod.mk name) (mapValue_eq_mapTexts values value)

theorem response_issues_of_known (capital : Text.upper wire = wire)
    (known : maps.responseKeys.get? wire = some name)
    (texts : IsKnown (maps.responseValues.get? wire) value) (qualifier : String)
    (index : Option Nat) : maps.issues qualifier .response index wire value = [] := by
  simp only [issues, pair?, keys, values, wireName, lookupName, capital, known, KeyMap.contains,
    Option.isSome_some, ↓reduceIte, List.nil_append, List.map_eq_nil_iff]
  cases found : maps.responseValues.get? wire with
  | none => rfl
  | some values => exact unknownItems_eq_nil_iff.mpr (texts values found)

theorem target_flag {pair : WirePair} (stands : maps.pair? .request name value = some pair) :
    maps.target .request name value = (pair.key, .string pair.value) := by
  simp [target, stands]

theorem exists_of_flag {pair : WirePair} (stands : maps.pair? .request name value = some pair) :
    ∃ text pairs, value = .string text ∧ maps.requestPairs.get? name = some pairs ∧
      pairs.get? text = some pair := by
  simp only [pair?, Option.bind_eq_bind, Option.bind_eq_some_iff] at stands
  obtain ⟨pairs, found, text, read, stands⟩ := stands
  cases value <;> simp only [Json.string?, reduceCtorEq, Option.some.injEq] at read
  subst read
  exact ⟨_, pairs, rfl, found, stands⟩

theorem PairsApart.of_flag (apart : maps.PairsApart) {pair : WirePair}
    (stands : maps.pair? .request name value = some pair) :
    Text.upper pair.key = pair.key ∧ maps.responseKeys.get? pair.key = none ∧
      maps.requestKeys.get? pair.key = none ∧ maps.requestPairs.get? pair.key = none := by
  obtain ⟨text, pairs, _, found, stands⟩ := exists_of_flag stands
  exact apart (name, pairs) (KeyMap.get?_eq_some_iff.mp found) (text, pair)
    (KeyMap.get?_eq_some_iff.mp stands)

theorem PairsApart.target_response (apart : maps.PairsApart) {pair : WirePair}
    (stands : maps.pair? .request name value = some pair) (heard : Json) :
    (maps.target .response pair.key heard).1 = pair.key := by
  obtain ⟨capital, unknown, _, _⟩ := apart.of_flag stands
  simp [target, pair?, targetName, keys, lookupName, capital, unknown]

section Image

variable {direction : Direction} {attributes : Attributes} {result : Json}

theorem exists_of_image (found : (maps.image direction attributes).get? name = some value) :
    ∃ entry ∈ attributes.entries, maps.target direction entry.1 entry.2 = (name, value) :=
  List.mem_map.mp (KeyMap.mem_of_get?_ofList found)

theorem image_of_unique (member : attributes.get? other = some value)
    (target : maps.target direction other value = (name, result))
    (own : ∀ entry ∈ attributes.entries, (maps.target direction entry.1 entry.2).1 = name →
      entry.1 = other) : (maps.image direction attributes).get? name = some result := by
  have listed : (name, result) ∈ attributes.entries.map fun entry =>
      maps.target direction entry.1 entry.2 :=
    List.mem_map.mpr ⟨_, KeyMap.get?_eq_some_iff.mp member, target⟩
  apply KeyMap.get?_ofList_eq_some listed
  intro different found
  obtain ⟨⟨key, kept⟩, source, same⟩ := List.mem_map.mp found
  have named : key = other := own _ source (congrArg Prod.fst same)
  subst named
  have equal : kept = value :=
    Option.some.inj ((KeyMap.get?_eq_some_iff.mpr source).symm.trans member)
  subst equal
  exact congrArg Prod.snd (same.symm.trans target)

end Image

section Returned

variable {desired : Attributes}

/-- A record that is mapped to the wire and back. -/
def returned (maps : QualifierTable) (desired : Attributes) : Attributes :=
  maps.image .response (maps.image .request desired)

/-- On the wire an attribute whose name is known has a place of its own. -/
theorem get?_sent (coherent : maps.Coherent) (apart : maps.PairsApart)
    (clean : ∀ entry ∈ desired.entries, maps.Clean entry.1 entry.2)
    (member : desired.get? name = some value)
    (plain : maps.pair? .request name value = none)
    (known : maps.requestKeys.get? name = some wire) :
    (maps.image .request desired).get? wire =
      some (value.mapTexts (recode (maps.requestValues.get? wire))) := by
  apply image_of_unique member (target_request plain known)
  intro entry listed same
  cases clean entry listed with
  | flag pair stands =>
    rw [target_flag stands] at same
    have none := (apart.of_flag stands).2.1
    rw [show pair.key = wire from same, (coherent.name_returns known).2.1] at none
    cases none
  | known otherWire plain too _ =>
    rw [target_request plain too] at same
    exact coherent.name_unique known ((show otherWire = wire from same) ▸ too)

/-- What the response makes of a name on the wire: the caller's name that led to it, or the name of
a pair, which is nobody's. -/
theorem response_name (coherent : maps.Coherent) (apart : maps.PairsApart)
    (clean : ∀ entry ∈ desired.entries, maps.Clean entry.1 entry.2) {sent : Json}
    (found : (maps.image .request desired).get? wire = some sent) :
    maps.requestKeys.get? (maps.target .response wire sent).1 = some wire ∨
      ((maps.target .response wire sent).1 = wire ∧ maps.requestKeys.get? wire = none ∧
        maps.requestPairs.get? wire = none) := by
  obtain ⟨entry, listed, same⟩ := exists_of_image found
  cases clean entry listed with
  | flag pair stands =>
    rw [target_flag stands] at same
    cases same
    obtain ⟨_, _, unnamed, unpaired⟩ := apart.of_flag stands
    exact .inr ⟨apart.target_response stands _, unnamed, unpaired⟩
  | known otherWire plain known _ =>
    rw [target_request plain known] at same
    cases same
    obtain ⟨capital, back, _⟩ := coherent.name_returns known
    rw [target_response capital back]
    exact .inl known

theorem get?_returned (coherent : maps.Coherent) (apart : maps.PairsApart)
    (clean : ∀ entry ∈ desired.entries, maps.Clean entry.1 entry.2)
    (member : desired.get? name = some value)
    (plain : maps.pair? .request name value = none)
    (known : maps.requestKeys.get? name = some wire) :
    (maps.returned desired).get? name =
      some (value.mapTexts
        (recode (maps.responseValues.get? wire) ∘ recode (maps.requestValues.get? wire))) := by
  obtain ⟨capital, back, _⟩ := coherent.name_returns known
  rw [← Json.mapTexts_mapTexts]
  apply image_of_unique (get?_sent coherent apart clean member plain known)
    (target_response capital back)
  intro entry listed same
  rcases response_name coherent apart clean (KeyMap.get?_eq_some_iff.mpr listed) with
    source | ⟨kept, unnamed, _⟩
  · rw [same, known] at source
    exact (Option.some.inj source).symm
  · rw [← kept, same, known] at unnamed
    cases unnamed

theorem get?_returned_of_flag (coherent : maps.Coherent) (apart : maps.PairsApart)
    (clean : ∀ entry ∈ desired.entries, maps.Clean entry.1 entry.2) {pair : WirePair}
    (stands : maps.pair? .request name value = some pair) :
    (maps.returned desired).get? name = none := by
  apply Option.eq_none_iff_forall_ne_some.mpr
  intro result found
  obtain ⟨_, pairs, _, paired, _⟩ := exists_of_flag stands
  obtain ⟨entry, listed, same⟩ := exists_of_image found
  rcases response_name coherent apart clean (KeyMap.get?_eq_some_iff.mpr listed) with
    source | ⟨kept, _, unpaired⟩
  · rw [same] at source
    rw [(coherent.name_returns source).2.2] at paired
    cases paired
  · rw [← kept, same, paired] at unpaired
    cases unpaired

/-- Without pairs there are no issues on the way back. -/
theorem response_issues (coherent : maps.Coherent)
    (clean : ∀ entry ∈ desired.entries, maps.Clean entry.1 entry.2)
    (plain : ∀ entry ∈ desired.entries, maps.pair? .request entry.1 entry.2 = none)
    (qualifier : String) (index : Option Nat) :
    maps.recordIssues qualifier .response index (maps.image .request desired) = [] := by
  apply List.flatMap_eq_nil_iff.mpr
  rintro ⟨place, sent⟩ listed
  obtain ⟨entry, source, same⟩ := exists_of_image (KeyMap.get?_eq_some_iff.mpr listed)
  cases clean entry source with
  | flag pair stands =>
    rw [plain entry source] at stands
    cases stands
  | known wire unpaired known texts =>
    rw [target_request unpaired known] at same
    cases same
    obtain ⟨capital, back, _⟩ := coherent.name_returns known
    exact response_issues_of_known capital back ((coherent.texts_return known).isKnown texts)
      qualifier index

end Returned

end QualifierTable

end MqAdmin.Mapping
