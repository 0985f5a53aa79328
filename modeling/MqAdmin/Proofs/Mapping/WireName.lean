import MqAdmin.Proofs.Command.Clause
import MqAdmin.Proofs.Mapping.Troubles

namespace MqAdmin

open Command (keyword)

/-- After its first word a condition goes on in one way whatever the word is sent as: with a space,
or not at all. -/
theorem Text.FirstWord.exists_mapClause {clause word : String}
    (first : Text.FirstWord clause word) : ∃ rest, (∀ c ∈ rest.toList.head?, c = ' ') ∧
      ∀ names, Command.mapClause names clause = keyword names word ++ rest := by
  rcases first.trims with trims | ⟨core, gap, rest, trims, splits⟩
  · refine ⟨"", by simp, fun names => ?_⟩
    rw [Command.mapClause_of_word trims first.unbroken, String.append_empty]
  · refine ⟨" " ++ rest, ?_, fun names => ?_⟩
    · intro c head
      simpa [eq_comm] using head
    · rw [Command.mapClause_of_splits trims splits, String.append_assoc]

namespace Mapping.Table

variable {table : Table} {kind name : String} {value : Json}

instance (name : String) : Decidable (AsksForAll name) :=
  inferInstanceAs (Decidable (_ = _))

def only (name : String) (value : Json) : Attributes := .ofList [(name, value)]

/-- Whether a name does not stand for a wire pair with a value. -/
def Alone (table : Table) (kind name : String) (value : Json) : Prop :=
  ∀ maps, table.qualifier? kind = some maps → ∀ pair, ¬ maps.Stands name value pair

/-- Whether there is a table for a kind of object in which a name is missing. -/
def Misses (table : Table) (kind name : String) : Prop :=
  ∃ maps, table.qualifier? kind = some maps ∧ maps.requestKeys.get? name = none

theorem requestNames_of_qualifier {maps : QualifierTable}
    (known : table.qualifier? kind = some maps) : table.requestNames kind = maps.requestKeys := by
  rw [requestNames, known, Option.map_some, Option.getD_some]

theorem requestNames_of_absent (absent : table.qualifier? kind = none) :
    table.requestNames kind = ∅ := by
  rw [requestNames, absent, Option.map_none, Option.getD_none]

theorem keys_mapRequest_only (alone : table.Alone kind name value) :
    (table.mapRequest kind (only name value)).mapped.keys =
      [keyword (table.requestNames kind) name] := by
  cases known : table.qualifier? kind with
  | none =>
    rw [mapRequest, mapped_of_absent known, requestNames_of_absent known]
    rfl
  | some maps =>
    have plain := QualifierTable.pair?_eq_none_iff.mpr (alone maps known)
    have image : maps.image .request (only name value) =
        .ofList [maps.target .request name value] := rfl
    rw [mapRequest, mapRecord_of_qualifier known, requestNames_of_qualifier known, image,
      QualifierTable.target_of_plain plain]
    rfl

theorem unknownKey_mapRequest_only_iff (alone : table.Alone kind name value) :
    (∃ issue ∈ (table.mapRequest kind (only name value)).issues,
      issue.reason = .unknownKey ∧ issue.attributeName = name) ↔ table.Misses kind name := by
  unfold Misses
  cases known : table.qualifier? kind with
  | none =>
    have issues : (table.mapRequest kind (only name value)).issues =
        [.ofKind kind .request none] := by
      simp only [mapRequest, mapRecord, known]
      rfl
    simp [issues, Issue.ofKind]
  | some maps =>
    have plain := QualifierTable.pair?_eq_none_iff.mpr (alone maps known)
    have issues : (table.mapRequest kind (only name value)).issues =
        (maps.plainTroubles .request name value).map
          (Trouble.issue kind .request none name) := by
      rw [← QualifierTable.issues_of_plain plain, mapRequest, mapRecord_of_qualifier known]
      exact List.append_nil _
    simp only [issues, List.mem_map, Option.some.injEq, exists_eq_left']
    constructor
    · intro reported
      obtain ⟨issue, ⟨trouble, member, same⟩, reason, _⟩ := reported
      cases trouble with
      | text unknown =>
        subst same
        cases reason
      | name =>
        rcases List.mem_append.mp member with named | valued
        · unfold nameTroubles at named
          split at named
          · cases named
          · rename_i missing
            simpa [QualifierTable.keys, lookupName] using missing
        · unfold textTroubles at valued
          split at valued <;> simp at valued
    · intro missing
      refine ⟨_, ⟨.name, ?_, rfl⟩, rfl, rfl⟩
      apply List.mem_append_left
      simp [nameTroubles, QualifierTable.keys, lookupName, missing]

variable (single : ¬ AsksForAll name)

include single

theorem mapped_mapNames_single : (table.mapNames kind [name]).mapped =
    [keyword (table.requestNames kind) name] := by
  have single : isAll name = false := Bool.eq_false_iff.mpr (mt isAll_iff.mp single)
  unfold mapNames
  cases known : table.qualifier? kind with
  | none =>
    rw [requestNames_of_absent known]
    rfl
  | some maps =>
    rw [requestNames_of_qualifier known]
    simp [single, keyword]

theorem issue_mapNames_single_iff :
    (∃ issue ∈ (table.mapNames kind [name]).issues, issue.attributeName = name) ↔
      table.Misses kind name := by
  have single : isAll name = false := Bool.eq_false_iff.mpr (mt isAll_iff.mp single)
  unfold mapNames Misses
  cases known : table.qualifier? kind with
  | none => simp
  | some maps =>
    cases found : maps.requestKeys.get? name <;> simp [single, KeyMap.contains, found]

end Mapping.Table

namespace Mapping.Table

/-- A name as it may be given in three places: with a value in a record, among the names that are
asked for, and as the first word of a condition. -/
structure Given (table : Table) (kind name : String) (value : Json) (clause : String) : Prop where
  single : ¬ AsksForAll name
  alone : table.Alone kind name value
  first : Text.FirstWord clause name

def sentClause (table : Table) (kind clause : String) : String :=
  Command.mapClause (table.requestNames kind) clause

/-- Whether a wire name stands in all three places: it is the only name of the record and the only
one that is asked for, and the sent condition begins with it, before a space or at the end. -/
structure StandsFor (table : Table) (kind name : String) (value : Json) (clause wire : String) :
    Prop where
  record : (table.mapRequest kind (only name value)).mapped.keys = [wire]
  asked : (table.mapNames kind [name]).mapped = [wire]
  condition : ∃ rest, table.sentClause kind clause = wire ++ rest ∧
    ∀ c ∈ rest.toList.head?, c = ' '

/-- A name has one wire name wherever it is given. This is the first word of the condition exactly
if it is a word, as it always is by the bundled table. The condition is what sessions send, and the
names that are asked for raise an issue exactly if the record raises one about the name. -/
theorem one_wire_name {table : Table} {kind name : String} {value : Json} {clause : String}
    (given : table.Given kind name value clause) :
    ∃ wire, table.StandsFor kind name value clause wire ∧
      (Text.FirstWord (table.sentClause kind clause) wire ↔ wire ≠ "" ∧ Text.Unbroken wire) ∧
      (table = .bundled → Text.FirstWord (table.sentClause kind clause) wire) ∧
      (∀ (session : Session) (sent : String), session.mapper = some table →
        (session.Rewords (some kind) clause sent ↔ sent = table.sentClause kind clause)) ∧
      ((∃ issue ∈ (table.mapNames kind [name]).issues, issue.attributeName = name) ↔
        ∃ issue ∈ (table.mapRequest kind (only name value)).issues,
          issue.reason = .unknownKey ∧ issue.attributeName = name) := by
  obtain ⟨single, alone, first⟩ := given
  obtain ⟨rest, space, cut⟩ := first.exists_mapClause
  have sent : table.sentClause kind clause = keyword (table.requestNames kind) name ++ rest :=
    cut (table.requestNames kind)
  have begins : Text.FirstWord (table.sentClause kind clause)
      (keyword (table.requestNames kind) name) ↔ keyword (table.requestNames kind) name ≠ "" ∧
        Text.Unbroken (keyword (table.requestNames kind) name) := by
    rw [sent]
    apply Text.firstWord_append_iff
    intro c head
    rw [space c head]
    decide
  refine ⟨keyword (table.requestNames kind) name, ⟨keys_mapRequest_only alone,
    mapped_mapNames_single single, rest, sent, space⟩, begins, ?_, ?_, ?_⟩
  · intro bundled
    subst bundled
    have words := wireWords_bundled kind
    exact begins.mpr ⟨words.keyword_ne_empty first.filled, words.keyword_unbroken first.unbroken⟩
  · intro session other mapper
    have names : session.requestNames (some kind) = table.requestNames kind := by
      simp [Session.requestNames, mapper]
    rw [Session.rewords_iff, names, sentClause]
  · rw [issue_mapNames_single_iff single, unknownKey_mapRequest_only_iff alone]

/-- The depth of a queue, by the bundled table. -/
theorem one_wire_name_depth :
    let clause := " max_queue_depth  GT 100"
    Table.bundled.Given "queue" "max_queue_depth" (.ofNat 5) clause ∧
      ∃ wire, Table.bundled.StandsFor "queue" "max_queue_depth" (.ofNat 5) clause wire ∧
        Text.FirstWord (Table.bundled.sentClause "queue" clause) wire := by
  have given : Table.bundled.Given "queue" "max_queue_depth" (.ofNat 5)
      " max_queue_depth  GT 100" := by
    refine ⟨by decide +kernel, ?_, ⟨by decide, by decide, " ", "  GT 100", by decide, by decide,
      ?_⟩⟩
    · intro maps _ pair stands
      obtain ⟨text, _, same, _⟩ := stands
      cases same
    · intro c head
      cases head
      decide
  obtain ⟨wire, stands, _, bundled, _⟩ := one_wire_name given
  exact ⟨given, wire, stands, bundled rfl⟩

def spaced : Table where
  qualifiers := .ofAscending
    [("queue", { requestKeys := .ofAscending [("depth", "CUR DEPTH")] })]

/-- By a table that gives a name of two words no wire name is the first word as well. -/
theorem spaced_name_splits :
    spaced.Given "queue" "depth" (.ofNat 5) "depth GT 1" ∧
      ¬ ∃ wire, (spaced.mapRequest "queue" (only "depth" (.ofNat 5))).mapped.keys = [wire] ∧
        (spaced.mapNames "queue" ["depth"]).mapped = [wire] ∧
        Text.FirstWord (spaced.sentClause "queue" "depth GT 1") wire := by
  refine ⟨⟨by decide +kernel, ?_, ⟨by decide, by decide, "", " GT 1", by decide, by decide, ?_⟩⟩,
    ?_⟩
  · intro maps _ pair stands
    obtain ⟨text, _, same, _⟩ := stands
    cases same
  · intro c head
    cases head
    decide
  · intro found
    obtain ⟨wire, _, asked, first⟩ := found
    have names : (spaced.mapNames "queue" ["depth"]).mapped = ["CUR DEPTH"] := by decide +kernel
    rw [names] at asked
    have same : "CUR DEPTH" = wire := List.head_eq_of_cons_eq asked
    have broken : ¬ Text.Unbroken "CUR DEPTH" := by decide
    exact broken (same ▸ first.unbroken)

end Mapping.Table

end MqAdmin
