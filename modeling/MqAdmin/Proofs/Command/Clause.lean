import MqAdmin.Mapping.Bundled
import MqAdmin.Proofs.Session.Construction
import MqAdmin.Proofs.Text.Blank

namespace MqAdmin

namespace Command

/-- The wire name of an attribute's name; a name that the map does not have stays. -/
def keyword (names : KeyMap String) (word : String) : String := (names.get? word).getD word

variable {names : KeyMap String} {clause text word gap rest : String}

theorem mapClause_of_word (trims : Text.Trims clause word) (whole : Text.Unbroken word) :
    mapClause names clause = keyword names word := by
  have trimmed : Text.trimChars clause.toList = word.toList := by
    rw [Text.trims_iff.mp trims, Text.trim, String.toList_ofList]
  rw [mapClause, trimmed, Text.cutAt_eq_none whole]
  simp only [String.ofList_toList, keyword]

theorem mapClause_of_splits (trims : Text.Trims clause text)
    (splits : Text.Splits text word gap rest) :
    mapClause names clause = keyword names word ++ " " ++ rest := by
  have trimmed : Text.trimChars clause.toList = text.toList := by
    rw [Text.trims_iff.mp trims, Text.trim, String.toList_ofList]
  obtain ⟨whole, unbroken, ⟨filled, blank⟩, c, cs, after, unblank⟩ := splits
  cases gaps : gap.toList with
  | nil => exact absurd (String.toList_eq_nil_iff.mp gaps) filled
  | cons space spaces =>
    have blanks : ∀ c ∈ space :: spaces, Text.isBlank c = true := gaps ▸ blank
    obtain ⟨first, others⟩ := List.forall_mem_cons.mp blanks
    have list : text.toList = word.toList ++ space :: (spaces ++ rest.toList) := by
      rw [whole, String.toList_append, String.toList_append, gaps, List.append_assoc,
        List.cons_append]
    have start : ∀ c ∈ rest.toList.head?, Text.isBlank c = false := by
      intro d head
      rw [after] at head
      cases head
      exact unblank
    rw [mapClause, trimmed, list, Text.cutAt_append unbroken first]
    simp only [Text.dropWhile_blanks others start, String.ofList_toList, keyword]

/-- Whether the wire names of a map are words, and no names for callers themselves. -/
def WireWords (names : KeyMap String) : Prop :=
  ∀ entry ∈ names.entries,
    entry.2 ≠ "" ∧ Text.Unbroken entry.2 ∧ names.get? entry.2 = none

instance (names : KeyMap String) : Decidable (WireWords names) :=
  inferInstanceAs (Decidable (∀ entry ∈ names.entries, _))

theorem wireWords_empty : WireWords ∅ := by decide

theorem WireWords.keyword_keyword (words : WireWords names) (word : String) :
    keyword names (keyword names word) = keyword names word := by
  unfold keyword
  cases known : names.get? word with
  | none => simp [known]
  | some wire =>
    obtain ⟨_, _, unnamed⟩ := words _ (KeyMap.get?_eq_some_iff.mp known)
    simp [unnamed]

theorem WireWords.keyword_unbroken (words : WireWords names) (unbroken : Text.Unbroken word) :
    Text.Unbroken (keyword names word) := by
  unfold keyword
  cases known : names.get? word with
  | none => exact unbroken
  | some wire => exact (words _ (KeyMap.get?_eq_some_iff.mp known)).2.1

theorem WireWords.keyword_ne_empty (words : WireWords names) (filled : word ≠ "") :
    keyword names word ≠ "" := by
  unfold keyword
  cases known : names.get? word with
  | none => exact filled
  | some wire => exact (words _ (KeyMap.get?_eq_some_iff.mp known)).1

theorem WireWords.mapClause_mapClause (words : WireWords names) (clause : String) :
    mapClause names (mapClause names clause) = mapClause names clause := by
  have trims : Text.Trims clause (Text.trim clause) := Text.trims_iff.mpr rfl
  by_cases whole : Text.Unbroken (Text.trim clause)
  · have unbroken := words.keyword_unbroken whole
    rw [mapClause_of_word trims whole, mapClause_of_word (.of_unbroken unbroken) unbroken,
      words.keyword_keyword]
  · obtain ⟨word, gap, rest, splits⟩ := Text.exists_splits trims.ending whole
    have filled := words.keyword_ne_empty (splits.word_ne_empty trims.start)
    have again := splits.rejoin (words.keyword_unbroken splits.word)
    rw [mapClause_of_splits trims splits,
      mapClause_of_splits (splits.trims_rejoin trims.ending filled again.word) again,
      words.keyword_keyword]

end Command

/-- The wire names of callers' names for a kind of object. -/
def Mapping.Table.requestNames (table : Table) (kind : String) : KeyMap String :=
  ((table.qualifier? kind).map (·.requestKeys)).getD ∅

theorem Mapping.bundled_wireWords : ∀ table ∈ Bundled.qualifiers.entries,
    Command.WireWords table.2.requestKeys := by
  decide +kernel

theorem Mapping.Table.wireWords_bundled (kind : String) :
    Command.WireWords (Table.bundled.requestNames kind) := by
  unfold requestNames
  cases known : Table.bundled.qualifier? kind with
  | none => exact Command.wireWords_empty
  | some maps => exact bundled_wireWords _ (KeyMap.get?_eq_some_iff.mp known)

namespace Session

/-- The wire name of an attribute's name for a kind of object. A name stays unless there is a table
for the kind and the name is in it. -/
inductive Renames (session : Session) (kind : Option String) (name : String) : String → Prop where
  | renamed (mapper : session.mapper = some table) (own : kind = some qualifier)
      (known : table.qualifier? qualifier = some maps)
      (found : maps.requestKeys.get? name = some wire) : Renames session kind name wire
  | kept (unknown : ∀ table qualifier maps, session.mapper = some table →
      kind = some qualifier → table.qualifier? qualifier = some maps →
        maps.requestKeys.get? name = none) : Renames session kind name name

/-- How a condition is sent. -/
inductive Rewords (session : Session) (kind : Option String) (clause : String) :
    String → Prop where
  | word (trims : Text.Trims clause word) (unbroken : Text.Unbroken word)
      (renames : session.Renames kind word key) : Rewords session kind clause key
  | condition (trims : Text.Trims clause text) (splits : Text.Splits text word gap rest)
      (renames : session.Renames kind word key) :
      Rewords session kind clause (key ++ " " ++ rest)

def requestNames (session : Session) (kind : Option String) : KeyMap String :=
  (session.mapper.bind fun table => kind.map table.requestNames).getD ∅

variable {session : Session} {kind : Option String} {name wire clause translated : String}

theorem wireNames_eq (session : Session) (command : Command) :
    session.wireNames command = session.requestNames (session.kind? command) := by
  unfold wireNames requestNames Mapping.Table.requestNames kind?
  cases session.mapper <;> rfl

theorem get?_requestNames_eq_some_iff : (session.requestNames kind).get? name = some wire ↔
    ∃ table qualifier maps, session.mapper = some table ∧ kind = some qualifier ∧
      table.qualifier? qualifier = some maps ∧ maps.requestKeys.get? name = some wire := by
  unfold requestNames
  cases session.mapper with
  | none => simp
  | some table =>
    cases kind with
    | none => simp
    | some qualifier =>
      cases found : table.qualifier? qualifier <;> simp [Mapping.Table.requestNames, found]

theorem renames_iff :
    session.Renames kind name wire ↔ wire = Command.keyword (session.requestNames kind) name := by
  unfold Command.keyword
  cases found : (session.requestNames kind).get? name with
  | none =>
    rw [Option.getD_none]
    constructor
    · intro renames
      cases renames with
      | renamed mapper own known named =>
        have other := get?_requestNames_eq_some_iff.mpr ⟨_, _, _, mapper, own, known, named⟩
        rw [found] at other
        cases other
      | kept => rfl
    · intro same
      subst same
      refine .kept fun table qualifier maps mapper own known => ?_
      apply Option.eq_none_iff_forall_ne_some.mpr
      intro wire named
      have other := get?_requestNames_eq_some_iff.mpr ⟨_, _, _, mapper, own, known, named⟩
      rw [found] at other
      cases other
  | some known =>
    obtain ⟨table, qualifier, maps, mapper, own, listed, named⟩ :=
      get?_requestNames_eq_some_iff.mp found
    rw [Option.getD_some]
    constructor
    · intro renames
      cases renames with
      | renamed mapper own listed other =>
        have same := get?_requestNames_eq_some_iff.mpr ⟨_, _, _, mapper, own, listed, other⟩
        rw [found] at same
        exact (Option.some.inj same).symm
      | kept unknown =>
        rw [unknown table qualifier maps mapper own listed] at named
        cases named
    · intro same
      subst same
      exact .renamed mapper own listed named

theorem rewords_iff : session.Rewords kind clause translated ↔
    translated = Command.mapClause (session.requestNames kind) clause := by
  constructor
  · intro rewords
    cases rewords with
    | word trims unbroken renames =>
      rw [Command.mapClause_of_word trims unbroken, ← renames_iff]
      exact renames
    | condition trims splits renames =>
      rw [Command.mapClause_of_splits trims splits, ← renames_iff.mp renames]
  · intro same
    subst same
    have trims : Text.Trims clause (Text.trim clause) := Text.trims_iff.mpr rfl
    by_cases unbroken : Text.Unbroken (Text.trim clause)
    · rw [Command.mapClause_of_word trims unbroken]
      exact .word trims unbroken (renames_iff.mpr rfl)
    · obtain ⟨word, gap, rest, splits⟩ := Text.exists_splits trims.ending unbroken
      rw [Command.mapClause_of_splits trims splits]
      exact .condition trims splits (renames_iff.mpr rfl)

theorem Documents.condition {command : Command} {payload : Json}
    (document : session.Documents command payload) (given : command.whereClause = some clause) :
    ∃ parameters translated, payload.get? "parameters" = some (.ofAttributes parameters) ∧
      parameters.get? "WHERE" = some (.string translated) ∧
      session.Rewords (session.kind? command) clause translated := by
  obtain ⟨parameters, stated, held⟩ := document.parameters
  have present := stated.condition clause given
  have filled : ¬ parameters.isEmpty = true := by
    intro none
    rw [KeyMap.isEmpty_iff.mp none] at present
    cases present
  refine ⟨parameters, _, ?_, present, ?_⟩
  · rw [held, parametersField, if_neg filled]
  · rw [wireNames_eq]
    exact rewords_iff.mpr rfl

theorem wireWords_requestNames (kind : Option String)
    (usual : session.mapper = none ∨ session.mapper = some Mapping.Table.bundled) :
    Command.WireWords (session.requestNames kind) := by
  rcases usual with mapper | mapper
  · simpa [requestNames, mapper] using Command.wireWords_empty
  · cases kind with
    | none => simpa [requestNames, mapper] using Command.wireWords_empty
    | some qualifier =>
      simpa [requestNames, mapper] using Mapping.Table.wireWords_bundled qualifier

/-- A condition is sent with its first word in wire names and with all that follows it as it was
given, cut in the only way there is, and this is what the requests of its command carry. By the
bundled table, and without a table, a condition in wire names stays. -/
theorem conditions_kept (session : Session) (kind : Option String) (clause : String) :
    let translate := Command.mapClause (session.requestNames kind)
    (∀ translated, session.Rewords kind clause translated ↔ translated = translate clause) ∧
    (∀ text, Text.Trims clause text ↔ text = Text.trim clause) ∧
    (Text.Unbroken (Text.trim clause) ∨ ∃! parts : String × String × String,
      Text.Splits (Text.trim clause) parts.1 parts.2.1 parts.2.2) ∧
    (∀ (command : Command) {σ : Type} (world : World σ) (state : σ),
      command.whereClause = some clause →
      ∀ request ∈ requests ((execute command).course world session state).events,
        ∃ parameters translated,
          request.payload.get? "parameters" = some (.ofAttributes parameters) ∧
          parameters.get? "WHERE" = some (.string translated) ∧
          session.Rewords (session.kind? command) clause translated) ∧
    (session.mapper = none ∨ session.mapper = some Mapping.Table.bundled →
      translate (translate clause) = translate clause) := by
  refine ⟨fun translated => rewords_iff, fun text => Text.trims_iff, ?_, ?_, fun usual => ?_⟩
  · by_cases unbroken : Text.Unbroken (Text.trim clause)
    · exact .inl unbroken
    · have trims : Text.Trims clause (Text.trim clause) := Text.trims_iff.mpr rfl
      obtain ⟨word, gap, rest, splits⟩ := Text.exists_splits trims.ending unbroken
      refine .inr ⟨(word, gap, rest), splits, fun parts too => ?_⟩
      obtain ⟨first, second, third⟩ := too.unique splits
      exact Prod.ext first (Prod.ext second third)
  · intro command σ world state given request posted
    have posts : (execute command).Posts session.Becomes fun request =>
        session.Documents command request.payload :=
      session.execute_posts command fun _ _ ready => documents_of_ready ready
    have document := (posts session (.refl session)).requests_fit world state request posted
    exact document.condition given
  · exact (wireWords_requestNames kind usual).mapClause_mapClause clause

/-- Quotes, and blanks of any kind behind the first ones, are part of what stays. -/
example :
    Command.mapClause (.ofAscending [("description", "DESCR")])
      "\t description\u2003 LK  'a  b' \u00a0" = "DESCR LK  'a  b'" := by
  decide +kernel

end Session

end MqAdmin
