import MqAdmin.Mapping.Bundled
import MqAdmin.Proofs.Mapping.RoundTrip
import MqAdmin.Proofs.Sync.Polling

/-!
Looks at the status through a mapping. The bundled tables give the attribute that holds the state
another name and its texts another spelling, and the rules for the state know both of each; so a
look decides the same whether the records that it finds were mapped or not.
-/

namespace MqAdmin

namespace Mapping

theorem Table.mapResponses_mapped {table : Table} {qualifier : String} {maps : QualifierTable}
    (found : table.qualifier? qualifier = some maps) (records : List Attributes) :
    (table.mapResponses qualifier records).mapped = records.map (maps.image .response) := by
  have zipped : (table.mapResponses qualifier records).mapped =
      records.zipIdx.map (maps.image .response ∘ Prod.fst) := by
    simp [mapResponses, mapRecord_of_qualifier found]
  rw [zipped, ← List.map_map, List.zipIdx_map_fst]

end Mapping

def Session.unmapped (session : Session) : Session := { session with mapper := none }

namespace Sync

open Mapping

/-- Whether a record has the names of the wire, all in capitals. -/
def InCapitals (record : Attributes) : Prop :=
  ∀ entry ∈ record.entries, Text.upper entry.1 = entry.1

instance (record : Attributes) : Decidable (InCapitals record) :=
  inferInstanceAs (Decidable (∀ entry ∈ record.entries, _))

theorem InCapitals.get?_eq_none {record : Attributes} {name : String} (capitals : InCapitals record)
    (small : Text.upper name ≠ name) : record.get? name = none := by
  apply Option.eq_none_iff_forall_ne_some.mpr
  intro value found
  have capital := capitals (name, value) (KeyMap.get?_eq_some_iff.mp found)
  exact small capital

/-- Whether a table has a name of its own for one attribute of the wire, and spells none of the
given states like a text that is no such state, or the other way round. -/
structure Relabels (maps : QualifierTable) (wire caller : String) (states : List String) :
    Prop where
  capital : Text.upper wire = wire
  small : Text.upper caller ≠ caller
  renamed : maps.responseKeys.get? wire = some caller
  alone : ∀ entry ∈ maps.responseKeys.entries,
    (entry.2 = caller → entry.1 = wire) ∧ entry.2 ≠ wire
  alike : ∀ values ∈ maps.responseValues.get? wire, ∀ entry ∈ values.entries,
    (Text.trim entry.2 ∈ states ↔ Text.trim entry.1 ∈ states)

instance (maps : QualifierTable) (wire caller : String) (states : List String) :
    Decidable (Relabels maps wire caller states) :=
  decidable_of_iff (Text.upper wire = wire ∧ Text.upper caller ≠ caller ∧
      maps.responseKeys.get? wire = some caller ∧
      (∀ entry ∈ maps.responseKeys.entries, (entry.2 = caller → entry.1 = wire) ∧
        entry.2 ≠ wire) ∧
      ∀ values ∈ maps.responseValues.get? wire, ∀ entry ∈ values.entries,
        (Text.trim entry.2 ∈ states ↔ Text.trim entry.1 ∈ states))
    ⟨fun all => ⟨all.1, all.2.1, all.2.2.1, all.2.2.2.1, all.2.2.2.2⟩, fun relabels =>
      ⟨relabels.capital, relabels.small, relabels.renamed, relabels.alone, relabels.alike⟩⟩

section Record

variable {maps : QualifierTable} {wire caller : String} {states : List String} {record : Attributes}

theorem Relabels.trim_recode (relabels : Relabels maps wire caller states) (text : String) :
    Text.trim (recode (maps.responseValues.get? wire) text) ∈ states ↔
      Text.trim text ∈ states := by
  cases found : maps.responseValues.get? wire with
  | none => rw [recode_none, id]
  | some values =>
    cases spelled : values.get? text with
    | none => rw [recode, Option.bind_some, spelled, Option.getD_none]
    | some coded =>
      rw [recode, Option.bind_some, spelled, Option.getD_some]
      exact relabels.alike values found (text, coded) (KeyMap.get?_eq_some_iff.mp spelled)

theorem target_response_fst {name : String} (capital : Text.upper name = name) (value : Json) :
    (maps.target .response name value).1 = (maps.responseKeys.get? name).getD name := by
  simp [QualifierTable.target, QualifierTable.pair?, QualifierTable.targetName,
    QualifierTable.keys, lookupName, capital]

theorem Relabels.get?_wire (relabels : Relabels maps wire caller states)
    (capitals : InCapitals record) : (maps.image .response record).get? wire = none := by
  apply Option.eq_none_iff_forall_ne_some.mpr
  intro value found
  obtain ⟨entry, listed, same⟩ := QualifierTable.exists_of_image found
  have called : (maps.target .response entry.1 entry.2).1 = _ :=
    target_response_fst (capitals entry listed) entry.2
  rw [same] at called
  cases known : maps.responseKeys.get? entry.1 with
  | some other =>
    rw [known] at called
    exact (relabels.alone _ (KeyMap.get?_eq_some_iff.mp known)).2 called.symm
  | none =>
    rw [known] at called
    have own : wire = entry.1 := called
    rw [← own, relabels.renamed] at known
    cases known

/-- The attribute of the wire alone is called by the caller's name. -/
theorem Relabels.get?_caller (relabels : Relabels maps wire caller states)
    (capitals : InCapitals record) : (maps.image .response record).get? caller =
      (record.get? wire).map (·.mapTexts (recode (maps.responseValues.get? wire))) := by
  have own : ∀ entry ∈ record.entries,
      (maps.target .response entry.1 entry.2).1 = caller → entry.1 = wire := by
    intro entry listed same
    rw [target_response_fst (capitals entry listed)] at same
    cases known : maps.responseKeys.get? entry.1 with
    | some other =>
      rw [known] at same
      exact (relabels.alone _ (KeyMap.get?_eq_some_iff.mp known)).1 same
    | none =>
      rw [known] at same
      have named : entry.1 = caller := same
      exact absurd (named ▸ capitals entry listed) relabels.small
  cases member : record.get? wire with
  | some value =>
    exact QualifierTable.image_of_unique member
      (QualifierTable.target_response relabels.capital relabels.renamed) own
  | none =>
    apply Option.eq_none_iff_forall_ne_some.mpr
    intro value found
    obtain ⟨entry, listed, same⟩ := QualifierTable.exists_of_image found
    have named := own entry listed (congrArg Prod.fst same)
    rw [← named, KeyMap.get?_eq_some_iff.mpr listed] at member
    cases member

/-- A record shows a state under the caller's name after the mapping exactly if it showed one under
the name of the wire before. -/
theorem Relabels.recordShows_image (relabels : Relabels maps wire caller states)
    (capitals : InCapitals record) :
    recordShows [caller, wire] states (maps.image .response record) =
      recordShows [caller, wire] states record := by
  apply Bool.eq_iff_iff.mpr
  rw [recordShows_iff, recordShows_iff]
  simp only [List.mem_cons, List.not_mem_nil, or_false, exists_eq_or_imp, exists_eq_left,
    relabels.get?_wire capitals, relabels.get?_caller capitals,
    capitals.get?_eq_none relabels.small, reduceCtorEq, false_and, exists_false, false_or,
    or_false, Option.map_eq_some_iff]
  constructor
  · rintro ⟨text, ⟨value, member, mapped⟩, shown⟩
    cases value with
    | string given =>
      cases mapped
      exact ⟨given, member, (relabels.trim_recode given).mp shown⟩
    | _ => cases mapped
  · rintro ⟨text, member, shown⟩
    exact ⟨_, ⟨_, member, rfl⟩, (relabels.trim_recode text).mpr shown⟩

end Record

/-- Whether a rule for the state knows both names of the attribute that holds it, before and after a
mapping of the records of a kind. -/
structure StatusRule.KnowsBoth (rule : StatusRule) (kind : String) (maps : QualifierTable) :
    Prop where
  capital : Text.upper rule.statusQualifier = rule.statusQualifier
  resolves : Table.bundled.resolveQualifier "DISPLAY" rule.statusQualifier = kind
  found : Table.bundled.qualifier? kind = some maps
  names : ∃ wire caller, rule.keys = [caller, wire] ∧
    ∀ states ∈ [runningStates, stoppedStates], Relabels maps wire caller states

theorem rules_knowBoth : ∀ named ∈ rules, ∃ kind maps, named.2.KnowsBoth kind maps := by
  simp only [rules, List.forall_mem_cons]
  refine ⟨⟨"chstatus", Bundled.chstatus, ?_⟩, ⟨"lsstatus", Bundled.lsstatus, ?_⟩,
    ⟨"svstatus", Bundled.svstatus, ?_⟩, by simp⟩
  · exact ⟨by decide +kernel, by decide +kernel, by decide +kernel,
      "STATUS", "channel_status", rfl, by decide +kernel⟩
  · exact ⟨by decide +kernel, by decide +kernel, by decide +kernel,
      "STATUS", "status", rfl, by decide +kernel⟩
  · exact ⟨by decide +kernel, by decide +kernel, by decide +kernel,
      "STATUS", "status", rfl, by decide +kernel⟩

section Records

variable {rule : StatusRule} {kind : String} {maps : QualifierTable} {records : List Attributes}

theorem StatusRule.KnowsBoth.showsState_mapped (knows : rule.KnowsBoth kind maps)
    (capitals : ∀ record ∈ records, InCapitals record) {states : List String}
    (listed : states ∈ [runningStates, stoppedStates]) :
    showsState (Table.bundled.mapResponses kind records).mapped rule.keys states =
      showsState records rule.keys states := by
  obtain ⟨wire, caller, keys, relabels⟩ := knows.names
  rw [Table.mapResponses_mapped knows.found, keys]
  induction records with
  | nil => rfl
  | cons record rest ih =>
    have first := (relabels states listed).recordShows_image (capitals record List.mem_cons_self)
    have others := ih fun record member => capitals record (List.mem_cons_of_mem _ member)
    rw [showsState, showsState, List.map_cons, List.any_cons, List.any_cons, first]
    exact congrArg _ others

theorem StatusRule.KnowsBoth.observed_mapped (knows : rule.KnowsBoth kind maps)
    (capitals : ∀ record ∈ records, InCapitals record) (operation : Transition) :
    Observed rule operation (Table.bundled.mapResponses kind records).mapped ↔
      Observed rule operation records := by
  have running : showsState _ rule.keys runningStates = _ :=
    knows.showsState_mapped capitals (by simp)
  have stopped : showsState _ rule.keys stoppedStates = _ :=
    knows.showsState_mapped capitals (by simp)
  have empty : (Table.bundled.mapResponses kind records).mapped.isEmpty = records.isEmpty := by
    rw [Table.mapResponses_mapped knows.found, List.isEmpty_map]
  rw [← reached_iff, ← reached_iff]
  cases operation <;> simp only [reached, running, stopped, empty]

end Records

section Status

variable {rule : StatusRule} {kind : String} {maps : QualifierTable} {session : Session}

/-- A session that lets issues pass comes to the mapped records of what it would come to without a
mapping, and fails where that fails. -/
theorem StatusRule.KnowsBoth.verdict_mapped (knows : rule.KnowsBoth kind maps)
    (bundled : session.mapper = some .bundled)
    (lenient : session.settings.mappingStrict = false) (reply : Reply) :
    session.verdict (some kind) reply = (session.unmapped.verdict none reply).map
      fun records => (Table.bundled.mapResponses kind records).mapped := by
  have caller (records : List Attributes) : session.callerRecords (some kind) records =
      .ok (Table.bundled.mapResponses kind records).mapped := by
    by_cases none : records = []
    · subst none
      simp [Session.callerRecords, bundled, Table.mapResponses]
    · rw [Session.callerRecords_of_maps ⟨bundled, rfl, by simp [knows.found]⟩ none]
      simp [lenient]
  have rules := session.unmapped.verdict_rule none reply
  generalize session.unmapped.verdict none reply = result at rules ⊢
  cases rules with
  | transport failure => rfl
  | auth refused => exact (Session.Verdict.auth refused).eq_verdict.symm
  | response heard unread => exact (Session.Verdict.response heard unread).eq_verdict.symm
  | command heard read reports => exact (Session.Verdict.command heard read reports).eq_verdict.symm
  | plain heard read fine _ =>
    rw [Session.verdict, Session.judge_of_reads heard read,
      if_neg (mt (Answer.reportsFailure_iff _).mp fine), caller]
    rfl
  | mapped _ _ _ maps => cases maps.1
  | mapping _ _ _ maps => cases maps.1

theorem StatusRule.KnowsBoth.statusOf_mapped (knows : rule.KnowsBoth kind maps)
    (bundled : session.mapper = some .bundled)
    (lenient : session.settings.mappingStrict = false) (name : String) (reply : Reply) :
    statusOf session rule name reply = (statusOf session.unmapped rule name reply).map
      fun records => (Table.bundled.mapResponses kind records).mapped := by
  have mapped : session.kind? (statusCommand rule name) = some kind := by
    simp only [Session.kind?, bundled, statusCommand, Option.map_some, Text.upper_display,
      knows.capital, knows.resolves]
  have plain : session.unmapped.kind? (statusCommand rule name) = none := rfl
  rw [statusOf, statusOf, mapped, plain, knows.verdict_mapped bundled lenient]
  cases session.unmapped.verdict none reply with
  | ok records => rfl
  | error error =>
    by_cases reported : error.isCommand = true
    · simp [Session.orNone, Except.map, reported, Table.mapResponses]
    · simp [Session.orNone, Except.map, reported]

/-- Whether all records that a reply can be read as have the names of the wire. -/
def RepliesInCapitals (reply : Reply) : Prop :=
  ∀ response payload, reply = .ok response → response.Reads payload →
    ∀ record ∈ Answer.records payload, InCapitals record

theorem capitals_of_statusOf {name : String} {reply : Reply} {records : List Attributes}
    (capitals : RepliesInCapitals reply)
    (read : statusOf session.unmapped rule name reply = .ok records) :
    ∀ record ∈ records, InCapitals record := by
  unfold statusOf at read
  have rules := session.unmapped.verdict_rule
    (session.unmapped.kind? (statusCommand rule name)) reply
  generalize session.unmapped.verdict _ reply = result at rules read
  cases rules with
  | transport | auth | response => cases read
  | command =>
    cases read
    simp
  | plain _ reads _ _ =>
    cases read
    exact capitals _ _ rfl reads
  | mapped _ _ _ maps => cases maps.1
  | mapping _ _ _ maps => cases maps.1

end Status

/-- Two readings of one reply that decide the same: they fail alike, or they show the same
states. -/
inductive DecidesAlike (rule : StatusRule) :
    (one other : Except Error (List Attributes)) → Prop where
  | failed (error : Error) : DecidesAlike rule (.error error) (.error error)
  | read (alike : ∀ operation, Observed rule operation records ↔ Observed rule operation others) :
      DecidesAlike rule (.ok records) (.ok others)

theorem DecidesAlike.symm {rule : StatusRule} {one other : Except Error (List Attributes)}
    (alike : DecidesAlike rule one other) : DecidesAlike rule other one := by
  cases alike with
  | failed error => exact .failed error
  | read alike => exact .read fun operation => (alike operation).symm

section Alike

variable {rule : StatusRule} {session other : Session} {name : String} {budget : Budget}
  {operation : Transition} {start : Instant}

theorem Undecided.of_alike {look : Look}
    (alike : DecidesAlike rule (statusOf session rule name look.reply)
      (statusOf other rule name look.reply))
    (undecided : Undecided session rule name budget operation start look) :
    Undecided other rule name budget operation start look := by
  obtain ⟨looks, ⟨records, read, unseen⟩, early⟩ := undecided
  rw [read] at alike
  generalize found : statusOf other rule name look.reply = result at alike
  cases alike with
  | read alike => exact ⟨looks, ⟨_, found, mt (alike operation).mpr unseen⟩, early⟩

theorem Decided.of_alike {number : Nat} {events : List Event} {result : Except Error Outcome}
    (alike : ∀ request reply, .sent request reply ∈ events →
      DecidesAlike rule (statusOf session rule name reply) (statusOf other rule name reply))
    (decided : Decided session rule name budget operation start number events result) :
    Decided other rule name budget operation start number events result := by
  cases decided with
  | @failed request reply error looks fails =>
    have same := alike request reply (by simp)
    rw [fails] at same
    generalize found : statusOf other rule name reply = result at same
    cases same with
    | failed error => exact .failed looks found
  | @observed records look looks read shown =>
    have same := alike look.request look.reply (by simp [Look.events])
    rw [read] at same
    generalize found : statusOf other rule name look.reply = result at same
    cases same with
    | read alike => exact .observed looks found ((alike operation).mp shown)
  | @timedOut records look looks read unseen late =>
    have same := alike look.request look.reply (by simp [Look.events])
    rw [read] at same
    generalize found : statusOf other rule name look.reply = result at same
    cases same with
    | read alike => exact .timedOut looks found (mt (alike operation).mpr unseen) late

end Alike

theorem StatusRule.KnowsBoth.decidesAlike {rule : StatusRule} {kind : String}
    {maps : QualifierTable} {session : Session} (knows : rule.KnowsBoth kind maps)
    (bundled : session.mapper = some .bundled)
    (lenient : session.settings.mappingStrict = false) (name : String) {reply : Reply}
    (capitals : RepliesInCapitals reply) :
    DecidesAlike rule (statusOf session rule name reply)
      (statusOf session.unmapped rule name reply) := by
  rw [knows.statusOf_mapped bundled lenient]
  cases read : statusOf session.unmapped rule name reply with
  | error error => exact .failed error
  | ok records => exact .read (knows.observed_mapped (capitals_of_statusOf capitals read))

/-- For the usual types: records of the wire show the same states before and after the mapping by
the bundled tables, and there are none before exactly if there are none after it. So a session that
maps by these tables and lets issues pass decides at every look what it would decide without
them. -/
theorem mapped_decides_alike : ∀ named ∈ rules,
    let rule := named.2
    let kind := Table.bundled.resolveQualifier "DISPLAY" rule.statusQualifier
    (∀ records, (∀ record ∈ records, InCapitals record) →
      let mapped := (Table.bundled.mapResponses kind records).mapped
      (∀ states ∈ [runningStates, stoppedStates],
        showsState mapped rule.keys states = showsState records rule.keys states) ∧
      (mapped = [] ↔ records = [])) ∧
    ∀ session : Session, session.mapper = some .bundled →
      session.settings.mappingStrict = false → ∀ name budget operation start,
        (∀ look, RepliesInCapitals look.reply →
          (Undecided session rule name budget operation start look ↔
            Undecided session.unmapped rule name budget operation start look)) ∧
        ∀ number events result,
          (∀ request reply, .sent request reply ∈ events → RepliesInCapitals reply) →
          (Decided session rule name budget operation start number events result ↔
            Decided session.unmapped rule name budget operation start number events result) := by
  intro named member rule kind
  obtain ⟨own, maps, knows⟩ := rules_knowBoth named member
  have resolved : kind = own := knows.resolves
  clear_value kind
  subst resolved
  refine ⟨fun records capitals => ⟨?_, ?_⟩, ?_⟩
  · intro states listed
    exact knows.showsState_mapped capitals listed
  · rw [Table.mapResponses_mapped knows.found, List.map_eq_nil_iff]
  · intro session bundled lenient name budget operation start
    refine ⟨fun look capitals => ?_, fun number events result capitals => ?_⟩
    · have alike := knows.decidesAlike bundled lenient name capitals
      exact ⟨.of_alike alike, .of_alike alike.symm⟩
    · have alike (request : Request) (reply : Reply) (sent : .sent request reply ∈ events) :=
        knows.decidesAlike bundled lenient name (capitals request reply sent)
      exact ⟨.of_alike alike, .of_alike fun request reply sent => (alike request reply sent).symm⟩

/-- A session that maps by the bundled tables and lets issues pass. -/
def lenientSession : Session where
  settings := { baseUrl := "https://mq:9443", queueManager := "QM1", mappingStrict := false }
  baseUrl := "https://mq:9443"
  credentials := .basic "admin" "secret"
  mapper := some .bundled
  token := none
  budget := {}

/-- The request for the status of a channel, and the answer that it is running. -/
def statusRequest : Request where
  url := "https://mq:9443/admin/action/qmgr/QM1/mqsc"
  payload := Command.payload "DISPLAY" "CHSTATUS" (some "TO.QM2") ∅ (some ["ALL"])
  headers := ∅
  timeout := none
  verifyTls := true

def runningAnswer : Response where
  status := 200
  body := "\x7b\"commandResponse\":[\x7b\"parameters\":" ++
    "\x7b\"CHANNEL\":\"TO.QM2\",\"STATUS\":\"RUNNING\"\x7d\x7d]\x7d"

def runningRecord : Attributes :=
  .ofAscending [("CHANNEL", .string "TO.QM2"), ("STATUS", .string "RUNNING")]

theorem runningAnswer_reads : ∃ payload, runningAnswer.Reads payload ∧
    ¬ Answer.Reports payload ∧ Answer.records payload = [runningRecord] := by
  refine ⟨.object [("commandResponse", .array [.object [("parameters",
    .ofAttributes runningRecord)]])], ⟨_, rfl, by decide +kernel⟩, ?_, by decide +kernel⟩
  rw [← Answer.reportsFailure_iff]
  decide +kernel

theorem runningAnswer_inCapitals : RepliesInCapitals (.ok runningAnswer) := by
  obtain ⟨_, ⟨_, rfl, body⟩, _, records⟩ := runningAnswer_reads
  rintro response payload ⟨⟩ ⟨fields, rfl, parsed⟩
  cases body.symm.trans parsed
  rw [records]
  decide +kernel

theorem statusOf_runningAnswer : statusOf lenientSession.unmapped .channel "TO.QM2"
    (.ok runningAnswer) = .ok [runningRecord] := by
  obtain ⟨payload, reads, fine, records⟩ := runningAnswer_reads
  have heard : ¬ runningAnswer.Refuses := by simp [Response.Refuses, runningAnswer]
  have judged : lenientSession.unmapped.Verdict none (.ok runningAnswer)
      (.ok (Answer.records payload)) := .plain heard reads fine fun _ _ maps => by cases maps.1
  rw [records] at judged
  exact congrArg Session.orNone judged.eq_verdict.symm

def runningLook : Look := ⟨statusRequest, .ok runningAnswer, ⟨1000000000⟩⟩

theorem statusRequest_looksAt : LooksAt .channel "TO.QM2" statusRequest := by
  have capital : Text.upper StatusRule.channel.statusQualifier = "CHSTATUS" := by decide
  rw [LooksAt, capital]
  exact Command.payload_carries "DISPLAY" "CHSTATUS" (some "TO.QM2") ∅ (some ["ALL"])

theorem runningRecord_shows : showsState [runningRecord] StatusRule.channel.keys runningStates =
    true := by
  decide +kernel

theorem undecided_runningLook :
    Undecided lenientSession.unmapped .channel "TO.QM2" {} .stopped ⟨0⟩ runningLook := by
  refine ⟨statusRequest_looksAt, ⟨_, statusOf_runningAnswer, ?_⟩, ?_⟩
  · rw [← reached_iff]
    decide +kernel
  · unfold IsOver
    decide +kernel

theorem decided_runningLook : Decided lenientSession.unmapped .channel "TO.QM2" {} .started ⟨0⟩ 1
    (runningLook.events ({} : Budget).interval)
    (.ok ⟨.started, .ofNat 1, elapsed ⟨0⟩ runningLook.now⟩) :=
  .observed statusRequest_looksAt statusOf_runningAnswer (reached_iff.mp runningRecord_shows)

/-- A channel is seen running under both names. In both sessions a look that finds it so ends the
wait for its start and leaves a wait for its stop undecided. -/
theorem mapped_decides_alike_running :
    let mapped : Attributes :=
      .ofAscending [("channel_name", .string "TO.QM2"), ("channel_status", .string "running")]
    let budget : Budget := {}
    (Table.bundled.mapResponses "chstatus" [runningRecord]).mapped = [mapped] ∧
      showsState [runningRecord] StatusRule.channel.keys runningStates = true ∧
      showsState [mapped] StatusRule.channel.keys runningStates = true ∧
      ∀ session ∈ [lenientSession, lenientSession.unmapped],
        Undecided session .channel "TO.QM2" budget .stopped ⟨0⟩ runningLook ∧
        Decided session .channel "TO.QM2" budget .started ⟨0⟩ 1
          (runningLook.events budget.interval)
          (.ok ⟨.started, .ofNat 1, elapsed ⟨0⟩ runningLook.now⟩) := by
  intro mapped budget
  have kind : Table.bundled.resolveQualifier "DISPLAY" StatusRule.channel.statusQualifier =
      "chstatus" := by decide +kernel
  have renamed : (Table.bundled.mapResponses "chstatus" [runningRecord]).mapped = [mapped] := by
    decide +kernel
  obtain ⟨records, looks⟩ := mapped_decides_alike ("channel", .channel) (by decide)
  rw [kind] at records
  have alike := (records [runningRecord] (by decide +kernel)).1 runningStates (by simp)
  rw [renamed] at alike
  have same (operation : Transition) :=
    looks lenientSession rfl rfl "TO.QM2" budget operation ⟨0⟩
  refine ⟨renamed, runningRecord_shows, alike.trans runningRecord_shows, ?_⟩
  simp only [List.forall_mem_cons, List.not_mem_nil, false_imp_iff, implies_true, and_true]
  refine ⟨⟨((same .stopped).1 runningLook runningAnswer_inCapitals).mpr undecided_runningLook,
    ((same .started).2 1 _ _ ?_).mpr decided_runningLook⟩, undecided_runningLook,
    decided_runningLook⟩
  intro request reply sent
  have own : request = statusRequest ∧ reply = .ok runningAnswer := by
    simpa [runningLook, Look.events] using sent
  exact own.2 ▸ runningAnswer_inCapitals

end Sync

end MqAdmin
