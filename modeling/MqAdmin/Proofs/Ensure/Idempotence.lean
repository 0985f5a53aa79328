import MqAdmin.Proofs.Ensure.Convergence
import MqAdmin.Proofs.Ensure.Spelling

namespace MqAdmin.Ensure

open Mapping

/-- What a reply says, where it is no refusal. -/
def Says (reply : Reply) (payload : Json) : Prop :=
  ∃ response : Response, reply = .ok response ∧ ¬ response.Refuses ∧ response.Reads payload

/-- Whether a reply reports a failure of the command. -/
def Fails (reply : Reply) : Prop := ∃ payload, Says reply payload ∧ Answer.Reports payload

def Succeeds (reply : Reply) : Prop := ∃ payload, Says reply payload ∧ ¬ Answer.Reports payload

/-- Whether a reply shows one item with a record for its parameters. -/
def Shows (reply : Reply) (record : Attributes) : Prop :=
  ∃ payload item, Says reply payload ∧ ¬ Answer.Reports payload ∧
    Answer.items payload = [item] ∧ (item.get? "parameters").bind Json.object? = some record

/-- Whether some reply shows a record. No text gives a number that is not finite, for instance. -/
def Showable (record : Attributes) : Prop := ∃ reply, Shows reply record

def sentParameters (request : Request) : Attributes :=
  ((request.payload.get? "parameters").bind Json.object?).getD ∅

/-- A server that keeps one object as a wire record: a display fails while the object is absent and
shows the record otherwise, and a definition succeeds and stores what it was sent. -/
structure Keeps {σ : Type} (world : World σ) (record : σ → Option Attributes) : Prop where
  absent {request : Request} {state : σ} : HasVerb "DISPLAY" request → record state = none →
    Fails (world (.send request) state).1 ∧ record (world (.send request) state).2 = none
  present {request : Request} {state : σ} {stored : Attributes} : HasVerb "DISPLAY" request →
    record state = some stored → Shows (world (.send request) state).1 stored ∧
      record (world (.send request) state).2 = some stored
  define {request : Request} {state : σ} : HasVerb "DEFINE" request →
    Showable (sentParameters request) → Succeeds (world (.send request) state).1 ∧
      record (world (.send request) state).2 = some (sentParameters request)

section Reply

variable {session : Session} {kind : Option String} {reply : Reply}

theorem Fails.found (fails : Fails reply) : Found.of (session.verdict kind reply) = .absent := by
  obtain ⟨payload, ⟨response, same, heard, read⟩, reports⟩ := fails
  subst same
  rw [Session.verdict, Session.judge_of_reads heard read,
    if_pos ((Answer.reportsFailure_iff payload).mpr reports)]
  rfl

theorem Shows.verdict {record : Attributes} (shows : Shows reply record)
    (flat : record.get? "objects" = none) :
    session.verdict kind reply = session.callerRecords kind [record] := by
  obtain ⟨payload, item, ⟨response, same, heard, read⟩, fine, items, parameters⟩ := shows
  subst same
  have records : Answer.records payload = [record] := by
    simp [Answer.records, items, Answer.itemRecords, parameters, Answer.objectsName, flat]
  rw [Session.verdict, Session.judge_of_reads heard read,
    if_neg (mt (Answer.reportsFailure_iff payload).mp fine), records]

/-- Where a command succeeds, only records that a strict session cannot map make an error. -/
theorem Succeeds.mapping_of_error {error : Error} (succeeds : Succeeds reply)
    (judged : session.verdict kind reply = .error error) :
    session.settings.mappingStrict = true ∧ ∃ issues, error = .mapping issues := by
  obtain ⟨payload, ⟨response, same, heard, read⟩, fine⟩ := succeeds
  subst same
  rw [Session.verdict, Session.judge_of_reads heard read,
    if_neg (mt (Answer.reportsFailure_iff payload).mp fine)] at judged
  generalize Answer.records payload = records at judged
  by_cases unmapped : ∀ table name, session.Maps kind table name → records = []
  · rw [Session.callerRecords_of_unmapped unmapped] at judged
    cases judged
  · obtain ⟨table, name, maps, nonempty⟩ :
        ∃ table name, session.Maps kind table name ∧ records ≠ [] := by
      simpa using unmapped
    rw [Session.callerRecords_of_maps maps nonempty] at judged
    split at judged
    · rename_i rejected
      cases judged
      exact ⟨(Bool.and_eq_true_iff.mp rejected).1, _, rfl⟩
    · cases judged

end Reply

/-- A session that maps by the bundled table, the table of the target's kind, and desired attributes
that it maps without an issue. -/
structure Mapped (session : Session) (target : Target) (maps : QualifierTable)
    (desired : Attributes) : Prop where
  bundled : session.mapper = some .bundled
  found : Table.bundled.qualifier? target.kind = some maps
  defined : Table.bundled.resolveQualifier "DEFINE" (Text.upper target.define) = target.kind
  accepted : maps.recordIssues target.kind .request none desired = []

section Mapped

variable {session : Session} {target : Target} {maps : QualifierTable} {name : String}
  {desired : Attributes}

theorem wireParameters_define (bundled : session.mapper = some .bundled)
    (found : Table.bundled.qualifier? target.kind = some maps)
    (defined : Table.bundled.resolveQualifier "DEFINE" (Text.upper target.define) = target.kind) :
    session.wireParameters (defineCommand target name desired) =
      ⟨maps.image .request desired, maps.recordIssues target.kind .request none desired⟩ := by
  simp only [Session.wireParameters, bundled, defineCommand, Text.upper_define, defined,
    Table.mapRequest, Table.mapRecord_of_qualifier found]

theorem exists_mapped {entry : String × Target} (bundled : session.mapper = some .bundled)
    (member : entry ∈ targets)
    (accepted : (session.wireParameters (defineCommand entry.2 name desired)).issues = []) :
    ∃ maps, Mapped session entry.2 maps desired := by
  have defined := define_kind entry member
  obtain ⟨maps, found⟩ := Option.isSome_iff_exists.mp (hasQualifier_kind entry member)
  rw [wireParameters_define bundled found defined] at accepted
  exact ⟨maps, bundled, found, defined, accepted⟩

theorem Mapped.wireParameters (mapped : Mapped session target maps desired) :
    session.wireParameters (defineCommand target name desired) =
      ⟨maps.image .request desired, []⟩ := by
  rw [wireParameters_define mapped.bundled mapped.found mapped.defined, mapped.accepted]

theorem Mapped.not_stops (mapped : Mapped session target maps desired) :
    ¬ session.Stops (defineCommand target name desired) := by
  simp [Session.Stops, mapped.wireParameters]

theorem Mapped.clean (mapped : Mapped session target maps desired) :
    ∀ entry ∈ desired.entries, maps.Clean entry.1 entry.2 := fun entry listed =>
  QualifierTable.clean_of_issues (List.flatMap_eq_nil_iff.mp mapped.accepted entry listed)

theorem Mapped.coherent (mapped : Mapped session target maps desired) : maps.Coherent :=
  bundled_coherent _ (KeyMap.get?_eq_some_iff.mp mapped.found)

theorem Mapped.apart (mapped : Mapped session target maps desired) : maps.PairsApart :=
  bundled_pairsApart _ (KeyMap.get?_eq_some_iff.mp mapped.found)

theorem Mapped.of_becomes {after : Session} (mapped : Mapped session target maps desired)
    (same : session.Becomes after) : Mapped after target maps desired := by
  obtain ⟨diagnostics, rfl⟩ := same
  exact ⟨mapped.bundled, mapped.found, mapped.defined, mapped.accepted⟩

theorem Mapped.flat (mapped : Mapped session target maps desired) :
    (maps.image .request desired).get? "objects" = none := by
  apply Option.eq_none_iff_forall_ne_some.mpr
  intro value found
  obtain ⟨entry, listed, same⟩ := QualifierTable.exists_of_image found
  have capital : Text.upper "objects" = "objects" := by
    cases mapped.clean entry listed with
    | flag pair stands =>
      rw [QualifierTable.target_flag stands] at same
      exact (show pair.key = "objects" from congrArg Prod.fst same) ▸
        (mapped.apart.of_flag stands).1
    | known wire plain known _ =>
      rw [QualifierTable.target_request plain known] at same
      exact (show wire = "objects" from congrArg Prod.fst same) ▸
        (mapped.coherent.name_returns known).1
  exact absurd capital (by decide)

/-- What a display finds where the wire record of the desired attributes is kept: the record that
comes back, or no record for issues that only what does not settle can have. -/
theorem Mapped.found_of_shows (mapped : Mapped session target maps desired) {reply : Reply}
    (shows : Shows reply (maps.image .request desired)) :
    let found := Found.of (session.verdict (session.kind? (displayCommand target name)) reply)
    found = .present (maps.returned desired) ∨
      ¬ Settled target.kind desired ∧ ∃ error, found = .unknown error := by
  have kind : session.kind? (displayCommand target name) = some target.kind := by
    simp [Session.kind?, mapped.bundled, displayCommand, Target.kind]
  have known : Table.bundled.hasQualifier target.kind = true :=
    Option.isSome_iff_exists.mpr ⟨maps, mapped.found⟩
  rw [shows.verdict mapped.flat, kind,
    Session.callerRecords_of_maps ⟨mapped.bundled, rfl, known⟩ (List.cons_ne_nil _ _),
    Table.mapResponses_singleton mapped.found]
  split
  · rename_i rejected
    refine .inr ⟨fun settled => ?_, _, rfl⟩
    have plain (entry : String × Json) (listed : entry ∈ desired.entries) :
        maps.pair? .request entry.1 entry.2 = none := by
      apply Option.eq_none_iff_forall_ne_some.mpr
      intro pair stands
      obtain ⟨_, _, _, paired, _⟩ := QualifierTable.exists_of_flag stands
      exact (settled entry listed).1 (flag_of_pairs _ (KeyMap.get?_eq_some_iff.mp mapped.found) _
        (KeyMap.get?_eq_some_iff.mp paired))
    rw [QualifierTable.response_issues mapped.coherent mapped.clean plain] at rejected
    simp at rejected
  · exact .inl rfl

/-- With the wire record of the desired attributes kept, nothing is left to do exactly if they are
settled. -/
theorem Mapped.step_iff (mapped : Mapped session target maps desired) {reply : Reply}
    (shows : Shows reply (maps.image .request desired)) {events : List Event}
    {result : Except Error Outcome}
    (step : Step session target name desired
      (.of (session.verdict (session.kind? (displayCommand target name)) reply)) events result) :
    (result = .ok ⟨.unchanged, []⟩ ∧ events = []) ↔ Settled target.kind desired := by
  have settled_iff := changed_returned_iff mapped.found mapped.clean
  rcases mapped.found_of_shows shows with found | ⟨unsettled, error, found⟩
  · rw [found] at step
    cases step with
    | keep same => simp [← settled_iff, same]
    | update differs attempt =>
      rw [← settled_iff]
      constructor
      · rintro ⟨unchanged, _⟩
        subst unchanged
        cases attempt.succeeds.1
      · intro same
        exact absurd same differs
  · rw [found] at step
    cases step with
    | unknown => simp [unsettled]

end Mapped

instance (verb : String) (request : Request) : Decidable (HasVerb verb request) :=
  inferInstanceAs (Decidable (_ = _))

/-- The reply to a command on an object that does not exist. -/
def unknownObject : Reply := .ok ⟨200, "\x7b\"overallReasonCode\":2085\x7d", ∅⟩

/-- The reply to a command that succeeds, with nothing to say. -/
def done : Reply := .ok ⟨200, "\x7b\x7d", ∅⟩

theorem unknownObject_fails : Fails unknownObject := by
  have read : Json.parse? "\x7b\"overallReasonCode\":2085\x7d" =
      some (.object [("overallReasonCode", .ofNat 2085)]) := by decide +kernel
  exact ⟨_, ⟨_, rfl, by simp [Response.Refuses], _, rfl, read⟩,
    (Answer.reportsFailure_iff _).mp (by decide +kernel)⟩

theorem done_succeeds : Succeeds done := by
  have read : Json.parse? "\x7b\x7d" = some (.object []) := by decide +kernel
  exact ⟨_, ⟨_, rfl, by simp [Response.Refuses], _, rfl, read⟩,
    mt (Answer.reportsFailure_iff _).mpr (by decide +kernel)⟩

open Classical in
noncomputable def keeper : World (Option {record : Attributes // Showable record})
  | .send request, stored =>
    if HasVerb "DEFINE" request then
      (done, if showable : Showable (sentParameters request) then some ⟨_, showable⟩ else stored)
    else match stored with
      | some kept => (choose kept.2, stored)
      | none => (unknownObject, stored)
  | .sleep _, stored => ((), stored)
  | .now, stored => (⟨0⟩, stored)
  | .read path, stored => (.error path, stored)

theorem HasVerb.unique {request : Request} {verb other : String} (has : HasVerb verb request)
    (too : HasVerb other request) : verb = other := by
  rw [HasVerb, has] at too
  exact Json.string.inj (Option.some.inj too)

theorem keeper_keeps : Keeps keeper (·.map Subtype.val) where
  absent {request state} display none := by
    have define : ¬ HasVerb "DEFINE" request := fun define => by
      simpa using display.unique define
    cases state with
    | some kept => cases none
    | none => simp [keeper, define, unknownObject_fails]
  present {request state stored} display found := by
    have define : ¬ HasVerb "DEFINE" request := fun define => by
      simpa using display.unique define
    cases state with
    | none => cases found
    | some kept =>
      cases found
      simp [keeper, define, Classical.choose_spec kept.2]
  define {request state} define showable := by
    simp [keeper, define, showable, done_succeeds]

def permissive : Session :=
  ⟨⟨"https://localhost:9443", "QM1", none, true, 30, true, false, some "local", none, .merge,
    .ofNat 30, .ofNat 1⟩, "https://localhost:9443", .basic "admin" "secret", some .bundled, none,
    ⟨.ofSeconds 30, .ofSeconds 1⟩, {}⟩

/-- A channel of a type that is given by its wire text. -/
def senderChannel : Attributes := .ofAscending [("channel_type", .string "SDR")]

theorem senderChannel_mapped :
    permissive.wireParameters (defineCommand (.uniform "CHANNEL") "TO.QM2" senderChannel) =
      ⟨.ofAscending [("CHLTYPE", .string "SDR")], []⟩ := by decide +kernel

theorem senderChannel_showable : Showable (.ofAscending [("CHLTYPE", .string "SDR")]) := by
  have read : Json.parse? ("\x7b\"commandResponse\":" ++
        "[\x7b\"parameters\":\x7b\"CHLTYPE\":\"SDR\"\x7d\x7d]\x7d") =
      some (.object [("commandResponse", .array [.object [("parameters",
        .object [("CHLTYPE", .string "SDR")])]])]) := by decide +kernel
  refine ⟨.ok ⟨200, _, ∅⟩, _, _, ⟨_, rfl, by simp [Response.Refuses], _, rfl, read⟩,
    mt (Answer.reportsFailure_iff _).mpr (by decide +kernel), rfl, by decide +kernel⟩

section Again

variable {σ : Type} {world : World σ} {record : σ → Option Attributes} {session : Session}
  {target : Target} {maps : QualifierTable} {name : String} {desired : Attributes} {state : σ}

/-- An absent object is created, and the server keeps what it was defined with, unless there is
something in the answer that a strict session cannot map. -/
theorem Keeps.creates (keeps : Keeps world record) (mapped : Mapped session target maps desired)
    (showable : Showable (maps.image .request desired)) (absent : record state = none) :
    ∃ events result after later, (object target name desired).course world session state =
        ⟨events, .ok (result, after), later⟩ ∧ session.Becomes after ∧
      ((session.settings.mappingStrict = true ∧ ∃ issues, result = .error (.mapping issues)) ∨
        (result = .ok ⟨.created, []⟩ ∧ record later = some (maps.image .request desired))) := by
  obtain ⟨display, reply, events, result, after, later, course, carries, step, becomes⟩ :=
    object_course world session target name desired state
  refine ⟨_, result, after, later, course, becomes, ?_⟩
  have follows := Dialogue.course_follows world ((object target name desired).run session) state
  rw [show ((object target name desired).run session).course world state = _ from course] at follows
  obtain ⟨answered, rest⟩ := follows.sent
  obtain ⟨fails, stillAbsent⟩ := keeps.absent carries.command absent
  rw [answered, fails.found] at step
  -- What the definition was sent with is what the server has kept, whatever becomes of the answer.
  have stores {request : Request} {second : Reply}
      (defines : Carries session (defineCommand target name desired) request)
      (sent : events = [.sent request second]) :
      Succeeds second ∧ record later = some (maps.image .request desired) := by
    subst sent
    obtain ⟨answer, done⟩ := rest.sent
    cases done
    have parameters : sentParameters request = maps.image .request desired := by
      rw [sentParameters, defines.read, mapped.wireParameters]
    have verb : HasVerb "DEFINE" request := by
      simpa [HasVerb, defineCommand] using defines.command
    obtain ⟨succeeds, stored⟩ := keeps.define verb (parameters ▸ showable)
    exact ⟨answer ▸ succeeds, parameters ▸ stored⟩
  cases step with
  | create attempt =>
    cases attempt with
    | stopped stops => exact absurd stops mapped.not_stops
    | failed goesOn defines judged =>
      obtain ⟨succeeds, _⟩ := stores defines rfl
      obtain ⟨strict, issues, same⟩ := succeeds.mapping_of_error judged
      exact .inl ⟨strict, issues, same ▸ rfl⟩
    | done goesOn defines judged => exact .inr ⟨rfl, (stores defines rfl).2⟩

theorem Keeps.again_iff (keeps : Keeps world record) (mapped : Mapped session target maps desired)
    (kept : record state = some (maps.image .request desired)) :
    ∃ display reply others result after later, (object target name desired).course world session
        state = ⟨.sent display reply :: others, .ok (result, after), later⟩ ∧
      HasVerb "DISPLAY" display ∧
      ((result = .ok ⟨.unchanged, []⟩ ∧ others = []) ↔ Settled target.kind desired) := by
  obtain ⟨display, reply, events, result, after, later, course, carries, step, _⟩ :=
    object_course world session target name desired state
  have follows := Dialogue.course_follows world ((object target name desired).run session) state
  rw [show ((object target name desired).run session).course world state = _ from course] at follows
  obtain ⟨answered, _⟩ := follows.sent
  obtain ⟨shows, _⟩ := keeps.present carries.command kept
  rw [answered] at step
  exact ⟨display, reply, events, result, after, later, course, carries.command,
    mapped.step_iff shows step⟩

/-- An absent object is created, unless there is something in the answer that a strict session
cannot map. Bringing it to the same attributes again sends nothing but its display and changes
nothing exactly if they are settled. -/
theorem object_again_iff (keeps : Keeps world record) (bundled : session.mapper = some .bundled)
    {entry : String × Target} (member : entry ∈ targets)
    (accepted : (session.wireParameters (defineCommand entry.2 name desired)).issues = [])
    (showable : Showable (session.wireParameters (defineCommand entry.2 name desired)).mapped)
    (absent : record state = none) :
    ∃ events result after later, (object entry.2 name desired).course world session state =
        ⟨events, .ok (result, after), later⟩ ∧
      ((session.settings.mappingStrict = true ∧ ∃ issues, result = .error (.mapping issues)) ∨
        (result = .ok ⟨.created, []⟩ ∧ ∃ display reply others again final last,
          (object entry.2 name desired).course world after later =
            ⟨.sent display reply :: others, .ok (again, final), last⟩ ∧
          HasVerb "DISPLAY" display ∧
          ((again = .ok ⟨.unchanged, []⟩ ∧ others = []) ↔ Settled entry.2.kind desired))) := by
  obtain ⟨maps, mapped⟩ := exists_mapped bundled member accepted
  rw [mapped.wireParameters] at showable
  obtain ⟨events, result, after, later, course, becomes, comes⟩ :=
    keeps.creates mapped showable absent
  refine ⟨events, result, after, later, course, comes.imp_right fun ⟨created, kept⟩ => ?_⟩
  exact ⟨created, keeps.again_iff (mapped.of_becomes becomes) kept⟩

end Again

/-- The type comes back as `sender`, so the channel is altered at every further time. -/
theorem object_again_iff_sender :
    ∃ events after later, (object (.uniform "CHANNEL") "TO.QM2" senderChannel).course keeper
        permissive none = ⟨events, .ok (.ok ⟨.created, []⟩, after), later⟩ ∧
      ∃ display reply others again final last,
        (object (.uniform "CHANNEL") "TO.QM2" senderChannel).course keeper after later =
          ⟨.sent display reply :: others, .ok (again, final), last⟩ ∧
        ¬ (again = .ok ⟨.unchanged, []⟩ ∧ others = []) := by
  have member : ("channel", Target.uniform "CHANNEL") ∈ targets := by decide
  have accepted := congrArg Mapping.Outcome.issues senderChannel_mapped
  have absent : (none : Option {record // Showable record}).map Subtype.val = none := rfl
  obtain ⟨events, result, after, later, course, ⟨strict, _⟩ | ⟨created, display, reply, others,
      again, final, last, second, _, settled_iff⟩⟩ :=
    object_again_iff keeper_keeps rfl member accepted
      (senderChannel_mapped ▸ senderChannel_showable) absent
  · cases strict
  · subst created
    exact ⟨events, after, later, course, display, reply, others, again, final, last, second,
      mt settled_iff.mp (by decide +kernel)⟩

end MqAdmin.Ensure
