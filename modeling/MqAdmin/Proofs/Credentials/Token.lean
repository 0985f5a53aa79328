import Mathlib.Data.List.Forall2
import MqAdmin.Credentials.Basic
import MqAdmin.Http.Header
import MqAdmin.Proofs.Command.Records
import MqAdmin.Proofs.Text.Pieces

namespace MqAdmin

namespace Http.Header

/-- The values of a name among received headers: the plain ones, without padding. -/
def values (received : List (String × String)) (name : String) : List String :=
  received.filterMap fun (other, value) =>
    if isPlain value = true ∧ key other = name then some (trimmed value) else none

def joined : List String → Option String
  | [] => none
  | values => some ("; ".intercalate values)

private theorem joined_cons_cons (first second : String) (rest : List String) :
    joined (first :: second :: rest) = joined ((first ++ "; " ++ second) :: rest) := by
  rw [joined, joined, String.intercalate_cons_cons, String.intercalate_cons_append]
  all_goals exact List.cons_ne_nil _ _

private theorem get?_foldl_addTo (name : String) (received : List (String × String))
    (gathered : KeyMap String) :
    (received.foldl (fun gathered (other, value) =>
        if isPlain value then addTo gathered other (trimmed value) else gathered)
      gathered).get? name =
      joined ((gathered.get? name).toList ++ values received name) := by
  induction received generalizing gathered with
  | nil =>
    rw [List.foldl_nil, values, List.filterMap_nil, List.append_nil]
    cases gathered.get? name with
    | none => rfl
    | some value => simp [joined, String.intercalate_singleton]
  | cons header rest ih =>
    obtain ⟨other, value⟩ := header
    rw [List.foldl_cons, ih]
    dsimp only
    by_cases plain : isPlain value = true
    · by_cases same : name = key other
      · have listed : values ((other, value) :: rest) name = trimmed value :: values rest name := by
          simp [values, plain, same]
        rw [if_pos plain, get?_addTo, if_pos same, listed, same]
        cases gathered.get? (key other) with
        | none => rfl
        | some earlier => exact (joined_cons_cons ..).symm
      · have skipped : values ((other, value) :: rest) name = values rest name := by
          simp [values, Ne.symm same]
        rw [if_pos plain, get?_addTo, if_neg same, skipped]
    · have skipped : values ((other, value) :: rest) name = values rest name := by
        simp [values, plain]
      rw [if_neg plain, skipped]

/-- A header that is gathered has all its values, in the order in which they were received. -/
theorem get?_gather (received : List (String × String)) (name : String) :
    (gather received).get? name = joined (values received name) := by
  rw [gather, get?_foldl_addTo]
  rfl

end Http.Header

namespace Credentials

def setting (token : String) : String := cookieName ++ "=" ++ token

/-- Whether texts are the parts of cookies: the pieces between semicolons, without the blanks around
them. -/
def Parts (cookies : String) (parts : List String) : Prop :=
  ∃ pieces, Text.Pieces ';' cookies pieces ∧ List.Forall₂ Text.Trims pieces parts

/-- Whether the first of the parts that set the cookie sets it to a token. -/
def FirstSets (parts : List String) (token : String) : Prop :=
  ∃ before after, parts = before ++ setting token :: after ∧
    ∀ part ∈ before, ∀ other, part ≠ setting other

def SetsTo (cookies token : String) : Prop := ∃ parts, Parts cookies parts ∧ setting token ∈ parts

def Sets (cookies : String) : Prop := ∃ token, SetsTo cookies token

def parts (cookies : String) : List String :=
  ((Text.pieces (· = ';') cookies.toList).map Text.trimChars).map String.ofList

theorem parts_iff {cookies : String} {list : List String} :
    Parts cookies list ↔ list = parts cookies := by
  have trimmed (pieces : List String) : pieces.map Text.trim =
      ((pieces.map String.toList).map Text.trimChars).map String.ofList := by
    rw [List.map_map, List.map_map]
    rfl
  constructor
  · rintro ⟨pieces, cut, trims⟩
    rw [(forall₂_iff_eq_map @Text.trims_iff).mp trims, trimmed, Text.pieces_iff.mp cut, parts]
  · intro same
    have letters : ((Text.pieces (· = ';') cookies.toList).map String.ofList).map String.toList =
        Text.pieces (· = ';') cookies.toList := by
      rw [List.map_map]
      exact List.map_id'' (fun piece => String.toList_ofList) _
    refine ⟨_, Text.pieces_iff.mpr letters, ?_⟩
    rw [forall₂_iff_eq_map @Text.trims_iff, trimmed, letters, same, parts]

theorem toList_setting (token : String) : (setting token).toList = cookieStart ++ token.toList := by
  rw [setting, cookieStart, String.toList_append, String.toList_append]
  rfl

theorem stripStart_eq_some_iff {part token : List Char} :
    Text.stripStart cookieStart part = some token ↔
      String.ofList part = setting (.ofList token) := by
  rw [Text.stripStart_eq_some_iff, ← String.toList_inj, toList_setting, String.toList_ofList,
    String.toList_ofList]

theorem stripStart_eq_none_iff {part : List Char} :
    Text.stripStart cookieStart part = none ↔ ∀ token, String.ofList part ≠ setting token := by
  rw [Option.eq_none_iff_forall_ne_some]
  constructor
  · intro none token same
    rw [← String.ofList_toList (s := token), ← stripStart_eq_some_iff] at same
    exact none token.toList same
  · intro unset token found
    exact unset _ (stripStart_eq_some_iff.mp found)

theorem findSome?_eq_some_iff {list : List (List Char)} {token : List Char} :
    list.findSome? (Text.stripStart cookieStart) = some token ↔
      FirstSets (list.map String.ofList) (.ofList token) := by
  rw [List.findSome?_eq_some_iff]
  constructor
  · rintro ⟨before, part, after, whole, found, unset⟩
    refine ⟨before.map String.ofList, after.map String.ofList, ?_, ?_⟩
    · rw [whole, List.map_append, List.map_cons, stripStart_eq_some_iff.mp found]
    · intro text member
      obtain ⟨earlier, listed, same⟩ := List.mem_map.mp member
      exact same ▸ stripStart_eq_none_iff.mp (unset earlier listed)
  · rintro ⟨before, after, whole, unset⟩
    obtain ⟨first, second, split, same, sameRest⟩ := List.map_eq_append_iff.mp whole
    obtain ⟨part, rest, cut, found, _⟩ := List.map_eq_cons_iff.mp sameRest
    refine ⟨first, part, rest, ?_, stripStart_eq_some_iff.mpr found, ?_⟩
    · rw [split, cut]
    · intro earlier listed
      apply stripStart_eq_none_iff.mpr
      exact unset _ (same ▸ List.mem_map_of_mem listed)

theorem extractToken_eq_some_iff {cookies token : String} : extractToken cookies = some token ↔
    token ≠ "" ∧ FirstSets (parts cookies) token := by
  have first : FirstSets (parts cookies) token ↔
      ((Text.pieces (· = ';') cookies.toList).map Text.trimChars).findSome?
        (Text.stripStart cookieStart) = some token.toList := by
    rw [findSome?_eq_some_iff, String.ofList_toList, parts]
  rw [first]
  unfold extractToken
  dsimp only
  split
  · rename_i found
    rw [found]
    constructor
    · intro nothing
      cases nothing
    · rintro ⟨filled, same⟩
      exact absurd (String.toList_eq_nil_iff.mp (Option.some.inj same).symm) filled
  · rename_i letters filled found
    rw [found, Option.some.injEq, Option.some.injEq]
    constructor
    · intro same
      subst same
      rw [String.toList_ofList]
      exact ⟨mt String.ofList_eq_empty_iff.mp filled, rfl⟩
    · rintro ⟨_, same⟩
      rw [same, String.ofList_toList]
  · rename_i found
    rw [found]
    simp

private theorem map_trimChars_pieces_space (letters : List Char) :
    (Text.pieces (· = ';') (' ' :: letters)).map Text.trimChars =
      (Text.pieces (· = ';') letters).map Text.trimChars := by
  obtain ⟨piece, others, cut, whole⟩ :=
    @Text.exists_pieces_cons Char (· = ';') ' ' rfl letters
  rw [cut, whole]
  rfl

/-- The parts of joined values are the parts of the values, one after the other. -/
theorem parts_intercalate {values : List String} (present : values ≠ []) :
    parts ("; ".intercalate values) = values.flatMap parts := by
  induction values with
  | nil => exact absurd rfl present
  | cons value rest ih =>
    cases rest with
    | nil => simp [String.intercalate_singleton]
    | cons next others =>
      have later := ih (List.cons_ne_nil next others)
      have letters : ("; ".intercalate (value :: next :: others)).toList =
          value.toList ++ ';' :: ' ' :: ("; ".intercalate (next :: others)).toList := by
        rw [String.intercalate_cons_cons, String.toList_append, String.toList_append,
          List.append_assoc]
        rfl
      rw [List.flatMap_cons, ← later, parts, letters, Text.pieces_append _ _ (by simp),
        List.map_append, List.map_append, map_trimChars_pieces_space]
      rfl

/-- Whether a text can be the token of a part: it is not empty, and neither a semicolon nor a blank
at the end is lost. -/
structure Proper (token : String) : Prop where
  filled : token ≠ ""
  undivided : ';' ∉ token.toList
  ending : ∀ c ∈ token.toList.getLast?, Text.isBlank c = false

/-- Whether a value sets the cookie to a token first of all: there may be blanks around that, and
anything may follow after a semicolon. -/
structure Opens (value token : String) : Prop where
  stands : ∃ before after rest, value = before ++ setting token ++ after ++ rest ∧
    Text.AllBlank before ∧ Text.AllBlank after ∧ ∀ c ∈ rest.toList.head?, c = ';'

/-- What comes of a token that a value sets, once the value is joined to earlier ones and any after
it. -/
structure Competes (token : String) (earlier : List String) (cookies : String) : Prop where
  found : (∀ value ∈ earlier, ¬ Sets value) → extractToken cookies = some token
  hidden : (∃ value ∈ earlier, Sets value) →
    extractToken cookies = extractToken ("; ".intercalate earlier)
  found_iff : (∀ value ∈ earlier, ¬ SetsTo value token) →
    (extractToken cookies = some token ↔ ∀ value ∈ earlier, ¬ Sets value)

section Competing

variable {value token : String} {earlier later list rest : List String}

theorem setsTo_iff : SetsTo value token ↔ setting token ∈ parts value := by
  constructor
  · rintro ⟨list, cut, member⟩
    exact parts_iff.mp cut ▸ member
  · intro member
    exact ⟨parts value, parts_iff.mpr rfl, member⟩

theorem parts_of_opens (proper : Proper token) (opens : Opens value token) :
    ∃ others, parts value = setting token :: others := by
  obtain ⟨before, after, rest, same, blank, blankToo, follows⟩ := opens
  subst same
  have unmarked : ∀ c ∈ (before ++ setting token ++ after).toList, decide (c = ';') = false := by
    have spaces (c : Char) (space : Text.isBlank c = true) : c ≠ ';' := by
      rintro rfl
      revert space
      decide
    have name : ';' ∉ cookieStart := by decide
    intro c member
    simp only [String.toList_append, toList_setting, List.mem_append] at member
    rw [decide_eq_false_iff_not]
    rcases member with (first | start | letter) | last
    · exact spaces c (blank c first)
    · exact fun same => name (same ▸ start)
    · exact fun same => proper.undivided (same ▸ letter)
    · exact spaces c (blankToo c last)
  have trimmed : Text.trimChars (before ++ setting token ++ after).toList =
      (setting token).toList := by
    rw [String.toList_append, String.toList_append]
    apply Text.trimChars_blanks blank blankToo
    · intro c first
      rw [toList_setting] at first
      cases first
      decide
    · intro c last
      apply proper.ending
      have letters : token.toList ≠ [] := mt String.toList_eq_nil_iff.mp proper.filled
      rwa [toList_setting, List.getLast?_append_of_ne_nil _ letters] at last
  rw [parts, String.toList_append]
  cases letters : rest.toList with
  | nil =>
    refine ⟨[], ?_⟩
    rw [List.append_nil, Text.pieces_of_unmarked unmarked, List.map_singleton, trimmed,
      List.map_singleton, String.ofList_toList]
  | cons c others =>
    have mark : c = ';' := follows c (by rw [letters]; rfl)
    subst mark
    refine ⟨((Text.pieces (· = ';') others).map Text.trimChars).map String.ofList, ?_⟩
    rw [Text.pieces_append _ _ (by simp), Text.pieces_of_unmarked unmarked, List.singleton_append,
      List.map_cons, trimmed, List.map_cons, String.ofList_toList]

/-- The first of two lists decides if it sets the cookie at all. -/
theorem firstSets_append_iff : FirstSets (list ++ rest) token ↔ FirstSets list token ∨
    (∀ part ∈ list, ∀ other, part ≠ setting other) ∧ FirstSets rest token := by
  constructor
  · rintro ⟨before, after, whole, unset⟩
    rcases List.append_eq_append_iff.mp whole with ⟨middle, same, tail⟩ | ⟨middle, same, tail⟩
    · refine .inr ⟨?_, middle, after, tail, ?_⟩
      · intro part member
        exact unset part (same ▸ List.mem_append_left middle member)
      · intro part member
        exact unset part (same ▸ List.mem_append_right list member)
    · cases middle with
      | nil =>
        rw [List.append_nil] at same
        exact .inr ⟨same ▸ unset, [], after, tail.symm, by simp⟩
      | cons part others =>
        rw [List.cons_append] at tail
        cases tail
        exact .inl ⟨before, others, same, unset⟩
  · rintro (⟨before, after, whole, unset⟩ | ⟨unset, before, after, whole, unsetToo⟩)
    · exact ⟨before, after ++ rest, by simp [whole], unset⟩
    · refine ⟨list ++ before, after, by simp [whole], ?_⟩
      intro part member
      rcases List.mem_append.mp member with first | second
      · exact unset part first
      · exact unsetToo part second

theorem unset_iff : (∀ value ∈ earlier, ¬ Sets value) ↔
    ∀ part ∈ earlier.flatMap parts, ∀ other, part ≠ setting other := by
  constructor
  · intro unset part member other same
    obtain ⟨value, listed, present⟩ := List.mem_flatMap.mp member
    exact unset value listed ⟨other, setsTo_iff.mpr (same ▸ present)⟩
  · rintro unset value listed ⟨other, sets⟩
    exact unset _ (List.mem_flatMap.mpr ⟨value, listed, setsTo_iff.mp sets⟩) other rfl

/-- A token is found exactly if no earlier value sets the cookie, unless an earlier one sets it to
the same token; where one sets it, the token is not looked at. -/
theorem competes (proper : Proper token) (opens : Opens value token)
    (earlier later : List String) :
    Competes token earlier ("; ".intercalate (earlier ++ value :: later)) := by
  obtain ⟨others, first⟩ := parts_of_opens proper opens
  have whole : parts ("; ".intercalate (earlier ++ value :: later)) =
      earlier.flatMap parts ++ setting token :: (others ++ later.flatMap parts) := by
    rw [parts_intercalate (by simp), List.flatMap_append, List.flatMap_cons, first]
    rfl
  have found (unset : ∀ value ∈ earlier, ¬ Sets value) :
      extractToken ("; ".intercalate (earlier ++ value :: later)) = some token := by
    rw [extractToken_eq_some_iff, whole, firstSets_append_iff]
    exact ⟨proper.filled, .inr ⟨unset_iff.mp unset, [], _, rfl, by simp⟩⟩
  have hidden (sets : ∃ value ∈ earlier, Sets value) :
      extractToken ("; ".intercalate (earlier ++ value :: later)) =
        extractToken ("; ".intercalate earlier) := by
    obtain ⟨setter, listed, sets⟩ := sets
    apply Option.ext
    intro other
    rw [extractToken_eq_some_iff, extractToken_eq_some_iff, whole, firstSets_append_iff,
      parts_intercalate (List.ne_nil_of_mem listed)]
    constructor
    · rintro ⟨filled, before | ⟨unset, _⟩⟩
      · exact ⟨filled, before⟩
      · exact absurd sets (unset_iff.mpr unset setter listed)
    · rintro ⟨filled, before⟩
      exact ⟨filled, .inl before⟩
  refine ⟨found, hidden, fun different => ⟨fun told => ?_, found⟩⟩
  intro setter listed sets
  rw [hidden ⟨setter, listed, sets⟩, extractToken_eq_some_iff,
    parts_intercalate (List.ne_nil_of_mem listed)] at told
  obtain ⟨_, before, after, split, _⟩ := told
  have member : setting token ∈ earlier.flatMap parts := by
    rw [split]
    exact List.mem_append_right before List.mem_cons_self
  obtain ⟨same, present, part⟩ := List.mem_flatMap.mp member
  exact different same present (setsTo_iff.mpr part)

end Competing

/-- The token of cookies is what the first of their parts that sets the cookie says, if that is not
empty. A repeated header has all its values joined, and a proper token that one of them begins with
is found exactly if no earlier part sets the cookie. -/
theorem token_extracted :
    (∀ cookies token, extractToken cookies = some token ↔
      token ≠ "" ∧ ∃ parts, Parts cookies parts ∧ FirstSets parts token) ∧
    (∀ received, (Http.Header.gather received).get? "set-cookie" =
      Http.Header.joined (Http.Header.values received "set-cookie")) ∧
    ∀ earlier value later token, Proper token → Opens value token →
      Competes token earlier ("; ".intercalate (earlier ++ value :: later)) := by
  refine ⟨?_, ?_, ?_⟩
  · intro cookies token
    rw [extractToken_eq_some_iff]
    constructor
    · rintro ⟨filled, first⟩
      exact ⟨filled, parts cookies, parts_iff.mpr rfl, first⟩
    · rintro ⟨filled, list, cut, first⟩
      exact ⟨filled, parts_iff.mp cut ▸ first⟩
  · intro received
    exact Http.Header.get?_gather received "set-cookie"
  · intro earlier value later token proper opens
    exact competes proper opens earlier later

/-- A token that looks like another setting of the cookie, after a cookie of a similar name. -/
theorem token_extracted_nested :
    let token := "a=LtpaToken2=b=="
    let value := "LtpaToken2=a=LtpaToken2=b== ; Path=/; HttpOnly"
    Proper token ∧ Opens value token ∧ ¬ Sets "LtpaToken=old; Path=/" ∧
      extractToken ("; ".intercalate (["LtpaToken=old; Path=/"] ++ value :: ["LtpaToken2=c"])) =
        some token := by
  intro token value
  have proper : Proper token := by
    refine ⟨by decide, by decide +kernel, fun c last => ?_⟩
    have ends : token.toList.getLast? = some '=' := by decide +kernel
    cases ends.symm.trans last
    rfl
  have opens : Opens value token := by
    refine ⟨"", " ", "; Path=/; HttpOnly", by decide +kernel, ?_, ?_, ?_⟩
    · simp [Text.AllBlank]
    · intro c member
      rw [List.mem_singleton.mp member]
      rfl
    · rintro c ⟨⟩
      rfl
  have unset : ¬ Sets "LtpaToken=old; Path=/" := by
    rintro ⟨other, sets⟩
    have listed : parts "LtpaToken=old; Path=/" = ["LtpaToken=old", "Path=/"] := by decide +kernel
    rw [setsTo_iff, listed] at sets
    have letters (part : String) (same : setting other = part) : cookieStart <+: part.toList := by
      rw [← same, toList_setting]
      exact List.prefix_append ..
    rcases List.mem_cons.mp sets with first | second
    · exact absurd (letters _ first) (by decide +kernel)
    · exact absurd (letters _ (List.mem_singleton.mp second)) (by decide +kernel)
  obtain ⟨_, _, competing⟩ := token_extracted
  have competes := competing ["LtpaToken=old; Path=/"] value ["LtpaToken2=c"] token proper opens
  refine ⟨proper, opens, unset, competes.found ?_⟩
  intro earlier member
  exact List.mem_singleton.mp member ▸ unset

end Credentials

end MqAdmin
