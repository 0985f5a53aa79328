import Mathlib.Data.List.TakeWhile
import MqAdmin.Text.Blank

/-!
Texts and the blanks in them. Trimming leaves the one part of a text that has only blanks around it
and none at its own ends. A text without blanks at its ends is one word, or it falls into its first
word, the blanks after it and the rest in just one way.
-/

namespace MqAdmin.Text

section Lists

variable {before cs after rest : List Char}

theorem isBlank_of_mem_head?_dropWhile {c : Char} (first : c ∈ (cs.dropWhile isBlank).head?) :
    isBlank c = false := by
  induction cs with
  | nil => cases first
  | cons d rest ih =>
    rw [List.dropWhile_cons] at first
    split at first
    · exact ih first
    · rename_i unblank
      cases first
      simpa using unblank

theorem dropWhile_blanks (blank : ∀ c ∈ before, isBlank c = true)
    (start : ∀ c ∈ cs.head?, isBlank c = false) : (before ++ cs).dropWhile isBlank = cs := by
  rw [List.dropWhile_append_of_pos blank]
  cases cs with
  | nil => rfl
  | cons c rest => simp [start c rfl]

theorem dropBlankEnd_blanks (blank : ∀ c ∈ after, isBlank c = true)
    (ending : ∀ c ∈ cs.getLast?, isBlank c = false) : dropBlankEnd (cs ++ after) = cs := by
  have reversed : ∀ c ∈ cs.reverse.head?, isBlank c = false := by simpa using ending
  have blanks : ∀ c ∈ after.reverse, isBlank c = true := by simpa using blank
  rw [dropBlankEnd, List.reverse_append, dropWhile_blanks blanks reversed, List.reverse_reverse]

theorem trimChars_blanks (blank : ∀ c ∈ before, isBlank c = true)
    (blankToo : ∀ c ∈ after, isBlank c = true) (start : ∀ c ∈ cs.head?, isBlank c = false)
    (ending : ∀ c ∈ cs.getLast?, isBlank c = false) : trimChars (before ++ cs ++ after) = cs := by
  cases cs with
  | nil =>
    have blanks : ∀ c ∈ before ++ [] ++ after, isBlank c = true := by
      intro c member
      simp only [List.append_nil, List.mem_append] at member
      exact member.elim (blank c) (blankToo c)
    rw [trimChars, List.dropWhile_eq_nil_iff.mpr blanks]
    rfl
  | cons c rest =>
    have first : ∀ d ∈ (c :: rest ++ after).head?, isBlank d = false := start
    rw [trimChars, List.append_assoc, dropWhile_blanks blank first,
      dropBlankEnd_blanks blankToo ending]

theorem trimChars_eq_self (start : ∀ c ∈ cs.head?, isBlank c = false)
    (ending : ∀ c ∈ cs.getLast?, isBlank c = false) : trimChars cs = cs := by
  have nothing : ∀ c ∈ ([] : List Char), isBlank c = true := by simp
  simpa using trimChars_blanks nothing nothing start ending

/-- What is dropped at the end are blanks, and what then ends the list is none. -/
theorem exists_dropBlankEnd (cs : List Char) : ∃ after, cs = dropBlankEnd cs ++ after ∧
    (∀ c ∈ after, isBlank c = true) ∧ ∀ c ∈ (dropBlankEnd cs).getLast?, isBlank c = false := by
  refine ⟨(cs.reverse.takeWhile isBlank).reverse, ?_, ?_, ?_⟩
  · rw [dropBlankEnd, ← List.reverse_append, List.takeWhile_append_dropWhile, List.reverse_reverse]
  · intro c member
    exact List.mem_takeWhile_imp (List.mem_reverse.mp member)
  · intro c last
    rw [dropBlankEnd, List.getLast?_reverse] at last
    exact isBlank_of_mem_head?_dropWhile last

theorem exists_trimChars (cs : List Char) : ∃ before after, cs = before ++ trimChars cs ++ after ∧
    (∀ c ∈ before, isBlank c = true) ∧ (∀ c ∈ after, isBlank c = true) ∧
    (∀ c ∈ (trimChars cs).head?, isBlank c = false) ∧
    ∀ c ∈ (trimChars cs).getLast?, isBlank c = false := by
  obtain ⟨after, whole, blank, ending⟩ := exists_dropBlankEnd (cs.dropWhile isBlank)
  refine ⟨cs.takeWhile isBlank, after, ?_, ?_, blank, ?_, ending⟩
  · rw [List.append_assoc, trimChars, ← whole, List.takeWhile_append_dropWhile]
  · intro c member
    exact List.mem_takeWhile_imp member
  · intro c first
    have head : (dropBlankEnd (cs.dropWhile isBlank)).head? = some c := first
    have front : c ∈ (cs.dropWhile isBlank).head? := by
      rw [whole, List.head?_append, head]
      rfl
    exact isBlank_of_mem_head?_dropWhile front

theorem cutAt_eq_none {α : Type} {test : α → Bool} {list : List α}
    (none : ∀ x ∈ list, test x = false) : cutAt test list = .none := by
  induction list with
  | nil => rfl
  | cons x rest ih =>
    obtain ⟨head, tail⟩ := List.forall_mem_cons.mp none
    simp [cutAt, head, ih tail]

theorem cutAt_append {α : Type} {test : α → Bool} {list rest : List α} {mark : α}
    (none : ∀ x ∈ list, test x = false) (passes : test mark = true) :
    cutAt test (list ++ mark :: rest) = some (list, rest) := by
  induction list with
  | nil => simp [cutAt, passes]
  | cons x list ih =>
    obtain ⟨head, tail⟩ := List.forall_mem_cons.mp none
    simp [cutAt, head, ih tail]

end Lists

def AllBlank (text : String) : Prop := ∀ c ∈ text.toList, isBlank c = true

def Unbroken (text : String) : Prop := ∀ c ∈ text.toList, isBlank c = false

instance (text : String) : Decidable (AllBlank text) :=
  List.decidableBAll (isBlank · = true) text.toList

instance (text : String) : Decidable (Unbroken text) :=
  List.decidableBAll (isBlank · = false) text.toList

/-- Whether a text is what another one has between the blanks at its ends. -/
structure Trims (text core : String) : Prop where
  between : ∃ before after, text = before ++ core ++ after ∧ AllBlank before ∧ AllBlank after
  start : ∀ c ∈ core.toList.head?, isBlank c = false
  ending : ∀ c ∈ core.toList.getLast?, isBlank c = false

/-- Whether a text is a word, blanks and a rest that begins with something else. -/
structure Splits (text word gap rest : String) : Prop where
  whole : text = word ++ gap ++ rest
  word : Unbroken word
  gap : gap ≠ "" ∧ AllBlank gap
  rest : ∃ c cs, rest.toList = c :: cs ∧ isBlank c = false

variable {text core word gap rest : String}

theorem trims_iff : Trims text core ↔ core = trim text := by
  constructor
  · intro trims
    obtain ⟨before, after, rfl, blank, blankToo⟩ := trims.between
    rw [trim, String.toList_append, String.toList_append,
      trimChars_blanks blank blankToo trims.start trims.ending, String.ofList_toList]
  · intro same
    subst same
    obtain ⟨before, after, whole, blank, blankToo, start, ending⟩ := exists_trimChars text.toList
    have core : (trim text).toList = trimChars text.toList := String.toList_ofList
    refine ⟨⟨.ofList before, .ofList after, ?_, ?_, ?_⟩, ?_, ?_⟩
    · apply String.toList_inj.mp
      simpa [core] using whole
    · simpa [AllBlank] using blank
    · simpa [AllBlank] using blankToo
    · rwa [core]
    · rwa [core]

theorem Trims.again (trims : Trims text core) : Trims core core where
  between := ⟨"", "", by simp, by decide, by decide⟩
  start := trims.start
  ending := trims.ending

theorem trims_empty_iff : Trims text "" ↔ AllBlank text := by
  constructor
  · intro trims c member
    obtain ⟨before, after, whole, blank, blankToo⟩ := trims.between
    rw [whole, String.append_empty, String.toList_append] at member
    rcases List.mem_append.mp member with first | last
    · exact blank c first
    · exact blankToo c last
  · intro blank
    exact ⟨⟨text, "", by simp, blank, by decide⟩, by simp, by simp⟩

/-- The parts of a text follow from it. -/
theorem Splits.parts (splits : Splits text word gap rest) :
    word.toList = text.toList.takeWhile (!isBlank ·) ∧
      gap.toList = (text.toList.dropWhile (!isBlank ·)).takeWhile isBlank ∧
      rest.toList = (text.toList.dropWhile (!isBlank ·)).dropWhile isBlank := by
  obtain ⟨whole, unbroken, ⟨filled, blank⟩, c, cs, after, unblank⟩ := splits
  have plain : ∀ c ∈ word.toList, (!isBlank c) = true := by
    intro c member
    simp [unbroken c member]
  cases gaps : gap.toList with
  | nil => exact absurd (String.toList_eq_nil_iff.mp gaps) filled
  | cons space spaces =>
    have blanks : ∀ c ∈ space :: spaces, isBlank c = true := gaps ▸ blank
    have first : isBlank space = true := blanks space List.mem_cons_self
    have list : text.toList = word.toList ++ (space :: spaces ++ c :: cs) := by
      rw [whole, String.toList_append, String.toList_append, gaps, after, List.append_assoc]
    have middle : text.toList.dropWhile (!isBlank ·) = space :: spaces ++ c :: cs := by
      rw [list, List.dropWhile_append_of_pos plain]
      simp [first]
    refine ⟨?_, ?_, ?_⟩
    · rw [list, List.takeWhile_append_of_pos plain]
      simp [first]
    · rw [middle, List.takeWhile_append_of_pos blanks]
      simp [unblank]
    · rw [middle, List.dropWhile_append_of_pos blanks]
      simp [unblank, after]

theorem Splits.unique {word' gap' rest' : String} (splits : Splits text word gap rest)
    (too : Splits text word' gap' rest') : word = word' ∧ gap = gap' ∧ rest = rest' := by
  obtain ⟨first, second, third⟩ := splits.parts
  obtain ⟨firstToo, secondToo, thirdToo⟩ := too.parts
  refine ⟨?_, ?_, ?_⟩
  · exact String.toList_inj.mp (first.trans firstToo.symm)
  · exact String.toList_inj.mp (second.trans secondToo.symm)
  · exact String.toList_inj.mp (third.trans thirdToo.symm)

/-- A text that has a blank but does not end with one falls into parts. -/
theorem exists_splits (ending : ∀ c ∈ text.toList.getLast?, isBlank c = false)
    (broken : ¬ Unbroken text) : ∃ word gap rest, Splits text word gap rest := by
  have whole := List.takeWhile_append_dropWhile (p := (!isBlank ·)) (l := text.toList)
  have plain : ∀ c ∈ text.toList.takeWhile (!isBlank ·), isBlank c = false := by
    intro c member
    simpa using List.mem_takeWhile_imp member
  cases middle : text.toList.dropWhile (!isBlank ·) with
  | nil =>
    rw [middle, List.append_nil] at whole
    rw [whole] at plain
    exact absurd plain broken
  | cons space others =>
    rw [middle] at whole
    have first : isBlank space = true := by
      have head := List.head?_dropWhile_not (!isBlank ·) text.toList
      simpa [middle] using head
    have parts := List.takeWhile_append_dropWhile (p := isBlank) (l := space :: others)
    cases after : (space :: others).dropWhile isBlank with
    | nil =>
      -- Nothing but blanks would follow the word, and the last one would end the text.
      have blanks : ∀ c ∈ space :: others, isBlank c = true := List.dropWhile_eq_nil_iff.mp after
      have filled : space :: others ≠ [] := List.cons_ne_nil space others
      have last : text.toList.getLast? = some ((space :: others).getLast filled) := by
        rw [← whole, List.getLast?_append, List.getLast?_eq_some_getLast filled, Option.some_or]
      have unblank := ending _ last
      rw [blanks _ (List.getLast_mem filled)] at unblank
      cases unblank
    | cons c cs =>
      have unblank : isBlank c = false := isBlank_of_mem_head?_dropWhile (by rw [after]; rfl)
      refine ⟨.ofList (text.toList.takeWhile (!isBlank ·)),
        .ofList ((space :: others).takeWhile isBlank), .ofList (c :: cs), ?_, ?_, ⟨?_, ?_⟩, ?_⟩
      · apply String.toList_inj.mp
        simp only [String.toList_append, String.toList_ofList]
        rw [← after, List.append_assoc, parts, whole]
      · simpa [Unbroken] using plain
      · simp [first]
      · intro c member
        rw [String.toList_ofList] at member
        exact List.mem_takeWhile_imp member
      · exact ⟨c, cs, String.toList_ofList, unblank⟩

theorem Trims.of_unbroken (unbroken : Unbroken word) : Trims word word where
  between := ⟨"", "", by simp, by decide, by decide⟩
  start c first := unbroken c (List.mem_of_mem_head? first)
  ending c last := unbroken c (List.mem_of_getLast? last)

theorem Splits.word_ne_empty (splits : Splits text word gap rest)
    (start : ∀ c ∈ text.toList.head?, isBlank c = false) : word ≠ "" := by
  intro empty
  subst empty
  obtain ⟨whole, _, ⟨filled, blank⟩, _⟩ := splits
  cases gaps : gap.toList with
  | nil => exact filled (String.toList_eq_nil_iff.mp gaps)
  | cons space spaces =>
    have first : text.toList.head? = some space := by simp [whole, gaps]
    have unblank := start space first
    rw [blank space (by simp [gaps])] at unblank
    cases unblank

theorem Splits.rejoin {other : String} (splits : Splits text word gap rest)
    (unbroken : Unbroken other) : Splits (other ++ " " ++ rest) other " " rest where
  whole := rfl
  word := unbroken
  gap := ⟨by decide, by decide⟩
  rest := splits.rest

/-- A word that is not empty in front of a rest does not bring blanks to the ends. -/
theorem Splits.trims_rejoin {other : String} (splits : Splits text word gap rest)
    (ending : ∀ c ∈ text.toList.getLast?, isBlank c = false) (filled : other ≠ "")
    (unbroken : Unbroken other) : Trims (other ++ " " ++ rest) (other ++ " " ++ rest) where
  between := ⟨"", "", by simp, by decide, by decide⟩
  start := by
    intro c first
    apply unbroken
    cases letters : other.toList with
    | nil => exact absurd (String.toList_eq_nil_iff.mp letters) filled
    | cons d ds =>
      have same : d = c := by simpa [letters] using first
      simp [same]
  ending := by
    intro c last
    obtain ⟨whole, _, _, d, ds, after, _⟩ := splits
    apply ending
    simpa [whole, after, List.getLast?_append] using last

/-- Whether a word is the first one of a text: only blanks stand before it, and a blank or nothing
after it. -/
structure FirstWord (text word : String) : Prop where
  filled : word ≠ ""
  unbroken : Unbroken word
  stands : ∃ before after, text = before ++ word ++ after ∧ AllBlank before ∧
    ∀ c ∈ after.toList.head?, isBlank c = true

/-- The first word is all there is between the blanks at the ends, or the first of the parts of
that. -/
theorem FirstWord.trims (first : FirstWord text word) :
    Trims text word ∨ ∃ core gap rest, Trims text core ∧ Splits core word gap rest := by
  obtain ⟨filled, unbroken, before, after, whole, blank, follows⟩ := first
  obtain ⟨blanks, parts, blankToo, ending⟩ := exists_dropBlankEnd after.toList
  have alone := Trims.of_unbroken unbroken
  cases kept : dropBlankEnd after.toList with
  | nil =>
    rw [kept, List.nil_append] at parts
    rw [← parts] at blankToo
    exact .inl ⟨⟨before, after, whole, blank, blankToo⟩, alone.start, alone.ending⟩
  | cons space others =>
    rw [kept] at parts ending
    have spaced : isBlank space = true := follows space (by rw [parts]; rfl)
    have list : (word ++ .ofList (space :: others)).toList = word.toList ++ space :: others := by
      rw [String.toList_append, String.toList_ofList]
    have trims : Trims text (word ++ .ofList (space :: others)) := by
      refine ⟨⟨before, .ofList blanks, ?_, blank, ?_⟩, ?_, ?_⟩
      · apply String.toList_inj.mp
        simp [whole, parts]
      · simpa [AllBlank] using blankToo
      · intro c head
        rw [list] at head
        cases letters : word.toList with
        | nil => exact absurd (String.toList_eq_nil_iff.mp letters) filled
        | cons d ds =>
          rw [letters] at head
          exact alone.start c (letters ▸ head)
      · intro c last
        apply ending
        simpa [list, List.getLast?_append] using last
    have broken : ¬ Unbroken (word ++ .ofList (space :: others)) := by
      intro unbroken
      have plain := unbroken space (by simp)
      rw [spaced] at plain
      cases plain
    obtain ⟨start, gap, rest, splits⟩ := exists_splits trims.ending broken
    have letters : ∀ c ∈ word.toList, (!isBlank c) = true := by
      intro c member
      simp [unbroken c member]
    have same : start = word := by
      apply String.toList_inj.mp
      rw [splits.parts.1, list, List.takeWhile_append_of_pos letters]
      simp [spaced]
    subst same
    exact .inr ⟨_, gap, rest, trims, splits⟩

theorem firstWord_append_iff (follows : ∀ c ∈ rest.toList.head?, isBlank c = true) :
    FirstWord (word ++ rest) word ↔ word ≠ "" ∧ Unbroken word := by
  constructor
  · intro first
    exact ⟨first.filled, first.unbroken⟩
  · rintro ⟨filled, unbroken⟩
    exact ⟨filled, unbroken, "", rest, by simp, by decide, follows⟩

end MqAdmin.Text
