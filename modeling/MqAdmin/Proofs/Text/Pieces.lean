import MqAdmin.Proofs.Text.Blank

namespace MqAdmin.Text

section Lists

variable {α : Type} {test : α → Bool} {list : List α} {mark : α}

theorem pieces_eq_splitOnP (test : α → Bool) (list : List α) :
    pieces test list = list.splitOnP test := by
  induction list with
  | nil => rfl
  | cons x rest ih =>
    rw [pieces, ih, List.splitOnP_cons_eq_if_modifyHead]
    by_cases passes : test x = true
    · rw [if_pos passes, if_pos passes]
    · rw [if_neg passes, if_neg passes]
      obtain ⟨piece, others, cut⟩ := List.exists_cons_of_ne_nil (List.splitOnP_ne_nil test rest)
      rw [cut, List.modifyHead_cons]

theorem pieces_ne_nil (test : α → Bool) (list : List α) : pieces test list ≠ [] := by
  rw [pieces_eq_splitOnP]
  exact List.splitOnP_ne_nil test list

theorem pieces_of_unmarked (unmarked : ∀ x ∈ list, test x = false) : pieces test list = [list] := by
  rw [pieces_eq_splitOnP, List.splitOnP_eq_singleton unmarked]

theorem pieces_append (list rest : List α) (passes : test mark = true) :
    pieces test (list ++ mark :: rest) = pieces test list ++ pieces test rest := by
  simp only [pieces_eq_splitOnP, List.splitOnP_append_cons list rest passes]

/-- What stands in front of a text belongs to its first piece. -/
theorem exists_pieces_cons {x : α} (fails : test x = false) (list : List α) :
    ∃ piece others, pieces test list = piece :: others ∧
      pieces test (x :: list) = (x :: piece) :: others := by
  obtain ⟨piece, others, cut⟩ := List.exists_cons_of_ne_nil (pieces_ne_nil test list)
  refine ⟨piece, others, cut, ?_⟩
  rw [pieces, cut]
  simp [fails]

theorem unmarked_of_mem_pieces {piece : List α} (member : piece ∈ pieces test list) :
    ∀ x ∈ piece, test x = false := by
  induction list generalizing piece with
  | nil =>
    intro x present
    rw [List.mem_singleton.mp member] at present
    exact absurd present List.not_mem_nil
  | cons y rest ih =>
    intro x present
    by_cases passes : test y = true
    · rw [pieces, if_pos passes] at member
      rcases List.mem_cons.mp member with empty | later
      · rw [empty] at present
        exact absurd present List.not_mem_nil
      · exact ih later x present
    · have fails : test y = false := by simpa using passes
      obtain ⟨first, others, cut, whole⟩ := exists_pieces_cons fails rest
      rw [whole] at member
      rcases List.mem_cons.mp member with same | later
      · rw [same] at present
        rcases List.mem_cons.mp present with head | tail
        · rw [head, fails]
        · exact ih (cut ▸ List.mem_cons_self) x tail
      · exact ih (cut ▸ List.mem_cons_of_mem first later) x present

end Lists

/-- Whether texts are the pieces of a text between marks. -/
structure Pieces (mark : Char) (text : String) (pieces : List String) : Prop where
  present : pieces ≠ []
  unmarked : ∀ piece ∈ pieces, mark ∉ piece.toList
  joined : (String.singleton mark).intercalate pieces = text

theorem pieces_iff {mark : Char} {text : String} {list : List String} :
    Pieces mark text list ↔ list.map String.toList = pieces (· = mark) text.toList := by
  have split : pieces (· = mark) text.toList = text.toList.splitOn mark :=
    pieces_eq_splitOnP (· = mark) text.toList
  constructor
  · intro cut
    obtain ⟨present, unmarked, joined⟩ := cut
    rw [split, ← joined, String.toList_intercalate, String.toList_singleton,
      List.splitOn_intercalate]
    · intro cs member
      obtain ⟨piece, listed, same⟩ := List.mem_map.mp member
      exact same ▸ unmarked piece listed
    · intro empty
      exact present (List.map_eq_nil_iff.mp empty)
  · intro same
    refine ⟨?_, ?_, ?_⟩
    · intro empty
      rw [empty, List.map_nil] at same
      exact pieces_ne_nil _ _ same.symm
    · intro piece listed marked
      have cut : piece.toList ∈ pieces (· = mark) text.toList :=
        same ▸ List.mem_map_of_mem listed
      simpa using unmarked_of_mem_pieces cut mark marked
    · apply String.toList_inj.mp
      rw [String.toList_intercalate, String.toList_singleton, same, split, List.intercalate_splitOn]

end MqAdmin.Text
