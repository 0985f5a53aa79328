/-!
Blank characters and the cutting of texts at them. Blank means the Unicode property White_Space.
-/

namespace MqAdmin.Text

/-- The code points of White_Space, as closed ranges. -/
def blankRanges : List (Nat × Nat) := [
  (0x9, 0xD), (0x20, 0x20), (0x85, 0x85), (0xA0, 0xA0), (0x1680, 0x1680), (0x2000, 0x200A),
  (0x2028, 0x2029), (0x202F, 0x202F), (0x205F, 0x205F), (0x3000, 0x3000)]

def isBlank (c : Char) : Bool :=
  blankRanges.any fun range => range.1 ≤ c.toNat && c.toNat ≤ range.2

def dropBlankEnd (cs : List Char) : List Char := (cs.reverse.dropWhile isBlank).reverse

def trimChars (cs : List Char) : List Char := dropBlankEnd (cs.dropWhile isBlank)

def trim (text : String) : String := String.ofList (trimChars text.toList)

/-- Cuts a list at its first element that passes the test; that element is dropped. -/
def cutAt {α : Type} (test : α → Bool) : List α → Option (List α × List α)
  | [] => none
  | x :: rest => if test x then some ([], rest)
    else (cutAt test rest).map fun parts => (x :: parts.1, parts.2)

/-- The pieces of a list between the elements that pass the test. -/
def pieces {α : Type} (test : α → Bool) : List α → List (List α)
  | [] => [[]]
  | x :: rest => if test x then [] :: pieces test rest
    else match pieces test rest with
      | [] => [[x]]
      | piece :: others => (x :: piece) :: others

/-- A list without the given beginning, if it begins so. -/
def stripStart {α : Type} [DecidableEq α] : List α → List α → Option (List α)
  | [], list => some list
  | _ :: _, [] => none
  | x :: start, y :: list => if x = y then stripStart start list else none

theorem cutAt_eq_some {α : Type} {test : α → Bool} :
    {list before after : List α} → cutAt test list = some (before, after) →
      ∃ x, test x = true ∧ list = before ++ x :: after ∧ ∀ y ∈ before, test y = false
  | [], _, _, found => by simp [cutAt] at found
  | x :: rest, before, after, found => by
    rw [cutAt] at found
    split at found
    · rename_i passes
      cases found
      exact ⟨x, passes, rfl, by simp⟩
    · rename_i fails
      obtain ⟨parts, cut, same⟩ := Option.map_eq_some_iff.mp found
      cases same
      obtain ⟨mark, passes, whole, earlier⟩ := cutAt_eq_some cut
      refine ⟨mark, passes, by rw [whole]; rfl, fun y member => ?_⟩
      rcases List.mem_cons.mp member with same | later
      · subst same
        simpa using fails
      · exact earlier y later

theorem stripStart_eq_some_iff {α : Type} [DecidableEq α] :
    {start list rest : List α} → stripStart start list = some rest ↔ list = start ++ rest
  | [], list, rest => by simp [stripStart]
  | x :: start, [], rest => by simp [stripStart]
  | x :: start, y :: list, rest => by
    rw [stripStart]
    split
    · rename_i same
      subst same
      simp [stripStart_eq_some_iff]
    · rename_i different
      simp [Ne.symm different]

end MqAdmin.Text
