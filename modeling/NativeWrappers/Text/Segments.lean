/-!
# Segments

A text falls into segments at every occurrence of a separator. There is always one segment more
than there are separators, so segments can be empty, and joining them again gives the text back.
-/

namespace NativeWrappers.Text

/-- The pieces between the occurrences of a character. -/
def splitAt (separator : Char) : List Char → List (List Char)
  | [] => [[]]
  | character :: rest =>
    if character = separator then
      [] :: splitAt separator rest
    else
      match splitAt separator rest with
      | [] => [[character]]
      | first :: others => (character :: first) :: others

/-- The parts of a text between the separators, empty ones included. -/
def segments (separator : Char) (text : String) : List String :=
  (splitAt separator text.toList).map String.ofList

theorem splitAt_ne_nil (separator : Char) (chars : List Char) : splitAt separator chars ≠ [] := by
  cases chars with
  | nil => simp [splitAt]
  | cons character rest =>
    unfold splitAt
    split
    · simp
    · split <;> simp

/-- Joining the pieces with the separator gives the text back. -/
theorem intercalate_splitAt (separator : Char) (chars : List Char) :
    [separator].intercalate (splitAt separator chars) = chars := by
  induction chars with
  | nil => rfl
  | cons character rest ih =>
    unfold splitAt
    have nonempty := splitAt_ne_nil separator rest
    cases pieces : splitAt separator rest with
    | nil => exact absurd pieces nonempty
    | cons first others =>
      rw [pieces] at ih
      split
      · next equal =>
        rw [equal, ← ih]
        rfl
      · rw [← ih]
        cases others <;> simp [List.intercalate]

theorem not_mem_of_mem_splitAt {separator : Char} {chars piece : List Char}
    (member : piece ∈ splitAt separator chars) : separator ∉ piece := by
  induction chars generalizing piece with
  | nil =>
    simp only [splitAt, List.mem_singleton] at member
    simp [member]
  | cons character rest ih =>
    unfold splitAt at member
    split at member
    · rcases List.mem_cons.1 member with equal | inRest
      · simp [equal]
      · exact ih inRest
    · next different =>
      cases pieces : splitAt separator rest with
      | nil => exact absurd pieces (splitAt_ne_nil separator rest)
      | cons first others =>
        rw [pieces] at member
        rcases List.mem_cons.1 member with equal | inOthers
        · subst equal
          simp only [List.mem_cons, not_or]
          exact ⟨fun same => different same.symm, ih (by simp [pieces])⟩
        · exact ih (by simp [pieces, inOthers])

end NativeWrappers.Text
