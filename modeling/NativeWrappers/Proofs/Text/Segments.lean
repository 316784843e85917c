import Mathlib.Data.List.Basic
import NativeWrappers.Text.Segments
/-!
# Segments of texts that are put together

A separator between two texts keeps their segments apart. Without one, the last segment of the first
text runs on into the second.
-/

namespace NativeWrappers.Text

variable {separator character : Char} {chars first second : List Char}

theorem splitAt_of_not_mem (free : separator ∉ chars) : splitAt separator chars = [chars] := by
  induction chars with
  | nil => rfl
  | cons character rest ih =>
      rw [List.mem_cons, not_or] at free
      rw [splitAt, if_neg (Ne.symm free.1), ih free.2]

theorem splitAt_cons_of_ne (different : character ≠ separator) {rest piece : List Char}
    {pieces : List (List Char)} (split : splitAt separator rest = piece :: pieces) :
    splitAt separator (character :: rest) = (character :: piece) :: pieces := by
  simp [splitAt, different, split]

theorem splitAt_append_separator (separator : Char) (first second : List Char) :
    splitAt separator (first ++ separator :: second)
      = splitAt separator first ++ splitAt separator second := by
  induction first with
  | nil => simp [splitAt]
  | cons character rest ih =>
      by_cases same : character = separator
      · simp [splitAt, same, ih]
      · rcases List.exists_cons_of_ne_nil (splitAt_ne_nil separator rest) with
          ⟨piece, pieces, split⟩
        have split' : splitAt separator (rest ++ separator :: second)
            = piece :: (pieces ++ splitAt separator second) := by
          simp [ih, split]
        simp [splitAt_cons_of_ne same split, splitAt_cons_of_ne same split']

/-- Pieces without a separator are given back when they are joined and split again. -/
theorem splitAt_intercalate {pieces : List (List Char)} (nonempty : pieces ≠ [])
    (free : ∀ piece ∈ pieces, separator ∉ piece) :
    splitAt separator ([separator].intercalate pieces) = pieces := by
  induction pieces with
  | nil => exact absurd rfl nonempty
  | cons piece rest ih =>
      have alone : splitAt separator piece = [piece] :=
        splitAt_of_not_mem (free piece List.mem_cons_self)
      cases rest with
      | nil => rw [List.intercalate_singleton, alone]
      | cons next rest =>
          have later : splitAt separator ([separator].intercalate (next :: rest)) = next :: rest :=
            ih (List.cons_ne_nil _ _) fun piece member => free piece (List.mem_cons_of_mem _ member)
          rw [List.intercalate_cons_cons, List.append_assoc, List.singleton_append,
            splitAt_append_separator, alone, later, List.singleton_append]

/-- Without a separator between them, the last piece of the first runs on. -/
theorem exists_splitAt_append (chars : List Char) {suffix : List Char}
    (free : separator ∉ suffix) :
    ∃ pieces last, splitAt separator chars = pieces ++ [last] ∧
      splitAt separator (chars ++ suffix) = pieces ++ [last ++ suffix] := by
  induction chars with
  | nil => exact ⟨[], [], rfl, by simp [splitAt_of_not_mem free]⟩
  | cons character rest ih =>
      rcases ih with ⟨pieces, last, split, splitMore⟩
      by_cases same : character = separator
      · exact ⟨[] :: pieces, last, by simp [splitAt, same, split], by
          simp [splitAt, same, splitMore]⟩
      · cases pieces with
        | nil =>
            exact ⟨[], character :: last, splitAt_cons_of_ne same split,
              splitAt_cons_of_ne same splitMore⟩
        | cons piece pieces =>
            exact ⟨(character :: piece) :: pieces, last, splitAt_cons_of_ne same split,
              splitAt_cons_of_ne same splitMore⟩

theorem mem_of_mem_splitAt {piece : List Char} (member : piece ∈ splitAt separator chars)
    (inPiece : character ∈ piece) : character ∈ chars := by
  induction chars generalizing piece with
  | nil =>
      rw [splitAt, List.mem_singleton] at member
      rwa [member] at inPiece
  | cons head rest ih =>
      by_cases same : head = separator
      · simp only [splitAt, same, if_pos, List.mem_cons] at member
        rcases member with rfl | inRest
        · cases inPiece
        · exact List.mem_cons_of_mem _ (ih inRest inPiece)
      · rcases List.exists_cons_of_ne_nil (splitAt_ne_nil separator rest) with
          ⟨first, others, split⟩
        rw [splitAt_cons_of_ne same split] at member
        rcases List.mem_cons.mp member with rfl | inOthers
        · rcases List.mem_cons.mp inPiece with rfl | inFirst
          · exact List.mem_cons_self
          · exact List.mem_cons_of_mem _ (ih (by simp [split]) inFirst)
        · exact List.mem_cons_of_mem _ (ih (by simp [split, inOthers]) inPiece)

section Texts

variable {text segment : String}

theorem segments_ne_nil (separator : Char) (text : String) : segments separator text ≠ [] := by
  simp [segments, splitAt_ne_nil]

theorem mem_segments_iff :
    segment ∈ segments separator text ↔ segment.toList ∈ splitAt separator text.toList := by
  constructor
  · intro member
    rcases List.mem_map.mp member with ⟨piece, pieceMember, rfl⟩
    simpa using pieceMember
  · intro member
    exact List.mem_map.mpr ⟨segment.toList, member, String.ofList_toList⟩

theorem segments_of_not_mem (free : separator ∉ text.toList) :
    segments separator text = [text] := by
  simp [segments, splitAt_of_not_mem free]

/-- A segment has no separator in it, and no character that the text has not. -/
theorem not_mem_and_subset_of_mem_segments (member : segment ∈ segments separator text) :
    separator ∉ segment.toList ∧ segment.toList ⊆ text.toList := by
  have piece := mem_segments_iff.mp member
  exact ⟨not_mem_of_mem_splitAt piece, fun _ => mem_of_mem_splitAt piece⟩

theorem exists_segments_append (text : String) {suffix : String}
    (free : separator ∉ suffix.toList) :
    ∃ others last, segments separator text = others ++ [last] ∧
      segments separator (text ++ suffix) = others ++ [last ++ suffix] := by
  rcases exists_splitAt_append text.toList free with ⟨pieces, last, split, splitMore⟩
  refine ⟨pieces.map String.ofList, String.ofList last, ?_, ?_⟩
  · simp [segments, split]
  · simp [segments, splitMore, String.toList_append, String.ofList_append]

end Texts

end NativeWrappers.Text
