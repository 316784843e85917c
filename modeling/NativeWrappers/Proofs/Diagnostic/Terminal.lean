import Mathlib.Data.List.TakeWhile
import Mathlib.Data.String.Basic
import NativeWrappers.Diagnostic.Terminal
import NativeWrappers.Text.Lines
/-!
# The texts of a diagnostic

A diagnostic has a plain text, and it is shown on a terminal without colours or with them. The plain
text has a line end between its lines, the terminal gets one after each line and one more, and the
lines are the same but for a space in the first. Colours add nothing but control sequences: without
them, what is shown with colours is what is shown without, unless a text of the diagnostic has an
escape character of its own.
-/

namespace NativeWrappers

namespace Terminal

/-! ## Control sequences -/

/-- The character that every control sequence begins with. -/
def escape : Char := '\x1b'

/-- A text without escape characters. -/
def IsUnescaped (text : String) : Prop := escape ∉ text.toList

instance : DecidablePred IsUnescaped := fun text =>
  inferInstanceAs (Decidable (escape ∉ text.toList))

theorem IsUnescaped.append {first second : String} (unescaped : IsUnescaped first)
    (unescaped' : IsUnescaped second) : IsUnescaped (first ++ second) := by
  rw [IsUnescaped, String.toList_append, List.mem_append, not_or]
  exact ⟨unescaped, unescaped'⟩

/-- Whether a character can be a parameter of a control sequence. -/
def isParameter (character : Char) : Bool := '0' ≤ character && character ≤ '?'

/-- Whether a character can stand between the parameters and the end of a control sequence. -/
def isIntermediate (character : Char) : Bool := ' ' ≤ character && character ≤ '/'

/-- Whether a character can end a control sequence. -/
def isFinal (character : Char) : Bool := '@' ≤ character && character ≤ '~'

/-- What follows a control sequence that the text begins with. Such a sequence is an escape and a
bracket, parameters, intermediate characters, and a final one. -/
def afterSequence? : List Char → Option (List Char)
  | first :: second :: rest =>
      if first = escape ∧ second = '[' then
        match (rest.dropWhile isParameter).dropWhile isIntermediate with
        | final :: after => if isFinal final then some after else none
        | [] => none
      else
        none
  | _ => none

variable {character : Char} {chars parameters rest after : List Char}

theorem length_lt_of_afterSequence? (found : afterSequence? chars = some after) :
    after.length < chars.length := by
  unfold afterSequence? at found
  split at found
  · next first second rest =>
      split at found
      · split at found
        · next final following remaining =>
            split at found
            · rw [Option.some.injEq] at found
              have shorter : (final :: following).length ≤ rest.length := by
                rw [← remaining]
                exact ((List.dropWhile_suffix _).trans (List.dropWhile_suffix _)).length_le
              simp only [List.length_cons, found] at shorter ⊢
              omega
            · cases found
        · cases found
      · cases found
  · cases found

/-- The text without its control sequences. -/
def withoutSequences : List Char → List Char
  | [] => []
  | character :: rest =>
      match _found : afterSequence? (character :: rest) with
      | some after => withoutSequences after
      | none => character :: withoutSequences rest
termination_by chars => chars.length
decreasing_by
  · exact length_lt_of_afterSequence? ‹_›
  · simp

/-- A text without its control sequences. -/
def plainText (text : String) : String := String.ofList (withoutSequences text.toList)

theorem withoutSequences_of_afterSequence? (found : afterSequence? chars = some after) :
    withoutSequences chars = withoutSequences after := by
  cases chars with
  | nil => cases found
  | cons character rest =>
      rw [withoutSequences]
      split
      · next after' found' =>
          rw [found] at found'
          cases found'
          rfl
      · next notFound =>
          rw [found] at notFound
          cases notFound

theorem withoutSequences_cons_of_ne (different : character ≠ escape) :
    withoutSequences (character :: rest) = character :: withoutSequences rest := by
  have notFound : afterSequence? (character :: rest) = none := by
    cases rest <;> simp [afterSequence?, different]
  rw [withoutSequences]
  split
  · next after found =>
      rw [notFound] at found
      cases found
  · rfl

theorem withoutSequences_append (free : escape ∉ chars) (rest : List Char) :
    withoutSequences (chars ++ rest) = chars ++ withoutSequences rest := by
  induction chars with
  | nil => rfl
  | cons character chars ih =>
      rw [List.mem_cons, not_or] at free
      rw [List.cons_append, withoutSequences_cons_of_ne (Ne.symm free.1), ih free.2,
        List.cons_append]

/-- The text is a control sequence that sets the looks of what follows. -/
def SetsLooks (text : String) : Prop :=
  ∃ parameters, parameters.all isParameter ∧
    text.toList = escape :: '[' :: (parameters ++ ['m'])

theorem setsLooks_sequence (style : Style) : SetsLooks style.sequence := by
  cases style with
  | error => exact ⟨['1', ';', '3', '1'], by decide, by decide⟩
  | warning => exact ⟨['1', ';', '3', '3'], by decide, by decide⟩
  | note => exact ⟨['1', ';', '3', '6'], by decide, by decide⟩
  | help => exact ⟨['1', ';', '3', '2'], by decide, by decide⟩
  | bold => exact ⟨['1'], by decide, by decide⟩
  | secondary => exact ⟨['1', ';', '3', '4'], by decide, by decide⟩

theorem setsLooks_reset : SetsLooks reset := ⟨['0'], by decide, by decide⟩

theorem SetsLooks.withoutSequences_append {text : String} (looks : SetsLooks text)
    (rest : List Char) : withoutSequences (text.toList ++ rest) = withoutSequences rest := by
  rcases looks with ⟨parameters, areParameters, written⟩
  rw [List.all_eq_true] at areParameters
  have remaining : ((parameters ++ 'm' :: rest).dropWhile isParameter).dropWhile isIntermediate
      = 'm' :: rest := by
    rw [List.dropWhile_append_of_pos areParameters]
    rfl
  apply withoutSequences_of_afterSequence?
  rw [written, List.cons_append, List.cons_append, List.append_assoc, List.singleton_append,
    afterSequence?, if_pos ⟨rfl, rfl⟩, remaining]
  rfl

/-! ## Colours -/

section Colours

variable {fragment : Fragment} {fragments : List Fragment}

theorem write_cons (colors : Bool) (fragment : Fragment) (fragments : List Fragment) :
    write colors (fragment :: fragments) = fragment.write colors ++ write colors fragments := by
  simp [write]

theorem withoutSequences_write_append (unescaped : IsUnescaped fragment.text)
    (rest : List Char) :
    withoutSequences ((fragment.write true).toList ++ rest)
      = (fragment.write false).toList ++ withoutSequences rest := by
  rcases fragment with ⟨_ | style, text⟩
  · exact withoutSequences_append unescaped rest
  · simp only [Fragment.write, if_true, String.toList_append, List.append_assoc]
    rw [(setsLooks_sequence style).withoutSequences_append, withoutSequences_append unescaped,
      setsLooks_reset.withoutSequences_append]
    rfl

/-- Colours add control sequences and nothing else. -/
theorem plainText_write (unescaped : ∀ fragment ∈ fragments, IsUnescaped fragment.text) :
    plainText (write true fragments) = write false fragments := by
  apply String.toList_injective
  rw [plainText, String.toList_ofList]
  induction fragments with
  | nil => simp [write, withoutSequences]
  | cons fragment rest ih =>
      rw [write_cons, write_cons, String.toList_append, String.toList_append,
        withoutSequences_write_append (unescaped fragment List.mem_cons_self),
        ih fun other member => unescaped other (List.mem_cons_of_mem _ member)]

end Colours

/-! ## Diagnostics -/

end Terminal

namespace Diagnostic

/-- All texts that a diagnostic is made of. -/
def texts (diagnostic : Diagnostic) : List String :=
  diagnostic.message :: diagnostic.labels.flatMap (fun label => [label.subject, label.message])
    ++ diagnostic.notes ++ diagnostic.suggestions

/-- The lines below the first. -/
def remarks (diagnostic : Diagnostic) : List String :=
  diagnostic.labels.map
      (fun label => "  " ++ label.marker ++ " " ++ label.subject ++ ": " ++ label.message)
    ++ diagnostic.notes.map ("  = note: " ++ ·)
    ++ diagnostic.suggestions.map ("  = help: " ++ ·)

variable (diagnostic : Diagnostic)

theorem display_eq :
    diagnostic.display
      = diagnostic.severity.text ++ " " ++ ("[" ++ diagnostic.code.text ++ "]")
        ++ (": " ++ diagnostic.message ++ String.join (diagnostic.remarks.map ("\n" ++ ·))) := by
  have bracket (text : String) : text ++ " [" = text ++ " " ++ "[" := by
    rw [String.append_assoc]
    rfl
  have colon (text : String) : text ++ "]: " = text ++ "]" ++ ": " := by
    rw [String.append_assoc]
    rfl
  simp [display, bracket, colon, remarks, Function.comp_def, ← String.append_assoc]

end Diagnostic

namespace Terminal

theorem write_append (colors : Bool) (first second : List Fragment) :
    write colors (first ++ second) = write colors first ++ write colors second := by
  simp [write]

theorem write_flatMap {α : Type} (colors : Bool) (fragmentsOf : α → List Fragment)
    (elements : List α) :
    write colors (elements.flatMap fragmentsOf)
      = String.join (elements.map fun element => write colors (fragmentsOf element)) := by
  induction elements with
  | nil => rfl
  | cons element rest ih => simp [write_append, ih]

theorem write_labelFragments (label : Label) :
    write false (labelFragments label)
      = "  " ++ label.marker ++ " " ++ label.subject ++ ": " ++ label.message ++ "\n" := by
  simp [write, labelFragments, Fragment.write, Fragment.plain, Fragment.styled,
    ← String.append_assoc]

theorem write_remarkFragments (style : Style) (tag remark : String) :
    write false (remarkFragments style tag remark)
      = "  = " ++ tag ++ ": " ++ remark ++ "\n" := by
  simp [write, remarkFragments, Fragment.write, Fragment.plain, Fragment.styled,
    ← String.append_assoc]

variable (diagnostic : Diagnostic)

theorem diagnosticText_false :
    diagnosticText false diagnostic
      = diagnostic.severity.text ++ ("[" ++ diagnostic.code.text ++ "]")
        ++ Text.ofLines ((": " ++ diagnostic.message) :: diagnostic.remarks) ++ "\n" := by
  simp only [diagnosticText, diagnosticFragments, write_append, write_flatMap,
    write_labelFragments, write_remarkFragments]
  simp [Diagnostic.remarks, Text.ofLines, Function.comp_def, write, Fragment.write,
    Fragment.plain, Fragment.styled, ← String.append_assoc]

theorem isUnescaped_of_mem_labelFragments {label : Label} {fragment : Fragment}
    (subject : IsUnescaped label.subject) (message : IsUnescaped label.message)
    (member : fragment ∈ labelFragments label) : IsUnescaped fragment.text := by
  have marker : IsUnescaped label.marker := by
    rw [Label.marker]
    split <;> decide
  simp only [labelFragments, List.mem_cons, List.not_mem_nil, or_false] at member
  rcases member with rfl | rfl | rfl | rfl | rfl
  · exact (IsUnescaped.append (by decide) marker).append (by decide)
  · exact subject
  · decide
  · exact message
  · decide

theorem isUnescaped_of_mem_remarkFragments {style : Style} {tag remark : String}
    {fragment : Fragment} (tagUnescaped : IsUnescaped tag) (remarkUnescaped : IsUnescaped remark)
    (member : fragment ∈ remarkFragments style tag remark) : IsUnescaped fragment.text := by
  simp only [remarkFragments, List.mem_cons, List.not_mem_nil, or_false] at member
  rcases member with rfl | rfl | rfl
  · decide
  · exact tagUnescaped
  · exact (IsUnescaped.append (by decide) remarkUnescaped).append (by decide)

theorem isUnescaped_of_mem_diagnosticFragments
    (unescaped : ∀ text ∈ diagnostic.texts, IsUnescaped text) {fragment : Fragment}
    (member : fragment ∈ diagnosticFragments diagnostic) : IsUnescaped fragment.text := by
  have severity : IsUnescaped diagnostic.severity.text := by
    cases diagnostic.severity <;> decide
  have code : IsUnescaped diagnostic.code.text := by
    cases diagnostic.code <;> decide
  simp only [Diagnostic.texts, List.mem_append, List.mem_cons, List.mem_flatMap] at unescaped
  simp only [diagnosticFragments, List.mem_append, List.mem_flatMap, List.mem_cons,
    List.not_mem_nil, or_false] at member
  rcases member with (((inHead | ⟨label, inLabels, ofLabel⟩) | ⟨note, inNotes, ofNote⟩) |
    ⟨suggestion, inSuggestions, ofSuggestion⟩) | rfl
  · have message := unescaped diagnostic.message (by simp)
    rcases inHead with rfl | rfl | rfl
    · exact severity
    · exact (IsUnescaped.append (by decide) code).append (by decide)
    · exact (IsUnescaped.append (by decide) message).append (by decide)
  · have subject := unescaped label.subject (Or.inl (Or.inl (Or.inr ⟨label, inLabels, by simp⟩)))
    have message := unescaped label.message (Or.inl (Or.inl (Or.inr ⟨label, inLabels, by simp⟩)))
    exact isUnescaped_of_mem_labelFragments subject message ofLabel
  · have remark := unescaped note (Or.inl (Or.inr inNotes))
    exact isUnescaped_of_mem_remarkFragments (by decide) remark ofNote
  · have remark := unescaped suggestion (Or.inr inSuggestions)
    exact isUnescaped_of_mem_remarkFragments (by decide) remark ofSuggestion
  · decide

end Terminal

/-- Lines that are each ended are the first, the others each after a line end, and a line end. -/
theorem Text.ofLines_cons (first : String) (rest : List String) :
    ofLines (first :: rest) = first ++ String.join (rest.map ("\n" ++ ·)) ++ "\n" := by
  induction rest generalizing first with
  | nil => simp [ofLines]
  | cons second rest ih =>
      calc ofLines (first :: second :: rest)
          = first ++ "\n" ++ ofLines (second :: rest) := by simp [ofLines]
        _ = first ++ "\n" ++ (second ++ String.join (rest.map ("\n" ++ ·)) ++ "\n") := by rw [ih]
        _ = _ := by simp [String.append_assoc]

namespace Terminal

/-- Without colours a diagnostic is shown as its plain text, without the space before the code and
with two line ends. Without the control sequences it is shown alike with colours, if it has no
escape character of its own. -/
theorem diagnosticText_agrees (diagnostic : Diagnostic) :
    (∃ rest, diagnostic.display
          = diagnostic.severity.text ++ " " ++ ("[" ++ diagnostic.code.text ++ "]") ++ rest ∧
        diagnosticText false diagnostic
          = diagnostic.severity.text ++ ("[" ++ diagnostic.code.text ++ "]") ++ rest ++ "\n\n") ∧
      ((∀ text ∈ diagnostic.texts, IsUnescaped text) →
        plainText (diagnosticText true diagnostic) = diagnosticText false diagnostic) := by
  refine ⟨⟨_, diagnostic.display_eq, ?_⟩, fun unescaped => ?_⟩
  · rw [diagnosticText_false, Text.ofLines_cons]
    simp [String.append_assoc]
  · exact plainText_write fun _ => isUnescaped_of_mem_diagnosticFragments diagnostic unescaped

/-- A warning with something of everything, in which brackets and digits stand without an escape. -/
def sample : Diagnostic where
  code := .missingScopeCapability
  severity := .warning
  message := "`app.MainScope` exposes no scope [1;31m"
  labels := [⟨"app.MainScope", "exported here", true⟩, ⟨"app.Feed", "launched\nfrom here", false⟩]
  notes := ["[0m is no control sequence"]
  suggestions := ["add `: ScopeProvider`", ""]

theorem diagnosticText_agrees_sample :
    (∀ text ∈ sample.texts, IsUnescaped text) ∧
      plainText (diagnosticText true sample) = diagnosticText false sample ∧
      diagnosticText true sample ≠ diagnosticText false sample := by
  have unescaped : ∀ text ∈ sample.texts, IsUnescaped text := by decide
  exact ⟨unescaped, (diagnosticText_agrees sample).2 unescaped, by decide⟩

end Terminal

end NativeWrappers
