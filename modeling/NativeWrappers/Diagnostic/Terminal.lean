import NativeWrappers.Diagnostic.Basic
/-!
# Terminal output

Diagnostics as a terminal shows them. The output is a list of fragments, each with a style or
without. Written with colours, a styled fragment stands between the escape sequence of its style and
the one that resets it; written without, styles are left out.
-/

namespace NativeWrappers

/-- When to use colours. -/
inductive ColorMode where
  /-- On a terminal only. -/
  | auto
  | always
  | never
deriving DecidableEq, Repr

namespace ColorMode

/-- The three modes. -/
def all : List ColorMode := [auto, always, never]

/-- A mode as it is written in an option. -/
def text : ColorMode → String
  | auto => "auto"
  | always => "always"
  | never => "never"

/-- The mode that a text writes. -/
def ofText? (text : String) : Option ColorMode := all.find? (·.text == text)

/-- Whether to use colours on a terminal or elsewhere. -/
def usesColors (mode : ColorMode) (isTerminal : Bool) : Bool :=
  match mode with
  | auto => isTerminal
  | always => true
  | never => false

theorem ofText?_text (mode : ColorMode) : ofText? mode.text = some mode := by
  cases mode <;> decide

end ColorMode

namespace Terminal

/-- The looks of a fragment. -/
inductive Style where
  | error
  | warning
  | note
  | help
  | bold
  | secondary
deriving DecidableEq, Repr

namespace Style

/-- The escape sequence that begins a style. -/
def sequence : Style → String
  | error => "\x1b[1;31m"
  | warning => "\x1b[1;33m"
  | note => "\x1b[1;36m"
  | help => "\x1b[1;32m"
  | bold => "\x1b[1m"
  | secondary => "\x1b[1;34m"

/-- The style of a severity. -/
def ofSeverity : Severity → Style
  | .error => error
  | .warning => warning
  | .note => note
  | .help => help

end Style

/-- The escape sequence that ends a style. -/
def reset : String := "\x1b[0m"

/-- A piece of output. -/
structure Fragment where
  style? : Option Style
  text : String
deriving DecidableEq, Repr

namespace Fragment

/-- A fragment without style. -/
def plain (text : String) : Fragment := ⟨none, text⟩

/-- A fragment with a style. -/
def styled (style : Style) (text : String) : Fragment := ⟨some style, text⟩

/-- A fragment as it is written with colours or without. -/
def write (colors : Bool) (fragment : Fragment) : String :=
  match fragment.style? with
  | some style => if colors then style.sequence ++ fragment.text ++ reset else fragment.text
  | none => fragment.text

end Fragment

/-- The text that some fragments make up. -/
def write (colors : Bool) (fragments : List Fragment) : String :=
  String.join (fragments.map (Fragment.write colors))

/-- The line of a label. -/
def labelFragments (label : Label) : List Fragment :=
  [.plain ("  " ++ label.marker ++ " "), .styled .bold label.subject, .plain ": ",
    .styled (if label.isPrimary then .error else .secondary) label.message, .plain "\n"]

/-- The line of a note or a suggestion, with a tag in front. -/
def remarkFragments (style : Style) (tag remark : String) : List Fragment :=
  [.plain "  = ", .styled style tag, .plain (": " ++ remark ++ "\n")]

/-- A diagnostic, with a blank line after it. -/
def diagnosticFragments (diagnostic : Diagnostic) : List Fragment :=
  [.styled (.ofSeverity diagnostic.severity) diagnostic.severity.text,
      .styled .bold ("[" ++ diagnostic.code.text ++ "]"),
      .plain (": " ++ diagnostic.message ++ "\n")]
    ++ diagnostic.labels.flatMap labelFragments
    ++ diagnostic.notes.flatMap (remarkFragments .bold "note")
    ++ diagnostic.suggestions.flatMap (remarkFragments .help "help")
    ++ [.plain "\n"]

/-- How many warnings there were, in words. -/
def warningsText (warnings : Nat) : String :=
  toString warnings ++ " warning" ++ (if warnings = 1 then "" else "s") ++ " emitted"

/-- The last line after errors or warnings. There is none after neither. -/
def summaryFragments (errors warnings : Nat) : List Fragment :=
  if errors = 0 ∧ warnings = 0 then
    []
  else if errors = 0 then
    [.styled .warning "warning", .plain (": " ++ warningsText warnings ++ "\n")]
  else
    [.styled .error "error",
      .plain (": aborting due to "
        ++ (if errors = 1 then "previous error" else toString errors ++ " previous errors")
        ++ (if warnings = 0 then "" else "; " ++ warningsText warnings) ++ "\n")]

/-- A diagnostic as it is shown with colours or without. -/
def diagnosticText (colors : Bool) (diagnostic : Diagnostic) : String :=
  write colors (diagnosticFragments diagnostic)

/-- The last line as it is shown with colours or without. -/
def summaryText (colors : Bool) (errors warnings : Nat) : String :=
  write colors (summaryFragments errors warnings)

end Terminal

end NativeWrappers
