import NativeWrappers.Diagnostic.Code
/-!
# Diagnostics

A report for people: a severity, a code and a message, labels that point at declarations by name,
and notes and suggestions. The functions that add one part are named for the part, and `display` is
the plain text of a report.
-/

namespace NativeWrappers

/-- How serious a diagnostic is. -/
inductive Severity where
  | error
  | warning
  | note
  | help
deriving DecidableEq, Repr

namespace Severity

/-- The word that a diagnostic of this severity begins with. -/
def text : Severity → String
  | error => "error"
  | warning => "warning"
  | note => "note"
  | help => "help"

end Severity

/-- A message about a declaration or one of its members. -/
structure Label where
  subject : String
  message : String
  /-- Whether this is where the error is. Otherwise the label gives context. -/
  isPrimary : Bool
deriving DecidableEq, Repr

namespace Label

/-- The arrow in front of a primary label, or the blanks that keep its place. -/
def marker (label : Label) : String := if label.isPrimary then "-->" else "   "

end Label

/-- A report with all its context. -/
structure Diagnostic where
  code : ErrorCode
  severity : Severity := .error
  message : String := ""
  labels : List Label := []
  notes : List String := []
  suggestions : List String := []
deriving DecidableEq, Repr

namespace Diagnostic

/-- The diagnostic with another message. -/
def setMessage (diagnostic : Diagnostic) (message : String) : Diagnostic :=
  { diagnostic with message }

/-- The diagnostic with one more label where the error is. -/
def addLabel (diagnostic : Diagnostic) (subject message : String) : Diagnostic :=
  { diagnostic with labels := diagnostic.labels ++ [⟨subject, message, true⟩] }

/-- The diagnostic with one more label, which is not primary. -/
def addSecondaryLabel (diagnostic : Diagnostic) (subject message : String) : Diagnostic :=
  { diagnostic with labels := diagnostic.labels ++ [⟨subject, message, false⟩] }

/-- The diagnostic with one more note. -/
def addNote (diagnostic : Diagnostic) (note : String) : Diagnostic :=
  { diagnostic with notes := diagnostic.notes ++ [note] }

/-- The diagnostic with one more suggestion. -/
def addSuggestion (diagnostic : Diagnostic) (suggestion : String) : Diagnostic :=
  { diagnostic with suggestions := diagnostic.suggestions ++ [suggestion] }

/-- The subject of the first primary label. -/
def primarySubject? (diagnostic : Diagnostic) : Option String :=
  (diagnostic.labels.find? (·.isPrimary)).map (·.subject)

/-- Whether the diagnostic is an error. -/
def isError (diagnostic : Diagnostic) : Bool := diagnostic.severity == .error

/-- The plain text: a line for the message, then one for each label, note and suggestion, without a
line end after the last. -/
def display (diagnostic : Diagnostic) : String :=
  diagnostic.severity.text ++ " [" ++ diagnostic.code.text ++ "]: " ++ diagnostic.message
    ++ String.join (diagnostic.labels.map fun label =>
      "\n  " ++ label.marker ++ " " ++ label.subject ++ ": " ++ label.message)
    ++ String.join (diagnostic.notes.map fun note => "\n  = note: " ++ note)
    ++ String.join (diagnostic.suggestions.map fun suggestion => "\n  = help: " ++ suggestion)

end Diagnostic

end NativeWrappers
