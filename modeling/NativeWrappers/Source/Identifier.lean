import NativeWrappers.Text.Segments
/-!
# Identifiers

An identifier spelled like a hard keyword of Kotlin has to stand in backquotes. In a dotted path
this goes for every segment on its own.
-/

namespace NativeWrappers.Source

/-- The words that are no identifiers unless they are quoted. -/
def hardKeywords : List String :=
  ["as", "break", "class", "continue", "do", "else", "false", "for", "fun", "if", "in",
    "interface", "is", "null", "object", "package", "return", "super", "this", "throw", "true",
    "try", "typealias", "typeof", "val", "var", "when", "while"]

/-- The identifier, in backquotes if it is a hard keyword. -/
def escape (identifier : String) : String :=
  if hardKeywords.contains identifier then "`" ++ identifier ++ "`" else identifier

/-- The dotted path with every segment escaped. -/
def escapeDotted (path : String) : String :=
  ".".intercalate ((Text.segments '.' path).map escape)

theorem escape_of_not_mem {identifier : String} (free : identifier ∉ hardKeywords) :
    escape identifier = identifier := by
  simp [escape, free]

end NativeWrappers.Source
