import NativeWrappers.Text.Segments
/-!
# Paths

A path is a text whose parts are separated by slashes. Appending a part puts one slash between,
unless there is one already, and an absolute part replaces all that precedes it. Two texts can
denote the same components: empty parts do not count, and neither does a dot, except at the start
of a relative path.
-/

namespace NativeWrappers

/-- A file path, by its text. -/
structure Path where
  text : String
deriving DecidableEq, Repr, Inhabited

/-- A component of a path. -/
inductive PathComponent where
  /-- The root directory, at the start of an absolute path. -/
  | root
  /-- The current directory, at the start of a relative path. -/
  | current
  /-- The directory above. -/
  | parent
  | normal (name : String)
deriving DecidableEq, Repr

namespace Path

/-- Whether the path starts at the root. -/
def isAbsolute (path : Path) : Bool := path.text.toList.head? == some '/'

/-- The parts between slashes, empty ones included. -/
def parts (path : Path) : List String := Text.segments '/' path.text

/-- The path with one more part at its end. An absolute part stands for itself. -/
def push (path : Path) (part : String) : Path :=
  if part.toList.head? = some '/' then
    ⟨part⟩
  else if path.text = "" ∨ path.text.toList.getLast? = some '/' then
    ⟨path.text ++ part⟩
  else
    ⟨path.text ++ "/" ++ part⟩

/-- The path that leads from the first along the second. -/
def join (path further : Path) : Path := path.push further.text

/-- What one part says, at the start of a path or later. -/
def component? (atStart : Bool) (part : String) : Option PathComponent :=
  if part = "" then none
  else if part = "." then if atStart then some .current else none
  else if part = ".." then some .parent
  else some (.normal part)

/-- The components that the path denotes, in order. -/
def components (path : Path) : List PathComponent :=
  match path.parts with
  | [] => []
  | first :: rest =>
    (if path.isAbsolute then [.root] else (component? true first).toList)
      ++ rest.filterMap (component? false)

/-- The parts without those at the end that are no components. The first part is the start of the
path. -/
def trimEnd : (parts : List String) → List String
  | [] => []
  | first :: rest =>
    first :: (rest.reverse.dropWhile fun part => (component? false part).isNone).reverse

/-- The path made of these parts, where `absolute` says whether it starts at the root. -/
def ofParts (absolute : Bool) (parts : List String) : Path :=
  ⟨match trimEnd parts with
    | [] => ""
    | [""] => if absolute then "/" else ""
    | kept => "/".intercalate kept⟩

/-- The path of the directory that holds what the path denotes. The root and the empty path have
none. -/
def parent? (path : Path) : Option Path :=
  match trimEnd path.parts with
  | [] => none
  | [""] => none
  | kept => some (ofParts path.isAbsolute kept.dropLast)

/-- The path and the directories above it, nearest first, at most `count` of them. -/
def chain : (count : Nat) → Path → List Path
  | 0, _ => []
  | count + 1, path =>
    path ::
      match path.parent? with
      | some above => chain count above
      | none => []

/-- The path and all directories above it, nearest first. -/
def ancestors (path : Path) : List Path := chain (path.parts.length + 1) path

end Path

end NativeWrappers
