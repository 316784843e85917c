import NativeWrappers.Files.Access
/-!
# File systems

A file system as a value: a tree of directories and files, given by what stands at each location,
and the directory from which relative paths start. A location is the list of names from the root.
The operations answer with the failures that the operating system would report, and a failure leaves
every existing file alone.
-/

namespace NativeWrappers

/-- The names that lead from the root to a place in the tree. -/
abbrev Location := List String

/-- What stands at a location. -/
inductive Entry where
  | directory
  | file (contents : ByteArray)

/-- Whether the entry is a directory. -/
def Entry.isDirectory : Entry → Bool
  | directory => true
  | file _ => false

/-- A tree of files and the directory from which relative paths start. -/
structure FileSystem where
  entries : List (Location × Entry) := []
  working : Location := []

namespace FileSystem

/-- What stands at a location. The root is always a directory. -/
def lookup? (files : FileSystem) (location : Location) : Option Entry :=
  if location = [] then some .directory else files.entries.lookup location

/-- Whether a directory stands at the location. -/
def isDirectory (files : FileSystem) (location : Location) : Bool :=
  (files.lookup? location).any Entry.isDirectory

/-- The file system with this entry at the location, in place of what stood there. -/
def put (files : FileSystem) (location : Location) (entry : Entry) : FileSystem :=
  { files with
    entries := files.entries.filter (·.1 != location) ++ [(location, entry)] }

theorem lookup_filter_of_ne {entries : List (Location × Entry)} {first second : Location}
    (different : first ≠ second) :
    (entries.filter (·.1 != second)).lookup first = entries.lookup first := by
  induction entries with
  | nil => rfl
  | cons head rest ih =>
    obtain ⟨location, entry⟩ := head
    by_cases same : location = second
    · subst same
      have unequal : (first == location) = false := by simpa using different
      simp [List.lookup_cons, unequal, ih]
    · by_cases found : first = location
      · subst found
        simp [different]
      · have unequal : (first == location) = false := by simpa using found
        simp [List.lookup_cons, same, unequal, ih]

theorem lookup_filter_self {entries : List (Location × Entry)} {location : Location} :
    (entries.filter (·.1 != location)).lookup location = none := by
  induction entries with
  | nil => rfl
  | cons head rest ih =>
    obtain ⟨other, entry⟩ := head
    by_cases same : other = location
    · simp [same, ih]
    · have unequal : (location == other) = false := by simpa using Ne.symm same
      simp [List.lookup_cons, same, unequal, ih]

theorem lookup?_put_self {files : FileSystem} {location : Location} {entry : Entry}
    (proper : location ≠ []) : (files.put location entry).lookup? location = some entry := by
  simp [lookup?, put, proper, List.lookup_append, lookup_filter_self]

/-- Putting an entry somewhere changes no other location. -/
theorem lookup?_put_of_ne {files : FileSystem} {first second : Location} {entry : Entry}
    (different : first ≠ second) :
    (files.put second entry).lookup? first = files.lookup? first := by
  have absent : [(second, entry)].lookup first = none := by
    have unequal : (first == second) = false := by simpa using different
    simp [List.lookup_cons, unequal]
  simp [lookup?, put, List.lookup_append, lookup_filter_of_ne different, absent]

/-- The longest name that a directory can hold, in bytes. -/
def nameLimit : Nat := 255

/-- The longest path that can be looked up, in bytes. -/
def pathLimit : Nat := 4095

/-- Refuse a name that no directory can hold. -/
def checkName (name : String) : Except FileError Unit :=
  if nameLimit < name.utf8ByteSize then .error .nameTooLong else .ok ()

/-- Follow the parts of a path from a location. Each part is looked up in a directory, and empty
parts and dots stay where they are. -/
def follow (files : FileSystem) : (location : Location) → (parts : List String) →
    Except FileError Location
  | location, [] => .ok location
  | location, part :: rest => do
    unless files.isDirectory location do throw .notDirectory
    if part = "" ∨ part = "." then
      follow files location rest
    else if part = ".." then
      follow files location.dropLast rest
    else
      checkName part
      match files.lookup? (location ++ [part]) with
      | none => throw .noSuchFile
      | some _ => follow files (location ++ [part]) rest

/-- Where a path starts. -/
def start (files : FileSystem) (path : Path) : Location :=
  if path.isAbsolute then [] else files.working

/-- Whether the path can be handed to the operating system at all. -/
def checkPath (path : Path) : Except FileError Unit :=
  if path.text.toList.contains (Char.ofNat 0) then .error .zeroInPath
  else if path.text = "" then .error .noSuchFile
  else if pathLimit < path.text.utf8ByteSize then .error .nameTooLong
  else .ok ()

/-- The location that a path denotes, if something stands there. -/
def locate (files : FileSystem) (path : Path) : Except FileError Location := do
  checkPath path
  files.follow (files.start path) path.parts

/-- The directory in which the last part of a path is a name, and that name. A path that ends in a
dot or two denotes an existing directory and no name. -/
def locateName (files : FileSystem) (path : Path) :
    Except FileError (Location × Option String) := do
  checkPath path
  let parts := (path.parts.reverse.dropWhile (· = "")).reverse
  let location ← files.follow (files.start path) parts.dropLast
  unless files.isDirectory location do throw .notDirectory
  match parts.getLast? with
  | none => return (location, none)
  | some name =>
    if name = "." ∨ name = ".." then
      return (location, none)
    else
      checkName name
      return (location, some name)

/-- Whether the path leads to a directory. -/
def hasDirectory (files : FileSystem) (path : Path) : Bool :=
  match files.locate path with
  | .ok location => files.isDirectory location
  | .error _ => false

/-- The text of the file that the path leads to. Its bytes have to be a text. -/
def readText (files : FileSystem) (path : Path) : Except FileError String := do
  let location ← files.locate path
  match files.lookup? location with
  | some (.file contents) =>
    match String.fromUTF8? contents with
    | some text => return text
    | none => throw .notText
  | _ => throw .isDirectory

/-- Create a directory in one that is there. Nothing may be in its place. -/
def addDirectory (files : FileSystem) (path : Path) : Except FileError FileSystem := do
  match ← files.locateName path with
  | (_, none) => throw .fileExists
  | (location, some name) =>
    match files.lookup? (location ++ [name]) with
    | some _ => throw .fileExists
    | none => return files.put (location ++ [name]) .directory

/-- The file system with these contents in a file, which need not exist. -/
def setText (files : FileSystem) (path : Path) (text : String) : Except FileError FileSystem := do
  match ← files.locateName path with
  | (_, none) => throw .isDirectory
  | (location, some name) =>
    match files.lookup? (location ++ [name]) with
    | some .directory => throw .isDirectory
    | _ => return files.put (location ++ [name]) (.file text.toUTF8)

/-- Move to a new file system, or fail and stay. -/
def step (change : FileSystem → Except FileError FileSystem) :
    StateM FileSystem (Except FileError Unit) :=
  modifyGet fun files =>
    match change files with
    | .ok changed => (.ok (), changed)
    | .error failure => (.error failure, files)

/-- File access in a state that is a file system. -/
instance : MonadFiles (StateM FileSystem) where
  readText path := return (← get).readText path
  hasDirectory path := return (← get).hasDirectory path
  createDirectory path := step (·.addDirectory path)
  writeText path text := step (·.setText path text)

end FileSystem

end NativeWrappers
