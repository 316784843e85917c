import NativeWrappers.QualifiedName
import NativeWrappers.Source.Identifier
/-!
# Imports and spellings

Every name that a file refers to is written by its simple name when that is unambiguous, and in full
otherwise. Of the names that share a simple name at most one is written short. The declared type
claims its own simple name first, then a type of the file's package, then a type of the package
`kotlin`, which is visible without an import. If nobody claims a simple name, the only name that has
it is imported, and several are all written in full.
-/

namespace NativeWrappers.Source

/-- How a name is written in one file. -/
inductive Spelling where
  /-- By its simple name, which the file sees without an import. -/
  | short
  /-- By its simple name, with an import. -/
  | imported
  /-- In full. -/
  | inFull
deriving DecidableEq, Repr

/-- What decides the spellings of one file. -/
structure NameTable where
  /-- The package of the file. -/
  package : String
  /-- The name that the file declares. -/
  declared : QualifiedName
  /-- The names that the file refers to, ascending and each once. -/
  referenced : List QualifiedName
deriving Repr

namespace NameTable

/-- The table of a file that declares a name and refers to others. -/
def ofNames (package : String) (declared : QualifiedName) (names : List QualifiedName) :
    NameTable where
  package := package
  declared := declared
  referenced := QualifiedName.sort names.eraseDups

/-- The referenced names that have this simple name. -/
def sharing (table : NameTable) (simple : String) : List QualifiedName :=
  table.referenced.filter (·.simple == simple)

/-- The name that claims a simple name. -/
def claimant? (table : NameTable) (simple : String) : Option QualifiedName :=
  if simple = table.declared.simple then
    some table.declared
  else
    (table.sharing simple).find? (·.inPackage table.package)
      <|> (table.sharing simple).find? (·.inPackage "kotlin")

/-- How the file spells a name: short if the name claims its simple name or needs no import,
imported if it alone has its simple name, and otherwise in full. -/
def spelling (table : NameTable) (name : QualifiedName) : Spelling :=
  match table.claimant? name.simple with
  | some owner => if name = owner then .short else .inFull
  | none =>
    match table.sharing name.simple with
    | [_] => if name.package = "" then .short else .imported
    | _ => .inFull

/-- The imported names, ascending. -/
def imports (table : NameTable) : List QualifiedName :=
  table.referenced.filter (table.spelling · == .imported)

/-- The text of a name in this file. A name that the file was not said to refer to is short. -/
def spell (table : NameTable) (name : QualifiedName) : String :=
  if table.referenced.contains name && table.spelling name == .inFull then
    escapeDotted name.dotted
  else
    escape name.simple

end NameTable

end NativeWrappers.Source
