import NativeWrappers.Source.NameTable
import NativeWrappers.TypeExpr
/-!
# Source documents

The body of a source file before names are spelled: indented lines of pieces, where a piece is
either text or a qualified name. A document knows which names it refers to, and the name table
made of them decides how each name piece is written. So what a file spells can be read off its
document.
-/

namespace NativeWrappers.Source

/-- A part of a line. -/
inductive Piece where
  | text (content : String)
  /-- A name, to be spelled by the file's name table. -/
  | name (qualified : QualifiedName)
deriving DecidableEq, Repr

namespace Piece

/-- A piece as it is written, a name by its spelling in the table. -/
def write (table : NameTable) : Piece → String
  | .text content => content
  | .name qualified => table.spell qualified

/-- The name that a piece spells, if it spells one. -/
def name? : Piece → Option QualifiedName
  | .text _ => none
  | .name qualified => some qualified

end Piece

/-- Lists of pieces with a separating text between them. -/
def joinPieces (separator : String) : List (List Piece) → List Piece
  | [] => []
  | [pieces] => pieces
  | pieces :: next :: rest => pieces ++ .text separator :: joinPieces separator (next :: rest)

mutual

/-- A type with its arguments and the mark of a nullable one. -/
def typePieces : TypeExpr → List Piece
  | ⟨name, arguments, nullable⟩ =>
    .name name ::
      ((if arguments.isEmpty then []
        else .text "<" :: joinPieces ", " (typePiecesList arguments) ++ [.text ">"])
      ++ if nullable then [.text "?"] else [])

/-- The pieces of each of some types. -/
def typePiecesList : List TypeExpr → List (List Piece)
  | [] => []
  | type :: rest => typePieces type :: typePiecesList rest

end

/-- A line at some level of indentation. -/
structure Line where
  level : Nat
  pieces : List Piece
deriving DecidableEq, Repr

namespace Line

/-- The line without pieces. -/
def blank : Line := ⟨0, []⟩

/-- An unindented line of this text. -/
def ofText (text : String) : Line := ⟨0, [.text text]⟩

/-- The line one level deeper. A blank line stays as it is. -/
def deeper (line : Line) : Line :=
  if line.pieces.isEmpty then line else { line with level := line.level + 1 }

/-- The line as it is written, four blanks to a level. -/
def write (table : NameTable) (line : Line) : String :=
  String.ofList (List.replicate (4 * line.level) ' ')
    ++ String.join (line.pieces.map (Piece.write table)) ++ "\n"

end Line

/-- A source file before its names are spelled. -/
structure Document where
  /-- The name that the file declares, in whose package the file is. -/
  declared : QualifiedName
  /-- The names that the file is said to refer to. -/
  referenced : List QualifiedName
  body : List Line
deriving Repr

namespace Document

/-- The table by which the document spells its names. -/
def table (document : Document) : NameTable :=
  NameTable.ofNames document.declared.package document.declared document.referenced

/-- The names that the body spells, in order. -/
def spelledNames (document : Document) : List QualifiedName :=
  document.body.flatMap fun line => line.pieces.filterMap Piece.name?

/-- The lines before the body: the header, the package unless it is empty, and the imports. -/
def preamble (document : Document) : List String :=
  let package := document.declared.package
  let imports := document.table.imports.map fun name =>
    "import " ++ escapeDotted name.dotted ++ "\n"
  ["// Generated by bridgegen. Do not edit.\n"]
    ++ (if package = "" then [] else ["package " ++ escapeDotted package ++ "\n"])
    ++ ["\n"] ++ imports ++ if imports.isEmpty then [] else ["\n"]

/-- The text of the file: what comes before the body, and the lines of the body. -/
def write (document : Document) : String :=
  String.join (document.preamble ++ document.body.map (Line.write document.table))

end Document

end NativeWrappers.Source
