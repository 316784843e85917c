import Mathlib.Data.List.Forall2
import NativeWrappers.Files.Output
import NativeWrappers.Text.Lines
/-!
# The text of a file

The text of a file is made of lines. First come a header, the package and one line for each import,
and then the lines of the body. In a line of the body the names stand as the table of the file spells
them, and everything else stands as it is. So what holds of the imports and the spelled names of
a document holds of the text of its file.
-/

namespace NativeWrappers

namespace Source

variable {table : NameTable}

/-- The text is made of the pieces, one after the other and each name as the table spells it. -/
inductive Spells (table : NameTable) : List Piece → String → Prop where
  | nothing : Spells table [] ""
  | text (content : String) {pieces : List Piece} {rest : String} (spelled : Spells table pieces rest) :
      Spells table (.text content :: pieces) (content ++ rest)
  | name (name : QualifiedName) {pieces : List Piece} {rest : String}
      (spelled : Spells table pieces rest) :
      Spells table (.name name :: pieces) (table.spell name ++ rest)

/-- The text is that of the line, with four blanks to a level before its pieces. -/
def SpellsLine (table : NameTable) (line : Line) (text : String) : Prop :=
  Spells table (.text (String.ofList (List.replicate (4 * line.level) ' ')) :: line.pieces) text

theorem spells_join_write (pieces : List Piece) :
    Spells table pieces (String.join (pieces.map (Piece.write table))) := by
  induction pieces with
  | nil => exact .nothing
  | cons piece rest ih =>
      rw [List.map_cons, String.join_cons]
      cases piece with
      | text content => exact .text content ih
      | name name => exact .name name ih

theorem exists_spellsLine (table : NameTable) (line : Line) :
    ∃ text, SpellsLine table line text ∧ line.write table = text ++ "\n" :=
  ⟨_, .text _ (spells_join_write line.pieces), rfl⟩

theorem exists_spellsLines (table : NameTable) (lines : List Line) :
    ∃ texts, List.Forall₂ (SpellsLine table) lines texts ∧
      String.join (lines.map (Line.write table)) = Text.ofLines texts := by
  induction lines with
  | nil => exact ⟨[], .nil, rfl⟩
  | cons line rest ih =>
      rcases ih with ⟨texts, spelled, written⟩
      rcases exists_spellsLine table line with ⟨text, lineSpelled, lineWritten⟩
      refine ⟨text :: texts, .cons lineSpelled spelled, ?_⟩
      simp [lineWritten, written, Text.ofLines]

namespace Document

/-- The line that imports a name. -/
def importLine (name : QualifiedName) : String :=
  "import " ++ escapeDotted name.dotted

/-- The lines before the body. An empty package is not written, and the imports are followed by a
blank line if there are any. -/
def openingLines (document : Document) : List String :=
  "// Generated by bridgegen. Do not edit."
    :: (if document.declared.package = "" then []
        else ["package " ++ escapeDotted document.declared.package])
    ++ "" :: document.table.imports.map importLine
    ++ if document.table.imports = [] then [] else [""]

/-- The contents are the lines before the body, with one line for each import, and then a line for
each line of the body. -/
def LaysOut (document : Document) (contents : String) : Prop :=
  ∃ bodyLines, List.Forall₂ (SpellsLine document.table) document.body bodyLines ∧
    contents = Text.ofLines (document.openingLines ++ bodyLines)

theorem join_preamble (document : Document) :
    String.join document.preamble = Text.ofLines document.openingLines := by
  have imports : document.table.imports.map (fun name =>
      "import " ++ escapeDotted name.dotted ++ "\n") =
        (document.table.imports.map importLine).map (· ++ "\n") := by
    rw [List.map_map]
    rfl
  simp only [preamble, openingLines, Text.ofLines, imports]
  by_cases root : document.declared.package = ""
  · by_cases none : document.table.imports = []
    · simp [root, none]
    · simp [root, none]
  · by_cases none : document.table.imports = []
    · simp [root, none]
    · simp [root, none]

theorem laysOut_write (document : Document) : document.LaysOut document.write := by
  rcases exists_spellsLines document.table document.body with ⟨bodyLines, spelled, written⟩
  refine ⟨bodyLines, spelled, ?_⟩
  rw [write, String.join_append, join_preamble, written, Text.ofLines_append]

end Document

end Source

/-- The file is in the package of what the document declares, has its name, and contains the text of
the document. -/
structure SourceFile.Renders (file : SourceFile) (document : Source.Document) : Prop where
  package : file.package = document.declared.package
  name : file.name = document.declared.simple
  contents : document.LaysOut file.contents

theorem SourceFile.renders_ofDocument (document : Source.Document) :
    (ofDocument document).Renders document :=
  ⟨rfl, rfl, document.laysOut_write⟩

end NativeWrappers
