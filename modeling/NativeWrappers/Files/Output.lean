import NativeWrappers.Files.Access
import NativeWrappers.Problem
import NativeWrappers.Source.Render
import NativeWrappers.WrapperModel
/-!
# Output of a pass

Rendered files are held in memory until every one of them is there, and writing them is a separate
last step. A file lies below the output directory, in a directory for each part of its package. The
first failure to write ends the step; the files before it stay written.
-/

namespace NativeWrappers

/-- A rendered source file. -/
structure SourceFile where
  package : String
  name : String
  contents : String
deriving DecidableEq, Repr

namespace SourceFile

/-- Where the file lies below the output directory. Each part of the package that is not empty is a
directory. -/
def path (file : SourceFile) : Path :=
  let directories := (Text.segments '.' file.package).filter (· ≠ "")
  (directories.foldl Path.push ⟨""⟩).push (file.name ++ ".kt")

/-- The file of a document, named for what it declares. -/
def ofDocument (document : Source.Document) : SourceFile where
  package := document.declared.package
  name := document.declared.simple
  contents := document.write

/-- The rendered file of an accessor. -/
def ofAccessor (accessor : Accessor) : SourceFile :=
  ofDocument (Source.accessorDocument accessor)

/-- The rendered file of a generated interface or class. -/
def ofWrapper (runtime : RuntimeTypes) (wrapper : Wrapper) : SourceFile :=
  ofDocument (Source.wrapperDocument runtime wrapper)

end SourceFile

/-- The rendered files of a pass, and how many of them there are of each kind. -/
structure Output where
  /-- Accessors, then interfaces, then classes. -/
  files : List SourceFile := []
  accessors : Nat := 0
  interfaces : Nat := 0
  classes : Nat := 0
deriving DecidableEq, Repr

namespace Output

/-- Whether there is no file at all. -/
def isEmpty (output : Output) : Bool := output.files.isEmpty

/-- The rendered files of all that was generated. -/
def ofModel (runtime : RuntimeTypes) (model : WrapperModel) : Output where
  files := model.accessors.map SourceFile.ofAccessor
    ++ (model.interfaces ++ model.classes).map (SourceFile.ofWrapper runtime)
  accessors := model.accessors.length
  interfaces := model.interfaces.length
  classes := model.classes.length

/-- Where the files lie if the output directory is `root`. -/
def paths (output : Output) (root : Path) : List Path :=
  output.files.map fun file => root.join file.path

section Writing

variable {m : Type → Type} [Monad m] [MonadFiles m]

/-- Do a file operation whose failure is a problem with the path. -/
def attempt {α : Type} (path : Path) (action : m (Except FileError α)) : ExceptT Problem m α :=
  ExceptT.mk (action >>= fun result =>
    return result.mapError fun failure => .outputWrite path failure.message)

/-- Write a file below the directory, whose own directories are created. Answers with its path. -/
def writeFile (root : Path) (file : SourceFile) : ExceptT Problem m Path := do
  let path := root.join file.path
  if let some directory := path.parent? then
    attempt directory (createDirectories directory)
  attempt path (MonadFiles.writeText path file.contents)
  return path

/-- Write all files in order, until one fails. Answers with their paths. -/
def write (output : Output) (root : Path) : ExceptT Problem m (List Path) :=
  output.files.mapM (writeFile root)

end Writing

end Output

namespace Batch

/-- Generate and render everything, without writing anything. -/
def output (batch : Batch) (conventions : Conventions) : Except Problem Output := do
  return Output.ofModel conventions.runtime (← batch.generate conventions)

end Batch

end NativeWrappers
