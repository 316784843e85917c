import NativeWrappers.Command.Options
import NativeWrappers.Files.Output
import NativeWrappers.ModelFile.Reading
/-!
# Generation runs

A run loads a model file, generates everything in memory, and then writes the files, unless it is a
dry run. So nothing is written when anything before the writing fails.
-/

namespace NativeWrappers.Command

/-- What a successful run tells. -/
structure Report where
  output : Output
  /-- The paths that were written, or that would be written by a dry run. -/
  paths : List Path
deriving DecidableEq, Repr

section Run

variable {m : Type → Type} [Monad m] [MonadFiles m]

/-- Write the output where the options say, or only tell where that would be. -/
def deliver (options : Options) (output : Output) : ExceptT Problem m (List Path) :=
  if options.dryRun then return output.paths options.outDirectory
  else output.write options.outDirectory

/-- A whole pass: load the model, generate and render everything, and only then deliver the
files. -/
def generate (model : Path) (options : Options) : ExceptT Problem m Report := do
  let batch ← ModelFile.load model
  let output ← liftExcept (batch.output options.conventions)
  let paths ← deliver options output
  return { output, paths }

end Run

namespace Report

/-- A number of things, with the ending of the plural unless it is one. -/
def counted (count : Nat) (thing plural : String) : String :=
  toString count ++ " " ++ thing ++ (if count = 1 then "" else plural)

/-- The line that tells how many files of each kind there are, and in which directory. -/
def summary (report : Report) (options : Options) : String :=
  (if options.dryRun then "would generate " else "generated ")
    ++ counted report.output.files.length "file" "s"
    ++ " (" ++ counted report.output.accessors "accessor" "s"
    ++ ", " ++ counted report.output.interfaces "interface" "s"
    ++ ", " ++ counted report.output.classes "class" "es"
    ++ ") in " ++ options.outDirectory.text

/-- What a pass shows in the end: the paths if it only lists them, and the summary. -/
def lines (report : Report) (options : Options) : List String :=
  (if options.dryRun then report.paths.map (·.text) else []) ++ [report.summary options]

end Report

end NativeWrappers.Command
