import NativeWrappers.Files.Path
/-!
# Access to files

What the generator needs of a place where files are: reading and writing whole texts, and creating
directories one by one. Everything else is made of these operations, so the same run can be done on
a disk and on a file system that is a value.
-/

namespace NativeWrappers

/-- Why a file operation failed. -/
inductive FileError where
  | noSuchFile
  | fileExists
  | notDirectory
  | isDirectory
  | nameTooLong
  /-- The path has a zero character in it. -/
  | zeroInPath
  /-- The contents are no text. -/
  | notText
  /-- Any other failure, by its wording. -/
  | other (message : String)
deriving DecidableEq, Repr

namespace FileError

/-- The wording of a failure, with the number of the operating system's error if it is one. -/
def message : FileError → String
  | noSuchFile => "No such file or directory (os error 2)"
  | fileExists => "File exists (os error 17)"
  | notDirectory => "Not a directory (os error 20)"
  | isDirectory => "Is a directory (os error 21)"
  | nameTooLong => "File name too long (os error 36)"
  | zeroInPath => "file name contained an unexpected NUL byte"
  | notText => "stream did not contain valid UTF-8"
  | other message => message

end FileError

/-- A place with files. An operation has its effect or fails. -/
class MonadFiles (m : Type → Type) where
  /-- The text of a file. -/
  readText (path : Path) : m (Except FileError String)
  /-- Whether a path denotes a directory. -/
  hasDirectory (path : Path) : m Bool
  /-- Create one directory, which must not exist. -/
  createDirectory (path : Path) : m (Except FileError Unit)
  /-- Write a file, in place of its earlier contents. -/
  writeText (path : Path) (text : String) : m (Except FileError Unit)

section Directories

variable {m : Type → Type} [Monad m] [MonadFiles m]

/-- Create one directory, unless it is there. -/
def ensureDirectory (path : Path) : m (Except FileError Unit) := do
  match ← MonadFiles.createDirectory path with
  | .ok () => return .ok ()
  | .error failure => return if ← MonadFiles.hasDirectory path then .ok () else .error failure

/-- Create the first of these directories. If what holds it is missing, the others are created
first, from the last on. -/
def createChain : (chain : List Path) → m (Except FileError Unit)
  | [] => return .ok ()
  | path :: above => do
    if path.text = "" then
      return .ok ()
    else
      match ← ensureDirectory path with
      | .error .noSuchFile =>
        match ← createChain above with
        | .ok () => ensureDirectory path
        | .error failure => return .error failure
      | result => return result

/-- Create a directory and all missing directories above it. -/
def createDirectories (path : Path) : m (Except FileError Unit) := createChain path.ancestors

end Directories

end NativeWrappers
