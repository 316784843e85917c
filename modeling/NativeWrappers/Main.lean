import NativeWrappers.Command.Line
/-!
# The program

Runs the command line on the disk.
-/

namespace NativeWrappers

/-- The failure that an error of the system stands for. -/
def FileError.ofSystem : IO.Error → FileError
  | .alreadyExists _ code details
  | .inappropriateType _ code details
  | .invalidArgument _ code details
  | .permissionDenied _ code details
  | .resourceExhausted _ code details
  | .noSuchThing _ code details
  | .interrupted _ code details
  | .noFileOrDirectory _ code details
  | .otherError code details
  | .resourceBusy code details
  | .resourceVanished code details
  | .unsupportedOperation code details
  | .hardwareFault code details
  | .unsatisfiedConstraints code details
  | .illegalOperation code details
  | .protocolError code details
  | .timeExpired code details => ofCode code.toNat details
  | .unexpectedEof => .other "failed to fill whole buffer"
  | .userError message => .other message
where
  ofCode (code : Nat) (details : String) : FileError :=
    match code with
    | 2 => .noSuchFile
    | 17 => .fileExists
    | 20 => .notDirectory
    | 21 => .isDirectory
    | 36 => .nameTooLong
    | _ => .other (details ++ " (os error " ++ toString code ++ ")")

/-- Do an action, and turn an error of the system into a failure. -/
def attemptOnDisk {α : Type} (action : IO α) : IO (Except FileError α) := do
  match ← action.toBaseIO with
  | .ok value => return .ok value
  | .error failure => return .error (.ofSystem failure)

/-- File access on disk. -/
instance : MonadFiles IO where
  readText path := do
    let result ← attemptOnDisk (IO.FS.readBinFile path.text)
    return result.bind fun contents =>
      match String.fromUTF8? contents with
      | some text => .ok text
      | none => .error .notText
  hasDirectory path := (System.mkFilePath [path.text]).isDir
  createDirectory path := attemptOnDisk (IO.FS.createDir path.text)
  writeText path text := attemptOnDisk (IO.FS.writeFile path.text text)

end NativeWrappers

/-- Run the program and show its outcome on the two streams. -/
def main (arguments : List String) : IO UInt32 := do
  let stderr ← IO.getStderr
  let outcome ← NativeWrappers.Command.run (← stderr.isTty) arguments
  IO.print outcome.stdout
  stderr.putStr outcome.stderr
  return outcome.status.toUInt32
