import NativeWrappers.Files.Access
import NativeWrappers.ModelFile.Decoding
/-!
# Reading model files

A model file is read, checked against the schema, decoded, and made into a batch. Whatever goes
wrong on the way to the model is a problem with the file.
-/

namespace NativeWrappers.ModelFile

/-- The model that a text writes. What is wrong with its values is reported at its end. -/
def ofText (text : String) : Except Json.Failure ModelFile := do
  let json ← schema.readDocument .model text
  (ofJson json).mapError fun fault => ⟨fault, text.utf8ByteSize⟩

/-- The model that the text of a file writes. The path is only for the message. -/
def parse (text : String) (origin : Path) : Except Problem ModelFile :=
  (ofText text).mapError fun failure => .modelLoad origin (failure.message text)

/-- Read a file and make the batch that its text describes. -/
def load {m : Type → Type} [Monad m] [MonadFiles m] (path : Path) : ExceptT Problem m Batch :=
  ExceptT.mk (MonadFiles.readText path >>= fun result =>
    return do
      let text ← result.mapError fun failure => .modelLoad path failure.message
      (← parse text path).batch)

end NativeWrappers.ModelFile
