import NativeWrappers.Batch
import NativeWrappers.Problem
/-!
# Model files

A model file lists the declarations of one batch. Nothing keeps a file from listing a name twice,
so a batch is made of it in a step of its own.
-/

namespace NativeWrappers

/-- The contents of a model file. -/
structure ModelFile where
  declarations : List Declaration := []
deriving DecidableEq, Repr

namespace ModelFile

/-- The batch of the declarations in the file. Two of one name are a problem. -/
def batch (model : ModelFile) : Except Problem Batch :=
  (Batch.ofList model.declarations).mapError .duplicateDeclaration

end ModelFile

end NativeWrappers
