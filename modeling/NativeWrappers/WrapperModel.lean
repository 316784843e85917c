import NativeWrappers.Wrapper.Class
import NativeWrappers.Wrapper.Interface
/-!
# Generated models

Everything generated for one batch, before it is rendered: accessors, then interfaces, then
classes. Nothing is produced unless every stage succeeds, and no output may have the name of another
output or of a declaration in the batch.
-/

namespace NativeWrappers

/-- The outputs of a pass. -/
structure WrapperModel where
  accessors : List Accessor := []
  /-- Supertypes first. -/
  interfaces : List Wrapper := []
  /-- In input order. -/
  classes : List Wrapper := []
deriving DecidableEq, Repr

namespace WrapperModel

/-- The number of files that the model is rendered to. -/
def size (model : WrapperModel) : Nat :=
  model.accessors.length + model.interfaces.length + model.classes.length

/-- The interface generated from a declaration. -/
def interface? (model : WrapperModel) (origin : QualifiedName) : Option Wrapper :=
  model.interfaces.find? (·.origin == origin)

/-- The class generated from a declaration. -/
def class? (model : WrapperModel) (origin : QualifiedName) : Option Wrapper :=
  model.classes.find? (·.origin == origin)

/-- The name of every output with the declaration it comes from, in order of emission. -/
def outputs (model : WrapperModel) : List (QualifiedName × QualifiedName) :=
  model.accessors.map (fun accessor => (accessor.name, accessor.provider))
    ++ (model.interfaces ++ model.classes).map fun wrapper => (wrapper.name, wrapper.origin)

/-- The first output whose name is taken, by a declaration of the batch or by an earlier output. -/
def collision? (batch : Batch) : (claimed outputs : List (QualifiedName × QualifiedName)) →
    Option Problem
  | _, [] => none
  | claimed, (name, origin) :: rest =>
    if batch.contains name then
      some (.duplicateOutput name name origin)
    else
      match claimed.lookup name with
      | some first => some (.duplicateOutput name first origin)
      | none => collision? batch (claimed ++ [(name, origin)]) rest

end WrapperModel

namespace Batch

/-- Run every stage of generation over the batch. -/
def generate (batch : Batch) (conventions : Conventions) : Except Problem WrapperModel := do
  let accessors ← batch.accessorTable conventions
  let interfaces ← batch.interfaceTable conventions
  let classes ← batch.classWrappers conventions interfaces accessors
  let model : WrapperModel :=
    { accessors := accessors.accessors, interfaces := interfaces.wrappers, classes }
  match WrapperModel.collision? batch [] model.outputs with
  | some problem => .error problem
  | none => .ok model

end Batch

end NativeWrappers
