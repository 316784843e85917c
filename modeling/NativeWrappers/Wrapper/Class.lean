import NativeWrappers.Exposure
import NativeWrappers.AccessorTable
import NativeWrappers.Wrapper.InterfaceTable
/-!
# Generated classes

A class target gets a concrete class around an instance of it. Every member that the instance
can reach is delegated to that instance. The class implements the generated interface of
each direct supertype that has one, and the one generated from the target itself. Overrides are
judged by those interfaces, never by the declared supertypes.
-/

namespace NativeWrappers

/-- An override of a public interface member has to be public. Any other member keeps the
visibility it was declared with. -/
def delegateVisibility (declared : Visibility) (isOverride : Bool) : Visibility :=
  if isOverride then .public else declared

/-- The method that delegates to the wrapped instance's method. -/
def delegateMethod (owner : QualifiedName) (surface : InheritedSurface) (runtime : RuntimeTypes)
    (method : Method) : Except Problem WrapperMethod := do
  let exposure ← Exposure.ofMethod owner method runtime
  let isOverride := surface.hasMethod method.key
  return {
    name := method.name
    parameters := method.parameters
    result := exposure.generated
    visibility := delegateVisibility method.visibility isOverride
    isOverride
    body? := some ⟨exposure.delivery.wrapping,
      .method method.name (method.parameters.map (·.name))⟩ }

/-- The property that delegates to the wrapped instance's property. -/
def delegateProperty (owner : QualifiedName) (surface : InheritedSurface) (runtime : RuntimeTypes)
    (property : Property) : Except Problem WrapperProperty := do
  let exposure ← Exposure.ofProperty owner property runtime
  let isOverride := surface.hasProperty property.name
  return {
    name := property.name
    type := exposure.generated
    visibility := delegateVisibility property.visibility isOverride
    isOverride
    getter? := some ⟨exposure.delivery.wrapping, .property property.name⟩ }

/-- The generated interfaces that a class of this declaration implements, each name once: those of
the direct supertypes and then its own. -/
def implementedInterfaces (interfaces : InterfaceTable) (declaration : Declaration) :
    List Wrapper :=
  distinctBy (·.name)
    (declaration.supertypes.filterMap interfaces.get? ++ (interfaces.get? declaration.name).toList)

/-- The name of the accessor that the class falls back to. The marker's provider has to be
exported. -/
def fallbackScope? (accessors : AccessorTable) (declaration : Declaration) :
    Except Problem (Option QualifiedName) :=
  match declaration.markers.class?.bind (·.launchOnScope?) with
  | none => .ok none
  | some provider =>
    match accessors.get? provider with
    | some accessor => .ok (some accessor.name)
    | none => .error (.unknownScopeProvider declaration.name provider)

namespace Batch

/-- The class called `name` around a declaration, given the interfaces and accessors that exist. -/
def classWrapper (batch : Batch) (conventions : Conventions) (interfaces : InterfaceTable)
    (accessors : AccessorTable) (declaration : Declaration) (name : QualifiedName) :
    Except Problem Wrapper := do
  unless declaration.visibility.isReachable do
    throw (.inaccessibleDeclaration declaration.name declaration.visibility)
  let scope? ← fallbackScope? accessors declaration
  let supertypes := implementedInterfaces interfaces declaration
  let surface := InheritedSurface.ofSupertypes supertypes
  let members := batch.members declaration
  let methods ← members.methods.mapM
    (delegateMethod declaration.name surface conventions.runtime)
  let properties ← members.properties.mapM
    (delegateProperty declaration.name surface conventions.runtime)
  return {
    origin := declaration.name
    name
    visibility := declaration.visibility.ofPeer
    shape := .class declaration.name scope?
    supertypes := supertypes.map (·.name)
    methods
    properties }

/-- The conventionally named classes of all class targets, in input order. -/
def classWrappers (batch : Batch) (conventions : Conventions) (interfaces : InterfaceTable)
    (accessors : AccessorTable) : Except Problem (List Wrapper) :=
  batch.classTargets.mapM fun target =>
    batch.classWrapper conventions interfaces accessors target (conventions.className target)

end Batch

end NativeWrappers
