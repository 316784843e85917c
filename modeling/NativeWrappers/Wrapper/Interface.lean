import NativeWrappers.Exposure
import NativeWrappers.Hierarchy.Lineage
import NativeWrappers.Hierarchy.Order
import NativeWrappers.Wrapper.InterfaceTable
/-!
# Generated interfaces

An interface target gets an interface of abstract members with exposed types. A direct
supertype that already has a generated interface is replaced by it, and its members are inherited;
every other supertype is dropped, and its members are taken in. Targets are processed supertypes
first, so that a generated supertype is in the table before a subtype looks for it.
-/

namespace NativeWrappers

/-- The abstract method that stands for a method of a declaration or of one of its ancestors. -/
def abstractMethod (owner : QualifiedName) (surface : InheritedSurface) (runtime : RuntimeTypes)
    (method : Method) : Except Problem WrapperMethod := do
  let exposure ← Exposure.ofMethod owner method runtime
  return {
    name := method.name
    parameters := method.parameters
    result := exposure.generated
    isOverride := surface.hasMethod method.key }

/-- The abstract property that stands for a property of a declaration or of one of its ancestors. -/
def abstractProperty (owner : QualifiedName) (surface : InheritedSurface) (runtime : RuntimeTypes)
    (property : Property) : Except Problem WrapperProperty := do
  let exposure ← Exposure.ofProperty owner property runtime
  return {
    name := property.name
    type := exposure.generated
    isOverride := surface.hasProperty property.name }

namespace Batch

/-- The interface called `name` for a declaration, given the interfaces that exist. -/
def interfaceWrapper (batch : Batch) (conventions : Conventions) (interfaces : InterfaceTable)
    (declaration : Declaration) (name : QualifiedName) : Except Problem Wrapper := do
  let supertypes := declaration.supertypes.filterMap interfaces.get?
  let surface := InheritedSurface.ofSupertypes supertypes
  let members := batch.membersExcept declaration interfaces.contains
  let methods ← members.methods.mapM
    (abstractMethod declaration.name surface conventions.runtime)
  let properties ← members.properties.mapM
    (abstractProperty declaration.name surface conventions.runtime)
  return {
    origin := declaration.name
    name
    visibility := declaration.visibility.ofPeer
    shape := .interface
    supertypes := supertypes.map (·.name)
    methods
    properties }

/-- The table with the conventionally named interface of one more target. -/
def addInterface (batch : Batch) (conventions : Conventions) (interfaces : InterfaceTable)
    (target : Declaration) : Except Problem InterfaceTable := do
  interfaces.insert
    (← batch.interfaceWrapper conventions interfaces target (conventions.interfaceName target))

/-- The interfaces of all interface targets, supertypes first. -/
def interfaceTable (batch : Batch) (conventions : Conventions) : Except Problem InterfaceTable := do
  (← supertypesFirst batch.interfaceTargets).foldlM (batch.addInterface conventions)
    InterfaceTable.empty

end Batch

end NativeWrappers
