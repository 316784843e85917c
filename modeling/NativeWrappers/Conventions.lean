import NativeWrappers.Declaration
import NativeWrappers.Text.Lowercase
/-!
# Naming conventions

How generated types are called when their markers give no name, and where the runtime types live
that generated code refers to.
-/

namespace NativeWrappers

/-- The names of the runtime types that generated code depends on. -/
structure RuntimeTypes where
  package : String := "bridgegen.runtime"
  /-- The wrapper of one deferred result. -/
  suspendWrapper : String := "SuspendWrapper"
  /-- The wrapper of a stream of elements. -/
  flowWrapper : String := "FlowWrapper"
  /-- The capability interface of an owner of an execution scope. -/
  scopeProvider : String := "ScopeProvider"
deriving DecidableEq, Repr

namespace RuntimeTypes

/-- The runtime types under their usual names in a package. -/
def inPackage (package : String) : RuntimeTypes := { package }

/-- The qualified name of the wrapper of a deferred result. -/
def suspendWrapperName (runtime : RuntimeTypes) : QualifiedName :=
  ⟨runtime.package, runtime.suspendWrapper⟩

/-- The qualified name of the type that wraps a stream. -/
def flowWrapperName (runtime : RuntimeTypes) : QualifiedName :=
  ⟨runtime.package, runtime.flowWrapper⟩

/-- The qualified name of the interface that provides a scope. -/
def scopeProviderName (runtime : RuntimeTypes) : QualifiedName :=
  ⟨runtime.package, runtime.scopeProvider⟩

end RuntimeTypes

/-- The conventions of one generation pass. -/
structure Conventions where
  /-- Follows the declaration's simple name in the name of a class. -/
  classSuffix : String := "Native"
  /-- Follows the declaration's simple name in the name of an interface. -/
  interfaceSuffix : String := "NativeProtocol"
  /-- Precedes the provider's simple name in the name of an accessor. -/
  accessorLead : String := "exportedScopeProvider_"
  runtime : RuntimeTypes := {}
deriving DecidableEq, Repr

namespace Conventions

/-- A marker's name wins if it is not empty. Otherwise the suffix follows the simple name of the
origin. Either way the result is in the package of the origin. -/
def conventionalName (origin : QualifiedName) (explicit? : Option String) (suffix : String) :
    QualifiedName :=
  match explicit? with
  | some name => origin.sibling (if name = "" then origin.simple ++ suffix else name)
  | none => origin.sibling (origin.simple ++ suffix)

/-- The name of the class generated from a declaration. -/
def className (conventions : Conventions) (declaration : Declaration) : QualifiedName :=
  conventionalName declaration.name (declaration.markers.class?.bind (·.name?))
    conventions.classSuffix

/-- The name of the interface generated from a declaration. -/
def interfaceName (conventions : Conventions) (declaration : Declaration) : QualifiedName :=
  conventionalName declaration.name (declaration.markers.interface?.bind (·.name?))
    conventions.interfaceSuffix

/-- The name of the accessor that exposes a scope provider: the lead, then the provider's simple
name with its first character in lower case, in the provider's package. -/
def accessorName (conventions : Conventions) (provider : QualifiedName) : QualifiedName :=
  provider.sibling (conventions.accessorLead ++ Text.decapitalize provider.simple)

/-- A derived name stays in the package of its origin. -/
@[simp] theorem package_conventionalName (origin : QualifiedName) (explicit? : Option String)
    (suffix : String) : (conventionalName origin explicit? suffix).package = origin.package := by
  cases explicit? <;> rfl

@[simp] theorem package_className (conventions : Conventions) (declaration : Declaration) :
    (conventions.className declaration).package = declaration.name.package :=
  package_conventionalName _ _ _

@[simp] theorem package_interfaceName (conventions : Conventions) (declaration : Declaration) :
    (conventions.interfaceName declaration).package = declaration.name.package :=
  package_conventionalName _ _ _

@[simp] theorem package_accessorName (conventions : Conventions) (provider : QualifiedName) :
    (conventions.accessorName provider).package = provider.package := rfl

end Conventions

end NativeWrappers
