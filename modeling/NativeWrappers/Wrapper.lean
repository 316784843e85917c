import NativeWrappers.Declaration
/-!
# Generated declarations

What the generator produces: interfaces whose members are abstract, classes that delegate every
member to a wrapped instance, and accessors that expose a default-constructed scope provider.
A generated declaration remembers the declaration it was generated from.
-/

namespace NativeWrappers

/-- What a delegating body calls on the wrapped instance. -/
inductive Invocation where
  /-- A call with these arguments. -/
  | method (name : String) (arguments : List String)
  /-- A read of a property. -/
  | property (name : String)
deriving DecidableEq, Repr

/-- How a delegating body hands over the result of its call. -/
inductive Wrapping where
  /-- The result itself. -/
  | direct
  /-- The call in a closure, inside the wrapper of a deferred result. -/
  | deferred
  /-- The resulting stream, inside the wrapper of a stream. -/
  | streamed
deriving DecidableEq, Repr

/-- How the body of a member that delivers so hands over its result. -/
def Delivery.wrapping : Delivery → Wrapping
  | .direct => .direct
  | .deferred => .deferred
  | .stream _ => .streamed

/-- The body of a delegating member. -/
structure Delegation where
  wrapping : Wrapping
  target : Invocation
deriving DecidableEq, Repr

/-- A method of a generated declaration. -/
structure WrapperMethod where
  name : String
  parameters : List Parameter := []
  /-- The transformed result type. -/
  result : TypeExpr
  visibility : Visibility := .public
  isOverride : Bool := false
  /-- The body, absent in an abstract method. -/
  body? : Option Delegation := none
deriving DecidableEq, Repr

namespace WrapperMethod

/-- What identifies the method among overrides. -/
def key (method : WrapperMethod) : MethodKey :=
  MethodKey.ofParameters method.name method.parameters

/-- Whether the method has no body. -/
def isAbstract (method : WrapperMethod) : Bool := method.body?.isNone

end WrapperMethod

/-- A read-only property of a generated declaration. -/
structure WrapperProperty where
  name : String
  /-- The transformed type. -/
  type : TypeExpr
  visibility : Visibility := .public
  isOverride : Bool := false
  /-- The getter, absent in an abstract property. -/
  getter? : Option Delegation := none
deriving DecidableEq, Repr

/-- Whether a generated declaration is an interface or a class. -/
inductive Shape where
  | interface
  /-- A class around an instance of the type `wrapped`. Constructed without a scope it falls back
  to the accessor of this name, if there is one. -/
  | «class» (wrapped : QualifiedName) (fallbackScope? : Option QualifiedName)
deriving DecidableEq, Repr

/-- A generated interface or class. -/
structure Wrapper where
  /-- The name of the declaration it was generated from. -/
  origin : QualifiedName
  name : QualifiedName
  visibility : Visibility := .public
  shape : Shape := .interface
  /-- The generated supertypes. Declared ones never occur here. -/
  supertypes : List QualifiedName := []
  methods : List WrapperMethod := []
  properties : List WrapperProperty := []
deriving DecidableEq, Repr

namespace Wrapper

/-- The keys of the methods, each once. -/
def methodKeys (wrapper : Wrapper) : List MethodKey :=
  (wrapper.methods.map (·.key)).eraseDups

/-- The names of the properties, each once. -/
def propertyNames (wrapper : Wrapper) : List String :=
  (wrapper.properties.map (·.name)).eraseDups

/-- The first method of this name. -/
def method? (wrapper : Wrapper) (name : String) : Option WrapperMethod :=
  wrapper.methods.find? (·.name == name)

/-- The first property of this name. -/
def property? (wrapper : Wrapper) (name : String) : Option WrapperProperty :=
  wrapper.properties.find? (·.name == name)

end Wrapper

/-- A global value that exposes a default-constructed scope provider. -/
structure Accessor where
  name : QualifiedName
  /-- The type of the value, which is also the class that is constructed. -/
  provider : QualifiedName
  visibility : Visibility := .public
deriving DecidableEq, Repr

end NativeWrappers
