import NativeWrappers.Delivery
/-!
# Declarations

A class or an interface reduced to its signature: name, kind, visibility, direct supertypes,
methods and properties, and the markers that ask for generated wrappers. The functions that add
one part to a signature are named for the part.
-/

namespace NativeWrappers

/-- The visibility modifier of a declaration or of one of its members. -/
inductive Visibility where
  | «public»
  | internal
  | «protected»
  | «private»
deriving DecidableEq, Repr, Inhabited

namespace Visibility

/-- All visibilities, widest first. -/
def all : List Visibility := [«public», internal, «protected», «private»]

/-- The modifier as written in source. -/
def keyword : Visibility → String
  | «public» => "public"
  | internal => "internal"
  | «protected» => "protected"
  | «private» => "private"

/-- The visibility that a keyword stands for. -/
def ofKeyword? (text : String) : Option Visibility := all.find? (·.keyword == text)

/-- Whether a wrapper outside the declaration can reach what has this visibility. -/
def isReachable : Visibility → Bool
  | «public» | internal => true
  | «protected» | «private» => false

/-- The visibility of what is generated from a declaration: internal stays internal, all else is
public. -/
def ofPeer : Visibility → Visibility
  | internal => internal
  | _ => «public»

theorem ofKeyword?_keyword (visibility : Visibility) :
    ofKeyword? visibility.keyword = some visibility := by
  cases visibility <;> decide

theorem isReachable_iff {visibility : Visibility} :
    visibility.isReachable = true ↔ visibility = «public» ∨ visibility = internal := by
  cases visibility <;> decide

end Visibility

/-- Whether a declaration is a class or an interface. -/
inductive Kind where
  | «class»
  | interface
deriving DecidableEq, Repr, Inhabited

namespace Kind

/-- Both kinds. -/
def all : List Kind := [«class», interface]

/-- The keyword of a kind in model files and in messages. -/
def keyword : Kind → String
  | «class» => "class"
  | interface => "interface"

/-- The kind that a keyword stands for. -/
def ofKeyword? (text : String) : Option Kind := all.find? (·.keyword == text)

theorem ofKeyword?_keyword (kind : Kind) : ofKeyword? kind.keyword = some kind := by
  cases kind <;> decide

end Kind

/-- A named, typed parameter. -/
structure Parameter where
  name : String
  type : TypeExpr
deriving DecidableEq, Repr, Inhabited

/-- What identifies a method when overrides are matched: its name and the ordered names of its
parameters. Types take no part, because a generated supertype carries transformed types. -/
structure MethodKey where
  name : String
  parameters : List String
deriving DecidableEq, Repr, Inhabited

namespace MethodKey

/-- The key of a method with this name and these parameters. -/
def ofParameters (name : String) (parameters : List Parameter) : MethodKey :=
  ⟨name, parameters.map (·.name)⟩

end MethodKey

/-- A function member of a declaration. -/
structure Method where
  name : String
  parameters : List Parameter := []
  /-- The declared result type. Without one the method returns the unit type. -/
  result? : Option TypeExpr := none
  suspending : Bool := false
  visibility : Visibility := .public
deriving DecidableEq, Repr, Inhabited

namespace Method

/-- The result type of a method. One that declares none returns the unit type. -/
def result (method : Method) : TypeExpr := method.result?.getD TypeExpr.unit

/-- Suspension is looked at first: a suspending method is deferred even if it returns a
stream. -/
def delivery (method : Method) : Delivery :=
  if method.suspending then .deferred else Delivery.ofType method.result

/-- What identifies the method among overrides. -/
def key (method : Method) : MethodKey :=
  MethodKey.ofParameters method.name method.parameters

/-- The method with one more parameter at the end. -/
def addParameter (method : Method) (parameter : Parameter) : Method :=
  { method with parameters := method.parameters ++ [parameter] }

end Method

/-- A property of a declaration. -/
structure Property where
  name : String
  type : TypeExpr
  visibility : Visibility := .public
  /-- Declared as a variable. What is generated from it is read-only all the same. -/
  mutable : Bool := false
deriving DecidableEq, Repr, Inhabited

namespace Property

/-- A property is never suspending: its type alone decides. -/
def delivery (property : Property) : Delivery := Delivery.ofType property.type

end Property

/-- The marker that asks for a generated interface. -/
structure InterfaceMarker where
  /-- A simple name for the interface, in place of the conventional one. -/
  name? : Option String := none
deriving DecidableEq, Repr, Inhabited

/-- The marker that asks for a generated class. -/
structure ClassMarker where
  /-- A simple name for the class, in place of the conventional one. -/
  name? : Option String := none
  /-- The exported scope provider to fall back to when no scope is passed. -/
  launchOnScope? : Option QualifiedName := none
deriving DecidableEq, Repr, Inhabited

/-- The markers attached to a declaration. -/
structure Markers where
  interface? : Option InterfaceMarker := none
  class? : Option ClassMarker := none
  exportedScopeProvider : Bool := false
deriving DecidableEq, Repr, Inhabited

namespace Markers

/-- Whether nothing is marked. -/
def isEmpty (markers : Markers) : Bool :=
  markers.interface?.isNone && markers.class?.isNone && !markers.exportedScopeProvider

end Markers

/-- The signature of a class or interface. -/
structure Declaration where
  name : QualifiedName
  kind : Kind
  visibility : Visibility := .public
  /-- The direct supertypes, in declaration order. -/
  supertypes : List QualifiedName := []
  methods : List Method := []
  properties : List Property := []
  markers : Markers := {}
deriving DecidableEq, Repr, Inhabited

namespace Declaration

/-- Whether an interface is declared. -/
def isInterface (declaration : Declaration) : Bool := declaration.kind == .interface

/-- The declared methods that generated code can call. -/
def reachableMethods (declaration : Declaration) : List Method :=
  declaration.methods.filter (·.visibility.isReachable)

/-- The declared properties that generated code can read. -/
def reachableProperties (declaration : Declaration) : List Property :=
  declaration.properties.filter (·.visibility.isReachable)

/-- The declaration with one more direct supertype, the last in order. -/
def addSupertype (declaration : Declaration) (supertype : QualifiedName) : Declaration :=
  { declaration with supertypes := declaration.supertypes ++ [supertype] }

/-- The declaration with one more method at the end. -/
def addMethod (declaration : Declaration) (method : Method) : Declaration :=
  { declaration with methods := declaration.methods ++ [method] }

/-- The declaration with one more property at the end. -/
def addProperty (declaration : Declaration) (property : Property) : Declaration :=
  { declaration with properties := declaration.properties ++ [property] }

/-- The declaration, marked for a generated interface. -/
def markInterface (declaration : Declaration) (marker : InterfaceMarker) : Declaration :=
  { declaration with markers := { declaration.markers with interface? := some marker } }

/-- The declaration, marked for a generated class. -/
def markClass (declaration : Declaration) (marker : ClassMarker) : Declaration :=
  { declaration with markers := { declaration.markers with class? := some marker } }

/-- The declaration marked as an exported scope provider. -/
def markScopeProvider (declaration : Declaration) : Declaration :=
  { declaration with markers := { declaration.markers with exportedScopeProvider := true } }

end Declaration

end NativeWrappers
