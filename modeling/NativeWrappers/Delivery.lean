import NativeWrappers.TypeExpr
/-!
# How a result is delivered

A member hands its result over directly, once and later, or as a stream of elements. Streams are
recognised by their type constructor. Cold and hot streams differ in the declaration only: all of
them reach the generated side through one wrapper.
-/

namespace NativeWrappers

/-- The recognised stream constructors. -/
inductive StreamKind where
  | flow
  | sharedFlow
  | stateFlow
  | mutableSharedFlow
  | mutableStateFlow
deriving DecidableEq, Repr

namespace StreamKind

/-- All kinds, in the order in which they are listed to users. -/
def all : List StreamKind := [flow, sharedFlow, stateFlow, mutableSharedFlow, mutableStateFlow]

/-- The simple name of the stream types of this kind. -/
def simpleName : StreamKind → String
  | flow => "Flow"
  | sharedFlow => "SharedFlow"
  | stateFlow => "StateFlow"
  | mutableSharedFlow => "MutableSharedFlow"
  | mutableStateFlow => "MutableStateFlow"

/-- The name by which the stream types of this kind are known. -/
def qualifiedName (kind : StreamKind) : QualifiedName :=
  ⟨"kotlinx.coroutines.flow", kind.simpleName⟩

/-- The kind of the stream types of this name. -/
def ofName? (name : QualifiedName) : Option StreamKind :=
  all.find? fun kind => kind.qualifiedName == name

/-- A name is recognised exactly when it is that of the kind. -/
theorem ofName?_qualifiedName (kind : StreamKind) : ofName? kind.qualifiedName = some kind := by
  cases kind <;> decide

theorem qualifiedName_of_ofName? {name : QualifiedName} {kind : StreamKind}
    (found : ofName? name = some kind) : kind.qualifiedName = name := by
  simpa using List.find?_some found

end StreamKind

/-- The kind of stream that a type is. The outermost name decides. -/
def TypeExpr.streamKind? (type : TypeExpr) : Option StreamKind := StreamKind.ofName? type.name

/-- How a member produces its result. -/
inductive Delivery where
  /-- The value is returned directly. -/
  | direct
  /-- A suspending call delivers one result later. -/
  | deferred
  /-- A stream emits elements over time. -/
  | stream (kind : StreamKind)
deriving DecidableEq, Repr

namespace Delivery

/-- How a value of this type is delivered where nothing is deferred. -/
def ofType (type : TypeExpr) : Delivery :=
  match type.streamKind? with
  | some kind => stream kind
  | none => direct

/-- Whether a stream is delivered. -/
def isStream : Delivery → Bool
  | stream _ => true
  | _ => false

end Delivery

end NativeWrappers
