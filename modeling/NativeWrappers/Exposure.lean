import NativeWrappers.Problem
import NativeWrappers.Conventions
/-!
# Exposed types

The type that a generated member exposes for a declared one. A direct result keeps its type. A
deferred result is wrapped as it stands. A stream, of whatever kind, is wrapped by its element type
alone, and stays nullable if it was; a stream type without exactly one argument has no element type
and is refused.
-/

namespace NativeWrappers

/-- The type of a member on both sides. -/
structure Exposure where
  delivery : Delivery
  /-- The type of the generated member. -/
  generated : TypeExpr
  /-- The type of the delegated expression on the wrapped instance. -/
  source : TypeExpr
deriving DecidableEq, Repr

namespace Exposure

/-- Whether the delegated stream may be null, so that it has to be checked before it is wrapped. -/
def isNullableStream (exposure : Exposure) : Bool :=
  exposure.delivery.isStream && exposure.source.nullable

/-- The exposure of a member called `member` that delivers `source`. Problems name the owner. -/
def of (owner : QualifiedName) (member : String) (delivery : Delivery) (source : TypeExpr)
    (runtime : RuntimeTypes) : Except Problem Exposure :=
  match delivery with
  | .direct => .ok ⟨delivery, source, source⟩
  | .deferred =>
    .ok ⟨delivery, { name := runtime.suspendWrapperName, arguments := [source] }, source⟩
  | .stream _ =>
    match source.arguments with
    | [element] =>
      .ok ⟨delivery, ⟨runtime.flowWrapperName, [element], source.nullable⟩, source⟩
    | _ => .error (.malformedStream owner member source.display)

/-- The exposure of a method of the owner. -/
def ofMethod (owner : QualifiedName) (method : Method) (runtime : RuntimeTypes) :
    Except Problem Exposure :=
  of owner method.name method.delivery method.result runtime

/-- The exposure of a property of the owner. -/
def ofProperty (owner : QualifiedName) (property : Property) (runtime : RuntimeTypes) :
    Except Problem Exposure :=
  of owner property.name property.delivery property.type runtime

end Exposure

end NativeWrappers
