import NativeWrappers.Json.Value
import NativeWrappers.ModelFile.Basic
/-!
# Encoding model files

A model as a JSON value. Every member is written, also where it has its default.
-/

namespace NativeWrappers

namespace QualifiedName

/-- A qualified name in its dotted form. -/
def toJson (name : QualifiedName) : Json := .string name.dotted

end QualifiedName

namespace Json

/-- What may be absent, with null for its absence. -/
def ofOption {α : Type} (encode : α → Json) : Option α → Json
  | some value => encode value
  | none => null

end Json

namespace TypeExpr

mutual

/-- A type with its arguments. -/
def toJson : TypeExpr → Json
  | ⟨name, arguments, nullable⟩ =>
    .object
      [("name", name.toJson), ("args", .array (toJsonList arguments)),
        ("nullable", .boolean nullable)]

/-- Some types, each as a value. -/
def toJsonList : List TypeExpr → List Json
  | [] => []
  | type :: rest => type.toJson :: toJsonList rest

end

end TypeExpr

/-- A visibility by its keyword. -/
def Visibility.toJson (visibility : Visibility) : Json := .string visibility.keyword

/-- A kind by its keyword. -/
def Kind.toJson (kind : Kind) : Json := .string kind.keyword

/-- A parameter as a record. -/
def Parameter.toJson (parameter : Parameter) : Json :=
  .object [("name", .string parameter.name), ("ty", parameter.type.toJson)]

/-- A method as a record, with null for a result that is not declared. -/
def Method.toJson (method : Method) : Json :=
  .object
    [("name", .string method.name),
      ("params", .array (method.parameters.map Parameter.toJson)),
      ("return_type", Json.ofOption TypeExpr.toJson method.result?),
      ("suspend", .boolean method.suspending),
      ("visibility", method.visibility.toJson)]

/-- A property as a record. -/
def Property.toJson (property : Property) : Json :=
  .object
    [("name", .string property.name),
      ("ty", property.type.toJson),
      ("visibility", property.visibility.toJson),
      ("mutable", .boolean property.mutable)]

/-- The marker for a generated interface as a record. -/
def InterfaceMarker.toJson (marker : InterfaceMarker) : Json :=
  .object [("name", Json.ofOption Json.string marker.name?)]

/-- The marker for a generated class as a record. -/
def ClassMarker.toJson (marker : ClassMarker) : Json :=
  .object
    [("name", Json.ofOption Json.string marker.name?),
      ("launch_on_scope", Json.ofOption QualifiedName.toJson marker.launchOnScope?)]

/-- The markers as a record, with null for each that is not set. -/
def Markers.toJson (markers : Markers) : Json :=
  .object
    [("native_interface", Json.ofOption InterfaceMarker.toJson markers.interface?),
      ("native_class", Json.ofOption ClassMarker.toJson markers.class?),
      ("exported_scope_provider", .boolean markers.exportedScopeProvider)]

/-- A declaration as a record. -/
def Declaration.toJson (declaration : Declaration) : Json :=
  .object
    [("name", declaration.name.toJson),
      ("kind", declaration.kind.toJson),
      ("visibility", declaration.visibility.toJson),
      ("supertypes", .array (declaration.supertypes.map QualifiedName.toJson)),
      ("members", .array (declaration.methods.map Method.toJson)),
      ("properties", .array (declaration.properties.map Property.toJson)),
      ("annotations", declaration.markers.toJson)]

/-- A model file as a record. -/
def ModelFile.toJson (model : ModelFile) : Json :=
  .object [("declarations", .array (model.declarations.map Declaration.toJson))]

end NativeWrappers
