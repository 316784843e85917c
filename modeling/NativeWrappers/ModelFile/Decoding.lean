import NativeWrappers.Json.Fault
import NativeWrappers.Json.Value
import NativeWrappers.ModelFile.Basic
import NativeWrappers.ModelFile.Schema
/-!
# Decoding model files

What a JSON value says as a model, or the fault that keeps it from saying anything. A member that
can be left out has a default, and members that mean nothing here are not looked at.
-/

namespace NativeWrappers

namespace Json

/-- What a message says of a value that was not expected. -/
def found : Json → Found
  | null => .null
  | boolean value => .boolean value
  | number text =>
    match text.toInt? with
    | some value => .integer value
    | none => .decimal text
  | string value => .string value
  | array _ => .array
  | object _ => .object

/-- The fault of a value that is not of the expected type. -/
def mismatch {α : Type} (json : Json) (expected : String) : Except Fault α :=
  .error (.invalidType json.found expected)

/-- The text that a value is. -/
def asText : Json → Except Fault String
  | string value => .ok value
  | json => json.mismatch "a string"

/-- The truth value that a value is. -/
def asFlag : Json → Except Fault Bool
  | boolean value => .ok value
  | json => json.mismatch "a boolean"

/-- The elements of an array, each decoded. -/
def asList {α : Type} (decode : Json → Except Fault α) : Json → Except Fault (List α)
  | array elements => elements.mapM decode
  | json => json.mismatch "a sequence"

/-- A list whose elements decode to what they encode decodes to itself. -/
theorem asList_map {α : Type} {encode : α → Json} {decode : Json → Except Fault α}
    (elements : List α) (inverse : ∀ element ∈ elements, decode (encode element) = .ok element) :
    asList decode (array (elements.map encode)) = .ok elements := by
  unfold asList
  induction elements with
  | nil => rfl
  | cons first rest ih =>
    have head := inverse first List.mem_cons_self
    have tail := ih fun element member => inverse element (List.mem_cons_of_mem _ member)
    simp only [List.map_cons, List.mapM_cons] at tail ⊢
    rw [head, tail]
    rfl

/-- The members of an object. Messages call what was expected `expected`. -/
def asRecord (expected : String) : Json → Except Fault (List (String × Json))
  | object members => .ok members
  | json => json.mismatch expected

/-- One of some words, each of which stands for something. -/
def asChoice {α : Type} (ofWord? : String → Option α) (words : List String) (json : Json) :
    Except Fault α := do
  let word ← json.asText
  match ofWord? word with
  | some value => return value
  | none => throw (.unknownVariant word words)

/-- Anything but null, which stands for nothing. -/
def asNullable {α : Type} (decode : Json → Except Fault α) : Json → Except Fault (Option α)
  | null => .ok none
  | json => some <$> decode json

/-- A member that must be there, decoded. -/
def required {α : Type} (members : List (String × Json)) (key : String)
    (decode : Json → Except Fault α) : Except Fault α :=
  match members.lookup key with
  | some value => decode value
  | none => .error (.missingField key)

/-- A member decoded, or a default if there is none. -/
def optional {α : Type} (members : List (String × Json)) (key : String)
    (decode : Json → Except Fault α) (default : α) : Except Fault α :=
  match members.lookup key with
  | some value => decode value
  | none => .ok default

end Json

open Json (Fault)

/-- The members of a record of this kind. -/
def ModelFile.RecordKind.membersOf (kind : RecordKind) (json : Json) :
    Except Fault (List (String × Json)) :=
  json.asRecord (schema.recordText kind)

/-- The qualified name that a value says in its dotted form. -/
def QualifiedName.ofJson (json : Json) : Except Fault QualifiedName :=
  QualifiedName.parse <$> json.asText

/-- The visibility that a value writes by its keyword. -/
def Visibility.ofJson : Json → Except Fault Visibility :=
  Json.asChoice ofKeyword? (all.map keyword)

/-- The kind that a value writes by its keyword. -/
def Kind.ofJson : Json → Except Fault Kind :=
  Json.asChoice ofKeyword? (all.map keyword)

namespace TypeExpr

mutual

/-- The type that a value writes. -/
def ofJson : Json → Except Fault TypeExpr
  | .object members => do
    let name ← Json.required members "name" QualifiedName.ofJson
    let arguments ← argumentsOf members
    let nullable ← Json.optional members "nullable" Json.asFlag false
    return { name, arguments, nullable }
  | json => json.mismatch (ModelFile.schema.recordText .type)

/-- The arguments among the members of a type. Without such a member there are none. -/
def argumentsOf : List (String × Json) → Except Fault (List TypeExpr)
  | [] => .ok []
  | (key, value) :: rest => if key = "args" then ofJsonArray value else argumentsOf rest

/-- The types that an array writes. -/
def ofJsonArray : Json → Except Fault (List TypeExpr)
  | .array elements => ofJsonList elements
  | json => json.mismatch "a sequence"

/-- The types that some values write, one each. -/
def ofJsonList : List Json → Except Fault (List TypeExpr)
  | [] => .ok []
  | json :: rest => do return (← ofJson json) :: (← ofJsonList rest)

end

end TypeExpr

/-- The parameter that a value writes. -/
def Parameter.ofJson (json : Json) : Except Fault Parameter := do
  let members ← ModelFile.RecordKind.parameter.membersOf json
  let name ← Json.required members "name" Json.asText
  let type ← Json.required members "ty" TypeExpr.ofJson
  return { name, type }

/-- The method that a value writes. -/
def Method.ofJson (json : Json) : Except Fault Method := do
  let members ← ModelFile.RecordKind.method.membersOf json
  let name ← Json.required members "name" Json.asText
  let parameters ← Json.optional members "params" (Json.asList Parameter.ofJson) []
  let result? ← Json.optional members "return_type" (Json.asNullable TypeExpr.ofJson) none
  let suspending ← Json.optional members "suspend" Json.asFlag false
  let visibility ← Json.optional members "visibility" Visibility.ofJson .public
  return { name, parameters, result?, suspending, visibility }

/-- The property that a value writes. -/
def Property.ofJson (json : Json) : Except Fault Property := do
  let members ← ModelFile.RecordKind.property.membersOf json
  let name ← Json.required members "name" Json.asText
  let type ← Json.required members "ty" TypeExpr.ofJson
  let visibility ← Json.optional members "visibility" Visibility.ofJson .public
  let mutable ← Json.optional members "mutable" Json.asFlag false
  return { name, type, visibility, mutable }

/-- The marker for interface generation that a value says. -/
def InterfaceMarker.ofJson (json : Json) : Except Fault InterfaceMarker := do
  let members ← ModelFile.RecordKind.interfaceMarker.membersOf json
  let name? ← Json.optional members "name" (Json.asNullable Json.asText) none
  return { name? }

/-- The marker for class generation that a value says. -/
def ClassMarker.ofJson (json : Json) : Except Fault ClassMarker := do
  let members ← ModelFile.RecordKind.classMarker.membersOf json
  let name? ← Json.optional members "name" (Json.asNullable Json.asText) none
  let launchOnScope? ←
    Json.optional members "launch_on_scope" (Json.asNullable QualifiedName.ofJson) none
  return { name?, launchOnScope? }

/-- The markers that a value writes. -/
def Markers.ofJson (json : Json) : Except Fault Markers := do
  let members ← ModelFile.RecordKind.markers.membersOf json
  let interface? ←
    Json.optional members "native_interface" (Json.asNullable InterfaceMarker.ofJson) none
  let class? ← Json.optional members "native_class" (Json.asNullable ClassMarker.ofJson) none
  let exportedScopeProvider ← Json.optional members "exported_scope_provider" Json.asFlag false
  return { interface?, class?, exportedScopeProvider }

/-- The declaration that a value writes. -/
def Declaration.ofJson (json : Json) : Except Fault Declaration := do
  let members ← ModelFile.RecordKind.declaration.membersOf json
  let name ← Json.required members "name" QualifiedName.ofJson
  let kind ← Json.required members "kind" Kind.ofJson
  let visibility ← Json.optional members "visibility" Visibility.ofJson .public
  let supertypes ← Json.optional members "supertypes" (Json.asList QualifiedName.ofJson) []
  let methods ← Json.optional members "members" (Json.asList Method.ofJson) []
  let properties ← Json.optional members "properties" (Json.asList Property.ofJson) []
  let markers ← Json.optional members "annotations" Markers.ofJson {}
  return { name, kind, visibility, supertypes, methods, properties, markers }

/-- The model file that a value writes. -/
def ModelFile.ofJson (json : Json) : Except Fault ModelFile := do
  let members ← RecordKind.model.membersOf json
  let declarations ← Json.optional members "declarations" (Json.asList Declaration.ofJson) []
  return { declarations }

end NativeWrappers
