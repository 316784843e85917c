import NativeWrappers.Declaration
import NativeWrappers.Json.Schema
/-!
# The schema of model files

The records that a model file is made of. Only names, kinds and types have to be written; the other
members can be left out.
-/

namespace NativeWrappers.ModelFile

/-- The kinds of records in a model file. -/
inductive RecordKind where
  | model
  | declaration
  | method
  | parameter
  | property
  | type
  | markers
  | interfaceMarker
  | classMarker
deriving DecidableEq, Repr

namespace RecordKind

/-- What messages call a record of this kind. -/
def name : RecordKind → String
  | model => "ModelFile"
  | declaration => "DeclarationSignature"
  | method => "MemberSignature"
  | parameter => "Param"
  | property => "PropertySignature"
  | type => "TypeRef"
  | markers => "Annotations"
  | interfaceMarker => "InterfaceAnnotation"
  | classMarker => "ClassAnnotation"

/-- The keywords of the visibilities. -/
def visibility : Json.Shape RecordKind := .choice (Visibility.all.map Visibility.keyword)

/-- The members of a record, in the order in which an array lists them. -/
def fields : RecordKind → List (Json.Field RecordKind)
  | model => [⟨"declarations", .defaulted, .list (.record declaration)⟩]
  | declaration =>
    [⟨"name", .required, .text⟩,
      ⟨"kind", .required, .choice (Kind.all.map Kind.keyword)⟩,
      ⟨"visibility", .defaulted, visibility⟩,
      ⟨"supertypes", .defaulted, .list .text⟩,
      ⟨"members", .defaulted, .list (.record method)⟩,
      ⟨"properties", .defaulted, .list (.record property)⟩,
      ⟨"annotations", .defaulted, .record markers⟩]
  | method =>
    [⟨"name", .required, .text⟩,
      ⟨"params", .defaulted, .list (.record parameter)⟩,
      ⟨"return_type", .nullable, .record type⟩,
      ⟨"suspend", .defaulted, .flag⟩,
      ⟨"visibility", .defaulted, visibility⟩]
  | parameter => [⟨"name", .required, .text⟩, ⟨"ty", .required, .record type⟩]
  | property =>
    [⟨"name", .required, .text⟩,
      ⟨"ty", .required, .record type⟩,
      ⟨"visibility", .defaulted, visibility⟩,
      ⟨"mutable", .defaulted, .flag⟩]
  | type =>
    [⟨"name", .required, .text⟩,
      ⟨"args", .defaulted, .list (.record type)⟩,
      ⟨"nullable", .defaulted, .flag⟩]
  | markers =>
    [⟨"native_interface", .nullable, .record interfaceMarker⟩,
      ⟨"native_class", .nullable, .record classMarker⟩,
      ⟨"exported_scope_provider", .defaulted, .flag⟩]
  | interfaceMarker => [⟨"name", .nullable, .text⟩]
  | classMarker => [⟨"name", .nullable, .text⟩, ⟨"launch_on_scope", .nullable, .text⟩]

end RecordKind

/-- The records of model files, with their names and fields. -/
def schema : Json.Schema RecordKind where
  name := RecordKind.name
  fields := RecordKind.fields

end NativeWrappers.ModelFile
