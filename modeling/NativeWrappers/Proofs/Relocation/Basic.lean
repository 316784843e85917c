import Mathlib.Logic.Function.Basic
import NativeWrappers.Conventions
import NativeWrappers.Exposure
import NativeWrappers.Proofs.Exposure
import NativeWrappers.WrapperModel
/-!
# Relocated packages

A relocation of packages acts on names, and through them on everything that mentions names. It keeps
different packages apart and leaves the few packages alone whose types are known to the generator by
name. What is asked of a single declaration is then answered as before: a relocated name is looked
for where the name was looked for, members have the keys they had, and a relocated type is a stream
or a scope exactly when the type is.
-/

namespace NativeWrappers

/-- A relocation of packages that keeps them apart and keeps those of the types that are known by
name. -/
structure Relocation where
  package : String → String
  injective : Function.Injective package
  kotlin : package "kotlin" = "kotlin"
  coroutines : package "kotlinx.coroutines" = "kotlinx.coroutines"
  flow : package "kotlinx.coroutines.flow" = "kotlinx.coroutines.flow"

namespace Relocation

variable (relocation : Relocation)

/-! ## What becomes of the inputs -/

/-- The relocated name, in another package under the same simple name. -/
def name (name : QualifiedName) : QualifiedName := ⟨relocation.package name.package, name.simple⟩

mutual

/-- The type with every name in it relocated. -/
def type : TypeExpr → TypeExpr
  | ⟨name, arguments, nullable⟩ => ⟨relocation.name name, types arguments, nullable⟩

/-- The relocated types. -/
def types : List TypeExpr → List TypeExpr
  | [] => []
  | argument :: rest => type argument :: types rest

end

/-- The parameter with its type relocated. -/
def parameter (parameter : Parameter) : Parameter :=
  { parameter with type := relocation.type parameter.type }

/-- The method with its types relocated. -/
def method (method : Method) : Method :=
  { method with
    parameters := method.parameters.map relocation.parameter
    result? := method.result?.map relocation.type }

/-- The property with its type relocated. -/
def property (property : Property) : Property :=
  { property with type := relocation.type property.type }

/-- The markers with the named scope provider relocated. -/
def markers (markers : Markers) : Markers :=
  { markers with
    class? := markers.class?.map fun marker =>
      { marker with launchOnScope? := marker.launchOnScope?.map relocation.name } }

/-- The declaration with every name in it relocated. -/
def declaration (declaration : Declaration) : Declaration :=
  { declaration with
    name := relocation.name declaration.name
    supertypes := declaration.supertypes.map relocation.name
    methods := declaration.methods.map relocation.method
    properties := declaration.properties.map relocation.property
    markers := relocation.markers declaration.markers }

theorem name_injective : Function.Injective relocation.name := by
  rintro ⟨package, simple⟩ ⟨package', simple'⟩ equal
  rw [name, name, QualifiedName.mk.injEq] at equal
  rw [QualifiedName.mk.injEq]
  exact ⟨relocation.injective equal.1, equal.2⟩

/-- Whatever is told apart by name stays so if its names are relocated. -/
theorem nodup_map_move {α : Type} (key : α → QualifiedName) (move : α → α)
    (moved : ∀ element, key (move element) = relocation.name (key element)) {list : List α}
    (distinct : (list.map key).Nodup) : ((list.map move).map key).Nodup := by
  have relocated := distinct.map relocation.name_injective
  have sameKeys : key ∘ move = relocation.name ∘ key := funext moved
  rw [List.map_map] at relocated ⊢
  rwa [sameKeys]

/-- The batch of the relocated declarations, whose names stay distinct. -/
def batch (batch : Batch) : Batch where
  declarations := batch.declarations.map relocation.declaration
  nodup := relocation.nodup_map_move Declaration.name _ (fun _ => rfl) batch.nodup

/-- The runtime types in the relocated package. -/
def runtime (runtime : RuntimeTypes) : RuntimeTypes :=
  { runtime with package := relocation.package runtime.package }

/-- The conventions with the runtime types relocated. -/
def conventions (conventions : Conventions) : Conventions :=
  { conventions with runtime := relocation.runtime conventions.runtime }

/-! ## What becomes of the outputs -/

/-- The accessor with both its names relocated. -/
def accessor (accessor : Accessor) : Accessor :=
  { accessor with
    name := relocation.name accessor.name
    provider := relocation.name accessor.provider }

/-- The generated method with its types relocated. A body names no package. -/
def wrapperMethod (method : WrapperMethod) : WrapperMethod :=
  { method with
    parameters := method.parameters.map relocation.parameter
    result := relocation.type method.result }

/-- The generated property with its type relocated. -/
def wrapperProperty (property : WrapperProperty) : WrapperProperty :=
  { property with type := relocation.type property.type }

/-- The shape with the wrapped type and the fallback relocated. -/
def shape : Shape → Shape
  | .interface => .interface
  | .class wrapped fallbackScope? =>
    .class (relocation.name wrapped) (fallbackScope?.map relocation.name)

/-- The generated declaration with every name in it relocated. -/
def wrapper (wrapper : Wrapper) : Wrapper :=
  { wrapper with
    origin := relocation.name wrapper.origin
    name := relocation.name wrapper.name
    shape := relocation.shape wrapper.shape
    supertypes := wrapper.supertypes.map relocation.name
    methods := wrapper.methods.map relocation.wrapperMethod
    properties := wrapper.properties.map relocation.wrapperProperty }

/-- The model with every declaration in it relocated. -/
def model (model : WrapperModel) : WrapperModel where
  accessors := model.accessors.map relocation.accessor
  interfaces := model.interfaces.map relocation.wrapper
  classes := model.classes.map relocation.wrapper

/-- The same problem with relocated names. A malformed stream quotes the relocated type, and the
members of a cycle stand in an order of their own, because they are sorted by name. -/
inductive Relocates : Problem → Problem → Prop where
  | missingScopeCapability (provider : QualifiedName) :
      Relocates (.missingScopeCapability provider)
        (.missingScopeCapability (relocation.name provider))
  | unknownScopeProvider (owner provider : QualifiedName) :
      Relocates (.unknownScopeProvider owner provider)
        (.unknownScopeProvider (relocation.name owner) (relocation.name provider))
  | malformedStream (owner : QualifiedName) (member : String) (type : TypeExpr) :
      Relocates (.malformedStream owner member type.display)
        (.malformedStream (relocation.name owner) member (relocation.type type).display)
  | inaccessibleDeclaration (name : QualifiedName) (visibility : Visibility) :
      Relocates (.inaccessibleDeclaration name visibility)
        (.inaccessibleDeclaration (relocation.name name) visibility)
  | providerNotConstructible (provider : QualifiedName) :
      Relocates (.providerNotConstructible provider)
        (.providerNotConstructible (relocation.name provider))
  | duplicateOutput (name first second : QualifiedName) :
      Relocates (.duplicateOutput name first second)
        (.duplicateOutput (relocation.name name) (relocation.name first) (relocation.name second))
  | inheritanceCycle {members members' : List QualifiedName}
      (reordered : members'.Perm (members.map relocation.name)) :
      Relocates (.inheritanceCycle members) (.inheritanceCycle members')

/-! ## Names -/

@[simp] theorem name_inj {first second : QualifiedName} :
    relocation.name first = relocation.name second ↔ first = second :=
  relocation.name_injective.eq_iff

@[simp] theorem beq_name (first second : QualifiedName) :
    (relocation.name first == relocation.name second) = (first == second) := by
  rw [Bool.eq_iff_iff, beq_iff_eq, beq_iff_eq, name_inj]

theorem contains_map_name (names : List QualifiedName) (wanted : QualifiedName) :
    (names.map relocation.name).contains (relocation.name wanted) = names.contains wanted := by
  rw [Bool.eq_iff_iff, List.contains_iff_mem, List.contains_iff_mem,
    List.mem_map_of_injective relocation.name_injective]

/-- What is looked up by name is found under the relocated name. -/
theorem find?_map_move {α : Type} (key : α → QualifiedName) (move : α → α)
    (moved : ∀ element, key (move element) = relocation.name (key element)) (list : List α)
    (wanted : QualifiedName) :
    (list.map move).find? (key · == relocation.name wanted)
      = (list.find? (key · == wanted)).map move := by
  rw [List.find?_map]
  congr 2
  funext element
  rw [Function.comp_apply, moved, beq_name]

theorem name_of_package_eq {known : QualifiedName}
    (kept : relocation.package known.package = known.package) : relocation.name known = known := by
  rw [name, kept]

theorem scopeProviderName_runtime (runtime : RuntimeTypes) :
    (relocation.runtime runtime).scopeProviderName
      = relocation.name runtime.scopeProviderName := rfl

theorem conventionalName_name (origin : QualifiedName) (explicit? : Option String)
    (suffix : String) :
    Conventions.conventionalName (relocation.name origin) explicit? suffix
      = relocation.name (Conventions.conventionalName origin explicit? suffix) := by
  cases explicit? <;> rfl

theorem interfaceName_declaration (conventions : Conventions) (declaration : Declaration) :
    (relocation.conventions conventions).interfaceName (relocation.declaration declaration)
      = relocation.name (conventions.interfaceName declaration) :=
  relocation.conventionalName_name _ _ _

theorem className_declaration (conventions : Conventions) (declaration : Declaration) :
    (relocation.conventions conventions).className (relocation.declaration declaration)
      = relocation.name (conventions.className declaration) := by
  have sameMarker : (relocation.declaration declaration).markers.class?.bind (·.name?)
      = declaration.markers.class?.bind (·.name?) := by
    rw [Relocation.declaration, Relocation.markers]
    cases declaration.markers.class? <;> rfl
  rw [Conventions.className, sameMarker]
  exact relocation.conventionalName_name _ _ _

/-! ## Types and members -/

theorem types_eq (types : List TypeExpr) : relocation.types types = types.map relocation.type := by
  induction types with
  | nil => rfl
  | cons type rest ih => rw [Relocation.types, List.map_cons, ih]

@[simp] theorem name_type (type : TypeExpr) :
    (relocation.type type).name = relocation.name type.name := by
  cases type
  rw [Relocation.type]

@[simp] theorem arguments_type (type : TypeExpr) :
    (relocation.type type).arguments = type.arguments.map relocation.type := by
  cases type
  rw [Relocation.type, types_eq]

@[simp] theorem nullable_type (type : TypeExpr) :
    (relocation.type type).nullable = type.nullable := by
  cases type
  rw [Relocation.type]

theorem type_unit : relocation.type .unit = .unit := by
  rw [TypeExpr.unit, type, name_of_package_eq relocation relocation.kotlin]
  rfl

theorem streamKind?_type (type : TypeExpr) :
    (relocation.type type).streamKind? = type.streamKind? := by
  have sameTest (kind : StreamKind) :
      (kind.qualifiedName == relocation.name type.name) = (kind.qualifiedName == type.name) := by
    have kept : relocation.name kind.qualifiedName = kind.qualifiedName :=
      relocation.name_of_package_eq relocation.flow
    rw [← relocation.beq_name kind.qualifiedName type.name, kept]
  rw [TypeExpr.streamKind?, TypeExpr.streamKind?, StreamKind.ofName?, StreamKind.ofName?, name_type,
    funext sameTest]

theorem isCoroutineScope_type (type : TypeExpr) :
    Batch.isCoroutineScope (relocation.type type) = Batch.isCoroutineScope type := by
  have kept : relocation.name ⟨"kotlinx.coroutines", "CoroutineScope"⟩
      = ⟨"kotlinx.coroutines", "CoroutineScope"⟩ :=
    relocation.name_of_package_eq relocation.coroutines
  rw [Batch.isCoroutineScope, Batch.isCoroutineScope, name_type, ← relocation.beq_name type.name,
    kept]

theorem key_ofParameters (name : String) (parameters : List Parameter) :
    MethodKey.ofParameters name (parameters.map relocation.parameter)
      = MethodKey.ofParameters name parameters := by
  rw [MethodKey.ofParameters, MethodKey.ofParameters, List.map_map]
  rfl

@[simp] theorem key_method (method : Method) : (relocation.method method).key = method.key :=
  relocation.key_ofParameters _ _

@[simp] theorem key_wrapperMethod (method : WrapperMethod) :
    (relocation.wrapperMethod method).key = method.key :=
  relocation.key_ofParameters _ _

theorem result_method (method : Method) :
    (relocation.method method).result = relocation.type method.result := by
  rcases declared : method.result? with _ | type
  · simp [Method.result, Relocation.method, declared, type_unit]
  · simp [Method.result, Relocation.method, declared]

theorem ofType_type (type : TypeExpr) :
    Delivery.ofType (relocation.type type) = Delivery.ofType type := by
  rw [Delivery.ofType, Delivery.ofType, streamKind?_type]

theorem delivery_method (method : Method) :
    (relocation.method method).delivery = method.delivery := by
  rw [Method.delivery, Method.delivery, result_method, ofType_type]
  rfl

theorem reachableMethods_declaration (declaration : Declaration) :
    (relocation.declaration declaration).reachableMethods
      = declaration.reachableMethods.map relocation.method := by
  rw [Declaration.reachableMethods, Declaration.reachableMethods, Relocation.declaration,
    List.filter_map]
  rfl

theorem reachableProperties_declaration (declaration : Declaration) :
    (relocation.declaration declaration).reachableProperties
      = declaration.reachableProperties.map relocation.property := by
  rw [Declaration.reachableProperties, Declaration.reachableProperties, Relocation.declaration,
    List.filter_map]
  rfl

end Relocation

end NativeWrappers
