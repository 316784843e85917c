import NativeWrappers.Proofs.Hierarchy.Lineage
import NativeWrappers.Wrapper.Class
import NativeWrappers.Wrapper.Interface
/-!
# The members of one generated declaration

Interfaces and classes are generated member by member from what was collected. Generation neither
adds nor drops a member, keeps what identifies it, and marks it as an override exactly when one of
the generated supertypes lists it. `Mirrors` says this once for both kinds of declaration; classes
add that every member delegates.
-/

namespace NativeWrappers

namespace Wrapper

/-- The wrapper itself has a member with this key. -/
def Lists (wrapper : Wrapper) : MemberKey → Prop
  | .method key => key ∈ wrapper.methodKeys
  | .property name => name ∈ wrapper.propertyNames

/-- The members of a wrapper, each with its override marker. -/
def markers (wrapper : Wrapper) : List (MemberKey × Bool) :=
  wrapper.methods.map (fun method => (.method method.key, method.isOverride))
    ++ wrapper.properties.map fun property => (.property property.name, property.isOverride)

end Wrapper

/-- The wrapper extends these generated interfaces and mirrors these members. -/
structure Mirrors (wrapper : Wrapper) (extended : List Wrapper) (members : Members) : Prop where
  supertypes : wrapper.supertypes = extended.map (·.name)
  methods : wrapper.methods.map (·.key) = members.methods.map (·.key)
  properties : wrapper.properties.map (·.name) = members.properties.map (·.name)
  methodOverrides : ∀ method ∈ wrapper.methods,
    method.isOverride = (InheritedSurface.ofSupertypes extended).hasMethod method.key
  propertyOverrides : ∀ property ∈ wrapper.properties,
    property.isOverride = (InheritedSurface.ofSupertypes extended).hasProperty property.name

namespace Mirrors

variable {wrapper : Wrapper} {extended : List Wrapper} {members : Members}

theorem of_mapM {methodStep : Method → Except Problem WrapperMethod}
    {propertyStep : Property → Except Problem WrapperProperty}
    (supertypes : wrapper.supertypes = extended.map (·.name))
    (methodsMapped : members.methods.mapM methodStep = .ok wrapper.methods)
    (propertiesMapped : members.properties.mapM propertyStep = .ok wrapper.properties)
    (methodKept : ∀ method generated, methodStep method = .ok generated →
      generated.key = method.key ∧
        generated.isOverride = (InheritedSurface.ofSupertypes extended).hasMethod method.key)
    (propertyKept : ∀ property generated, propertyStep property = .ok generated →
      generated.name = property.name ∧
        generated.isOverride = (InheritedSurface.ofSupertypes extended).hasProperty property.name) :
    Mirrors wrapper extended members := by
  refine ⟨supertypes, ?_, ?_, ?_, ?_⟩
  · apply map_eq_map_of_mapM_eq_ok _ methodsMapped
    intro method generated stepped
    exact (methodKept method generated stepped).1
  · apply map_eq_map_of_mapM_eq_ok _ propertiesMapped
    intro property generated stepped
    exact (propertyKept property generated stepped).1
  · intro generated member
    rcases exists_input_of_mapM_eq_ok methodsMapped member with ⟨method, _, stepped⟩
    rcases methodKept method generated stepped with ⟨sameKey, marked⟩
    rw [sameKey, marked]
  · intro generated member
    rcases exists_input_of_mapM_eq_ok propertiesMapped member with ⟨property, _, stepped⟩
    rcases propertyKept property generated stepped with ⟨sameName, marked⟩
    rw [sameName, marked]

theorem lists_iff (mirrors : Mirrors wrapper extended members) {key : MemberKey} :
    wrapper.Lists key ↔ members.Has key := by
  cases key with
  | method key =>
      rw [Wrapper.Lists, Wrapper.methodKeys, List.mem_eraseDups, mirrors.methods, Members.Has]
  | property name =>
      rw [Wrapper.Lists, Wrapper.propertyNames, List.mem_eraseDups, mirrors.properties, Members.Has]

theorem marker_iff (mirrors : Mirrors wrapper extended members) {key : MemberKey}
    {isOverride : Bool} (member : (key, isOverride) ∈ wrapper.markers) :
    isOverride = true ↔ ∃ supertype ∈ extended, supertype.Lists key := by
  rcases List.mem_append.mp member with methodMarker | propertyMarker
  · rcases List.mem_map.mp methodMarker with ⟨method, methodMember, equal⟩
    cases equal
    rw [mirrors.methodOverrides method methodMember]
    simp [InheritedSurface.ofSupertypes, InheritedSurface.hasMethod, Wrapper.Lists]
  · rcases List.mem_map.mp propertyMarker with ⟨property, propertyMember, equal⟩
    cases equal
    rw [mirrors.propertyOverrides property propertyMember]
    simp [InheritedSurface.ofSupertypes, InheritedSurface.hasProperty, Wrapper.Lists]

end Mirrors

section Abstract

variable {owner : QualifiedName} {surface : InheritedSurface} {runtime : RuntimeTypes}

theorem abstractMethod_eq_ok_iff {method : Method} {generated : WrapperMethod} :
    abstractMethod owner surface runtime method = .ok generated ↔
      ∃ exposure, Exposure.ofMethod owner method runtime = .ok exposure ∧
        generated =
          { name := method.name
            parameters := method.parameters
            result := exposure.generated
            isOverride := surface.hasMethod method.key } := by
  simp only [abstractMethod, bind_eq_ok_iff, pure_eq_ok_iff]

theorem abstractProperty_eq_ok_iff {property : Property} {generated : WrapperProperty} :
    abstractProperty owner surface runtime property = .ok generated ↔
      ∃ exposure, Exposure.ofProperty owner property runtime = .ok exposure ∧
        generated =
          { name := property.name
            type := exposure.generated
            isOverride := surface.hasProperty property.name } := by
  simp only [abstractProperty, bind_eq_ok_iff, pure_eq_ok_iff]

end Abstract

section Delegate

variable {owner : QualifiedName} {surface : InheritedSurface} {runtime : RuntimeTypes}

theorem delegateMethod_eq_ok_iff {method : Method} {generated : WrapperMethod} :
    delegateMethod owner surface runtime method = .ok generated ↔
      ∃ exposure, Exposure.ofMethod owner method runtime = .ok exposure ∧
        generated =
          { name := method.name
            parameters := method.parameters
            result := exposure.generated
            visibility := delegateVisibility method.visibility (surface.hasMethod method.key)
            isOverride := surface.hasMethod method.key
            body? := some ⟨exposure.delivery.wrapping,
              .method method.name (method.parameters.map (·.name))⟩ } := by
  simp only [delegateMethod, bind_eq_ok_iff, pure_eq_ok_iff]

theorem delegateProperty_eq_ok_iff {property : Property} {generated : WrapperProperty} :
    delegateProperty owner surface runtime property = .ok generated ↔
      ∃ exposure, Exposure.ofProperty owner property runtime = .ok exposure ∧
        generated =
          { name := property.name
            type := exposure.generated
            visibility := delegateVisibility property.visibility (surface.hasProperty property.name)
            isOverride := surface.hasProperty property.name
            getter? := some ⟨exposure.delivery.wrapping, .property property.name⟩ } := by
  simp only [delegateProperty, bind_eq_ok_iff, pure_eq_ok_iff]

end Delegate

namespace Batch

variable {batch : Batch} {conventions : Conventions} {interfaces : InterfaceTable}
  {declaration : Declaration} {name : QualifiedName} {wrapper : Wrapper}

theorem interfaceWrapper_eq_ok_iff :
    batch.interfaceWrapper conventions interfaces declaration name = .ok wrapper ↔
      ∃ methods properties,
        (batch.membersExcept declaration interfaces.contains).methods.mapM
          (abstractMethod declaration.name (InheritedSurface.ofSupertypes
            (declaration.supertypes.filterMap interfaces.get?)) conventions.runtime)
          = .ok methods ∧
        (batch.membersExcept declaration interfaces.contains).properties.mapM
          (abstractProperty declaration.name (InheritedSurface.ofSupertypes
            (declaration.supertypes.filterMap interfaces.get?)) conventions.runtime)
          = .ok properties ∧
        wrapper =
          { origin := declaration.name
            name
            visibility := declaration.visibility.ofPeer
            shape := .interface
            supertypes := (declaration.supertypes.filterMap interfaces.get?).map (·.name)
            methods
            properties } := by
  simp only [interfaceWrapper, bind_eq_ok_iff, pure_eq_ok_iff]
  constructor
  · rintro ⟨methods, methodsMapped, properties, propertiesMapped, equal⟩
    exact ⟨methods, properties, methodsMapped, propertiesMapped, equal⟩
  · rintro ⟨methods, properties, methodsMapped, propertiesMapped, equal⟩
    exact ⟨methods, methodsMapped, properties, propertiesMapped, equal⟩

theorem classWrapper_eq_ok_iff {accessors : AccessorTable} :
    batch.classWrapper conventions interfaces accessors declaration name = .ok wrapper ↔
      declaration.visibility.isReachable = true ∧
      ∃ scope? methods properties,
        fallbackScope? accessors declaration = .ok scope? ∧
        (batch.members declaration).methods.mapM
          (delegateMethod declaration.name (InheritedSurface.ofSupertypes
            (implementedInterfaces interfaces declaration)) conventions.runtime) = .ok methods ∧
        (batch.members declaration).properties.mapM
          (delegateProperty declaration.name (InheritedSurface.ofSupertypes
            (implementedInterfaces interfaces declaration)) conventions.runtime)
          = .ok properties ∧
        wrapper =
          { origin := declaration.name
            name
            visibility := declaration.visibility.ofPeer
            shape := .class declaration.name scope?
            supertypes := (implementedInterfaces interfaces declaration).map (·.name)
            methods
            properties } := by
  rw [classWrapper]
  cases reachable : declaration.visibility.isReachable with
  | false =>
      constructor
      · intro impossible
        cases impossible
      · rintro ⟨impossible, _⟩
        cases impossible
  | true =>
      simp only [if_true, true_and, bind_eq_ok_iff, pure_eq_ok_iff]
      constructor
      · rintro ⟨scope?, scopeFound, methods, methodsMapped, properties, propertiesMapped, equal⟩
        exact ⟨scope?, methods, properties, scopeFound, methodsMapped, propertiesMapped, equal⟩
      · rintro ⟨scope?, methods, properties, scopeFound, methodsMapped, propertiesMapped, equal⟩
        exact ⟨scope?, scopeFound, methods, methodsMapped, properties, propertiesMapped, equal⟩

/-- Generation of an interface looks only at the interfaces of the direct supertypes and at the
lineage of the declaration. -/
theorem interfaceWrapper_congr {batch' : Batch} {interfaces' : InterfaceTable}
    (same : SameLineage batch batch' declaration)
    (sameInterfaces : ∀ supertype ∈ declaration.supertypes,
      interfaces.get? supertype = interfaces'.get? supertype) :
    batch.interfaceWrapper conventions interfaces declaration name
      = batch'.interfaceWrapper conventions interfaces' declaration name := by
  have extended : declaration.supertypes.filterMap interfaces.get?
      = declaration.supertypes.filterMap interfaces'.get? :=
    List.filterMap_congr sameInterfaces
  have members : batch.membersExcept declaration interfaces.contains
      = batch'.membersExcept declaration interfaces'.contains := by
    rw [← same.membersExcept]
    apply membersExcept_congr
    intro supertype listed
    rw [InterfaceTable.contains, InterfaceTable.contains, sameInterfaces supertype listed]
  rw [interfaceWrapper, interfaceWrapper, extended, members]

theorem origin_of_interfaceWrapper
    (generated : batch.interfaceWrapper conventions interfaces declaration name = .ok wrapper) :
    wrapper.origin = declaration.name := by
  rcases interfaceWrapper_eq_ok_iff.mp generated with ⟨_, _, _, _, equal⟩
  rw [equal]

theorem name_of_interfaceWrapper
    (generated : batch.interfaceWrapper conventions interfaces declaration name = .ok wrapper) :
    wrapper.name = name := by
  rcases interfaceWrapper_eq_ok_iff.mp generated with ⟨_, _, _, _, equal⟩
  rw [equal]

theorem mirrors_of_interfaceWrapper
    (generated : batch.interfaceWrapper conventions interfaces declaration name = .ok wrapper) :
    Mirrors wrapper (declaration.supertypes.filterMap interfaces.get?)
      (batch.membersExcept declaration interfaces.contains) := by
  rcases interfaceWrapper_eq_ok_iff.mp generated with
    ⟨methods, properties, methodsMapped, propertiesMapped, equal⟩
  subst equal
  apply Mirrors.of_mapM rfl methodsMapped propertiesMapped
  · intro method generatedMethod stepped
    rcases abstractMethod_eq_ok_iff.mp stepped with ⟨_, _, equal⟩
    rw [equal]
    exact ⟨rfl, rfl⟩
  · intro property generatedProperty stepped
    rcases abstractProperty_eq_ok_iff.mp stepped with ⟨_, _, equal⟩
    rw [equal]
    exact ⟨rfl, rfl⟩

section Classes

variable {accessors : AccessorTable}

/-- Generation of a class looks only at its own interface and those of the direct supertypes, at the
accessor it falls back to, and at the lineage of the declaration. -/
theorem classWrapper_congr {batch' : Batch} {interfaces' : InterfaceTable}
    {accessors' : AccessorTable} (same : SameLineage batch batch' declaration)
    (sameInterfaces : ∀ origin ∈ declaration.name :: declaration.supertypes,
      interfaces.get? origin = interfaces'.get? origin)
    (sameFallback : fallbackScope? accessors declaration = fallbackScope? accessors' declaration) :
    batch.classWrapper conventions interfaces accessors declaration name
      = batch'.classWrapper conventions interfaces' accessors' declaration name := by
  rw [List.forall_mem_cons] at sameInterfaces
  have extended : declaration.supertypes.filterMap interfaces.get?
      = declaration.supertypes.filterMap interfaces'.get? :=
    List.filterMap_congr sameInterfaces.2
  have sameImplemented : implementedInterfaces interfaces declaration
      = implementedInterfaces interfaces' declaration := by
    rw [implementedInterfaces, implementedInterfaces, extended, sameInterfaces.1]
  rw [classWrapper, classWrapper, sameImplemented, sameFallback, same.members]

theorem origin_of_classWrapper
    (generated : batch.classWrapper conventions interfaces accessors declaration name
      = .ok wrapper) :
    wrapper.origin = declaration.name := by
  rcases classWrapper_eq_ok_iff.mp generated with ⟨_, _, _, _, _, _, _, equal⟩
  rw [equal]

theorem name_of_classWrapper
    (generated : batch.classWrapper conventions interfaces accessors declaration name
      = .ok wrapper) :
    wrapper.name = name := by
  rcases classWrapper_eq_ok_iff.mp generated with ⟨_, _, _, _, _, _, _, equal⟩
  rw [equal]

theorem mirrors_of_classWrapper
    (generated : batch.classWrapper conventions interfaces accessors declaration name
      = .ok wrapper) :
    Mirrors wrapper (implementedInterfaces interfaces declaration)
      (batch.members declaration) := by
  rcases classWrapper_eq_ok_iff.mp generated with
    ⟨_, _, methods, properties, _, methodsMapped, propertiesMapped, equal⟩
  subst equal
  apply Mirrors.of_mapM rfl methodsMapped propertiesMapped
  · intro method generatedMethod stepped
    rcases delegateMethod_eq_ok_iff.mp stepped with ⟨_, _, equal⟩
    rw [equal]
    exact ⟨rfl, rfl⟩
  · intro property generatedProperty stepped
    rcases delegateProperty_eq_ok_iff.mp stepped with ⟨_, _, equal⟩
    rw [equal]
    exact ⟨rfl, rfl⟩

theorem body_of_classWrapper
    (generated : batch.classWrapper conventions interfaces accessors declaration name
      = .ok wrapper)
    {method : WrapperMethod} (member : method ∈ wrapper.methods) :
    ∃ wrapping, method.body? =
      some ⟨wrapping, .method method.name (method.parameters.map (·.name))⟩ := by
  rcases classWrapper_eq_ok_iff.mp generated with ⟨_, _, _, _, _, methodsMapped, _, equal⟩
  subst equal
  rcases exists_input_of_mapM_eq_ok methodsMapped member with ⟨_, _, stepped⟩
  rcases delegateMethod_eq_ok_iff.mp stepped with ⟨exposure, _, equal⟩
  exact ⟨exposure.delivery.wrapping, by rw [equal]⟩

theorem getter_of_classWrapper
    (generated : batch.classWrapper conventions interfaces accessors declaration name
      = .ok wrapper)
    {property : WrapperProperty} (member : property ∈ wrapper.properties) :
    ∃ wrapping, property.getter? = some ⟨wrapping, .property property.name⟩ := by
  rcases classWrapper_eq_ok_iff.mp generated with ⟨_, _, _, _, _, _, propertiesMapped, equal⟩
  subst equal
  rcases exists_input_of_mapM_eq_ok propertiesMapped member with ⟨_, _, stepped⟩
  rcases delegateProperty_eq_ok_iff.mp stepped with ⟨exposure, _, equal⟩
  exact ⟨exposure.delivery.wrapping, by rw [equal]⟩

end Classes

end Batch

end NativeWrappers
