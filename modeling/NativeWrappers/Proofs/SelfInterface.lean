import NativeWrappers.Proofs.Exposure
import NativeWrappers.Proofs.WrapperModel
/-!
# A class and the interface of the same declaration

A declaration that is marked for both gets a class that implements its own interface. The two are
generated from members that are collected by different walks: the one for the class enters every
supertype, the one for the interface passes over those that have an interface already. Along either
walk the first declaration with a member of some key decides what is exposed under it. So the class
has every member of the interface, but the two agree on parameters and types only as far as the two
walks come first to declarations that expose the same.
-/

namespace NativeWrappers

/-! ## What is exposed under a key -/

/-- How a generated member is used: its parameters, if it has any, and its type. -/
structure MemberSignature where
  parameters : List Parameter := []
  type : TypeExpr
deriving DecidableEq

/-- How a generated method is used. -/
def WrapperMethod.signature (method : WrapperMethod) : MemberSignature :=
  ⟨method.parameters, method.result⟩

/-- How a generated property is used. -/
def WrapperProperty.signature (property : WrapperProperty) : MemberSignature :=
  { type := property.type }

/-- The signature that a method has on a generated declaration. -/
def Method.exposed (runtime : RuntimeTypes) (method : Method) : MemberSignature :=
  ⟨method.parameters, method.result.exposed runtime method.suspending⟩

/-- The signature that a property has on a generated declaration. -/
def Property.exposed (runtime : RuntimeTypes) (property : Property) : MemberSignature :=
  { type := property.type.exposed runtime false }

/-- The signature of the member of this key. -/
def Wrapper.signature? (wrapper : Wrapper) : MemberKey → Option MemberSignature
  | .method key => (wrapper.methods.find? (·.key == key)).map (·.signature)
  | .property name => (wrapper.properties.find? (·.name == name)).map (·.signature)

/-- What the declaration itself exposes under this key. -/
def Declaration.exposed? (runtime : RuntimeTypes) (declaration : Declaration) :
    MemberKey → Option MemberSignature
  | .method key => (declaration.reachableMethods.find? (·.key == key)).map (·.exposed runtime)
  | .property name =>
    (declaration.reachableProperties.find? (·.name == name)).map (·.exposed runtime)

theorem Declaration.isSome_exposed?_of_offers {runtime : RuntimeTypes} {declaration : Declaration}
    {key : MemberKey} (offers : declaration.Offers key) :
    (declaration.exposed? runtime key).isSome = true := by
  cases key with
  | method key =>
      rcases List.mem_map.mp offers with ⟨method, member, keyed⟩
      rw [exposed?, Option.isSome_map, List.find?_isSome]
      exact ⟨method, member, beq_iff_eq.mpr keyed⟩
  | property name =>
      rcases List.mem_map.mp offers with ⟨property, member, named⟩
      rw [exposed?, Option.isSome_map, List.find?_isSome]
      exact ⟨property, member, beq_iff_eq.mpr named⟩

/-! ## The first declaration with a member -/

/-- The wrapper shows the members that are collected along a lineage. -/
structure Wrapper.Shows (runtime : RuntimeTypes) (wrapper : Wrapper) (lineage : List Declaration) :
    Prop where
  methods : wrapper.methods.map (fun method => (method.key, method.signature))
    = (Members.ofLineage lineage).methods.map fun method => (method.key, method.exposed runtime)
  properties : wrapper.properties.map (fun property => (property.name, property.signature))
    = (Members.ofLineage lineage).properties.map fun property =>
      (property.name, property.exposed runtime)

namespace Wrapper.Shows

variable {runtime : RuntimeTypes} {wrapper : Wrapper} {lineage : List Declaration}

/-- The first declaration of the lineage with a member of this key decides its signature. -/
theorem signature?_eq (shows : wrapper.Shows runtime lineage) (key : MemberKey) :
    wrapper.signature? key = lineage.findSome? (·.exposed? runtime key) := by
  cases key with
  | method key =>
      rw [signature?, ← lookup_map_eq, shows.methods, lookup_map_eq, Members.ofLineage,
        find?_distinctBy, List.find?_flatMap, List.map_findSome?]
      rfl
  | property name =>
      rw [signature?, ← lookup_map_eq, shows.properties, lookup_map_eq, Members.ofLineage,
        find?_distinctBy, List.find?_flatMap, List.map_findSome?]
      rfl

theorem nodup_methodKeys (shows : wrapper.Shows runtime lineage) :
    (wrapper.methods.map (·.key)).Nodup := by
  have keys := congrArg (List.map (·.1)) shows.methods
  rw [List.map_map, List.map_map] at keys
  change wrapper.methods.map (·.key) = (Members.ofLineage lineage).methods.map (·.key) at keys
  rw [keys]
  exact nodup_map_distinctBy _

theorem nodup_propertyNames (shows : wrapper.Shows runtime lineage) :
    (wrapper.properties.map (·.name)).Nodup := by
  have names := congrArg (List.map (·.1)) shows.properties
  rw [List.map_map, List.map_map] at names
  change wrapper.properties.map (·.name) = (Members.ofLineage lineage).properties.map (·.name)
    at names
  rw [names]
  exact nodup_map_distinctBy _

end Wrapper.Shows

section Generation

variable {owner : QualifiedName} {surface : InheritedSurface} {runtime : RuntimeTypes}

theorem generated_of_ofMethod {method : Method} {exposure : Exposure}
    (exposed : Exposure.ofMethod owner method runtime = .ok exposure) :
    exposure.generated = method.result.exposed runtime method.suspending :=
  (Exposure.exposes_of_eq_ok exposed).2.eq_exposed

theorem generated_of_ofProperty {property : Property} {exposure : Exposure}
    (exposed : Exposure.ofProperty owner property runtime = .ok exposure) :
    exposure.generated = property.type.exposed runtime false :=
  (@Exposure.exposes_of_eq_ok _ _ false _ _ _ exposed).2.eq_exposed

end Generation

namespace Batch

variable {batch : Batch} {conventions : Conventions} {interfaces : InterfaceTable}
  {declaration : Declaration} {name : QualifiedName} {wrapper : Wrapper}

theorem shows_of_interfaceWrapper
    (generated : batch.interfaceWrapper conventions interfaces declaration name = .ok wrapper) :
    wrapper.Shows conventions.runtime (batch.lineage declaration interfaces.contains) := by
  rcases interfaceWrapper_eq_ok_iff.mp generated with
    ⟨methods, properties, methodsMapped, propertiesMapped, rfl⟩
  refine ⟨map_eq_map_of_mapM_eq_ok ?_ methodsMapped, map_eq_map_of_mapM_eq_ok ?_ propertiesMapped⟩
  · intro method generatedMethod stepped
    rcases abstractMethod_eq_ok_iff.mp stepped with ⟨exposure, exposed, rfl⟩
    rw [WrapperMethod.signature, generated_of_ofMethod exposed]
    rfl
  · intro property generatedProperty stepped
    rcases abstractProperty_eq_ok_iff.mp stepped with ⟨exposure, exposed, rfl⟩
    rw [WrapperProperty.signature, generated_of_ofProperty exposed]
    rfl

theorem shows_of_classWrapper {accessors : AccessorTable}
    (generated : batch.classWrapper conventions interfaces accessors declaration name
      = .ok wrapper) :
    wrapper.Shows conventions.runtime (batch.ancestry declaration) := by
  rcases classWrapper_eq_ok_iff.mp generated with
    ⟨_, _, methods, properties, _, methodsMapped, propertiesMapped, rfl⟩
  refine ⟨map_eq_map_of_mapM_eq_ok ?_ methodsMapped, map_eq_map_of_mapM_eq_ok ?_ propertiesMapped⟩
  · intro method generatedMethod stepped
    rcases delegateMethod_eq_ok_iff.mp stepped with ⟨exposure, exposed, rfl⟩
    rw [WrapperMethod.signature, generated_of_ofMethod exposed]
    rfl
  · intro property generatedProperty stepped
    rcases delegateProperty_eq_ok_iff.mp stepped with ⟨exposure, exposed, rfl⟩
    rw [WrapperProperty.signature, generated_of_ofProperty exposed]
    rfl

end Batch

/-! ## Agreement -/

/-- The wrapper has every member of the interface, with the same signature. -/
structure Wrapper.Fulfils (wrapper interface : Wrapper) : Prop where
  methods : ∀ method ∈ interface.methods, ∃ delegate ∈ wrapper.methods,
    delegate.key = method.key ∧ delegate.signature = method.signature
  properties : ∀ property ∈ interface.properties, ∃ delegate ∈ wrapper.properties,
    delegate.name = property.name ∧ delegate.signature = property.signature

/-- Every element has one of its key and value in the other list exactly when looking any of their
keys up in both lists gives the same value. -/
theorem forall_exists_iff_find?_eq {α κ β : Type} [BEq κ] [LawfulBEq κ] {key : α → κ}
    {value : α → β} {list list' : List α} (distinct : (list.map key).Nodup)
    (distinct' : (list'.map key).Nodup) :
    (∀ element ∈ list, ∃ other ∈ list', key other = key element ∧ value other = value element) ↔
      ∀ wanted ∈ list.map key,
        (list'.find? (key · == wanted)).map value = (list.find? (key · == wanted)).map value := by
  rw [List.forall_mem_map]
  refine forall₂_congr fun element member => ?_
  rw [(find?_key_eq_some_iff distinct).mpr ⟨member, rfl⟩, Option.map_some, Option.map_eq_some_iff]
  simp only [find?_key_eq_some_iff distinct', and_assoc]

theorem fulfils_iff_signature?_eq {runtime : RuntimeTypes} {wrapper interface : Wrapper}
    {lineage lineage' : List Declaration} (shows : wrapper.Shows runtime lineage)
    (shows' : interface.Shows runtime lineage') :
    wrapper.Fulfils interface ↔
      ∀ key, interface.Lists key → wrapper.signature? key = interface.signature? key := by
  have methods_iff :=
    @forall_exists_iff_find?_eq _ _ _ _ _ _ WrapperMethod.signature _ _ shows'.nodup_methodKeys
      shows.nodup_methodKeys
  have properties_iff :=
    @forall_exists_iff_find?_eq _ _ _ _ _ _ WrapperProperty.signature _ _
      shows'.nodup_propertyNames shows.nodup_propertyNames
  constructor
  · rintro ⟨methods, properties⟩ key lists
    cases key with
    | method key => exact methods_iff.mp methods key (List.mem_eraseDups.mp lists)
    | property name => exact properties_iff.mp properties name (List.mem_eraseDups.mp lists)
  · intro agree
    constructor
    · exact methods_iff.mpr fun key listed => agree (.method key) (List.mem_eraseDups.mpr listed)
    · exact properties_iff.mpr fun name listed =>
        agree (.property name) (List.mem_eraseDups.mpr listed)

namespace Batch

variable {batch : Batch} {conventions : Conventions} {declaration : Declaration}

/-- The walk for the class and the walk for the interface come first to declarations that expose the
same under this key. -/
def ExposesAlike (batch : Batch) (runtime : RuntimeTypes) (declaration : Declaration)
    (key : MemberKey) : Prop :=
  (batch.ancestry declaration).findSome? (·.exposed? runtime key)
    = (batch.lineage declaration batch.isInterfaceTarget).findSome? (·.exposed? runtime key)

/-- Both walks start at the declaration, so what it declares itself cannot differ. -/
theorem exposesAlike_of_offers {runtime : RuntimeTypes} {key : MemberKey}
    (offers : declaration.Offers key) : batch.ExposesAlike runtime declaration key := by
  rcases Option.isSome_iff_exists.mp (declaration.isSome_exposed?_of_offers offers) with
    ⟨signature, exposed⟩
  rw [ExposesAlike, ancestry, lineage, lineage, List.findSome?_cons, List.findSome?_cons, exposed]

theorem has_members_of_has_membersExcept (member : declaration ∈ batch.declarations)
    {inherited : QualifiedName → Bool} {key : MemberKey}
    (has : (batch.membersExcept declaration inherited).Has key) :
    (batch.members declaration).Has key := by
  rcases Members.has_ofLineage_iff.mp has with ⟨other, inLineage, offers⟩
  exact (has_members_iff member).mpr ⟨other, reflTransGen_of_mem_lineage inLineage, offers⟩

/-- A declaration that is marked for both has an interface and a class in the model. The class lists
every member of the interface, and it fulfils the interface exactly when the two walks expose alike
what the interface lists. -/
theorem fulfils_iff_exposesAlike {model : WrapperModel}
    (generated : batch.generate conventions = .ok model) (member : declaration ∈ batch.declarations)
    (markedInterface : declaration.markers.interface?.isSome = true)
    (markedClass : declaration.markers.class?.isSome = true) :
    ∃ interface wrapper, model.interface? declaration.name = some interface ∧
      model.class? declaration.name = some wrapper ∧
      (∀ key, interface.Lists key → wrapper.Lists key) ∧
      (wrapper.Fulfils interface ↔
        ∀ key, interface.Lists key → batch.ExposesAlike conventions.runtime declaration key) := by
  rcases exists_settled_of_generate generated with
    ⟨accessors, table, order, sameInterfaces, _, reordered, _, settled, classesBuilt⟩
  have inOrder : declaration ∈ order :=
    reordered.mem_iff.mpr (List.mem_filter.mpr ⟨member, markedInterface⟩)
  rcases settled.exists_get? inOrder with ⟨interface, found⟩
  have interfaceGenerated := settled.generated_of_get? inOrder found
  have isClassTarget : declaration ∈ batch.classTargets :=
    List.mem_filter.mpr ⟨member, markedClass⟩
  rcases exists_output_of_mapM_eq_ok classesBuilt isClassTarget with
    ⟨wrapper, wrapperMember, classGenerated⟩
  have origins : model.classes.map (·.origin) = batch.classTargets.map (·.name) :=
    map_eq_map_of_mapM_eq_ok (fun _ _ => origin_of_classWrapper) classesBuilt
  have originsDistinct : (model.classes.map (·.origin)).Nodup := by
    rw [origins]
    exact batch.nodup.sublist (List.filter_sublist.map _)
  have interfaceShows := shows_of_interfaceWrapper interfaceGenerated
  have wrapperShows := shows_of_classWrapper classGenerated
  refine ⟨interface, wrapper, ?_, ?_, ?_, ?_⟩
  · rw [WrapperModel.interface?, sameInterfaces]
    exact found
  · exact (find?_key_eq_some_iff originsDistinct).mpr
      ⟨wrapperMember, origin_of_classWrapper classGenerated⟩
  · intro key lists
    rw [(mirrors_of_interfaceWrapper interfaceGenerated).lists_iff] at lists
    rw [(mirrors_of_classWrapper classGenerated).lists_iff]
    exact has_members_of_has_membersExcept member lists
  · -- the walk for the interface passes over what has an interface in the end, hence over targets
    rw [fulfils_iff_signature?_eq wrapperShows interfaceShows]
    refine forall₂_congr fun key _ => ?_
    rw [wrapperShows.signature?_eq, interfaceShows.signature?_eq, settled.contains_eq reordered,
      ExposesAlike]

theorem fulfils_threeLevels :
    WrapperModel.threeLevels.classes[0].Fulfils WrapperModel.threeLevels.interfaces[2] := by
  have member : threeLevels.declarations[2] ∈ threeLevels.declarations := List.getElem_mem _
  rcases fulfils_iff_exposesAlike generate_threeLevels member rfl rfl with
    ⟨interface, wrapper, foundInterface, foundClass, _, fulfils_iff⟩
  have isInterface : WrapperModel.threeLevels.interfaces[2] = interface :=
    Option.some.inj foundInterface
  have isClass : WrapperModel.threeLevels.classes[0] = wrapper := Option.some.inj foundClass
  rw [isInterface, isClass, fulfils_iff, ← isInterface]
  intro key lists
  apply exposesAlike_of_offers
  cases key with
  | method key => exact lists
  | property name => exact lists

/-! ## Where the walks part -/

/-- A reader of texts. It has two supertypes, of which the second narrows the result of a method of
the first, and only the first has an interface. -/
def reader : Batch where
  declarations :=
    [{ name := ⟨"", "Source"⟩, kind := .interface
       methods := [{ name := "next", result? := some ⟨⟨"kotlin", "Any"⟩, [], false⟩ }]
       markers := { interface? := some {} } },
     { name := ⟨"", "TextSource"⟩, kind := .interface, supertypes := [⟨"", "Source"⟩]
       methods := [{ name := "next", result? := some ⟨⟨"kotlin", "String"⟩, [], false⟩ }] },
     { name := ⟨"", "Reader"⟩, kind := .class
       supertypes := [⟨"", "Source"⟩, ⟨"", "TextSource"⟩]
       markers := { interface? := some {}, class? := some {} } }]
  nodup := by decide

end Batch

/-- What is generated for the reader. -/
def WrapperModel.reader : WrapperModel where
  interfaces :=
    [{ origin := ⟨"", "Source"⟩, name := ⟨"", "SourceNativeProtocol"⟩
       methods := [{ name := "next", result := ⟨⟨"kotlin", "Any"⟩, [], false⟩ }] },
     { origin := ⟨"", "Reader"⟩, name := ⟨"", "ReaderNativeProtocol"⟩
       supertypes := [⟨"", "SourceNativeProtocol"⟩]
       methods :=
        [{ name := "next", result := ⟨⟨"kotlin", "String"⟩, [], false⟩, isOverride := true }] }]
  classes :=
    [{ origin := ⟨"", "Reader"⟩, name := ⟨"", "ReaderNative"⟩
       shape := .class ⟨"", "Reader"⟩ none
       supertypes := [⟨"", "SourceNativeProtocol"⟩, ⟨"", "ReaderNativeProtocol"⟩]
       methods :=
        [{ name := "next", result := ⟨⟨"kotlin", "Any"⟩, [], false⟩, isOverride := true
           body? := some ⟨.direct, .method "next" []⟩ }] }]

/-- The interfaces of the reader. -/
def InterfaceTable.reader : InterfaceTable where
  wrappers := WrapperModel.reader.interfaces
  nodup := by decide

namespace Batch

theorem interfaceTable_reader : reader.interfaceTable {} = .ok InterfaceTable.reader := by
  cbv

theorem generate_reader : reader.generate {} = .ok WrapperModel.reader := by
  refine generate_eq_ok_iff.mpr
    ⟨.empty, InterfaceTable.reader, ?_, interfaceTable_reader, ?_, rfl, rfl, ?_⟩
  · rfl
  · cbv
  · decide

/-- The class of the reader takes its method from the first supertype and its interface takes it
from the second, whose result is narrower. -/
theorem not_fulfils_reader :
    reader.generate {} = .ok WrapperModel.reader ∧
      WrapperModel.reader.interface? ⟨"", "Reader"⟩ = some WrapperModel.reader.interfaces[1] ∧
      WrapperModel.reader.class? ⟨"", "Reader"⟩ = some WrapperModel.reader.classes[0] ∧
      ¬ WrapperModel.reader.classes[0].Fulfils WrapperModel.reader.interfaces[1] := by
  refine ⟨generate_reader, rfl, rfl, ?_⟩
  intro fulfils
  rcases fulfils.methods _ List.mem_cons_self with ⟨delegate, delegateMember, _, sameSignature⟩
  rw [List.mem_singleton.mp delegateMember] at sameSignature
  exact absurd sameSignature (by decide)

end Batch

end NativeWrappers
