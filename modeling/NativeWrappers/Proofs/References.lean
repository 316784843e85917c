import NativeWrappers.Proofs.GenerationChecks
/-!
# References between outputs

The outputs of a batch refer to each other: interfaces extend interfaces, classes implement them,
and a class falls back to an accessor. In a generated model nothing is missing. Each target has its
output, all outputs have names of their own, and whatever name an output refers to another by is the
name of an output, which comes earlier where the order matters.
-/

namespace NativeWrappers

namespace WrapperModel

/-- The targets of the batch are what the outputs come from, and each has one of its kind. -/
structure Covers (model : WrapperModel) (batch : Batch) : Prop where
  accessors : model.accessors.map (·.provider) = batch.scopeProviders.map (·.name)
  interfaces : (model.interfaces.map (·.origin)).Perm (batch.interfaceTargets.map (·.name))
  interfacesOnce : (model.interfaces.map (·.origin)).Nodup
  classes : model.classes.map (·.origin) = batch.classTargets.map (·.name)

/-- What a class falls back to when its marker names this provider, if it names one: the accessor
that exposes the provider, of which there is just one. -/
inductive FallsBack (model : WrapperModel) : (provider? scope? : Option QualifiedName) → Prop where
  | nowhere : FallsBack model none none
  | toAccessor {provider : QualifiedName} {accessor : Accessor}
      (only : model.accessors.filter (·.provider == provider) = [accessor]) :
      FallsBack model (some provider) (some accessor.name)

/-- The outputs have distinct and new names in the packages of their origins, and what they refer to
by the name of an output is there. -/
structure ReferencesClosed (model : WrapperModel) (batch : Batch) : Prop where
  package : ∀ output ∈ model.outputs, output.1.package = output.2.package
  distinct : (model.outputs.map (·.1)).Nodup
  new : ∀ output ∈ model.outputs, output.1 ∉ batch.names
  interfaceSupertypes : ∀ earlier wrapper later,
    model.interfaces = earlier ++ wrapper :: later →
      ∀ supertype ∈ wrapper.supertypes, supertype ∈ earlier.map (·.name)
  classSupertypes : ∀ wrapper ∈ model.classes, ∀ supertype ∈ wrapper.supertypes,
    supertype ∈ model.interfaces.map (·.name)
  fallbacks : List.Forall₂ (fun target wrapper => ∃ scope?,
      wrapper.shape = .class target.name scope? ∧
        model.FallsBack (target.markers.class?.bind (·.launchOnScope?)) scope?)
    batch.classTargets model.classes

end WrapperModel

namespace Batch

variable {batch : Batch} {conventions : Conventions} {model : WrapperModel}
  {table : InterfaceTable} {declaration : Declaration} {name supertype : QualifiedName}
  {wrapper : Wrapper}

/-! ## Supertypes -/

theorem exists_get?_of_interfaceWrapper
    (generated : batch.interfaceWrapper conventions table declaration name = .ok wrapper)
    (listed : supertype ∈ wrapper.supertypes) :
    ∃ origin ∈ declaration.supertypes, ∃ extended, table.get? origin = some extended ∧
      extended.name = supertype := by
  rcases interfaceWrapper_eq_ok_iff.mp generated with ⟨_, _, _, _, rfl⟩
  rcases List.mem_map.mp listed with ⟨extended, extendedMember, named⟩
  rcases List.mem_filterMap.mp extendedMember with ⟨origin, originListed, found⟩
  exact ⟨origin, originListed, extended, found, named⟩

/-- In a settled table the supertypes of an interface come before it. -/
theorem Settled.mem_earlier {order : List Declaration} {earlier later : List Wrapper}
    (settled : batch.Settled conventions order table) (first : SupertypesFirst order)
    (split : table.wrappers = earlier ++ wrapper :: later)
    (listed : supertype ∈ wrapper.supertypes) : supertype ∈ earlier.map (·.name) := by
  have member : wrapper ∈ table.wrappers := by
    rw [split]
    exact List.mem_append_right _ List.mem_cons_self
  rcases settled.exists_target member with ⟨target, targetMember, generated⟩
  rcases exists_get?_of_interfaceWrapper generated listed with
    ⟨origin, originListed, extended, found, named⟩
  -- the order falls apart at the target just as the table does at its interface
  have distinct := table.nodup
  have origins := settled.origins
  rw [origins] at distinct
  rw [split, List.map_append, List.map_cons] at origins
  rcases List.map_eq_append_iff.mp origins.symm with ⟨before, rest, rfl, _, restNames⟩
  rcases List.map_eq_cons_iff.mp restNames with ⟨here, after, rfl, hereName, afterNames⟩
  have isHere : target = here := by
    apply List.inj_on_of_nodup_map distinct targetMember (by simp)
    rw [hereName, origin_of_interfaceWrapper generated]
  have inTable := InterfaceTable.mem_of_get? found
  rw [split] at inTable
  rcases List.mem_append.mp inTable with inEarlier | inRest
  · exact List.mem_map.mpr ⟨extended, inEarlier, named⟩
  · have originMember : extended.origin ∈ (here :: after).map (·.name) := by
      rw [List.map_cons, hereName, afterNames]
      exact List.mem_map_of_mem inRest
    rcases List.mem_map.mp originMember with ⟨other, otherMember, otherName⟩
    rw [InterfaceTable.origin_of_get? found] at otherName
    rw [isHere, ← otherName] at originListed
    exact absurd originListed (first.of_append_right.not_listed other otherMember)

theorem mem_names_of_classWrapper {accessors : AccessorTable}
    (generated : batch.classWrapper conventions table accessors declaration name = .ok wrapper)
    (listed : supertype ∈ wrapper.supertypes) : supertype ∈ table.wrappers.map (·.name) := by
  rcases classWrapper_eq_ok_iff.mp generated with ⟨_, _, _, _, _, _, _, rfl⟩
  rcases List.mem_map.mp listed with ⟨implemented, member, named⟩
  refine List.mem_map.mpr ⟨implemented, ?_, named⟩
  rcases List.mem_append.mp (mem_of_mem_distinctBy member) with extended | itself
  · rcases List.mem_filterMap.mp extended with ⟨_, _, found⟩
    exact InterfaceTable.mem_of_get? found
  · exact InterfaceTable.mem_of_get? (Option.mem_toList.mp itself)

/-! ## Fallbacks -/

theorem fallsBack_of_classWrapper {accessors : AccessorTable}
    (distinct : (accessors.accessors.map (·.provider)).Nodup)
    (sameAccessors : model.accessors = accessors.accessors)
    (generated : batch.classWrapper conventions table accessors declaration name = .ok wrapper) :
    ∃ scope?, wrapper.shape = .class declaration.name scope? ∧
      model.FallsBack (declaration.markers.class?.bind (·.launchOnScope?)) scope? := by
  rcases classWrapper_eq_ok_iff.mp generated with ⟨_, scope?, _, _, scopeFound, _, _, rfl⟩
  refine ⟨scope?, rfl, ?_⟩
  rw [fallbackScope?] at scopeFound
  split at scopeFound
  · next noMarker =>
      cases scopeFound
      rw [noMarker]
      exact .nowhere
  · next provider marker =>
      split at scopeFound
      · next accessor found =>
          cases scopeFound
          rw [marker]
          rcases (find?_key_eq_some_iff distinct).mp found with ⟨member, rfl⟩
          apply WrapperModel.FallsBack.toAccessor
          rw [sameAccessors]
          exact filter_key_eq_singleton distinct member
      · cases scopeFound

/-! ## The whole model -/

theorem package_of_mem_requestedOutputs {output : QualifiedName × QualifiedName}
    (member : output ∈ batch.requestedOutputs conventions) :
    output.1.package = output.2.package := by
  rcases List.mem_append.mp member with ofProvider | ofTarget
  · rcases List.mem_map.mp ofProvider with ⟨provider, _, rfl⟩
    exact Conventions.package_accessorName conventions provider.name
  rcases List.mem_append.mp ofTarget with ofInterface | ofClass
  · rcases List.mem_map.mp ofInterface with ⟨target, _, rfl⟩
    exact Conventions.package_interfaceName conventions target
  · rcases List.mem_map.mp ofClass with ⟨target, _, rfl⟩
    exact Conventions.package_className conventions target

theorem covers_of_generate (generated : batch.generate conventions = .ok model) :
    model.Covers batch := by
  rcases generate_eq_ok_iff.mp generated with
    ⟨accessors, interfaces, accessorsBuilt, interfacesBuilt, classesBuilt, sameAccessors,
      sameInterfaces, _⟩
  rcases exists_settled_of_interfaceTable interfacesBuilt with ⟨order, reordered, _, settled⟩
  constructor
  case accessors =>
    rw [sameAccessors]
    exact providers_of_accessorTable accessorsBuilt
  case interfaces =>
    rw [sameInterfaces, settled.origins]
    exact reordered.map _
  case interfacesOnce =>
    rw [sameInterfaces]
    exact interfaces.nodup
  case classes =>
    exact map_eq_map_of_mapM_eq_ok (fun _ _ => origin_of_classWrapper) classesBuilt

theorem outputs_of_generate (generated : batch.generate conventions = .ok model) :
    model.outputs = batch.requestedOutputs conventions := by
  rcases generate_eq_ok_iff.mp generated with
    ⟨accessors, interfaces, accessorsBuilt, interfacesBuilt, classesBuilt, sameAccessors,
      sameInterfaces, _⟩
  rw [← outputs_eq_requestedOutputs accessorsBuilt interfacesBuilt classesBuilt]
  rw [WrapperModel.outputs, WrapperModel.outputs, sameAccessors, sameInterfaces]

theorem referencesClosed_of_generate (generated : batch.generate conventions = .ok model) :
    model.ReferencesClosed batch := by
  rcases generate_eq_ok_iff.mp generated with
    ⟨accessors, interfaces, accessorsBuilt, interfacesBuilt, classesBuilt, sameAccessors,
      sameInterfaces, _⟩
  rcases distinct_of_generate generated with ⟨new, distinct⟩
  constructor
  case package =>
    rw [outputs_of_generate generated]
    exact fun _ => package_of_mem_requestedOutputs
  case distinct =>
    exact distinct
  case new =>
    intro output member declared
    have absent := new output member
    rw [contains_iff.mpr declared] at absent
    cases absent
  case interfaceSupertypes =>
    intro earlier wrapper later split supertype listed
    rcases exists_settled_of_interfaceTable interfacesBuilt with ⟨_, _, first, settled⟩
    exact settled.mem_earlier first (sameInterfaces ▸ split) listed
  case classSupertypes =>
    intro wrapper member supertype listed
    rcases exists_input_of_mapM_eq_ok classesBuilt member with ⟨_, _, built⟩
    rw [sameInterfaces]
    exact mem_names_of_classWrapper built listed
  case fallbacks =>
    refine (mapM_eq_ok_iff.mp classesBuilt).imp ?_
    intro target wrapper built
    exact fallsBack_of_classWrapper (nodup_providers accessorsBuilt) sameAccessors built

/-- A generated model has an output for every target and nothing else, and whatever its outputs
refer to by the name of an output is there. -/
theorem covers_and_referencesClosed_of_generate
    (generated : batch.generate conventions = .ok model) :
    model.Covers batch ∧ model.ReferencesClosed batch :=
  ⟨covers_of_generate generated, referencesClosed_of_generate generated⟩

theorem covers_and_referencesClosed_session :
    session.generate {} = .ok WrapperModel.session ∧
      WrapperModel.session.Covers session ∧ WrapperModel.session.ReferencesClosed session :=
  ⟨generate_session, covers_and_referencesClosed_of_generate generate_session⟩

end Batch

end NativeWrappers
