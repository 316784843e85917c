import Mathlib.Logic.Equiv.Basic
import NativeWrappers.Proofs.Relocation.Wrapper
import NativeWrappers.Proofs.WrapperModel
/-!
# Generation over a relocated batch

To the generator, packages are opaque. Apart from the few whose types it knows by name, nothing is
asked of a package but whether it is the same as another, so relocating the packages of the input
relocates those of the output and changes nothing else.
-/

namespace NativeWrappers

namespace Relocation

/-- The relocation that exchanges two packages. -/
def exchange (first second : String)
    (unknown : ∀ known ∈ ["kotlin", "kotlinx.coroutines", "kotlinx.coroutines.flow"],
      known ≠ first ∧ known ≠ second) : Relocation where
  package := Equiv.swap first second
  injective := (Equiv.swap first second).injective
  kotlin :=
    have distinct := unknown "kotlin" (by simp)
    Equiv.swap_apply_of_ne_of_ne distinct.1 distinct.2
  coroutines :=
    have distinct := unknown "kotlinx.coroutines" (by simp)
    Equiv.swap_apply_of_ne_of_ne distinct.1 distinct.2
  flow :=
    have distinct := unknown "kotlinx.coroutines.flow" (by simp)
    Equiv.swap_apply_of_ne_of_ne distinct.1 distinct.2

variable (relocation : Relocation)

/-! ## Generated supertypes -/

theorem ofSupertypes_wrappers (supertypes : List Wrapper) :
    InheritedSurface.ofSupertypes (supertypes.map relocation.wrapper)
      = InheritedSurface.ofSupertypes supertypes := by
  have sameKeys (wrapper : Wrapper) :
      (relocation.wrapper wrapper).methodKeys = wrapper.methodKeys := by
    rw [Wrapper.methodKeys, Wrapper.methodKeys, Relocation.wrapper, List.map_map]
    congr 2
    exact funext relocation.key_wrapperMethod
  have sameNames (wrapper : Wrapper) :
      (relocation.wrapper wrapper).propertyNames = wrapper.propertyNames := by
    rw [Wrapper.propertyNames, Wrapper.propertyNames, Relocation.wrapper, List.map_map]
    rfl
  rw [InheritedSurface.ofSupertypes, InheritedSurface.ofSupertypes, List.flatMap_map,
    List.flatMap_map, funext sameKeys, funext sameNames]

theorem generatedSupertypes_declaration (interfaces : InterfaceTable) (declaration : Declaration) :
    (relocation.declaration declaration).supertypes.filterMap
        (relocation.interfaces interfaces).get?
      = (declaration.supertypes.filterMap interfaces.get?).map relocation.wrapper := by
  rw [Relocation.declaration, List.filterMap_map, List.map_filterMap]
  apply List.filterMap_congr
  intro name _
  exact relocation.getInterface?_interfaces interfaces name

theorem implementedInterfaces_declaration (interfaces : InterfaceTable)
    (declaration : Declaration) :
    implementedInterfaces (relocation.interfaces interfaces) (relocation.declaration declaration)
      = (implementedInterfaces interfaces declaration).map relocation.wrapper := by
  have own : (relocation.interfaces interfaces).get? (relocation.declaration declaration).name
      = (interfaces.get? declaration.name).map relocation.wrapper :=
    relocation.getInterface?_interfaces interfaces declaration.name
  have sameName (wrapper : Wrapper) :
      (relocation.wrapper wrapper).name = relocation.name wrapper.name := rfl
  rw [implementedInterfaces, implementedInterfaces, generatedSupertypes_declaration, own,
    Option.toList_map, ← List.map_append]
  exact distinctBy_map relocation.name_injective sameName _

/-! ## Stages -/

section Stages

variable (batch : Batch) (conventions : Conventions) (interfaces : InterfaceTable)
  (accessors : AccessorTable) (declaration : Declaration)

theorem inherits_batch (capability : QualifiedName) :
    (relocation.batch batch).inherits (relocation.declaration declaration)
        (relocation.name capability)
      = batch.inherits declaration capability := by
  rw [Batch.inherits, Batch.inherits, ancestry_batch, List.any_map]
  congr 1
  funext ancestor
  exact relocation.contains_map_name _ _

theorem exposesScope_batch (runtime : RuntimeTypes) :
    (relocation.batch batch).exposesScope (relocation.declaration declaration)
        (relocation.runtime runtime)
      = batch.exposesScope declaration runtime := by
  rw [Batch.exposesScope, Batch.exposesScope, scopeProviderName_runtime, inherits_batch,
    properties_members, List.any_map]
  congr 2
  funext property
  exact congrArg (property.name == "scope" && ·) (relocation.isCoroutineScope_type property.type)

theorem accessor_carries :
    relocation.Carries relocation.accessor (batch.accessor conventions declaration)
      ((relocation.batch batch).accessor (relocation.conventions conventions)
        (relocation.declaration declaration)) := by
  have sameScope := relocation.exposesScope_batch batch declaration conventions.runtime
  have sameVisibility :
      (relocation.declaration declaration).visibility = declaration.visibility := rfl
  have sameKind : (relocation.declaration declaration).isInterface = declaration.isInterface := rfl
  have sameRuntime : (relocation.conventions conventions).runtime
      = relocation.runtime conventions.runtime := rfl
  rw [Batch.accessor, Batch.accessor, sameVisibility, sameKind, sameRuntime, sameScope]
  cases declaration.visibility.isReachable with
  | false => exact .error (.inaccessibleDeclaration _ _)
  | true =>
      cases declaration.isInterface with
      | true => exact .error (.providerNotConstructible _)
      | false =>
          cases batch.exposesScope declaration conventions.runtime with
          | false => exact .error (.missingScopeCapability _)
          | true => exact .ok rfl

theorem accessorTable_carries :
    relocation.Carries relocation.accessors (batch.accessorTable conventions)
      ((relocation.batch batch).accessorTable (relocation.conventions conventions)) := by
  have providers := relocation.filter_markers batch (·.exportedScopeProvider) fun _ => rfl
  rw [Batch.accessorTable, Batch.accessorTable, Batch.scopeProviders, Batch.scopeProviders,
    providers]
  refine Carries.foldlM (fun table provider => ?_) _ AccessorTable.empty
  apply (relocation.accessor_carries batch conventions provider).bind
  rintro accessor _ rfl
  exact relocation.insertAccessor_carries table accessor

theorem interfaceWrapper_carries (name : QualifiedName) :
    relocation.Carries relocation.wrapper
      (batch.interfaceWrapper conventions interfaces declaration name)
      ((relocation.batch batch).interfaceWrapper (relocation.conventions conventions)
        (relocation.interfaces interfaces) (relocation.declaration declaration)
        (relocation.name name)) := by
  have sameInherited := relocation.contains_interfaces interfaces
  rw [Batch.interfaceWrapper, Batch.interfaceWrapper, generatedSupertypes_declaration,
    ofSupertypes_wrappers, relocation.methods_membersExcept batch declaration sameInherited,
    relocation.properties_membersExcept batch declaration sameInherited]
  apply (Carries.mapM (relocation.abstractMethod_carries _ _ _) _).bind
  rintro methods _ rfl
  apply (Carries.mapM (relocation.abstractProperty_carries _ _ _) _).bind
  rintro properties _ rfl
  refine .ok ?_
  rw [Relocation.wrapper, List.map_map, List.map_map]
  rfl

theorem interfaceTable_carries :
    relocation.Carries relocation.interfaces (batch.interfaceTable conventions)
      ((relocation.batch batch).interfaceTable (relocation.conventions conventions)) := by
  have targets := relocation.filter_markers batch (·.interface?.isSome) fun _ => rfl
  rw [Batch.interfaceTable, Batch.interfaceTable, Batch.interfaceTargets, Batch.interfaceTargets,
    targets]
  apply (relocation.supertypesFirst_agree _).bind
  rintro order _ rfl
  refine Carries.foldlM (fun table target => ?_) order InterfaceTable.empty
  rw [Batch.addInterface, Batch.addInterface, interfaceName_declaration]
  apply (relocation.interfaceWrapper_carries batch conventions table target _).bind
  rintro wrapper _ rfl
  exact relocation.insertInterface_carries table wrapper

theorem fallbackScope?_carries :
    relocation.Carries (Option.map relocation.name) (fallbackScope? accessors declaration)
      (fallbackScope? (relocation.accessors accessors) (relocation.declaration declaration)) := by
  have sameMarker : (relocation.declaration declaration).markers.class?.bind (·.launchOnScope?)
      = (declaration.markers.class?.bind (·.launchOnScope?)).map relocation.name := by
    rw [Relocation.declaration, Relocation.markers]
    cases declaration.markers.class? <;> rfl
  rw [fallbackScope?, fallbackScope?, sameMarker]
  rcases declaration.markers.class?.bind (·.launchOnScope?) with _ | provider
  · exact .ok rfl
  · rw [Option.map_some]
    dsimp only
    rw [getAccessor?_accessors]
    rcases accessors.get? provider with _ | accessor
    · exact .error (.unknownScopeProvider _ _)
    · exact .ok rfl

theorem classWrapper_carries (name : QualifiedName) :
    relocation.Carries relocation.wrapper
      (batch.classWrapper conventions interfaces accessors declaration name)
      ((relocation.batch batch).classWrapper (relocation.conventions conventions)
        (relocation.interfaces interfaces) (relocation.accessors accessors)
        (relocation.declaration declaration) (relocation.name name)) := by
  have sameVisibility :
      (relocation.declaration declaration).visibility = declaration.visibility := rfl
  rw [Batch.classWrapper, Batch.classWrapper, implementedInterfaces_declaration, sameVisibility]
  dsimp only
  rw [ofSupertypes_wrappers, methods_members, properties_members]
  cases declaration.visibility.isReachable with
  | false => exact .error (.inaccessibleDeclaration _ _)
  | true =>
      apply (relocation.fallbackScope?_carries accessors declaration).bind
      rintro scope? _ rfl
      apply (Carries.mapM (relocation.delegateMethod_carries _ _ _) _).bind
      rintro methods _ rfl
      apply (Carries.mapM (relocation.delegateProperty_carries _ _ _) _).bind
      rintro properties _ rfl
      refine .ok ?_
      rw [Relocation.wrapper, List.map_map, List.map_map]
      rfl

theorem classWrappers_carries :
    relocation.Carries (List.map relocation.wrapper)
      (batch.classWrappers conventions interfaces accessors)
      ((relocation.batch batch).classWrappers (relocation.conventions conventions)
        (relocation.interfaces interfaces) (relocation.accessors accessors)) := by
  have sameMarked (markers : Markers) :
      (relocation.markers markers).class?.isSome = markers.class?.isSome :=
    Option.isSome_map
  rw [Batch.classWrappers, Batch.classWrappers, Batch.classTargets, Batch.classTargets,
    relocation.filter_markers batch (·.class?.isSome) sameMarked]
  refine Carries.mapM (fun target => ?_) _
  rw [className_declaration]
  exact relocation.classWrapper_carries batch conventions interfaces accessors target _

end Stages

/-! ## Collisions -/

/-- The name of an output and of the declaration it comes from, relocated. -/
def output (output : QualifiedName × QualifiedName) : QualifiedName × QualifiedName :=
  (relocation.name output.1, relocation.name output.2)

theorem lookup_outputs (claimed : List (QualifiedName × QualifiedName)) (name : QualifiedName) :
    (claimed.map relocation.output).lookup (relocation.name name)
      = (claimed.lookup name).map relocation.name := by
  induction claimed with
  | nil => rfl
  | cons first rest ih =>
      rcases first with ⟨taken, origin⟩
      rw [List.map_cons, output, List.lookup_cons, List.lookup_cons, beq_name, ih]
      cases name == taken <;> rfl

theorem outputs_model (model : WrapperModel) :
    (relocation.model model).outputs = model.outputs.map relocation.output := by
  rw [WrapperModel.outputs, WrapperModel.outputs, Relocation.model]
  dsimp only
  simp only [List.map_append, List.map_map]
  rfl

theorem collision?_batch (batch : Batch) (claimed outputs : List (QualifiedName × QualifiedName)) :
    Option.Rel relocation.Relocates (WrapperModel.collision? batch claimed outputs)
      (WrapperModel.collision? (relocation.batch batch) (claimed.map relocation.output)
        (outputs.map relocation.output)) := by
  induction outputs generalizing claimed with
  | nil => exact .none
  | cons first rest ih =>
      rcases first with ⟨name, origin⟩
      rw [List.map_cons, output, WrapperModel.collision?, WrapperModel.collision?, contains_batch,
        lookup_outputs]
      cases batch.contains name with
      | true => exact .some (.duplicateOutput name name origin)
      | false =>
          rcases claimed.lookup name with _ | first
          · have later := ih (claimed ++ [(name, origin)])
            rw [List.map_append] at later
            exact later
          · exact .some (.duplicateOutput name first origin)

theorem carries_of_rel {α β : Type} {move : α → β} {found found' : Option Problem} (value : α) :
    Option.Rel relocation.Relocates found found' →
      relocation.Carries move
        (match found with
          | some problem => .error problem
          | none => .ok value)
        (match found' with
          | some problem => .error problem
          | none => .ok (move value)) := by
  intro relocates
  cases relocates with
  | none => exact .ok rfl
  | some problems => exact .error problems

theorem generate_carries (batch : Batch) (conventions : Conventions) :
    relocation.Carries relocation.model (batch.generate conventions)
      ((relocation.batch batch).generate (relocation.conventions conventions)) := by
  apply (relocation.accessorTable_carries batch conventions).bind
  rintro accessors _ rfl
  apply (relocation.interfaceTable_carries batch conventions).bind
  rintro interfaces _ rfl
  apply (relocation.classWrappers_carries batch conventions interfaces accessors).bind
  rintro classes _ rfl
  have collisions := relocation.collision?_batch batch []
    (WrapperModel.outputs ⟨accessors.accessors, interfaces.wrappers, classes⟩)
  rw [← outputs_model] at collisions
  exact relocation.carries_of_rel _ collisions

end Relocation

namespace Batch

/-- Relocating the packages of a batch and of the runtime relocates what is generated: generation
succeeds as before, with the relocated model, or fails as before, at the relocated problem. -/
theorem generate_relocated (relocation : Relocation) (batch : Batch) (conventions : Conventions) :
    ((∃ model, (relocation.batch batch).generate (relocation.conventions conventions) = .ok model) ↔
        ∃ model, batch.generate conventions = .ok model) ∧
      (∀ model, batch.generate conventions = .ok model →
        (relocation.batch batch).generate (relocation.conventions conventions)
          = .ok (relocation.model model)) ∧
      ∀ problem, batch.generate conventions = .error problem →
        ∃ problem', (relocation.batch batch).generate (relocation.conventions conventions)
            = .error problem' ∧
          relocation.Relocates problem problem' := by
  have carries := relocation.generate_carries batch conventions
  generalize batch.generate conventions = outcome at carries
  generalize (relocation.batch batch).generate (relocation.conventions conventions) = outcome'
    at carries
  cases carries with
  | ok relocated => simp [relocated]
  | error relocates => simp [relocates]

/-- The session and its scope provider can trade places. -/
theorem generate_relocated_session :
    ((Relocation.exchange "app" "app.di" (by decide)).batch session).generate
        ((Relocation.exchange "app" "app.di" (by decide)).conventions {})
      = .ok ((Relocation.exchange "app" "app.di" (by decide)).model WrapperModel.session) :=
  (generate_relocated _ _ _).2.1 _ generate_session

end Batch

end NativeWrappers
