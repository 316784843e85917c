import NativeWrappers.Proofs.GenerationChecks
/-!
# Which batches are accepted

The checks of generation come in an order, and the interface targets among them in one that the
hierarchy dictates. Which batches pass all of them has nothing to do with either: `Accepted` says it
as properties of the declarations and of the names that they ask for. The order matters for a
refused batch alone, because it decides which problem is reported.
-/

namespace NativeWrappers

/-! ## Passing each kind of check -/

/-- Every stream among these members that is not handed over later has a single element type. -/
structure Members.StreamsWellFormed (members : Members) : Prop where
  methods : ∀ method ∈ members.methods, method.suspending = false → method.result.IsStream →
    method.result.arguments.length = 1
  properties : ∀ property ∈ members.properties, property.type.IsStream →
    property.type.arguments.length = 1

theorem passed_streamChecks_iff {owner : QualifiedName} {members : Members} :
    Passed (streamChecks owner members) ↔ members.StreamsWellFormed := by
  rw [streamChecks, passed_append, Passed, Passed, List.forall_mem_map, List.forall_mem_map]
  simp only [methodCheck, propertyCheck, streamCheck, not_and, not_not, forall_const]
  constructor
  · intro both
    exact ⟨both.1, both.2⟩
  · intro wellFormed
    exact ⟨wellFormed.methods, wellFormed.properties⟩

theorem passed_repetitionChecks_iff {earlier : List (QualifiedName × QualifiedName)}
    {output : QualifiedName × QualifiedName} :
    Passed (repetitionChecks earlier output) ↔ output.1 ∉ earlier.map (·.1) := by
  rw [Passed, repetitionChecks, List.forall_mem_map, List.mem_map, not_exists]
  exact forall_congr' fun other => not_and.symm

/-- Elements whose outputs must not repeat pass when each of them passes its own checks and no two
outputs have one name. -/
theorem passed_distinct_iff {α : Type} {own : α → List Check}
    {output : α → QualifiedName × QualifiedName} {earlier list : List α}
    (distinct : (earlier.map fun element => (output element).1).Nodup) :
    Passed (checksInOrder (fun earlier element =>
        own element ++ repetitionChecks (earlier.map output) (output element)) earlier list) ↔
      (∀ element ∈ list, Passed (own element)) ∧
        ((earlier ++ list).map fun element => (output element).1).Nodup := by
  -- an element is compared with those before it only, which are known to be distinct by then
  induction list generalizing earlier with
  | nil =>
      rw [List.append_nil]
      exact ⟨fun _ => ⟨List.forall_mem_nil _, distinct⟩, fun _ => List.forall_mem_nil _⟩
  | cons element rest ih =>
      rw [checksInOrder, passed_append, passed_append, passed_repetitionChecks_iff, List.map_map,
        List.forall_mem_cons, List.append_cons earlier element rest]
      constructor
      · rintro ⟨⟨passed, fresh⟩, passedRest⟩
        have extended : ((earlier ++ [element]).map fun element => (output element).1).Nodup := by
          rw [List.map_append, List.map_singleton, ← List.concat_eq_append]
          exact distinct.concat fresh
        rw [ih extended] at passedRest
        exact ⟨⟨passed, passedRest.1⟩, passedRest.2⟩
      · rintro ⟨⟨passed, passedRest⟩, allDistinct⟩
        have extended : ((earlier ++ [element]).map fun element => (output element).1).Nodup := by
          rw [List.map_append] at allDistinct
          exact allDistinct.of_append_left
        refine ⟨⟨passed, ?_⟩, (ih extended).mpr ⟨passedRest, allDistinct⟩⟩
        rw [List.map_append] at extended
        intro taken
        exact (List.nodup_append.mp extended).2.2 _ taken _ List.mem_cons_self rfl

namespace Batch

/-- The names of all outputs that a batch asks for. -/
def outputNames (batch : Batch) (conventions : Conventions) : List QualifiedName :=
  batch.scopeProviders.map (fun provider => conventions.accessorName provider.name)
    ++ (batch.interfaceTargets.map conventions.interfaceName
    ++ batch.classTargets.map conventions.className)

/-- The demands on a batch. Exported providers can be constructed and expose a scope, interface
targets do not inherit in a cycle, collected streams have a single element type, class targets are
reachable and fall back to exported providers, and every output has a name of its own. -/
structure Accepted (batch : Batch) (conventions : Conventions) : Prop where
  providersReachable : ∀ provider ∈ batch.scopeProviders,
    provider.visibility = .public ∨ provider.visibility = .internal
  providersConstructible : ∀ provider ∈ batch.scopeProviders, provider.kind = .class
  providersCapable : ∀ provider ∈ batch.scopeProviders,
    batch.exposesScope provider conventions.runtime = true
  accessorNames :
    (batch.scopeProviders.map fun provider => conventions.accessorName provider.name).Nodup
  acyclic : ∀ target ∈ batch.interfaceTargets,
    ¬ Relation.TransGen (ListsWithin batch.interfaceTargets) target target
  interfaceStreams : ∀ target ∈ batch.interfaceTargets,
    (batch.membersExcept target batch.isInterfaceTarget).StreamsWellFormed
  classStreams : ∀ target ∈ batch.classTargets, (batch.members target).StreamsWellFormed
  classesReachable : ∀ target ∈ batch.classTargets,
    target.visibility = .public ∨ target.visibility = .internal
  fallbacksExported : ∀ target ∈ batch.classTargets,
    ∀ provider ∈ target.markers.class?.bind (·.launchOnScope?),
      ∃ exported ∈ batch.scopeProviders, exported.name = provider
  outputsDistinct : (batch.outputNames conventions).Nodup
  outputsNew : ∀ name ∈ batch.outputNames conventions, name ∉ batch.names

variable {batch : Batch} {conventions : Conventions}

theorem held_visibilityCheck_iff {declaration : Declaration} :
    ¬ (visibilityCheck declaration).violated ↔
      declaration.visibility = .public ∨ declaration.visibility = .internal := by
  rw [visibilityCheck, Bool.not_eq_false, Visibility.isReachable_iff]

theorem passed_accessorChecks_iff {provider : Declaration} :
    Passed (batch.accessorChecks conventions provider) ↔
      (provider.visibility = .public ∨ provider.visibility = .internal) ∧
        provider.kind = .class ∧ batch.exposesScope provider conventions.runtime = true := by
  have isClass : ¬ provider.kind = .interface ↔ provider.kind = .class := by
    cases provider.kind <;> decide
  rw [accessorChecks, Passed, List.forall_mem_cons, List.forall_mem_cons,
    List.forall_mem_singleton, held_visibilityCheck_iff]
  dsimp only
  rw [isClass, Bool.not_eq_false]

theorem passed_providerChecks_iff :
    Passed (checksInOrder (batch.providerChecks conventions) [] batch.scopeProviders) ↔
      (∀ provider ∈ batch.scopeProviders, Passed (batch.accessorChecks conventions provider)) ∧
        (batch.scopeProviders.map fun provider => conventions.accessorName provider.name).Nodup :=
  @passed_distinct_iff _ (batch.accessorChecks conventions) (accessorOutput conventions) []
    batch.scopeProviders List.nodup_nil

/-- Without a cycle, the order lists the targets, and none before a supertype of it. -/
theorem perm_and_supertypesFirst_targetOrder
    (acyclic : ¬ (cycleCheck batch.interfaceTargets).violated) :
    batch.targetOrder.Perm batch.interfaceTargets ∧ SupertypesFirst batch.targetOrder := by
  have judged := judged_supertypesFirst batch.nodup_interfaceTargets
  rcases judged.exists_eq_ok_iff.mpr (List.forall_mem_singleton.mpr acyclic) with ⟨order, ordered⟩
  rw [targetOrder_eq ordered]
  exact perm_and_supertypesFirst_of_eq_ok batch.nodup_interfaceTargets ordered

theorem held_cycleCheck_iff {declarations : List Declaration} :
    ¬ (cycleCheck declarations).violated ↔ ∀ declaration ∈ declarations,
      ¬ Relation.TransGen (ListsWithin declarations) declaration declaration := by
  simp only [cycleCheck, not_exists, not_and]

theorem passed_interfaceChecks_iff {targets : List Declaration} :
    Passed (targets.flatMap batch.interfaceChecks) ↔ ∀ target ∈ targets,
      (batch.membersExcept target batch.isInterfaceTarget).StreamsWellFormed := by
  simp only [passed_flatMap, interfaceChecks, passed_streamChecks_iff]

theorem passed_fallbackChecks_iff {target : Declaration} :
    Passed (batch.fallbackChecks target) ↔
      ∀ provider ∈ target.markers.class?.bind (·.launchOnScope?),
        ∃ exported ∈ batch.scopeProviders, exported.name = provider := by
  rw [fallbackChecks]
  generalize target.markers.class?.bind (·.launchOnScope?) = provider?
  rcases provider? with _ | provider
  · refine ⟨fun _ provider impossible => ?_, fun _ => List.forall_mem_nil _⟩
    cases impossible
  · rw [Passed, List.forall_mem_singleton]
    simp

theorem passed_classChecks_iff {target : Declaration} :
    Passed (batch.classChecks target) ↔
      (target.visibility = .public ∨ target.visibility = .internal) ∧
        (∀ provider ∈ target.markers.class?.bind (·.launchOnScope?),
          ∃ exported ∈ batch.scopeProviders, exported.name = provider) ∧
        (batch.members target).StreamsWellFormed := by
  rw [classChecks, Passed, List.forall_mem_cons, held_visibilityCheck_iff, ← Passed, passed_append,
    passed_fallbackChecks_iff, passed_streamChecks_iff]

theorem passed_nameChecks_iff {outputs : List (QualifiedName × QualifiedName)} :
    Passed (checksInOrder batch.nameChecks [] outputs) ↔
      (∀ name ∈ outputs.map (·.1), name ∉ batch.names) ∧ (outputs.map (·.1)).Nodup := by
  have sameChecks : batch.nameChecks = fun earlier output =>
      [⟨output.1 ∈ batch.names, .duplicateOutput output.1 output.1 output.2⟩]
        ++ repetitionChecks (earlier.map id) (id output) := by
    funext earlier output
    rw [List.map_id]
    rfl
  have noneEarlier : (([] : List (QualifiedName × QualifiedName)).map fun output =>
      (id output).1).Nodup := List.nodup_nil
  rw [sameChecks, passed_distinct_iff noneEarlier, List.nil_append, List.forall_mem_map]
  simp only [Passed, List.forall_mem_singleton, id_eq]

theorem requestedOutputs_perm (conventions : Conventions)
    (reordered : batch.targetOrder.Perm batch.interfaceTargets) :
    ((batch.requestedOutputs conventions).map (·.1)).Perm (batch.outputNames conventions) := by
  rw [requestedOutputs, outputNames, List.map_append, List.map_append, List.map_map, List.map_map,
    List.map_map]
  exact ((reordered.map _).append_right _).append_left _

/-- No check of a batch is violated exactly when it is accepted, which has nothing to do with the
order of the checks or of the targets. -/
theorem passed_checks_iff_accepted :
    Passed (batch.checks conventions) ↔ batch.Accepted conventions := by
  rw [checks, passed_append, passed_append, passed_append, passed_providerChecks_iff,
    ← List.singleton_append, passed_append, Passed, List.forall_mem_singleton,
    passed_interfaceChecks_iff, passed_flatMap, passed_nameChecks_iff]
  simp only [passed_accessorChecks_iff, passed_classChecks_iff]
  constructor
  · rintro ⟨⟨providers, accessorNames⟩, ⟨noCycle, interfaces⟩, classes, new, distinct⟩
    have reordered := (perm_and_supertypesFirst_targetOrder noCycle).1
    have names := requestedOutputs_perm conventions reordered
    exact {
      providersReachable := fun provider member => (providers provider member).1
      providersConstructible := fun provider member => (providers provider member).2.1
      providersCapable := fun provider member => (providers provider member).2.2
      accessorNames
      acyclic := held_cycleCheck_iff.mp noCycle
      interfaceStreams := fun target member => interfaces target (reordered.mem_iff.mpr member)
      classStreams := fun target member => (classes target member).2.2
      classesReachable := fun target member => (classes target member).1
      fallbacksExported := fun target member => (classes target member).2.1
      outputsDistinct := names.nodup_iff.mp distinct
      outputsNew := fun name member => new name (names.mem_iff.mpr member) }
  · intro accepted
    have noCycle := held_cycleCheck_iff.mpr accepted.acyclic
    have reordered := (perm_and_supertypesFirst_targetOrder noCycle).1
    have names := requestedOutputs_perm conventions reordered
    refine ⟨⟨?_, accepted.accessorNames⟩, ⟨noCycle, ?_⟩, ?_, ?_, ?_⟩
    · intro provider member
      exact ⟨accepted.providersReachable provider member,
        accepted.providersConstructible provider member,
        accepted.providersCapable provider member⟩
    · intro target member
      exact accepted.interfaceStreams target (reordered.mem_iff.mp member)
    · intro target member
      exact ⟨accepted.classesReachable target member, accepted.fallbacksExported target member,
        accepted.classStreams target member⟩
    · intro name member
      exact accepted.outputsNew name (names.mem_iff.mp member)
    · exact names.nodup_iff.mpr accepted.outputsDistinct

/-- A model is generated from a batch exactly when the batch is accepted, and the problem of any
other batch is that of the first check that it violates. -/
theorem generate_succeeds_iff_accepted (batch : Batch) (conventions : Conventions) :
    ((∃ model, batch.generate conventions = .ok model) ↔ batch.Accepted conventions) ∧
      ∀ problem, batch.generate conventions = .error problem ↔
        FirstViolated (batch.checks conventions) problem := by
  refine ⟨?_, fun problem => judged_generate.eq_error_iff⟩
  rw [judged_generate.exists_eq_ok_iff, passed_checks_iff_accepted]

end Batch

end NativeWrappers
