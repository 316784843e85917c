import NativeWrappers.Proofs.Hierarchy.Cycles
import NativeWrappers.Proofs.Wrapper.Checks
import NativeWrappers.Proofs.WrapperModel
/-!
# The checks of generation

Generation refuses a batch for the first of a list of checks that it violates: the providers in
input order, then cycles, then the interface targets in the order in which they are generated, then
the class targets in input order, and in the end the names of all outputs. The list looks at nothing
but the declarations and the conventions: `judged_generate` says that these are the checks that the
stages make.
-/

namespace NativeWrappers

/-! ## The checks -/

/-- The name of an output must not be that of an earlier one. An output stands here with its name
and the declaration that it comes from. -/
def repetitionChecks (earlier : List (QualifiedName × QualifiedName))
    (output : QualifiedName × QualifiedName) : List Check :=
  earlier.map fun other => ⟨other.1 = output.1, .duplicateOutput output.1 other.2 output.2⟩

/-- No declaration of the list is its own ancestor within the list. -/
noncomputable def cycleCheck (declarations : List Declaration) : Check where
  violated := ∃ declaration ∈ declarations,
    Relation.TransGen (ListsWithin declarations) declaration declaration
  problem := .inheritanceCycle (cycleReport declarations)

namespace Batch

/-- The accessor of a provider, as an output. -/
def accessorOutput (conventions : Conventions) (provider : Declaration) :
    QualifiedName × QualifiedName :=
  (conventions.accessorName provider.name, provider.name)

/-- The checks on whether a provider may have an accessor. -/
def accessorChecks (batch : Batch) (conventions : Conventions) (provider : Declaration) :
    List Check :=
  [visibilityCheck provider,
    ⟨provider.kind = .interface, .providerNotConstructible provider.name⟩,
    ⟨batch.exposesScope provider conventions.runtime = false,
      .missingScopeCapability provider.name⟩]

/-- The checks of a provider after the providers before it. -/
def providerChecks (batch : Batch) (conventions : Conventions) (earlier : List Declaration)
    (provider : Declaration) : List Check :=
  batch.accessorChecks conventions provider
    ++ repetitionChecks (earlier.map (accessorOutput conventions))
      (accessorOutput conventions provider)

/-- The checks of an interface. -/
def interfaceChecks (batch : Batch) (target : Declaration) : List Check :=
  streamChecks target.name (batch.membersExcept target batch.isInterfaceTarget)

/-- The checks of an output's name after the outputs before it. -/
def nameChecks (batch : Batch) (earlier : List (QualifiedName × QualifiedName))
    (output : QualifiedName × QualifiedName) : List Check :=
  ⟨output.1 ∈ batch.names, .duplicateOutput output.1 output.1 output.2⟩
    :: repetitionChecks earlier output

/-- The interface targets in the order in which they are generated, if they have one. -/
def targetOrder (batch : Batch) : List Declaration :=
  (supertypesFirst batch.interfaceTargets).toOption.getD []

/-- The outputs that a batch asks for, in order of emission. -/
def requestedOutputs (batch : Batch) (conventions : Conventions) :
    List (QualifiedName × QualifiedName) :=
  batch.scopeProviders.map (accessorOutput conventions)
    ++ (batch.targetOrder.map (fun target => (conventions.interfaceName target, target.name))
    ++ batch.classTargets.map fun target => (conventions.className target, target.name))

/-- All checks of a batch, in the order in which they are made. -/
noncomputable def checks (batch : Batch) (conventions : Conventions) : List Check :=
  checksInOrder (batch.providerChecks conventions) [] batch.scopeProviders
    ++ ((cycleCheck batch.interfaceTargets :: batch.targetOrder.flatMap batch.interfaceChecks)
    ++ (batch.classTargets.flatMap batch.classChecks
    ++ checksInOrder batch.nameChecks [] (batch.requestedOutputs conventions)))

end Batch

/-! ## The stages make these checks -/

theorem repetition_cases (earlier : List (QualifiedName × QualifiedName))
    (output : QualifiedName × QualifiedName) :
    (earlier.lookup output.1 = none ∧ Passed (repetitionChecks earlier output)) ∨
      ∃ first, earlier.lookup output.1 = some first ∧
        FirstViolated (repetitionChecks earlier output)
          (.duplicateOutput output.1 first output.2) := by
  induction earlier with
  | nil => exact Or.inl ⟨rfl, fun _ member => nomatch member⟩
  | cons other rest ih =>
      rcases other with ⟨name, origin⟩
      rw [List.lookup_cons]
      by_cases same : name = output.1
      · have taken : (output.1 == name) = true := by simp [same]
        rw [taken]
        exact Or.inr ⟨origin, rfl, .here same⟩
      · have free : (output.1 == name) = false := by simpa using Ne.symm same
        rw [free]
        rcases ih with ⟨none, passed⟩ | ⟨first, found, violated⟩
        · exact Or.inl ⟨none, List.forall_mem_cons.mpr ⟨same, passed⟩⟩
        · exact Or.inr ⟨first, found, .later same violated⟩

theorem judged_supertypesFirst {declarations : List Declaration}
    (distinct : (declarations.map (·.name)).Nodup) :
    Judged [cycleCheck declarations] (supertypesFirst declarations) := by
  rw [supertypesFirst_eq, sort_waiting_eq_cycleReport distinct]
  split
  · next noneWaits =>
      refine .passed (List.forall_mem_singleton.mpr ?_)
      rintro ⟨declaration, member, cycle⟩
      exact (waiting_eq_nil_iff distinct).mp noneWaits declaration member cycle
  · next someWait =>
      rw [waiting_eq_nil_iff distinct] at someWait
      simp only [not_forall, not_not, exists_prop] at someWait
      exact .stopped (.here someWait)

namespace Batch

variable {batch : Batch} {conventions : Conventions}

section Accessors

variable {provider : Declaration}

theorem judged_accessor :
    Judged (batch.accessorChecks conventions provider) (batch.accessor conventions provider) := by
  rw [accessor]
  refine .of_if ?_ (.of_if ?_ (.of_if ?_ (.ok _)))
  · simp [visibilityCheck]
  · simp [Declaration.isInterface]
  · simp

theorem output_of_accessor {accessor : Accessor}
    (built : batch.accessor conventions provider = .ok accessor) :
    (accessor.name, accessor.provider) = accessorOutput conventions provider := by
  rw [Batch.accessor] at built
  split at built
  · cases built
  · split at built
    · cases built
    · split at built
      · cases built
      · cases built
        rfl

theorem judged_insert {table : AccessorTable} {accessor : Accessor} :
    Judged (repetitionChecks
        (table.accessors.map fun accessor => (accessor.name, accessor.provider))
        (accessor.name, accessor.provider))
      (table.insert accessor) := by
  rcases repetition_cases (table.accessors.map fun accessor => (accessor.name, accessor.provider))
    (accessor.name, accessor.provider) with ⟨free, passed⟩ | ⟨first, taken, violated⟩
  · rw [lookup_map_eq, Option.map_eq_none_iff] at free
    rw [AccessorTable.insert]
    split
    · next existing found =>
        rw [free] at found
        cases found
    · exact .passed passed
  · rw [lookup_map_eq, Option.map_eq_some_iff] at taken
    rcases taken with ⟨existing, taken, rfl⟩
    rw [AccessorTable.insert]
    split
    · next other found =>
        rw [taken] at found
        cases found
        exact .stopped violated
    · next found =>
        rw [taken] at found
        cases found

/-- The accessors of all providers are built as far as the checks of the providers allow. -/
theorem judged_accessorTable :
    Judged (checksInOrder (batch.providerChecks conventions) [] batch.scopeProviders)
      (batch.accessorTable conventions) := by
  rw [accessorTable]
  -- the table holds the accessors of the providers so far, so its insertion compares with those
  refine Judged.foldlM (fun earlier _ table =>
    table.accessors.map (fun accessor => (accessor.name, accessor.provider))
      = earlier.map (accessorOutput conventions)) ?_ ?_ rfl
  · intro earlier provider _ table outputs
    apply judged_accessor.bind
    intro accessor built
    rw [← outputs, ← output_of_accessor built]
    exact judged_insert
  · intro earlier provider _ table extended outputs stepped
    rcases bind_eq_ok_iff.mp stepped with ⟨accessor, built, inserted⟩
    rw [AccessorTable.accessors_of_insert inserted, List.map_append, outputs, List.map_append,
      List.map_singleton, List.map_singleton, output_of_accessor built]

end Accessors

section Interfaces

variable {pending : List Declaration} {table : InterfaceTable}

theorem targetOrder_eq {order : List Declaration}
    (ordered : supertypesFirst batch.interfaceTargets = .ok order) :
    batch.targetOrder = order := by
  rw [targetOrder, ordered]
  rfl

/-- The table holds the interfaces of all targets but the pending ones. -/
structure Pending (batch : Batch) (pending : List Declaration) (table : InterfaceTable) :
    Prop where
  first : SupertypesFirst pending
  distinct : (table.wrappers.map (·.origin) ++ pending.map (·.name)).Nodup
  isTarget_iff : ∀ name, batch.isInterfaceTarget name = true ↔
    name ∈ table.wrappers.map (·.origin) ++ pending.map (·.name)

namespace Pending

variable {target : Declaration}

/-- The marked supertypes of the next target have their interfaces already. -/
theorem contains_eq (holds : Pending batch (target :: pending) table) {supertype : QualifiedName}
    (listed : supertype ∈ target.supertypes) :
    table.contains supertype = batch.isInterfaceTarget supertype := by
  rw [Bool.eq_iff_iff, InterfaceTable.contains_iff, holds.isTarget_iff, List.mem_append]
  refine ⟨Or.inl, fun known => known.resolve_right fun isPending => ?_⟩
  rcases List.mem_map.mp isPending with ⟨other, otherMember, named⟩
  exact holds.first.not_listed other otherMember (named ▸ listed)

theorem fresh (holds : Pending batch (target :: pending) table) :
    target.name ∉ table.wrappers.map (·.origin) := by
  intro known
  exact (List.nodup_append.mp holds.distinct).2.2 _ known _ List.mem_cons_self rfl

theorem next {extended : InterfaceTable} {wrapper : Wrapper}
    (holds : Pending batch (target :: pending) table) (origin : wrapper.origin = target.name)
    (wrappers : extended.wrappers = table.wrappers ++ [wrapper]) :
    Pending batch pending extended := by
  have regrouped : extended.wrappers.map (·.origin) ++ pending.map (·.name)
      = table.wrappers.map (·.origin) ++ (target :: pending).map (·.name) := by
    rw [wrappers, List.map_append, List.map_singleton, origin, List.append_assoc, List.map_cons,
      List.singleton_append]
  refine ⟨holds.first.tail, ?_, ?_⟩
  · rw [regrouped]
    exact holds.distinct
  · intro name
    rw [regrouped]
    exact holds.isTarget_iff name

end Pending

theorem judged_addInterface {target : Declaration}
    (holds : Pending batch (target :: pending) table) :
    Judged (batch.interfaceChecks target) (batch.addInterface conventions table target) := by
  rw [interfaceChecks, ← membersExcept_congr fun _ => holds.contains_eq]
  apply judged_interfaceWrapper.map
  intro wrapper generated
  -- no interface has been generated from the target before, so the insertion adds no check
  apply InterfaceTable.exists_insert_eq_ok
  rw [origin_of_interfaceWrapper generated]
  exact holds.fresh

/-- The interfaces of all targets are built as far as the cycle check and the checks of their
members allow. -/
theorem judged_interfaceTable :
    Judged (cycleCheck batch.interfaceTargets :: batch.targetOrder.flatMap batch.interfaceChecks)
      (batch.interfaceTable conventions) := by
  rw [interfaceTable]
  change Judged ([cycleCheck batch.interfaceTargets]
    ++ batch.targetOrder.flatMap batch.interfaceChecks) _
  refine (judged_supertypesFirst batch.nodup_interfaceTargets).bind fun order ordered => ?_
  rcases perm_and_supertypesFirst_of_eq_ok batch.nodup_interfaceTargets ordered with
    ⟨reordered, first⟩
  have names := reordered.map (·.name)
  have initial : Pending batch order InterfaceTable.empty := by
    refine ⟨first, names.nodup_iff.mpr batch.nodup_interfaceTargets, ?_⟩
    intro name
    rw [isInterfaceTarget_iff, ← names.mem_iff]
    rfl
  rw [targetOrder_eq ordered, ← checksInOrder_eq_flatMap batch.interfaceChecks []]
  refine Judged.foldlM (fun _ => Pending batch) ?_ ?_ initial
  · intro _ target rest table holds
    exact judged_addInterface holds
  · intro _ target rest table extended holds stepped
    rcases addInterface_eq_ok_iff.mp stepped with ⟨wrapper, generated, inserted⟩
    exact holds.next (origin_of_interfaceWrapper generated)
      (InterfaceTable.wrappers_of_insert inserted)

end Interfaces

section Names

theorem judged_collision? {claimed outputs : List (QualifiedName × QualifiedName)}
    {model : WrapperModel} :
    Judged (checksInOrder batch.nameChecks claimed outputs)
      (match WrapperModel.collision? batch claimed outputs with
        | some problem => .error problem
        | none => .ok model) := by
  induction outputs generalizing claimed with
  | nil => exact .ok model
  | cons output rest ih =>
      rcases output with ⟨name, origin⟩
      rw [WrapperModel.collision?, checksInOrder, nameChecks, List.cons_append]
      apply Judged.of_check
      · intro declared
        rw [if_pos (contains_iff.mpr declared)]
      · intro notDeclared
        rw [if_neg fun contained => notDeclared (contains_iff.mp contained)]
        rcases repetition_cases claimed (name, origin) with
          ⟨free, passed⟩ | ⟨first, taken, violated⟩
        · dsimp only at free
          rw [free]
          exact .append_passed passed ih
        · dsimp only at taken
          rw [taken]
          exact .stopped (violated.append_right _)

/-- A model that is built from the stages has the outputs that the batch asks for. -/
theorem outputs_eq_requestedOutputs {accessors : AccessorTable} {interfaces : InterfaceTable}
    {classes : List Wrapper} (accessorsBuilt : batch.accessorTable conventions = .ok accessors)
    (interfacesBuilt : batch.interfaceTable conventions = .ok interfaces)
    (classesBuilt : batch.classWrappers conventions interfaces accessors = .ok classes) :
    WrapperModel.outputs ⟨accessors.accessors, interfaces.wrappers, classes⟩
      = batch.requestedOutputs conventions := by
  rcases interfaceTable_eq_ok_iff.mp interfacesBuilt with ⟨order, ordered, interfacesMapped⟩
  have accessorOutputs :
      accessors.accessors.map (fun accessor => (accessor.name, accessor.provider))
        = batch.scopeProviders.map (accessorOutput conventions) :=
    map_eq_map_of_mapM_eq_ok (fun _ _ => output_of_accessor)
      (accessorTable_eq_ok_iff.mp accessorsBuilt)
  have interfaceOutputs : interfaces.wrappers.map (fun wrapper => (wrapper.name, wrapper.origin))
      = order.map fun target => (conventions.interfaceName target, target.name) := by
    apply map_eq_map_of_mapM_eq_ok _ interfacesMapped
    intro target wrapper generated
    rw [name_of_interfaceWrapper generated, origin_of_interfaceWrapper generated]
  have classOutputs : classes.map (fun wrapper => (wrapper.name, wrapper.origin))
      = batch.classTargets.map fun target => (conventions.className target, target.name) := by
    apply map_eq_map_of_mapM_eq_ok _ classesBuilt
    intro target wrapper generated
    rw [name_of_classWrapper generated, origin_of_classWrapper generated]
  rw [WrapperModel.outputs, List.map_append, accessorOutputs, interfaceOutputs, classOutputs,
    requestedOutputs, targetOrder_eq ordered]

end Names

/-- Generation makes the checks of the batch one after the other. -/
theorem judged_generate : Judged (batch.checks conventions) (batch.generate conventions) := by
  rw [checks, generate]
  refine judged_accessorTable.bind fun accessors accessorsBuilt => ?_
  refine judged_interfaceTable.bind fun interfaces interfacesBuilt => ?_
  refine (judged_classWrappers accessorsBuilt).bind fun classes classesBuilt => ?_
  rw [← outputs_eq_requestedOutputs accessorsBuilt interfacesBuilt classesBuilt]
  exact judged_collision?

end Batch

end NativeWrappers
