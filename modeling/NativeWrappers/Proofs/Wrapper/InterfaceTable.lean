import NativeWrappers.Proofs.Hierarchy.Order
import NativeWrappers.Proofs.Wrapper.Members
/-!
# The table of interfaces as a fixed point

The interfaces of a batch are generated one after the other, each against the table of those that
exist at that moment. Because supertypes come first, nothing is lost by looking at the finished
table instead: generating any target against it gives back the interface that the table already
holds. The order of generation is thereby gone from every later argument.
-/

namespace NativeWrappers

namespace InterfaceTable

variable {table table' : InterfaceTable} {origin : QualifiedName} {wrapper : Wrapper}

theorem eq_iff_wrappers_eq : table = table' ↔ table.wrappers = table'.wrappers := by
  cases table
  cases table'
  simp

theorem get?_eq_some_iff :
    table.get? origin = some wrapper ↔ wrapper ∈ table.wrappers ∧ wrapper.origin = origin :=
  find?_key_eq_some_iff table.nodup

theorem get?_eq_none_iff : table.get? origin = none ↔ origin ∉ table.wrappers.map (·.origin) := by
  rw [get?, List.find?_eq_none]
  simp

theorem contains_iff : table.contains origin = true ↔ origin ∈ table.wrappers.map (·.origin) := by
  rw [← not_iff_not, ← get?_eq_none_iff, contains]
  simp

theorem get?_eq_of_perm (reordered : table.wrappers.Perm table'.wrappers) :
    table.get? = table'.get? := by
  funext origin
  exact find?_key_eq_of_perm table.nodup reordered origin

theorem exists_insert_eq_ok (fresh : wrapper.origin ∉ table.wrappers.map (·.origin)) :
    ∃ extended, table.insert wrapper = .ok extended := by
  rw [insert]
  split
  · next existing found =>
      rw [get?_eq_none_iff.mpr fresh] at found
      cases found
  · exact ⟨_, rfl⟩

theorem insert_of_get? {existing : Wrapper} (found : table.get? wrapper.origin = some existing) :
    table.insert wrapper
      = .error (.duplicateOutput wrapper.name existing.origin wrapper.origin) := by
  rw [insert]
  split
  · next other foundOther =>
      rw [found] at foundOther
      cases foundOther
      rfl
  · next absent =>
      rw [found] at absent
      cases absent

end InterfaceTable

namespace Batch

variable {batch batch' : Batch} {conventions : Conventions} {table table' : InterfaceTable}

/-- Whether a declaration of this name is marked for interface generation. -/
def isInterfaceTarget (batch : Batch) (name : QualifiedName) : Bool :=
  (batch.interfaceTargets.map (·.name)).contains name

theorem isInterfaceTarget_iff {name : QualifiedName} :
    batch.isInterfaceTarget name = true ↔ name ∈ batch.interfaceTargets.map (·.name) := by
  rw [isInterfaceTarget, List.contains_iff_mem]

/-- A table of these targets in which each of them has the interface that generation against the
finished table gives. -/
structure Settled (batch : Batch) (conventions : Conventions) (targets : List Declaration)
    (table : InterfaceTable) : Prop where
  origins : table.wrappers.map (·.origin) = targets.map (·.name)
  generated : ∀ target ∈ targets, ∃ wrapper ∈ table.wrappers,
    batch.interfaceWrapper conventions table target (conventions.interfaceName target)
      = .ok wrapper

namespace Settled

variable {targets : List Declaration}

theorem exists_target (settled : batch.Settled conventions targets table) {wrapper : Wrapper}
    (member : wrapper ∈ table.wrappers) :
    ∃ target ∈ targets, batch.interfaceWrapper conventions table target
      (conventions.interfaceName target) = .ok wrapper := by
  have originListed : wrapper.origin ∈ table.wrappers.map (·.origin) :=
    List.mem_map_of_mem member
  rw [settled.origins] at originListed
  rcases List.mem_map.mp originListed with ⟨target, targetMember, named⟩
  rcases settled.generated target targetMember with ⟨other, otherMember, generated⟩
  have sameOrigin : other.origin = wrapper.origin :=
    (origin_of_interfaceWrapper generated).trans named
  rw [List.inj_on_of_nodup_map table.nodup otherMember member sameOrigin] at generated
  exact ⟨target, targetMember, generated⟩

theorem exists_target_of_get? (settled : batch.Settled conventions targets table)
    {origin : QualifiedName} {wrapper : Wrapper} (found : table.get? origin = some wrapper) :
    ∃ target ∈ targets, target.name = origin := by
  rcases settled.exists_target (InterfaceTable.mem_of_get? found) with
    ⟨target, targetMember, generated⟩
  exact ⟨target, targetMember,
    (origin_of_interfaceWrapper generated).symm.trans (InterfaceTable.origin_of_get? found)⟩

theorem exists_get? (settled : batch.Settled conventions targets table) {target : Declaration}
    (targetMember : target ∈ targets) : ∃ wrapper, table.get? target.name = some wrapper := by
  rcases settled.generated target targetMember with ⟨wrapper, member, generated⟩
  exact ⟨wrapper, InterfaceTable.get?_eq_some_iff.mpr
    ⟨member, origin_of_interfaceWrapper generated⟩⟩

theorem generated_of_get? (settled : batch.Settled conventions targets table)
    {target : Declaration} (targetMember : target ∈ targets) {wrapper : Wrapper}
    (found : table.get? target.name = some wrapper) :
    batch.interfaceWrapper conventions table target (conventions.interfaceName target)
      = .ok wrapper := by
  rcases settled.generated target targetMember with ⟨other, otherMember, generated⟩
  have otherFound := InterfaceTable.get?_eq_some_iff.mpr
    ⟨otherMember, origin_of_interfaceWrapper generated⟩
  rw [found] at otherFound
  cases otherFound
  exact generated

theorem contains_eq (settled : batch.Settled conventions targets table)
    (reordered : targets.Perm batch.interfaceTargets) :
    table.contains = batch.isInterfaceTarget := by
  funext name
  rw [Bool.eq_iff_iff, InterfaceTable.contains_iff, settled.origins, (reordered.map _).mem_iff,
    isInterfaceTarget_iff]

end Settled

theorem subset_declarations_of_perm {targets : List Declaration}
    (reordered : targets.Perm batch.interfaceTargets) : targets ⊆ batch.declarations := by
  intro target member
  exact List.mem_of_mem_filter (reordered.mem_iff.mp member)

theorem addInterface_eq_ok_iff {target : Declaration} :
    batch.addInterface conventions table target = .ok table' ↔
      ∃ wrapper, batch.interfaceWrapper conventions table target
          (conventions.interfaceName target) = .ok wrapper ∧
        table.insert wrapper = .ok table' := by
  rw [addInterface, bind_eq_ok_iff]

/-- The interface of a target or of a later one does not change a look-up of the target's
supertypes. -/
theorem get?_eq_of_listed {target : Declaration} {rest : List Declaration} {added : List Wrapper}
    (first : SupertypesFirst (target :: rest))
    (wrappers : table'.wrappers = table.wrappers ++ added)
    (origins : added.map (·.origin) = (target :: rest).map (·.name)) {supertype : QualifiedName}
    (listed : supertype ∈ target.supertypes) : table.get? supertype = table'.get? supertype := by
  have notAdded : added.find? (·.origin == supertype) = none := by
    apply List.find?_eq_none.mpr
    intro later laterMember sameOrigin
    have laterOrigin : later.origin ∈ added.map (·.origin) := List.mem_map_of_mem laterMember
    rw [origins, beq_iff_eq.mp sameOrigin] at laterOrigin
    rcases List.mem_map.mp laterOrigin with ⟨other, otherMember, named⟩
    exact first.not_listed other otherMember (named ▸ listed)
  rw [InterfaceTable.get?, InterfaceTable.get?, wrappers, List.find?_append, notAdded,
    Option.or_none]

/-- Adding targets supertypes first extends the table by their interfaces, each of which is what
generation against the extended table gives. Nothing else is needed for it to succeed. -/
theorem foldlM_addInterface_eq_ok_iff {targets : List Declaration}
    (first : SupertypesFirst targets) :
    targets.foldlM (batch.addInterface conventions) table = .ok table' ↔
      ∃ added, table'.wrappers = table.wrappers ++ added ∧
        targets.mapM (fun target =>
          batch.interfaceWrapper conventions table' target (conventions.interfaceName target))
          = .ok added := by
  induction targets generalizing table with
  | nil =>
      simp only [List.foldlM_nil, List.mapM_nil, pure_eq_ok_iff, exists_eq_right, List.append_nil]
      exact InterfaceTable.eq_iff_wrappers_eq
  | cons target rest ih =>
      have sameInterface {added : List Wrapper}
          (wrappers : table'.wrappers = table.wrappers ++ added)
          (origins : added.map (·.origin) = (target :: rest).map (·.name)) :
          batch.interfaceWrapper conventions table target (conventions.interfaceName target)
            = batch.interfaceWrapper conventions table' target
              (conventions.interfaceName target) :=
        interfaceWrapper_congr (fun _ => rfl) fun _ => get?_eq_of_listed first wrappers origins
      simp only [List.foldlM_cons, List.mapM_cons, bind_eq_ok_iff, pure_eq_ok_iff,
        addInterface_eq_ok_iff, ih first.tail]
      constructor
      · rintro ⟨extended, ⟨wrapper, generated, inserted⟩, added, wrappers, traversed⟩
        rw [InterfaceTable.wrappers_of_insert inserted, List.append_assoc,
          List.singleton_append] at wrappers
        have origins : (wrapper :: added).map (·.origin) = (target :: rest).map (·.name) := by
          rw [List.map_cons, List.map_cons, origin_of_interfaceWrapper generated,
            map_eq_map_of_mapM_eq_ok (fun _ _ => origin_of_interfaceWrapper) traversed]
        rw [sameInterface wrappers origins] at generated
        exact ⟨wrapper :: added, wrappers, wrapper, generated, added, traversed, rfl⟩
      · rintro ⟨_, wrappers, wrapper, generated, added, traversed, rfl⟩
        have origins : (wrapper :: added).map (·.origin) = (target :: rest).map (·.name) := by
          rw [List.map_cons, List.map_cons, origin_of_interfaceWrapper generated,
            map_eq_map_of_mapM_eq_ok (fun _ _ => origin_of_interfaceWrapper) traversed]
        rw [← sameInterface wrappers origins] at generated
        have fresh : wrapper.origin ∉ table.wrappers.map (·.origin) := by
          have distinct := table'.nodup
          rw [wrappers, List.map_append, List.nodup_append] at distinct
          intro known
          exact distinct.2.2 _ known _ List.mem_cons_self rfl
        rcases InterfaceTable.exists_insert_eq_ok fresh with ⟨extended, inserted⟩
        refine ⟨extended, ⟨wrapper, generated, inserted⟩, added, ?_, traversed⟩
        rw [wrappers, InterfaceTable.wrappers_of_insert inserted, List.append_assoc,
          List.singleton_append]

theorem nodup_interfaceTargets (batch : Batch) : (batch.interfaceTargets.map (·.name)).Nodup :=
  batch.nodup.sublist (List.filter_sublist.map _)

/-- A table is built exactly when there is an order and the table is a fixed point: generating all
targets against it in that order gives its own interfaces. -/
theorem interfaceTable_eq_ok_iff :
    batch.interfaceTable conventions = .ok table ↔
      ∃ order, supertypesFirst batch.interfaceTargets = .ok order ∧
        order.mapM (fun target =>
          batch.interfaceWrapper conventions table target (conventions.interfaceName target))
          = .ok table.wrappers := by
  rw [interfaceTable, bind_eq_ok_iff]
  constructor
  · rintro ⟨order, ordered, folded⟩
    have first := (perm_and_supertypesFirst_of_eq_ok batch.nodup_interfaceTargets ordered).2
    rcases (foldlM_addInterface_eq_ok_iff first).mp folded with ⟨added, wrappers, traversed⟩
    rw [InterfaceTable.empty, List.nil_append] at wrappers
    exact ⟨order, ordered, wrappers ▸ traversed⟩
  · rintro ⟨order, ordered, traversed⟩
    have first := (perm_and_supertypesFirst_of_eq_ok batch.nodup_interfaceTargets ordered).2
    refine ⟨order, ordered, (foldlM_addInterface_eq_ok_iff first).mpr ?_⟩
    exact ⟨table.wrappers, rfl, traversed⟩

/-- A built table is settled for the targets of the batch in some supertypes-first order. -/
theorem exists_settled_of_interfaceTable
    (built : batch.interfaceTable conventions = .ok table) :
    ∃ order, order.Perm batch.interfaceTargets ∧ SupertypesFirst order ∧
      batch.Settled conventions order table := by
  rcases interfaceTable_eq_ok_iff.mp built with ⟨order, ordered, traversed⟩
  rcases perm_and_supertypesFirst_of_eq_ok batch.nodup_interfaceTargets ordered with
    ⟨reordered, first⟩
  refine ⟨order, reordered, first, ?_, ?_⟩
  · exact map_eq_map_of_mapM_eq_ok (fun _ _ => origin_of_interfaceWrapper) traversed
  · intro target member
    exact exists_output_of_mapM_eq_ok traversed member

end Batch

end NativeWrappers
