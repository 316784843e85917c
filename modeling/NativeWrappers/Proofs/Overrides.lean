import NativeWrappers.Proofs.Flattening
/-!
# Override markers

A marker looks one step far: it is set exactly for the members that an interface named directly
lists. An interface does not list again what it inherits, so a member of a remoter interface goes
unmarked wherever no interface in between lists it. The markers are therefore exact precisely where
nothing is inherited past a direct supertype that has it from its own.
-/

namespace NativeWrappers

/-- The override markers are set exactly for the members that an interface inherited from lists. -/
def MarksExactly (interfaces : List Wrapper) (wrapper : Wrapper) : Prop :=
  ∀ key isOverride, (key, isOverride) ∈ wrapper.markers →
    (isOverride = true ↔ ∃ ancestor, Inherits interfaces wrapper ancestor ∧ ancestor.Lists key)

/-- The override markers are set exactly for the members that an interface extended directly
lists. -/
def MarksExtended (interfaces : List Wrapper) (wrapper : Wrapper) : Prop :=
  ∀ key isOverride, (key, isOverride) ∈ wrapper.markers →
    (isOverride = true ↔ ∃ supertype, Extends interfaces wrapper supertype ∧ supertype.Lists key)

section Markers

variable {wrapper : Wrapper} {key : MemberKey} {isOverride : Bool}

theorem Wrapper.lists_of_mem_markers (member : (key, isOverride) ∈ wrapper.markers) :
    wrapper.Lists key := by
  rcases List.mem_append.mp member with methodMarker | propertyMarker
  · rcases List.mem_map.mp methodMarker with ⟨method, methodMember, equal⟩
    cases equal
    exact List.mem_eraseDups.mpr (List.mem_map_of_mem methodMember)
  · rcases List.mem_map.mp propertyMarker with ⟨property, propertyMember, equal⟩
    cases equal
    exact List.mem_eraseDups.mpr (List.mem_map_of_mem propertyMember)

theorem Wrapper.exists_marker_of_lists (lists : wrapper.Lists key) :
    ∃ isOverride, (key, isOverride) ∈ wrapper.markers := by
  cases key with
  | method key =>
      rcases List.mem_map.mp (List.mem_eraseDups.mp lists) with ⟨method, member, keyed⟩
      refine ⟨method.isOverride, List.mem_append_left _ (List.mem_map.mpr ⟨method, member, ?_⟩)⟩
      rw [keyed]
  | property name =>
      rcases List.mem_map.mp (List.mem_eraseDups.mp lists) with ⟨property, member, named⟩
      refine ⟨property.isOverride,
        List.mem_append_right _ (List.mem_map.mpr ⟨property, member, ?_⟩)⟩
      rw [named]

end Markers

namespace Batch

/-- Whichever of these members a marked declaration of these names has, one of them also has past
its own marked supertypes. -/
def Relists (batch : Batch) (names : List QualifiedName) (members : Members) : Prop :=
  ∀ key, members.Has key →
    (∃ target ∈ batch.interfaceTargets, target.name ∈ names ∧ (batch.members target).Has key) →
    ∃ target ∈ batch.interfaceTargets, target.name ∈ names ∧
      (batch.membersExcept target batch.isInterfaceTarget).Has key

variable {batch : Batch} {conventions : Conventions}

namespace Settled

variable {targets : List Declaration} {table : InterfaceTable} {wrapper : Wrapper}
  {origins : List QualifiedName} {members : Members} {key : MemberKey}

theorem extends_iff_has (settled : batch.Settled conventions targets table)
    (heir : Heir table origins members wrapper) :
    (∃ interface, Extends table.wrappers wrapper interface ∧ interface.Lists key) ↔
      ∃ target ∈ targets, target.name ∈ origins ∧
        (batch.membersExcept target table.contains).Has key := by
  have lists_iff {target : Declaration} {interface : Wrapper} (targetMember : target ∈ targets)
      (found : table.get? target.name = some interface) :
      interface.Lists key ↔ (batch.membersExcept target table.contains).Has key :=
    (mirrors_of_interfaceWrapper (settled.generated_of_get? targetMember found)).lists_iff
  constructor
  · rintro ⟨interface, step, lists⟩
    rcases (heir.extends_iff interface).mp step with ⟨origin, originMember, found⟩
    rcases settled.exists_target_of_get? found with ⟨target, targetMember, named⟩
    rw [← named] at found originMember
    exact ⟨target, targetMember, originMember, (lists_iff targetMember found).mp lists⟩
  · rintro ⟨target, targetMember, originMember, has⟩
    rcases settled.exists_get? targetMember with ⟨interface, found⟩
    exact ⟨interface, (heir.extends_iff interface).mpr ⟨target.name, originMember, found⟩,
      (lists_iff targetMember found).mpr has⟩

theorem marksExactly_iff (settled : batch.Settled conventions targets table)
    (reordered : targets.Perm batch.interfaceTargets) (first : SupertypesFirst targets)
    (distinct : (table.wrappers.map (·.name)).Nodup) (heir : Heir table origins members wrapper) :
    MarksExactly table.wrappers wrapper ↔ batch.Relists origins members := by
  have inBatch := subset_declarations_of_perm reordered
  have extended_iff (key : MemberKey) :
      (∃ interface, Extends table.wrappers wrapper interface ∧ interface.Lists key) ↔
        ∃ target ∈ batch.interfaceTargets, target.name ∈ origins ∧
          (batch.membersExcept target batch.isInterfaceTarget).Has key := by
    rw [settled.extends_iff_has heir, settled.contains_eq reordered]
    simp only [reordered.mem_iff]
  have inherited_iff (key : MemberKey) :
      (∃ ancestor, Inherits table.wrappers wrapper ancestor ∧ ancestor.Lists key) ↔
        ∃ target ∈ batch.interfaceTargets, target.name ∈ origins ∧
          (batch.members target).Has key := by
    rw [settled.inherits_iff_has first inBatch distinct heir]
    simp only [reordered.mem_iff]
  constructor
  · intro exact key has inherited
    rcases Wrapper.exists_marker_of_lists ((heir.lists_iff key).mpr has) with
      ⟨isOverride, marker⟩
    have marked := (exact key isOverride marker).mpr ((inherited_iff key).mpr inherited)
    exact (extended_iff key).mp ((heir.marker_iff key isOverride marker).mp marked)
  · intro relists key isOverride marker
    rw [heir.marker_iff key isOverride marker]
    constructor
    · rintro ⟨interface, step, lists⟩
      exact ⟨interface, .single step, lists⟩
    · intro inherited
      have has := (heir.lists_iff key).mp (Wrapper.lists_of_mem_markers marker)
      exact (extended_iff key).mpr (relists key has ((inherited_iff key).mp inherited))

end Settled

/-- In a generated model every marker looks one step far, and it is exact precisely where the
declarations list again what they inherit. -/
theorem marksExactly_iff_relists {model : WrapperModel}
    (generated : batch.generate conventions = .ok model) :
    (∀ wrapper ∈ model.interfaces, ∃ target ∈ batch.interfaceTargets,
        wrapper.origin = target.name ∧ MarksExtended model.interfaces wrapper ∧
        (MarksExactly model.interfaces wrapper ↔
          batch.Relists target.supertypes
            (batch.membersExcept target batch.isInterfaceTarget))) ∧
      ∀ wrapper ∈ model.classes, ∃ target ∈ batch.classTargets,
        wrapper.origin = target.name ∧ MarksExtended model.interfaces wrapper ∧
        (MarksExactly model.interfaces wrapper ↔
          batch.Relists (target.name :: target.supertypes) (batch.members target)) := by
  rcases exists_settled_of_generate generated with
    ⟨accessors, table, order, sameInterfaces, distinct, reordered, first, settled, classesBuilt⟩
  rw [sameInterfaces]
  constructor
  · intro wrapper member
    rcases settled.exists_target member with ⟨target, targetMember, interfaceGenerated⟩
    have heir := heir_of_interfaceWrapper distinct interfaceGenerated
    rw [← settled.contains_eq reordered]
    exact ⟨target, reordered.mem_iff.mp targetMember,
      origin_of_interfaceWrapper interfaceGenerated, heir.marker_iff,
      settled.marksExactly_iff reordered first distinct heir⟩
  · intro wrapper member
    rcases exists_input_of_mapM_eq_ok classesBuilt member with
      ⟨target, targetMember, classGenerated⟩
    have heir := heir_of_classWrapper distinct classGenerated
    exact ⟨target, targetMember, origin_of_classWrapper classGenerated, heir.marker_iff,
      settled.marksExactly_iff reordered first distinct heir⟩

theorem marksExactly_class_of_threeLevels :
    MarksExactly WrapperModel.threeLevels.interfaces WrapperModel.threeLevels.classes[0] := by
  rcases (marksExactly_iff_relists generate_threeLevels).2 WrapperModel.threeLevels.classes[0]
    (by decide) with ⟨target, targetMember, _, _, exact_iff⟩
  have onlyLeaf : threeLevels.classTargets = [threeLevels.declarations[2]] := rfl
  rw [onlyLeaf, List.mem_singleton] at targetMember
  rw [exact_iff, targetMember]
  intro key has _
  have ownMembers : threeLevels.membersExcept threeLevels.declarations[2]
      threeLevels.isInterfaceTarget = threeLevels.members threeLevels.declarations[2] := by
    cbv
  refine ⟨threeLevels.declarations[2], by decide, by decide, ?_⟩
  rw [ownMembers]
  exact has

/-- The lowest interface declares a method that the highest one lists and the one in between does
not, and the method is not marked. -/
theorem not_marksExactly_interface_of_threeLevels :
    threeLevels.generate {} = .ok WrapperModel.threeLevels ∧
      WrapperModel.threeLevels.interfaces[2] ∈ WrapperModel.threeLevels.interfaces ∧
      ¬ MarksExactly WrapperModel.threeLevels.interfaces
        WrapperModel.threeLevels.interfaces[2] := by
  refine ⟨generate_threeLevels, by decide, ?_⟩
  intro exact
  have inherits : Inherits WrapperModel.threeLevels.interfaces
      WrapperModel.threeLevels.interfaces[2] WrapperModel.threeLevels.interfaces[0] :=
    .head (b := WrapperModel.threeLevels.interfaces[1]) ⟨by decide, by decide⟩
      (.single ⟨by decide, by decide⟩)
  have lists : WrapperModel.threeLevels.interfaces[0].Lists (.method ⟨"close", []⟩) := by
    change _ ∈ Wrapper.methodKeys _
    decide
  have unmarked : (MemberKey.method ⟨"close", []⟩, false) ∈
      WrapperModel.threeLevels.interfaces[2].markers := List.mem_cons_self
  cases (exact _ _ unmarked).mpr ⟨_, inherits, lists⟩

end Batch

end NativeWrappers
