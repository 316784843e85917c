import NativeWrappers.Proofs.Inheritance
/-!
# Flattening and inheritance together

An interface lists what its declaration and the ancestors that are entered have reachable; the rest
is left to the interfaces it extends. Between the two nothing is lost, and nothing is added as long
as the names of interfaces tell them apart: an interface and those it inherits from list exactly the
members of its declaration. A class has all of these members itself, so it implements every
interface it inherits from.
-/

namespace NativeWrappers

/-- The wrapper has exactly one member for each that the interface lists, and it delegates. -/
structure Wrapper.Implements (wrapper interface : Wrapper) : Prop where
  methods : ∀ key ∈ interface.methodKeys, ∃ method wrapping,
    wrapper.methods.filter (·.key == key) = [method] ∧
      method.body? = some ⟨wrapping, .method key.name key.parameters⟩
  properties : ∀ name ∈ interface.propertyNames, ∃ property wrapping,
    wrapper.properties.filter (·.name == name) = [property] ∧
      property.getter? = some ⟨wrapping, .property name⟩

/-- An interface of the table, or one that it inherits from, lists this member. -/
def InterfaceTable.Exposes (table : InterfaceTable) (wrapper : Wrapper) (key : MemberKey) : Prop :=
  ∃ ancestor, Relation.ReflTransGen (Extends table.wrappers) wrapper ancestor ∧
    ancestor.Lists key

namespace Batch

variable {batch : Batch} {conventions : Conventions}

namespace Settled

variable {targets : List Declaration} {table : InterfaceTable} {target : Declaration}
  {wrapper : Wrapper} {key : MemberKey}

theorem lists_iff (settled : batch.Settled conventions targets table)
    (targetMember : target ∈ targets) (found : table.get? target.name = some wrapper) :
    wrapper.Lists key ↔
      ∃ other ∈ batch.lineage target table.contains, other.Offers key := by
  have mirrors := mirrors_of_interfaceWrapper (settled.generated_of_get? targetMember found)
  rw [mirrors.lists_iff, membersExcept, Members.has_ofLineage_iff]

/-- No member of a target is lost. -/
theorem exposes_of_has (settled : batch.Settled conventions targets table)
    (first : SupertypesFirst targets) (inBatch : targets ⊆ batch.declarations)
    (targetMember : target ∈ targets) (found : table.get? target.name = some wrapper)
    (has : (batch.members target).Has key) : table.Exposes wrapper key := by
  rcases (has_members_iff (inBatch targetMember)).mp has with ⟨other, chain, offers⟩
  rcases settled.exists_inherited_lineage first inBatch target targetMember wrapper found other
      chain with ⟨origin, originMember, ancestor, ancestorFound, inherits, inLineage⟩
  exact ⟨ancestor, inherits,
    (settled.lists_iff originMember ancestorFound).mpr ⟨other, inLineage, offers⟩⟩

theorem has_of_exposes (settled : batch.Settled conventions targets table)
    (inBatch : targets ⊆ batch.declarations) (distinct : (table.wrappers.map (·.name)).Nodup)
    (targetMember : target ∈ targets) (found : table.get? target.name = some wrapper)
    (exposes : table.Exposes wrapper key) : (batch.members target).Has key := by
  rcases exposes with ⟨ancestor, inherits, lists⟩
  rcases settled.exists_ancestor_of_inherits inBatch distinct targetMember found inherits with
    ⟨origin, originMember, ancestorFound, chain⟩
  rcases (settled.lists_iff originMember ancestorFound).mp lists with ⟨other, inLineage, offers⟩
  exact (has_members_iff (inBatch targetMember)).mpr
    ⟨other, chain.trans (reflTransGen_of_mem_lineage inLineage), offers⟩

/-- What an heir inherits is what the targets of its origins have. -/
theorem inherits_iff_has (settled : batch.Settled conventions targets table)
    (first : SupertypesFirst targets) (inBatch : targets ⊆ batch.declarations)
    (distinct : (table.wrappers.map (·.name)).Nodup) {origins : List QualifiedName}
    {members : Members} (heir : Heir table origins members wrapper) :
    (∃ ancestor, Inherits table.wrappers wrapper ancestor ∧ ancestor.Lists key) ↔
      ∃ target ∈ targets, target.name ∈ origins ∧ (batch.members target).Has key := by
  constructor
  · rintro ⟨ancestor, inherits, lists⟩
    rcases Relation.TransGen.head'_iff.mp inherits with ⟨interface, step, inheritsFurther⟩
    rcases (heir.extends_iff interface).mp step with ⟨origin, originMember, found⟩
    rcases settled.exists_target_of_get? found with ⟨target, targetMember, named⟩
    rw [← named] at found originMember
    exact ⟨target, targetMember, originMember,
      settled.has_of_exposes inBatch distinct targetMember found
        ⟨ancestor, inheritsFurther, lists⟩⟩
  · rintro ⟨target, targetMember, originMember, has⟩
    rcases settled.exists_get? targetMember with ⟨interface, found⟩
    rcases settled.exposes_of_has first inBatch targetMember found has with
      ⟨ancestor, inheritsFurther, lists⟩
    have step := (heir.extends_iff interface).mpr ⟨target.name, originMember, found⟩
    exact ⟨ancestor, .head' step inheritsFurther, lists⟩

end Settled

/-- Every interface target of a built table has an interface, which together with those it inherits
from lists every member of the target, and no other as long as names are distinct. -/
theorem exposes_iff_has_of_interfaceTable {table : InterfaceTable} {target : Declaration}
    (built : batch.interfaceTable conventions = .ok table)
    (targetMember : target ∈ batch.interfaceTargets) :
    ∃ wrapper, table.get? target.name = some wrapper ∧
      (∀ key, (batch.members target).Has key → table.Exposes wrapper key) ∧
      ((table.wrappers.map (·.name)).Nodup →
        ∀ key, table.Exposes wrapper key ↔ (batch.members target).Has key) := by
  rcases exists_settled_of_interfaceTable built with ⟨order, reordered, first, settled⟩
  have inOrder : target ∈ order := reordered.mem_iff.mpr targetMember
  have inBatch := subset_declarations_of_perm reordered
  rcases settled.exists_get? inOrder with ⟨wrapper, found⟩
  refine ⟨wrapper, found, ?_, ?_⟩
  · intro key has
    exact settled.exposes_of_has first inBatch inOrder found has
  · intro distinct key
    constructor
    · exact settled.has_of_exposes inBatch distinct inOrder found
    · exact settled.exposes_of_has first inBatch inOrder found

theorem exposes_iff_has_threeLevels :
    ∃ wrapper, InterfaceTable.threeLevels.get? ⟨"", "Leaf"⟩ = some wrapper ∧
      ∀ key, InterfaceTable.threeLevels.Exposes wrapper key ↔
        (threeLevels.members threeLevels.declarations[2]).Has key := by
  have leafMarked : threeLevels.declarations[2] ∈ threeLevels.interfaceTargets := by decide
  rcases exposes_iff_has_of_interfaceTable interfaceTable_threeLevels leafMarked with
    ⟨wrapper, found, _, exact⟩
  exact ⟨wrapper, found, exact (by decide)⟩

/-- Two interfaces that are given the same name, and a third below one of them. -/
def namesakes : Batch where
  declarations :=
    [{ name := ⟨"", "A"⟩, kind := .interface, methods := [{ name := "f" }]
       markers := { interface? := some { name? := some "Shared" } } },
     { name := ⟨"", "B"⟩, kind := .interface, methods := [{ name := "g" }]
       markers := { interface? := some { name? := some "Shared" } } },
     { name := ⟨"", "C"⟩, kind := .interface, supertypes := [⟨"", "B"⟩]
       markers := { interface? := some {} } }]
  nodup := by decide

/-- The interfaces of namesakes. The stage that builds them does not look at their names. -/
def namesakesTable : InterfaceTable where
  wrappers :=
    [{ origin := ⟨"", "A"⟩, name := ⟨"", "Shared"⟩, methods := [{ name := "f", result := .unit }] },
     { origin := ⟨"", "B"⟩, name := ⟨"", "Shared"⟩, methods := [{ name := "g", result := .unit }] },
     { origin := ⟨"", "C"⟩, name := ⟨"", "CNativeProtocol"⟩, supertypes := [⟨"", "Shared"⟩] }]
  nodup := by decide

/-- A shared name leads to the members of an interface that the declarations do not connect. -/
theorem not_has_of_exposes_namesakes :
    namesakes.interfaceTable {} = .ok namesakesTable ∧
      namesakes.declarations[2] ∈ namesakes.interfaceTargets ∧
      ∃ wrapper, namesakesTable.get? namesakes.declarations[2].name = some wrapper ∧
        ¬ ∀ key, namesakesTable.Exposes wrapper key ↔
          (namesakes.members namesakes.declarations[2]).Has key := by
  refine ⟨by cbv, by decide, namesakesTable.wrappers[2], rfl, ?_⟩
  intro exact
  have exposed : namesakesTable.Exposes namesakesTable.wrappers[2] (.method ⟨"f", []⟩) := by
    refine ⟨namesakesTable.wrappers[0], .single ⟨by decide, by decide⟩, ?_⟩
    change _ ∈ Wrapper.methodKeys _
    decide
  have absent : (namesakes.members namesakes.declarations[2]).methods.map (·.key)
      = [⟨"g", []⟩] := by
    cbv
  have present : MethodKey.mk "f" [] ∈
      (namesakes.members namesakes.declarations[2]).methods.map (·.key) := (exact _).mp exposed
  rw [absent] at present
  exact absurd present (by decide)

variable {model : WrapperModel} {wrapper ancestor : Wrapper}

theorem lists_of_inherits (generated : batch.generate conventions = .ok model)
    (member : wrapper ∈ model.classes)
    (inherits : Inherits model.interfaces wrapper ancestor) {key : MemberKey}
    (lists : ancestor.Lists key) : wrapper.Lists key := by
  rcases exists_settled_of_generate generated with
    ⟨accessors, table, order, sameInterfaces, distinct, reordered, first, settled, classesBuilt⟩
  rw [sameInterfaces] at inherits
  have inBatch := subset_declarations_of_perm reordered
  rcases exists_input_of_mapM_eq_ok classesBuilt member with ⟨target, targetMember, classGenerated⟩
  have inBatch' : target ∈ batch.declarations := List.mem_of_mem_filter targetMember
  have heir := heir_of_classWrapper distinct classGenerated
  rcases (settled.inherits_iff_has first inBatch distinct heir).mp ⟨ancestor, inherits, lists⟩ with
    ⟨supertype, supertypeMember, listed, has⟩
  rw [heir.lists_iff]
  rcases List.mem_cons.mp listed with own | above
  · rw [List.inj_on_of_nodup_map batch.nodup (inBatch supertypeMember) inBatch' own] at has
    exact has
  · exact has_members_of_ancestor inBatch' (inBatch supertypeMember)
      (.single ⟨inBatch supertypeMember, above⟩) has

/-- Every class of a generated model implements every interface that it inherits from. -/
theorem implements_of_inherits (generated : batch.generate conventions = .ok model)
    (member : wrapper ∈ model.classes)
    (inherits : Inherits model.interfaces wrapper ancestor) :
    wrapper.Implements ancestor := by
  rcases generate_eq_ok_iff.mp generated with ⟨accessors, table, _, _, classesBuilt, _⟩
  rcases exists_input_of_mapM_eq_ok classesBuilt member with ⟨target, _, classGenerated⟩
  have mirrors := mirrors_of_classWrapper classGenerated
  refine ⟨?_, ?_⟩
  · intro key listed
    have distinct : (wrapper.methods.map (·.key)).Nodup := by
      rw [mirrors.methods]
      exact nodup_map_distinctBy _
    have own : wrapper.Lists (.method key) := lists_of_inherits generated member inherits listed
    rcases List.mem_map.mp (List.mem_eraseDups.mp own) with ⟨method, methodMember, keyed⟩
    rcases body_of_classWrapper classGenerated methodMember with ⟨wrapping, body⟩
    subst keyed
    exact ⟨method, wrapping, filter_key_eq_singleton distinct methodMember, body⟩
  · intro name listed
    have distinct : (wrapper.properties.map (·.name)).Nodup := by
      rw [mirrors.properties]
      exact nodup_map_distinctBy _
    have own : wrapper.Lists (.property name) := lists_of_inherits generated member inherits listed
    rcases List.mem_map.mp (List.mem_eraseDups.mp own) with ⟨property, propertyMember, named⟩
    rcases getter_of_classWrapper classGenerated propertyMember with ⟨wrapping, getter⟩
    subst named
    exact ⟨property, wrapping, filter_key_eq_singleton distinct propertyMember, getter⟩

theorem implements_base_of_threeLevels :
    WrapperModel.threeLevels.classes[0].Implements WrapperModel.threeLevels.interfaces[0] := by
  apply implements_of_inherits generate_threeLevels (by decide)
  refine .head (b := WrapperModel.threeLevels.interfaces[1]) ⟨by decide, by decide⟩ (.single ?_)
  exact ⟨by decide, by decide⟩

end Batch

end NativeWrappers
