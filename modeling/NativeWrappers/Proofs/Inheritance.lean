import NativeWrappers.Proofs.WrapperModel
/-!
# Inheritance among generated wrappers

A generated declaration names generated interfaces as its supertypes, and through them it inherits
from all interfaces that chains of such names lead to. These chains run alongside the chains of
declared supertypes: a name written into a declaration is the name of the interface of a direct
supertype, and as long as interfaces have distinct names it leads nowhere else.
-/

namespace NativeWrappers

/-- One wrapper names another, an interface among these, as a supertype. -/
def Extends (interfaces : List Wrapper) (wrapper supertype : Wrapper) : Prop :=
  supertype ∈ interfaces ∧ supertype.name ∈ wrapper.supertypes

/-- A wrapper inherits from the interfaces that one or more steps along supertypes lead to. -/
def Inherits (interfaces : List Wrapper) : Wrapper → Wrapper → Prop :=
  Relation.TransGen (Extends interfaces)

section Extends

variable {interfaces extended : List Wrapper} {members : Members} {wrapper supertype : Wrapper}

theorem extends_of_mem (mirrors : Mirrors wrapper extended members)
    (known : extended ⊆ interfaces) (member : supertype ∈ extended) :
    Extends interfaces wrapper supertype := by
  refine ⟨known member, ?_⟩
  rw [mirrors.supertypes]
  exact List.mem_map_of_mem member

theorem extends_iff_mem (distinct : (interfaces.map (·.name)).Nodup)
    (mirrors : Mirrors wrapper extended members) (known : extended ⊆ interfaces) :
    Extends interfaces wrapper supertype ↔ supertype ∈ extended := by
  constructor
  · rintro ⟨member, named⟩
    rw [mirrors.supertypes] at named
    rcases List.mem_map.mp named with ⟨other, otherMember, sameName⟩
    rw [← List.inj_on_of_nodup_map distinct (known otherMember) member sameName]
    exact otherMember
  · exact extends_of_mem mirrors known

end Extends

section Heirs

variable {batch : Batch} {conventions : Conventions} {table : InterfaceTable}
  {declaration : Declaration} {name : QualifiedName} {wrapper interface : Wrapper}

theorem mem_implementedInterfaces_iff (distinct : (table.wrappers.map (·.name)).Nodup) :
    interface ∈ implementedInterfaces table declaration ↔
      ∃ name ∈ declaration.name :: declaration.supertypes, table.get? name = some interface := by
  have candidate_iff (wrapper : Wrapper) :
      wrapper ∈ declaration.supertypes.filterMap table.get? ++
          (table.get? declaration.name).toList ↔
        ∃ name ∈ declaration.name :: declaration.supertypes, table.get? name = some wrapper := by
    simp [or_comm]
  rw [← candidate_iff, implementedInterfaces]
  constructor
  · exact mem_of_mem_distinctBy
  · intro member
    -- the candidate that is kept under this name is the interface itself
    obtain ⟨kept, keptMember, sameName⟩ : ∃ kept ∈ distinctBy (·.name)
        (declaration.supertypes.filterMap table.get? ++ (table.get? declaration.name).toList),
        kept.name = interface.name := exists_mem_distinctBy member
    rcases (candidate_iff interface).mp member with ⟨_, _, found⟩
    rcases (candidate_iff kept).mp (mem_of_mem_distinctBy keptMember) with ⟨_, _, keptFound⟩
    rw [← List.inj_on_of_nodup_map distinct (InterfaceTable.mem_of_get? keptFound)
      (InterfaceTable.mem_of_get? found) sameName]
    exact keptMember

/-- The wrapper mirrors these members and extends the interfaces of these origins. -/
structure Heir (table : InterfaceTable) (origins : List QualifiedName) (members : Members)
    (wrapper : Wrapper) : Prop where
  extends_iff : ∀ interface, Extends table.wrappers wrapper interface ↔
    ∃ origin ∈ origins, table.get? origin = some interface
  lists_iff : ∀ key, wrapper.Lists key ↔ members.Has key
  marker_iff : ∀ key isOverride, (key, isOverride) ∈ wrapper.markers →
    (isOverride = true ↔
      ∃ interface, Extends table.wrappers wrapper interface ∧ interface.Lists key)

theorem heir_of_mirrors {origins : List QualifiedName} {members : Members}
    {extended : List Wrapper} (distinct : (table.wrappers.map (·.name)).Nodup)
    (mirrors : Mirrors wrapper extended members)
    (mem_extended_iff : ∀ interface, interface ∈ extended ↔
      ∃ origin ∈ origins, table.get? origin = some interface) :
    Heir table origins members wrapper := by
  have known : extended ⊆ table.wrappers := by
    intro interface member
    rcases (mem_extended_iff interface).mp member with ⟨_, _, found⟩
    exact InterfaceTable.mem_of_get? found
  have extends_iff (interface : Wrapper) :
      Extends table.wrappers wrapper interface ↔ interface ∈ extended :=
    extends_iff_mem distinct mirrors known
  refine ⟨?_, ?_, ?_⟩
  · intro interface
    rw [extends_iff, mem_extended_iff]
  · intro key
    exact mirrors.lists_iff
  · intro key isOverride member
    simp only [extends_iff]
    exact mirrors.marker_iff member

theorem heir_of_interfaceWrapper (distinct : (table.wrappers.map (·.name)).Nodup)
    (generated : batch.interfaceWrapper conventions table declaration name = .ok wrapper) :
    Heir table declaration.supertypes (batch.membersExcept declaration table.contains)
      wrapper := by
  apply heir_of_mirrors distinct (Batch.mirrors_of_interfaceWrapper generated)
  intro interface
  exact List.mem_filterMap

theorem heir_of_classWrapper {accessors : AccessorTable}
    (distinct : (table.wrappers.map (·.name)).Nodup)
    (generated : batch.classWrapper conventions table accessors declaration name = .ok wrapper) :
    Heir table (declaration.name :: declaration.supertypes) (batch.members declaration)
      wrapper := by
  apply heir_of_mirrors distinct (Batch.mirrors_of_classWrapper generated)
  intro interface
  exact mem_implementedInterfaces_iff distinct

end Heirs

namespace Batch.Settled

variable {batch : Batch} {conventions : Conventions} {targets : List Declaration}
  {table : InterfaceTable} {target : Declaration} {wrapper ancestor : Wrapper}

theorem extends_of_lists (settled : batch.Settled conventions targets table)
    (targetMember : target ∈ targets) (found : table.get? target.name = some wrapper)
    {supertype : QualifiedName} (listed : supertype ∈ target.supertypes)
    (ancestorFound : table.get? supertype = some ancestor) :
    Extends table.wrappers wrapper ancestor := by
  have mirrors := mirrors_of_interfaceWrapper (settled.generated_of_get? targetMember found)
  refine ⟨InterfaceTable.mem_of_get? ancestorFound, ?_⟩
  rw [mirrors.supertypes]
  exact List.mem_map_of_mem (List.mem_filterMap.mpr ⟨supertype, listed, ancestorFound⟩)

theorem exists_lists_of_extends (settled : batch.Settled conventions targets table)
    (distinct : (table.wrappers.map (·.name)).Nodup)
    (targetMember : target ∈ targets) (found : table.get? target.name = some wrapper)
    (step : Extends table.wrappers wrapper ancestor) :
    ∃ supertype ∈ targets, table.get? supertype.name = some ancestor ∧
      supertype.name ∈ target.supertypes := by
  have heir := heir_of_interfaceWrapper distinct (settled.generated_of_get? targetMember found)
  rcases (heir.extends_iff ancestor).mp step with ⟨name, listed, ancestorFound⟩
  rcases settled.exists_target_of_get? ancestorFound with ⟨supertype, supertypeMember, named⟩
  rw [← named] at ancestorFound listed
  exact ⟨supertype, supertypeMember, ancestorFound, listed⟩

theorem exists_ancestor_of_inherits (settled : batch.Settled conventions targets table)
    (inBatch : targets ⊆ batch.declarations) (distinct : (table.wrappers.map (·.name)).Nodup)
    (targetMember : target ∈ targets) (found : table.get? target.name = some wrapper)
    (inherits : Relation.ReflTransGen (Extends table.wrappers) wrapper ancestor) :
    ∃ origin ∈ targets, table.get? origin.name = some ancestor ∧
      Relation.ReflTransGen batch.Lists target origin := by
  induction inherits with
  | refl => exact ⟨target, targetMember, found, .refl⟩
  | tail _ step ih =>
      rcases ih with ⟨middle, middleMember, middleFound, chain⟩
      rcases settled.exists_lists_of_extends distinct middleMember middleFound step with
        ⟨supertype, supertypeMember, supertypeFound, listed⟩
      exact ⟨supertype, supertypeMember, supertypeFound,
        chain.tail ⟨inBatch supertypeMember, listed⟩⟩

/-- Every ancestor of a target is in the lineage that some interface was collected from, and the
interface of the target inherits from that one. -/
theorem exists_inherited_lineage (settled : batch.Settled conventions targets table)
    (first : SupertypesFirst targets) (inBatch : targets ⊆ batch.declarations) :
    ∀ target ∈ targets, ∀ wrapper, table.get? target.name = some wrapper →
      ∀ other, Relation.ReflTransGen batch.Lists target other →
        ∃ origin ∈ targets, ∃ ancestor, table.get? origin.name = some ancestor ∧
          Relation.ReflTransGen (Extends table.wrappers) wrapper ancestor ∧
          other ∈ batch.lineage origin table.contains := by
  refine first.induction ?_
  intro target targetMember settledAbove wrapper found other chain
  have inAncestry := (mem_ancestry_iff (inBatch targetMember)).mpr chain
  rcases mem_lineage_or_inherited_of_mem_ancestry table.contains inAncestry with
    inLineage | ⟨supertype, supertypeMember, listed, contained, chainAbove⟩
  · exact ⟨target, targetMember, wrapper, found, .refl, inLineage⟩
  · -- a supertype with an interface stands before the target, and its interface takes over
    rcases Option.isSome_iff_exists.mp contained with ⟨ancestor, ancestorFound⟩
    rcases settled.exists_target_of_get? ancestorFound with ⟨origin, originMember, named⟩
    have same : origin = supertype :=
      List.inj_on_of_nodup_map batch.nodup (inBatch originMember) supertypeMember named
    subst same
    rcases settledAbove origin originMember listed ancestor ancestorFound other chainAbove with
      ⟨last, lastMember, lastWrapper, lastFound, inherits, inLineage⟩
    exact ⟨last, lastMember, lastWrapper, lastFound,
      .head (settled.extends_of_lists targetMember found listed ancestorFound) inherits, inLineage⟩

end Batch.Settled

end NativeWrappers
