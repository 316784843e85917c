import Mathlib.Logic.Relation
import NativeWrappers.Hierarchy.Lineage
import NativeWrappers.Proofs.Traversal
/-!
# What a lineage contains

A lineage is computed by one depth-first walk with a shared list of unvisited declarations. As a set
it is plain reachability: the walk finds exactly the declarations that a chain of direct supertypes
leads to, however the hierarchy is cyclic or shared. The order of the batch has no part in it.

Main statements: an ancestry is the reflexive transitive closure of the direct supertypes
(`mem_ancestry_iff`), and whatever a lineage leaves out is an ancestor of a direct supertype that
was not entered (`mem_lineage_or_inherited_of_mem_ancestry`).
-/

namespace NativeWrappers

/-- A declaration of the list that can be reached from one of the pending names, along direct
supertypes in the list. -/
inductive Reaches (declarations : List Declaration) (pending : List QualifiedName) :
    Declaration → Prop where
  | pending {declaration : Declaration} (member : declaration ∈ declarations)
      (named : declaration.name ∈ pending) : Reaches declarations pending declaration
  | above {declaration supertype : Declaration} (below : Reaches declarations pending declaration)
      (member : supertype ∈ declarations) (listed : supertype.name ∈ declaration.supertypes) :
      Reaches declarations pending supertype

namespace Reaches

variable {declarations declarations' : List Declaration} {pending pending' : List QualifiedName}
  {declaration : Declaration}

theorem mono (declarationsSubset : declarations ⊆ declarations')
    (pendingSubset : pending ⊆ pending') (reached : Reaches declarations pending declaration) :
    Reaches declarations' pending' declaration := by
  induction reached with
  | pending member named => exact .pending (declarationsSubset member) (pendingSubset named)
  | above _ member listed ih => exact .above ih (declarationsSubset member) listed

theorem exists_first (reached : Reaches declarations pending declaration) :
    ∃ first ∈ declarations, first.name ∈ pending ∧
      Reaches declarations [first.name] declaration := by
  induction reached with
  | pending member named =>
      exact ⟨_, member, named, .pending member (List.mem_singleton.mpr rfl)⟩
  | above _ member listed ih =>
      rcases ih with ⟨first, firstMember, named, reachedFromFirst⟩
      exact ⟨first, firstMember, named, .above reachedFromFirst member listed⟩

theorem of_cons_of_absent {name : QualifiedName}
    (absent : ∀ other ∈ declarations, other.name ≠ name)
    (reached : Reaches declarations (name :: pending) declaration) :
    Reaches declarations pending declaration := by
  induction reached with
  | pending member named =>
      rcases List.mem_cons.mp named with same | inPending
      · exact absurd same (absent _ member)
      · exact .pending member inPending
  | above _ member listed ih => exact .above ih member listed

/-- Once a declaration is visited, the rest is reached without it from its supertypes and from the
other pending names. -/
theorem eq_or_withoutName {visited : Declaration} (visitedMember : visited ∈ declarations)
    (distinct : (declarations.map (·.name)).Nodup)
    (reached : Reaches declarations (visited.name :: pending) declaration) :
    declaration = visited ∨
      Reaches (withoutName declarations visited.name) (visited.supertypes ++ pending)
        declaration := by
  have eq_visited : ∀ other ∈ declarations, other.name = visited.name → other = visited :=
    fun other member same => List.inj_on_of_nodup_map distinct member visitedMember same
  induction reached with
  | @pending other member named =>
      by_cases same : other.name = visited.name
      · exact Or.inl (eq_visited other member same)
      · have inPending := (List.mem_cons.mp named).resolve_left same
        exact Or.inr (.pending (mem_withoutName.mpr ⟨member, same⟩)
          (List.mem_append_right _ inPending))
  | @above other supertype _ member listed ih =>
      by_cases same : supertype.name = visited.name
      · exact Or.inl (eq_visited supertype member same)
      · have remains := mem_withoutName.mpr ⟨member, same⟩
        rcases ih with equal | reachedWithout
        · rw [equal] at listed
          exact Or.inr (.pending remains (List.mem_append_left _ listed))
        · exact Or.inr (.above reachedWithout remains listed)

/-- What is reached without a visited declaration, from its supertypes and other pending names, is
reached from its own name and those. -/
theorem of_withoutName {visited : Declaration} (visitedMember : visited ∈ declarations)
    (reached : Reaches (withoutName declarations visited.name) (visited.supertypes ++ pending)
      declaration) :
    Reaches declarations (visited.name :: pending) declaration := by
  induction reached with
  | pending member named =>
      have remains := (mem_withoutName.mp member).1
      rcases List.mem_append.mp named with listed | inPending
      · exact .above (.pending visitedMember List.mem_cons_self) remains listed
      · exact .pending remains (List.mem_cons_of_mem _ inPending)
  | above _ member listed ih => exact .above ih (mem_withoutName.mp member).1 listed

end Reaches

theorem nodup_withoutName {declarations : List Declaration} (name : QualifiedName)
    (distinct : (declarations.map (·.name)).Nodup) :
    ((withoutName declarations name).map (·.name)).Nodup :=
  distinct.sublist (List.filter_sublist.map _)

theorem preorder_of_find?_eq_none {unvisited : List Declaration} {name : QualifiedName}
    {rest : List QualifiedName} (absent : unvisited.find? (·.name == name) = none) :
    preorder unvisited (name :: rest) = preorder unvisited rest := by
  rw [preorder]
  split
  · rfl
  · next found => rw [absent] at found; cases found

theorem preorder_of_find?_eq_some {unvisited : List Declaration} {name : QualifiedName}
    {rest : List QualifiedName} {visited : Declaration}
    (found : unvisited.find? (·.name == name) = some visited) :
    preorder unvisited (name :: rest) =
      visited :: preorder (withoutName unvisited visited.name) (visited.supertypes ++ rest) := by
  rw [preorder]
  split
  · next absent => rw [found] at absent; cases absent
  · next other found' =>
      rw [found] at found'
      cases found'
      rfl

/-- The walk visits exactly what can be reached. -/
theorem mem_preorder_iff {unvisited : List Declaration} {pending : List QualifiedName}
    {declaration : Declaration} (distinct : (unvisited.map (·.name)).Nodup) :
    declaration ∈ preorder unvisited pending ↔ Reaches unvisited pending declaration := by
  induction unvisited, pending using preorder.induct with
  | case1 unvisited =>
      rw [preorder]
      constructor
      · intro member
        cases member
      · intro reached
        rcases reached.exists_first with ⟨_, _, named, _⟩
        cases named
  | case2 unvisited name rest absent ih =>
      rw [preorder_of_find?_eq_none absent, ih distinct]
      have noneNamed : ∀ other ∈ unvisited, other.name ≠ name := by
        intro other member
        simpa using List.find?_eq_none.mp absent other member
      exact ⟨Reaches.mono (fun _ member => member) (List.subset_cons_self _ _),
        Reaches.of_cons_of_absent noneNamed⟩
  | case3 unvisited name rest visited found ih =>
      have visitedMember := List.mem_of_find?_eq_some found
      have named : visited.name = name := by simpa using List.find?_some found
      rw [preorder_of_find?_eq_some found, List.mem_cons, ih (nodup_withoutName _ distinct),
        ← named]
      constructor
      · rintro (equal | reached)
        · rw [equal]
          exact .pending visitedMember List.mem_cons_self
        · exact reached.of_withoutName visitedMember
      · exact Reaches.eq_or_withoutName visitedMember distinct

theorem find?_withoutName {declarations : List Declaration} (visited name : QualifiedName) :
    (withoutName declarations visited).find? (·.name == name) =
      if name != visited then declarations.find? (·.name == name) else none :=
  find?_filter_key (· != visited) declarations name

/-- The walk sees the list only through look-ups, of pending names and of the supertypes of what it
finds under names like these. -/
theorem preorder_congr (inside : QualifiedName → Prop) {unvisited unvisited' : List Declaration}
    {pending : List QualifiedName}
    (agree : ∀ name, inside name →
      unvisited.find? (·.name == name) = unvisited'.find? (·.name == name))
    (closed : ∀ declaration ∈ unvisited, inside declaration.name →
      ∀ supertype ∈ declaration.supertypes, inside supertype)
    (start : ∀ name ∈ pending, inside name) :
    preorder unvisited pending = preorder unvisited' pending := by
  induction unvisited, pending using preorder.induct generalizing unvisited' with
  | case1 unvisited => rw [preorder, preorder]
  | case2 unvisited name rest absent ih =>
      rw [List.forall_mem_cons] at start
      rw [preorder_of_find?_eq_none absent,
        preorder_of_find?_eq_none ((agree name start.1).symm.trans absent)]
      exact ih agree closed start.2
  | case3 unvisited name rest visited found ih =>
      rw [List.forall_mem_cons] at start
      have member := List.mem_of_find?_eq_some found
      have named : visited.name = name := by simpa using List.find?_some found
      rw [preorder_of_find?_eq_some found,
        preorder_of_find?_eq_some ((agree name start.1).symm.trans found)]
      congr 1
      apply ih
      · intro other otherInside
        rw [find?_withoutName, find?_withoutName, agree other otherInside]
      · intro declaration remains
        exact closed declaration (mem_withoutName.mp remains).1
      · intro other otherMember
        rcases List.mem_append.mp otherMember with listed | inRest
        · exact closed visited member (named.symm ▸ start.1) other listed
        · exact start.2 other inRest

namespace Batch

/-- One declaration lists another one of the batch as a direct supertype. -/
def Lists (batch : Batch) (declaration supertype : Declaration) : Prop :=
  supertype ∈ batch.declarations ∧ supertype.name ∈ declaration.supertypes

variable {batch : Batch} {declaration other : Declaration} {inherited : QualifiedName → Bool}

theorem contains_iff {name : QualifiedName} : batch.contains name = true ↔ name ∈ batch.names := by
  rw [contains, get?, List.find?_isSome, names, List.mem_map]
  simp

theorem mem_lineage_iff :
    other ∈ batch.lineage declaration inherited ↔
      other = declaration ∨ Reaches (withoutName batch.declarations declaration.name)
        (declaration.supertypes.filter (!inherited ·)) other := by
  rw [lineage, List.mem_cons, mem_preorder_iff (nodup_withoutName _ batch.nodup)]

theorem self_mem_lineage : declaration ∈ batch.lineage declaration inherited :=
  List.mem_cons_self

theorem exists_ancestor_of_reaches {declarations : List Declaration} {pending : List QualifiedName}
    (inBatch : declarations ⊆ batch.declarations) (reached : Reaches declarations pending other) :
    ∃ first ∈ batch.declarations, first.name ∈ pending ∧
      Relation.ReflTransGen batch.Lists first other := by
  induction reached with
  | pending member named => exact ⟨_, inBatch member, named, .refl⟩
  | above _ member listed ih =>
      rcases ih with ⟨first, firstMember, named, chain⟩
      exact ⟨first, firstMember, named, chain.tail ⟨inBatch member, listed⟩⟩

theorem reflTransGen_of_mem_lineage (member : other ∈ batch.lineage declaration inherited) :
    Relation.ReflTransGen batch.Lists declaration other := by
  rcases mem_lineage_iff.mp member with equal | reached
  · rw [equal]
  · rcases exists_ancestor_of_reaches (List.filter_subset_self _) reached with
      ⟨first, firstMember, named, chain⟩
    exact .head ⟨firstMember, (List.mem_filter.mp named).1⟩ chain

/-- The ancestry of a declaration is what chains of direct supertypes lead to, the declaration
itself included. -/
theorem mem_ancestry_iff (member : declaration ∈ batch.declarations) :
    other ∈ batch.ancestry declaration ↔ Relation.ReflTransGen batch.Lists declaration other := by
  constructor
  · exact reflTransGen_of_mem_lineage
  · intro chain
    rw [ancestry, mem_lineage_iff]
    induction chain with
    | refl => exact Or.inl rfl
    | @tail middle last _ step ih =>
        rcases step with ⟨lastMember, listed⟩
        by_cases same : last.name = declaration.name
        · exact Or.inl (List.inj_on_of_nodup_map batch.nodup lastMember member same)
        · have remains := mem_withoutName.mpr ⟨lastMember, same⟩
          rcases ih with equal | reached
          · rw [equal] at listed
            exact Or.inr (.pending remains (by simpa using listed))
          · exact Or.inr (.above reached remains listed)

/-- An ancestor that a lineage leaves out is an ancestor of a direct supertype that was not
entered. -/
theorem mem_lineage_or_inherited_of_mem_ancestry (inherited : QualifiedName → Bool)
    (member : other ∈ batch.ancestry declaration) :
    other ∈ batch.lineage declaration inherited ∨
      ∃ first ∈ batch.declarations, first.name ∈ declaration.supertypes ∧
        inherited first.name = true ∧ Relation.ReflTransGen batch.Lists first other := by
  rw [ancestry, mem_lineage_iff] at member
  rcases member with equal | reached
  · rw [equal]
    exact Or.inl self_mem_lineage
  · rcases reached.exists_first with ⟨first, firstMember, named, reachedFromFirst⟩
    have listed : first.name ∈ declaration.supertypes := (List.mem_filter.mp named).1
    cases entered : inherited first.name with
    | true =>
        rcases exists_ancestor_of_reaches (List.filter_subset_self _) reachedFromFirst with
          ⟨root, rootMember, rootNamed, chain⟩
        have rootFirst : root = first := List.inj_on_of_nodup_map batch.nodup rootMember
          (mem_withoutName.mp firstMember).1 (List.mem_singleton.mp rootNamed)
        rw [rootFirst] at chain
        exact Or.inr ⟨first, (mem_withoutName.mp firstMember).1, listed, entered, chain⟩
    | false =>
        left
        rw [mem_lineage_iff]
        refine Or.inr (reachedFromFirst.mono (fun _ member => member) ?_)
        intro name nameMember
        rw [List.mem_singleton.mp nameMember]
        exact List.mem_filter.mpr ⟨listed, by simp [entered]⟩

/-- Which names are not entered matters for the direct supertypes only. -/
theorem lineage_congr {inherited' : QualifiedName → Bool}
    (agree : ∀ supertype ∈ declaration.supertypes, inherited supertype = inherited' supertype) :
    batch.lineage declaration inherited = batch.lineage declaration inherited' := by
  have entered : declaration.supertypes.filter (!inherited ·)
      = declaration.supertypes.filter (!inherited' ·) := by
    apply List.filter_congr
    intro supertype listed
    rw [agree supertype listed]
  rw [lineage, lineage, entered]

theorem membersExcept_congr {inherited' : QualifiedName → Bool}
    (agree : ∀ supertype ∈ declaration.supertypes, inherited supertype = inherited' supertype) :
    batch.membersExcept declaration inherited = batch.membersExcept declaration inherited' := by
  rw [membersExcept, membersExcept, lineage_congr agree]

/-- Both batches give the declaration the same ancestors, whichever supertypes are not entered. -/
def SameLineage (batch batch' : Batch) (declaration : Declaration) : Prop :=
  ∀ inherited, batch.lineage declaration inherited = batch'.lineage declaration inherited

namespace SameLineage

variable {batch' : Batch}

theorem members (same : SameLineage batch batch' declaration) :
    batch.members declaration = batch'.members declaration := by
  rw [Batch.members, Batch.members, ancestry, ancestry, same]

theorem membersExcept (same : SameLineage batch batch' declaration) :
    batch.membersExcept declaration inherited = batch'.membersExcept declaration inherited := by
  rw [Batch.membersExcept, Batch.membersExcept, same]

theorem of_agree (inside : QualifiedName → Prop)
    (agree : ∀ name, inside name → batch.get? name = batch'.get? name)
    (closed : ∀ declaration ∈ batch.declarations, inside declaration.name →
      ∀ supertype ∈ declaration.supertypes, inside supertype)
    (start : ∀ supertype ∈ declaration.supertypes, inside supertype) :
    SameLineage batch batch' declaration := by
  intro inherited
  rw [lineage, lineage]
  congr 1
  apply preorder_congr inside
  · intro name nameInside
    have sameLookup := agree name nameInside
    rw [get?, get?] at sameLookup
    rw [find?_withoutName, find?_withoutName, sameLookup]
  · intro other remains
    exact closed other (mem_withoutName.mp remains).1
  · intro supertype entered
    exact start supertype (List.mem_of_mem_filter entered)

theorem of_perm (reordered : batch.declarations.Perm batch'.declarations)
    (declaration : Declaration) : SameLineage batch batch' declaration := by
  apply of_agree fun _ => True
  · intro name _
    exact find?_key_eq_of_perm batch.nodup reordered name
  · intros
    trivial
  · intros
    trivial

end SameLineage

end Batch

theorem mem_map_distinctBy_flatMap {α κ : Type} [DecidableEq κ] {key : α → κ}
    {membersOf : Declaration → List α} {lineage : List Declaration} {wanted : κ} :
    wanted ∈ (distinctBy key (lineage.flatMap membersOf)).map key ↔
      ∃ declaration ∈ lineage, wanted ∈ (membersOf declaration).map key := by
  constructor
  · intro member
    rcases List.mem_map.mp member with ⟨element, kept, keyed⟩
    rcases List.mem_flatMap.mp (mem_of_mem_distinctBy kept) with
      ⟨declaration, declarationMember, elementMember⟩
    exact ⟨declaration, declarationMember, List.mem_map.mpr ⟨element, elementMember, keyed⟩⟩
  · rintro ⟨declaration, declarationMember, member⟩
    rcases List.mem_map.mp member with ⟨element, elementMember, keyed⟩
    obtain ⟨kept, keptMember, sameKey⟩ :
        ∃ kept ∈ distinctBy key (lineage.flatMap membersOf), key kept = key element :=
      exists_mem_distinctBy (List.mem_flatMap.mpr ⟨declaration, declarationMember, elementMember⟩)
    exact List.mem_map.mpr ⟨kept, keptMember, sameKey.trans keyed⟩

theorem distinctBy_map {α β κ κ' : Type} [DecidableEq κ] [DecidableEq κ'] {key : α → κ}
    {key' : β → κ'} {move : α → β} {moveKey : κ → κ'} (injective : Function.Injective moveKey)
    (keyed : ∀ element, key' (move element) = moveKey (key element)) (list : List α) :
    distinctBy key' (list.map move) = (distinctBy key list).map move := by
  induction list with
  | nil => rfl
  | cons first rest ih =>
      rw [List.map_cons, distinctBy, distinctBy, ih, List.map_cons, List.filter_map]
      congr 2
      apply List.filter_congr
      intro other _
      simp [keyed, injective.eq_iff]

theorem find?_distinctBy {α κ : Type} [DecidableEq κ] {key : α → κ} (list : List α) (wanted : κ) :
    (distinctBy key list).find? (key · == wanted) = list.find? (key · == wanted) := by
  induction list with
  | nil => rfl
  | cons first rest ih =>
      rw [distinctBy, List.find?_cons, List.find?_cons]
      split
      · rfl
      · next different =>
          have others : ((distinctBy key rest).filter fun other =>
                decide (key other ≠ key first)).find? (key · == wanted)
              = if decide (wanted ≠ key first) then (distinctBy key rest).find? (key · == wanted)
                else none :=
            find?_filter_key (fun other => decide (other ≠ key first)) _ wanted
          have isOther : decide (wanted ≠ key first) = true :=
            decide_eq_true fun same => ne_of_beq_false different same.symm
          rw [others, if_pos isOther, ih]

/-! ## Members -/

/-- What identifies a member among overrides: the key of a method or the name of a property. -/
inductive MemberKey where
  | method (key : MethodKey)
  | property (name : String)

/-- The declaration itself has a member with this key that a wrapper can reach. -/
def Declaration.Offers (declaration : Declaration) : MemberKey → Prop
  | .method key => key ∈ declaration.reachableMethods.map (·.key)
  | .property name => name ∈ declaration.reachableProperties.map (·.name)

/-- A member with this key was collected. -/
def Members.Has (members : Members) : MemberKey → Prop
  | .method key => key ∈ members.methods.map (·.key)
  | .property name => name ∈ members.properties.map (·.name)

theorem Members.has_ofLineage_iff {lineage : List Declaration} {key : MemberKey} :
    (Members.ofLineage lineage).Has key ↔ ∃ declaration ∈ lineage, declaration.Offers key := by
  cases key with
  | method key => exact mem_map_distinctBy_flatMap
  | property name => exact mem_map_distinctBy_flatMap

theorem Batch.has_members_iff {batch : Batch} {declaration : Declaration}
    (member : declaration ∈ batch.declarations) {key : MemberKey} :
    (batch.members declaration).Has key ↔
      ∃ other, Relation.ReflTransGen batch.Lists declaration other ∧ other.Offers key := by
  rw [members, Members.has_ofLineage_iff]
  simp only [mem_ancestry_iff member]

theorem Batch.has_members_of_ancestor {batch : Batch} {declaration ancestor : Declaration}
    (member : declaration ∈ batch.declarations) (ancestorMember : ancestor ∈ batch.declarations)
    (chain : Relation.ReflTransGen batch.Lists declaration ancestor) {key : MemberKey}
    (has : (batch.members ancestor).Has key) : (batch.members declaration).Has key := by
  rcases (has_members_iff ancestorMember).mp has with ⟨other, chainAbove, offers⟩
  exact (has_members_iff member).mpr ⟨other, chain.trans chainAbove, offers⟩

end NativeWrappers
