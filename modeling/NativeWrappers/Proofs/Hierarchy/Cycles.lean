import Mathlib.Data.Fintype.Pigeonhole
import Mathlib.Data.Set.Finite.Basic
import Mathlib.Logic.Relation
import NativeWrappers.Proofs.Hierarchy.Order
import NativeWrappers.Proofs.QualifiedName
/-!
# Cycles in the way of an order

A list of declarations with distinct names can be put in an order exactly when no chain of
supertypes in the list leads from a declaration back to itself. When there is such a cycle, what
waits in the end is every declaration that a chain leads from to some cycle: whatever waits has a
supertype that waits too, and in a finite list that cannot go on without a repetition; whatever is
placed has all its supertypes placed before it.
-/

namespace NativeWrappers

/-- One declaration names another one of the list as a direct supertype. -/
def ListsWithin (declarations : List Declaration) (declaration supertype : Declaration) : Prop :=
  supertype ∈ declarations ∧ supertype.name ∈ declaration.supertypes

/-- A chain of supertypes in the list leads from the declaration to one that is its own ancestor. -/
def ReachesCycle (declarations : List Declaration) (declaration : Declaration) : Prop :=
  ∃ other, Relation.ReflTransGen (ListsWithin declarations) declaration other ∧
    Relation.TransGen (ListsWithin declarations) other other

/-- If everything in a list is related to something in the list, each of its elements leads to a
cycle. -/
theorem exists_cycle_of_serial {α : Type} {step : α → α → Prop} {list : List α}
    (serial : ∀ element ∈ list, ∃ next ∈ list, step element next) {element : α}
    (member : element ∈ list) :
    ∃ other, Relation.ReflTransGen step element other ∧ Relation.TransGen step other other := by
  have serial' : ∀ current : {current // current ∈ list},
      ∃ next : {next // next ∈ list}, step current.val next.val := by
    rintro ⟨current, currentMember⟩
    rcases serial current currentMember with ⟨next, nextMember, related⟩
    exact ⟨⟨next, nextMember⟩, related⟩
  choose next related using serial'
  let path : ℕ → {current // current ∈ list} := fun length => next^[length] ⟨element, member⟩
  have path_step (length : ℕ) : step (path length).val (path (length + 1)).val := by
    change step _ (next^[length + 1] _).val
    rw [Function.iterate_succ_apply']
    exact related _
  have path_chain (start length : ℕ) :
      Relation.ReflTransGen step (path start).val (path (start + length)).val := by
    induction length with
    | zero => exact .refl
    | succ length ih => exact ih.tail (path_step (start + length))
  -- the path is longer than the list, so it comes to some place twice
  have finite : Finite {current // current ∈ list} := List.finite_toSet list
  rcases Finite.exists_ne_map_eq_of_infinite path with ⟨first, second, different, equal⟩
  have closes : ∀ earlier later, earlier < later → path earlier = path later →
      ∃ other, Relation.ReflTransGen step element other ∧
        Relation.TransGen step other other := by
    intro earlier later before samePlace
    rcases Nat.exists_eq_add_of_lt before with ⟨length, rfl⟩
    have toPlace := path_chain 0 earlier
    rw [Nat.zero_add] at toPlace
    refine ⟨(path earlier).val, toPlace, ?_⟩
    have around :=
      Relation.TransGen.tail' (path_chain earlier length) (path_step (earlier + length))
    rwa [← samePlace] at around
  rcases Nat.lt_or_gt_of_ne different with before | after
  · exact closes first second before equal
  · exact closes second first after equal.symm

section Cycles

variable {declarations : List Declaration} {declaration : Declaration}

theorem not_mem_of_transGen_self {order : List Declaration} (first : SupertypesFirst order)
    (closed : ∀ declaration ∈ order, ∀ supertype ∈ declarations,
      supertype.name ∈ declaration.supertypes → supertype ∈ order) :
    ∀ declaration ∈ order,
      ¬ Relation.TransGen (ListsWithin declarations) declaration declaration := by
  refine first.induction ?_
  intro declaration member settled cycle
  rcases Relation.TransGen.head'_iff.mp cycle with ⟨supertype, step, chain⟩
  -- the cycle goes through the supertype as well, for which the claim is settled
  exact settled supertype (closed declaration member supertype step.1 step.2) step.2
    (.tail' chain step)

theorem waits_iff_reachesCycle (distinct : (declarations.map (·.name)).Nodup)
    (member : declaration ∈ declarations) :
    declaration ∈ waitingDeclarations declarations ↔ ReachesCycle declarations declaration := by
  have waiting_subset : ∀ other ∈ waitingDeclarations declarations, other ∈ declarations :=
    fun other waits => (perm_placed_waiting declarations).mem_iff.mp
      (List.mem_append_right _ waits)
  constructor
  · intro waits
    refine exists_cycle_of_serial (fun other otherWaits => ?_) waits
    rcases exists_waiting_of_waiting otherWaits with ⟨supertype, supertypeWaits, listed⟩
    exact ⟨supertype, supertypeWaits, waiting_subset supertype supertypeWaits, listed⟩
  · rintro ⟨other, chain, cycle⟩
    have placedOrWaiting := (perm_placed_waiting declarations).mem_iff.mpr member
    refine (List.mem_append.mp placedOrWaiting).resolve_left fun placed => ?_
    have closed : ∀ current ∈ placedDeclarations declarations, ∀ supertype ∈ declarations,
        supertype.name ∈ current.supertypes → supertype ∈ placedDeclarations declarations :=
      fun current currentPlaced supertype => mem_placed_of_listed distinct currentPlaced
    have otherPlaced : other ∈ placedDeclarations declarations := by
      clear cycle
      induction chain with
      | refl => exact placed
      | tail _ step ih => exact closed _ ih _ step.1 step.2
    exact not_mem_of_transGen_self (supertypesFirst_placed distinct) closed other otherPlaced cycle

open scoped Classical in
/-- The names of the declarations that a cycle can be reached from, in ascending order. -/
noncomputable def cycleReport (declarations : List Declaration) : List QualifiedName :=
  QualifiedName.sort
    ((declarations.filter fun declaration => ReachesCycle declarations declaration).map (·.name))

theorem sort_waiting_eq_cycleReport (distinct : (declarations.map (·.name)).Nodup) :
    QualifiedName.sort ((waitingDeclarations declarations).map (·.name))
      = cycleReport declarations := by
  classical
  have all := perm_placed_waiting declarations
  have waitingDistinct : (waitingDeclarations declarations).Nodup :=
    (all.nodup_iff.mpr distinct.of_map).of_append_right
  rw [cycleReport]
  apply QualifiedName.sort_eq_of_perm
  apply List.Perm.map
  apply (List.perm_ext_iff_of_nodup waitingDistinct (distinct.of_map.filter _)).mpr
  intro declaration
  rw [List.mem_filter, decide_eq_true_eq]
  constructor
  · intro waits
    have member := all.mem_iff.mp (List.mem_append_right _ waits)
    exact ⟨member, (waits_iff_reachesCycle distinct member).mp waits⟩
  · rintro ⟨member, reaches⟩
    exact (waits_iff_reachesCycle distinct member).mpr reaches

theorem waiting_eq_nil_iff (distinct : (declarations.map (·.name)).Nodup) :
    waitingDeclarations declarations = [] ↔ ∀ declaration ∈ declarations,
      ¬ Relation.TransGen (ListsWithin declarations) declaration declaration := by
  rw [List.eq_nil_iff_forall_not_mem]
  constructor
  · intro noneWaits declaration member cycle
    exact noneWaits declaration
      ((waits_iff_reachesCycle distinct member).mpr ⟨declaration, .refl, cycle⟩)
  · intro acyclic declaration waits
    have member := (perm_placed_waiting declarations).mem_iff.mp (List.mem_append_right _ waits)
    rcases (waits_iff_reachesCycle distinct member).mp waits with ⟨other, _, cycle⟩
    -- a declaration on a cycle is the supertype of another one, so it is in the list
    rcases Relation.TransGen.tail'_iff.mp cycle with ⟨_, _, step⟩
    exact acyclic other step.1 cycle

end Cycles

end NativeWrappers
