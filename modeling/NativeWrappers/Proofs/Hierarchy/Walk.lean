import NativeWrappers.Proofs.Hierarchy.Cycles
import NativeWrappers.Proofs.Hierarchy.Lineage
/-!
# Looking for the first along a walk

A walk from several names goes to everything above the first name before it turns to the next, and
then it leaves out what was visited. Whoever only looks for the first declaration with some property
need not know what was visited: as long as nothing was found, nothing that was left out matters. So
the search from several names is the first success of the searches from each of them, and without
cycles the search from a declaration goes on with those from its supertypes.
-/

namespace NativeWrappers

section Preorder

variable {unvisited : List Declaration} {pending rest : List QualifiedName}

theorem preorder_skip {skipped : List QualifiedName}
    (absent : ∀ name ∈ skipped, unvisited.find? (·.name == name) = none) :
    preorder unvisited (skipped ++ rest) = preorder unvisited rest := by
  induction skipped with
  | nil => rfl
  | cons name skipped ih =>
      rw [List.forall_mem_cons] at absent
      rw [List.cons_append, preorder_of_find?_eq_none absent.1, ih absent.2]

/-- What is left out together with everything above it is left out of the walk, which is otherwise
the same. -/
theorem preorder_filter {keep : Declaration → Bool}
    (distinct : (unvisited.map (·.name)).Nodup)
    (closed : ∀ declaration ∈ unvisited, keep declaration = false →
      ∀ supertype ∈ unvisited, supertype.name ∈ declaration.supertypes → keep supertype = false) :
    preorder (unvisited.filter keep) pending = (preorder unvisited pending).filter keep := by
  induction unvisited, pending using preorder.induct with
  | case1 unvisited => rw [preorder, preorder, List.filter_nil]
  | case2 unvisited name rest absent ih =>
      have absent' : (unvisited.filter keep).find? (·.name == name) = none := by
        rw [List.find?_eq_none] at absent ⊢
        exact fun other member => absent other (List.mem_of_mem_filter member)
      rw [preorder_of_find?_eq_none absent, preorder_of_find?_eq_none absent', ih distinct closed]
  | case3 unvisited name rest visited found ih =>
      rcases (find?_key_eq_some_iff distinct).mp found with ⟨member, named⟩
      have distinct' : ((unvisited.filter keep).map (·.name)).Nodup :=
        distinct.sublist (List.filter_sublist.map _)
      have keptAbove := ih (nodup_withoutName _ distinct) fun declaration remains left supertype
        supertypeRemains => closed declaration (mem_withoutName.mp remains).1 left supertype
          (mem_withoutName.mp supertypeRemains).1
      have exchanged : (withoutName unvisited visited.name).filter keep
          = withoutName (unvisited.filter keep) visited.name :=
        List.filter_comm _ _ _
      rw [preorder_of_find?_eq_some found]
      cases kept : keep visited with
      | true =>
          have found' := (find?_key_eq_some_iff distinct').mpr
            ⟨List.mem_filter.mpr ⟨member, kept⟩, named⟩
          rw [preorder_of_find?_eq_some found', List.filter_cons_of_pos kept, ← exchanged,
            keptAbove]
      | false =>
          -- neither the declaration nor anything above it is kept, so only the rest is walked
          have notKept {other : Declaration} (otherMember : other ∈ unvisited.filter keep) :
              other.name ≠ visited.name := by
            intro same
            rcases List.mem_filter.mp otherMember with ⟨inUnvisited, otherKept⟩
            rw [List.inj_on_of_nodup_map distinct inUnvisited member same, kept] at otherKept
            cases otherKept
          have absent' : (unvisited.filter keep).find? (·.name == name) = none := by
            rw [List.find?_eq_none]
            intro other otherMember
            simpa [named] using notKept otherMember
          have nothingElse : withoutName (unvisited.filter keep) visited.name
              = unvisited.filter keep :=
            List.filter_eq_self.mpr fun other otherMember => by simpa using notKept otherMember
          have absentAbove : ∀ supertype ∈ visited.supertypes,
              (unvisited.filter keep).find? (·.name == supertype) = none := by
            intro supertype listed
            rw [List.find?_eq_none]
            intro other otherMember same
            rcases List.mem_filter.mp otherMember with ⟨inUnvisited, otherKept⟩
            rw [closed visited member kept other inUnvisited (beq_iff_eq.mp same ▸ listed)]
              at otherKept
            cases otherKept
          rw [preorder_of_find?_eq_none absent', List.filter_cons_of_neg (by simp [kept]),
            ← keptAbove, exchanged, nothingElse, preorder_skip absentAbove]

/-- A walk from more names first walks from the first of them, and then, without what was visited,
from the others. -/
theorem preorder_append (distinct : (unvisited.map (·.name)).Nodup) :
    preorder unvisited (pending ++ rest) = preorder unvisited pending
      ++ preorder (unvisited.filter (· ∉ preorder unvisited pending)) rest := by
  induction unvisited, pending using preorder.induct with
  | case1 unvisited => simp [preorder]
  | case2 unvisited name pending absent ih =>
      rw [List.cons_append, preorder_of_find?_eq_none absent, preorder_of_find?_eq_none absent,
        ih distinct]
  | case3 unvisited name pending visited found ih =>
      rcases (find?_key_eq_some_iff distinct).mp found with ⟨member, named⟩
      have unvisitedAfter (above : List Declaration) :
          (withoutName unvisited visited.name).filter (· ∉ above)
            = unvisited.filter (· ∉ visited :: above) := by
        rw [withoutName, List.filter_filter]
        apply List.filter_congr
        intro other otherMember
        have same_iff : other.name = visited.name ↔ other = visited :=
          ⟨List.inj_on_of_nodup_map distinct otherMember member, congrArg _⟩
        rw [Bool.eq_iff_iff]
        simp [same_iff, and_comm]
      rw [List.cons_append, preorder_of_find?_eq_some found, preorder_of_find?_eq_some found,
        ← List.append_assoc, ih (nodup_withoutName _ distinct), unvisitedAfter, List.cons_append]

/-- The search from several names goes from name to name until it succeeds. -/
theorem find?_preorder (distinct : (unvisited.map (·.name)).Nodup) (wanted : Declaration → Bool)
    (pending : List QualifiedName) :
    (preorder unvisited pending).find? wanted
      = pending.findSome? fun name => (preorder unvisited [name]).find? wanted := by
  induction pending with
  | nil => rw [preorder, List.find?_nil, List.findSome?_nil]
  | cons name rest ih =>
      rw [List.findSome?_cons, ← ih, ← List.singleton_append, preorder_append distinct,
        List.find?_append]
      rcases missed : (preorder unvisited [name]).find? wanted with _ | first
      · have closed : ∀ declaration ∈ unvisited, decide (declaration ∉ preorder unvisited [name])
              = false → ∀ supertype ∈ unvisited, supertype.name ∈ declaration.supertypes →
              decide (supertype ∉ preorder unvisited [name]) = false := by
          intro declaration _ visited supertype member listed
          rw [decide_eq_false_iff_not, not_not, mem_preorder_iff distinct] at visited ⊢
          exact .above visited member listed
        -- what was visited is not wanted, so leaving it out makes no difference
        have wantedRemains (declaration : Declaration) :
            decide (decide (declaration ∉ preorder unvisited [name]) = true ∧
              wanted declaration = true) = wanted declaration := by
          rw [Bool.eq_iff_iff, decide_eq_true_iff, decide_eq_true_iff]
          exact ⟨And.right, fun isWanted =>
            ⟨fun visited => List.find?_eq_none.mp missed declaration visited isWanted, isWanted⟩⟩
        rw [preorder_filter distinct closed, List.find?_filter, funext wantedRemains]
        rfl
      · rfl

end Preorder

namespace Batch

/-- No chain of direct supertypes in the batch leads from a declaration back to itself. -/
def Acyclic (batch : Batch) : Prop :=
  ∀ declaration, ¬ Relation.TransGen batch.Lists declaration declaration

namespace Acyclic

variable {batch : Batch}

theorem of_supertypesFirst (first : SupertypesFirst batch.declarations) : batch.Acyclic := by
  intro declaration cycle
  rcases Relation.TransGen.tail'_iff.mp cycle with ⟨_, _, member, _⟩
  exact not_mem_of_transGen_self first (fun _ _ _ inBatch _ => inBatch) declaration member cycle

/-- What holds of a declaration whenever it holds of its supertypes, holds of the whole batch. -/
theorem induction (acyclic : batch.Acyclic)
    {motive : (declaration : Declaration) → declaration ∈ batch.declarations → Prop}
    (step : ∀ declaration member,
      (∀ supertype (lists : batch.Lists declaration supertype), motive supertype lists.1) →
        motive declaration member)
    (declaration : Declaration) (member : declaration ∈ batch.declarations) :
    motive declaration member := by
  have noneWaits : waitingDeclarations batch.declarations = [] :=
    (waiting_eq_nil_iff batch.nodup).mpr fun other _ => acyclic other
  have reordered := perm_placed_waiting batch.declarations
  rw [noneWaits, List.append_nil] at reordered
  have inOrder := (supertypesFirst_placed batch.nodup).induction
    (motive := fun declaration => ∀ member, motive declaration member) ?_ declaration
    (reordered.mem_iff.mpr member)
  · exact inOrder member
  · intro other _ settled otherMember
    apply step
    intro supertype lists
    exact settled supertype (reordered.mem_iff.mpr lists.1) lists.2 lists.1

end Acyclic

variable {batch : Batch} {declaration : Declaration}

theorem ancestry_eq_cons (declaration : Declaration) :
    batch.ancestry declaration = declaration ::
      preorder (withoutName batch.declarations declaration.name) declaration.supertypes := by
  rw [ancestry, lineage]
  simp

theorem preorder_of_get? {name : QualifiedName} (found : batch.get? name = some declaration) :
    preorder batch.declarations [name] = batch.ancestry declaration := by
  rw [preorder_of_find?_eq_some found, ancestry_eq_cons, List.append_nil]

theorem preorder_of_get?_eq_none {name : QualifiedName} (absent : batch.get? name = none) :
    preorder batch.declarations [name] = [] := by
  rw [preorder_of_find?_eq_none absent, preorder]

/-- Without cycles, a walk from the supertypes of a declaration cannot come back to it. -/
theorem ancestry_eq (acyclic : batch.Acyclic) (member : declaration ∈ batch.declarations) :
    batch.ancestry declaration
      = declaration :: preorder batch.declarations declaration.supertypes := by
  have above : preorder (withoutName batch.declarations declaration.name) declaration.supertypes
      = preorder batch.declarations declaration.supertypes := by
    -- the walk only looks for names that something above the declaration lists
    apply preorder_congr fun name =>
      ∃ other, Relation.ReflTransGen batch.Lists declaration other ∧ name ∈ other.supertypes
    · rintro name ⟨other, chain, listed⟩
      rw [find?_withoutName, if_pos]
      rw [bne_iff_ne]
      rintro rfl
      exact acyclic declaration (.tail' chain ⟨member, listed⟩)
    · rintro other remains ⟨below, chain, listed⟩ name above
      exact ⟨other, chain.tail ⟨(mem_withoutName.mp remains).1, listed⟩, above⟩
    · exact fun name listed => ⟨declaration, .refl, listed⟩
  rw [ancestry_eq_cons, above]

/-- Without cycles, the search among the ancestors of a declaration that is not wanted itself is
that among those of its supertypes, one after the other. -/
theorem find?_ancestry (acyclic : batch.Acyclic) (member : declaration ∈ batch.declarations)
    {wanted : Declaration → Bool} (notWanted : wanted declaration = false) :
    (batch.ancestry declaration).find? wanted
      = declaration.supertypes.findSome? fun name =>
        (batch.get? name).bind fun supertype => (batch.ancestry supertype).find? wanted := by
  rw [ancestry_eq acyclic member, List.find?_cons, notWanted]
  dsimp only
  rw [find?_preorder batch.nodup]
  congr 1
  funext name
  rcases found : batch.get? name with _ | supertype
  · rw [preorder_of_get?_eq_none found]
    rfl
  · rw [preorder_of_get? found]
    rfl

end Batch

end NativeWrappers
