import NativeWrappers.Proofs.Refusal
/-!
# What the report of a cycle names

The diagnostic of a cycle calls declarations a part of it. These are the interface targets that could
not be put in an order: those that lie on a cycle, and also those that are below one. So every target
on a cycle is named, and nothing else is exactly when no target is below a cycle without being on
one.
-/

namespace NativeWrappers

/-- The diagnostic of the problem calls a declaration of this name a part of the cycle. -/
def Problem.NamesInCycle (problem : Problem) (name : QualifiedName) : Prop :=
  ∃ label ∈ problem.diagnostic.labels,
    label.subject = name.dotted ∧ label.message = "part of the cycle"

theorem Problem.namesInCycle_inheritanceCycle_iff {members : List QualifiedName}
    {name : QualifiedName} :
    (inheritanceCycle members).NamesInCycle name ↔
      ∃ member ∈ members, member.dotted = name.dotted := by
  simp [NamesInCycle, diagnostic, labels]

theorem mem_cycleReport_iff {declarations : List Declaration} {name : QualifiedName} :
    name ∈ cycleReport declarations ↔
      ∃ declaration ∈ declarations, ReachesCycle declarations declaration ∧
        declaration.name = name := by
  classical
  rw [cycleReport, (QualifiedName.sort_perm _).mem_iff, List.mem_map]
  simp only [List.mem_filter, decide_eq_true_eq, and_assoc]

namespace Batch

variable {batch : Batch} {conventions : Conventions} {members : List QualifiedName}
  {declaration : Declaration}

/-- A chain of direct supertypes among the interface targets leads from the declaration back to
it. -/
def OnCycle (batch : Batch) (declaration : Declaration) : Prop :=
  Relation.TransGen (ListsWithin batch.interfaceTargets) declaration declaration

/-- A chain of direct supertypes among the interface targets leads from the declaration to one that
is on a cycle. -/
def LeadsToCycle (batch : Batch) (declaration : Declaration) : Prop :=
  ReachesCycle batch.interfaceTargets declaration

/-- The declarations that the problem calls a part of the cycle are the interface targets on
cycles. -/
structure NamesCycle (batch : Batch) (problem : Problem) : Prop where
  onCycle : ∀ declaration ∈ batch.declarations, problem.NamesInCycle declaration.name →
    batch.OnCycle declaration
  complete : ∀ target ∈ batch.interfaceTargets, batch.OnCycle target →
    problem.NamesInCycle target.name

theorem OnCycle.leadsToCycle (cycle : batch.OnCycle declaration) :
    batch.LeadsToCycle declaration :=
  ⟨declaration, .refl, cycle⟩

/-- Whatever is on a cycle is a direct supertype of an interface target. -/
theorem OnCycle.exists_lower (cycle : batch.OnCycle declaration) :
    ∃ lower ∈ batch.interfaceTargets, declaration.name ∈ lower.supertypes := by
  rcases Relation.TransGen.tail'_iff.mp cycle with ⟨lower, chain, inTargets, listed⟩
  rcases chain.cases_tail with same | ⟨_, _, lowerInTargets, _⟩
  · rw [same] at listed
    exact ⟨declaration, inTargets, listed⟩
  · exact ⟨lower, lowerInTargets, listed⟩

/-- Whatever leads to a cycle has a direct supertype among the interface targets. -/
theorem LeadsToCycle.exists_upper (leads : batch.LeadsToCycle declaration) :
    ∃ upper ∈ batch.interfaceTargets, upper.name ∈ declaration.supertypes := by
  rcases leads with ⟨other, chain, cycle⟩
  rcases chain.cases_head with rfl | ⟨upper, step, _⟩
  · rcases Relation.TransGen.head'_iff.mp cycle with ⟨upper, step, _⟩
    exact ⟨upper, step⟩
  · exact ⟨upper, step⟩

theorem namesInCycle_iff_of_generate
    (refused : batch.generate conventions = .error (.inheritanceCycle members))
    {name : QualifiedName} :
    (Problem.inheritanceCycle members).NamesInCycle name ↔
      ∃ target ∈ batch.interfaceTargets, batch.LeadsToCycle target ∧
        target.name.dotted = name.dotted := by
  rw [Problem.namesInCycle_inheritanceCycle_iff, (cycle_of_generate refused).2]
  simp only [mem_cycleReport_iff, LeadsToCycle]
  constructor
  · rintro ⟨_, ⟨target, member, leads, rfl⟩, written⟩
    exact ⟨target, member, leads, written⟩
  · rintro ⟨target, member, leads, written⟩
    exact ⟨_, ⟨target, member, leads, rfl⟩, written⟩

/-- A batch that is refused for a cycle has one, and its diagnostic names every interface target on a
cycle. It names no other declaration exactly when none is written like a target from which a cycle is
reached: if written names tell declarations apart, when every such target is itself on a cycle. -/
theorem namesCycle_iff
    (refused : batch.generate conventions = .error (.inheritanceCycle members)) :
    (∃ target ∈ batch.interfaceTargets, batch.OnCycle target) ∧
      (∀ target ∈ batch.interfaceTargets, batch.OnCycle target →
        (Problem.inheritanceCycle members).NamesInCycle target.name) ∧
      (batch.NamesCycle (.inheritanceCycle members) ↔
        ∀ target ∈ batch.interfaceTargets, batch.LeadsToCycle target →
          ∀ declaration ∈ batch.declarations, target.name.dotted = declaration.name.dotted →
            batch.OnCycle declaration) ∧
      ((∀ declaration ∈ batch.declarations, '.' ∉ declaration.name.simple.toList) →
        (batch.NamesCycle (.inheritanceCycle members) ↔
          ∀ target ∈ batch.interfaceTargets, batch.LeadsToCycle target →
            batch.OnCycle target)) := by
  have complete : ∀ target ∈ batch.interfaceTargets, batch.OnCycle target →
      (Problem.inheritanceCycle members).NamesInCycle target.name := fun target member cycle =>
    (namesInCycle_iff_of_generate refused).mpr ⟨target, member, cycle.leadsToCycle, rfl⟩
  have exact_iff : batch.NamesCycle (.inheritanceCycle members) ↔
      ∀ target ∈ batch.interfaceTargets, batch.LeadsToCycle target →
        ∀ declaration ∈ batch.declarations, target.name.dotted = declaration.name.dotted →
          batch.OnCycle declaration := by
    constructor
    · intro names target member leads declaration inBatch written
      exact names.onCycle declaration inBatch
        ((namesInCycle_iff_of_generate refused).mpr ⟨target, member, leads, written⟩)
    · intro onCycle
      refine ⟨fun declaration inBatch named => ?_, complete⟩
      rcases (namesInCycle_iff_of_generate refused).mp named with ⟨target, member, leads, written⟩
      exact onCycle target member leads declaration inBatch written
  refine ⟨(cycle_of_generate refused).1, complete, exact_iff, fun undotted => ?_⟩
  rw [exact_iff]
  refine forall₂_congr fun target member => imp_congr_right fun leads => ?_
  have inBatch : target ∈ batch.declarations := List.mem_of_mem_filter member
  constructor
  · exact fun onCycle => onCycle target inBatch rfl
  · intro onCycle declaration declarationInBatch written
    have sameName := QualifiedName.eq_of_dotted_eq (undotted target inBatch)
      (undotted declaration declarationInBatch) written
    rwa [← List.inj_on_of_nodup_map batch.nodup inBatch declarationInBatch sameName]

/-- Two interfaces that extend each other, one of them below a third that extends nothing. -/
def reciprocal : Batch where
  declarations :=
    [{ name := ⟨"", "Up"⟩, kind := .interface, supertypes := [⟨"", "Down"⟩]
       markers := { interface? := some {} } },
     { name := ⟨"", "Root"⟩, kind := .interface, markers := { interface? := some {} } },
     { name := ⟨"", "Down"⟩, kind := .interface, supertypes := [⟨"", "Root"⟩, ⟨"", "Up"⟩]
       markers := { interface? := some {} } }]
  nodup := by decide

theorem generate_reciprocal :
    reciprocal.generate {} = .error (.inheritanceCycle [⟨"", "Down"⟩, ⟨"", "Up"⟩]) := by
  cbv

/-- Both interfaces on the cycle are named, and the one above it is not. -/
theorem namesCycle_reciprocal :
    reciprocal.generate {} = .error (.inheritanceCycle [⟨"", "Down"⟩, ⟨"", "Up"⟩]) ∧
      reciprocal.NamesCycle (.inheritanceCycle [⟨"", "Down"⟩, ⟨"", "Up"⟩]) := by
  have undotted : ∀ declaration ∈ reciprocal.declarations,
      '.' ∉ declaration.name.simple.toList := by decide
  refine ⟨generate_reciprocal, ((namesCycle_iff generate_reciprocal).2.2.2 undotted).mpr ?_⟩
  have toDown : ListsWithin reciprocal.interfaceTargets reciprocal.declarations[0]
      reciprocal.declarations[2] := ⟨by decide, by decide⟩
  have toUp : ListsWithin reciprocal.interfaceTargets reciprocal.declarations[2]
      reciprocal.declarations[0] := ⟨by decide, by decide⟩
  intro target member leads
  have inBatch : target ∈ reciprocal.declarations := List.mem_of_mem_filter member
  simp only [reciprocal, List.mem_cons, List.not_mem_nil, or_false] at inBatch
  rcases inBatch with rfl | rfl | rfl
  · exact .head toDown (.single toUp)
  · rcases leads.exists_upper with ⟨_, _, listed⟩
    cases listed
  · exact .head toUp (.single toDown)

/-- Two interfaces that extend each other, and one below them. -/
def trailing : Batch where
  declarations :=
    [{ name := ⟨"", "A"⟩, kind := .interface, supertypes := [⟨"", "B"⟩]
       markers := { interface? := some {} } },
     { name := ⟨"", "B"⟩, kind := .interface, supertypes := [⟨"", "A"⟩]
       markers := { interface? := some {} } },
     { name := ⟨"", "C"⟩, kind := .interface, supertypes := [⟨"", "A"⟩]
       markers := { interface? := some {} } }]
  nodup := by decide

theorem generate_trailing :
    trailing.generate {} = .error (.inheritanceCycle [⟨"", "A"⟩, ⟨"", "B"⟩, ⟨"", "C"⟩]) := by
  cbv

/-- The interface below the cycle is called a part of it, although none extends it. -/
theorem not_namesCycle_trailing :
    trailing.generate {} = .error (.inheritanceCycle [⟨"", "A"⟩, ⟨"", "B"⟩, ⟨"", "C"⟩]) ∧
      ¬ trailing.NamesCycle (.inheritanceCycle [⟨"", "A"⟩, ⟨"", "B"⟩, ⟨"", "C"⟩]) := by
  refine ⟨generate_trailing, fun names => ?_⟩
  have named : (Problem.inheritanceCycle [⟨"", "A"⟩, ⟨"", "B"⟩, ⟨"", "C"⟩]).NamesInCycle
      trailing.declarations[2].name :=
    Problem.namesInCycle_inheritanceCycle_iff.mpr ⟨⟨"", "C"⟩, by decide, rfl⟩
  rcases (names.onCycle trailing.declarations[2] (by decide) named).exists_lower with
    ⟨lower, member, listed⟩
  have noneExtends : ∀ target ∈ trailing.interfaceTargets,
      (⟨"", "C"⟩ : QualifiedName) ∉ target.supertypes := by
    decide
  exact noneExtends lower member listed

end Batch

end NativeWrappers
