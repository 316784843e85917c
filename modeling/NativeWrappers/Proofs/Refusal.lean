import NativeWrappers.Diagnostic.OfProblem
import NativeWrappers.Proofs.GenerationChecks
/-!
# What a refusal is about

Every check of generation reports its problem under a code, and the check for cycles and those of
collected streams share theirs with no other check. So the problem of a refused batch tells where it
was refused: a cycle at the one check for cycles, and a malformed stream at a member that was
collected for an interface target or for a class target.
-/

namespace NativeWrappers

/-- Where a batch was refused: the first check there that is violated reports the problem. -/
inductive Batch.RefusedAt (batch : Batch) (conventions : Conventions) (problem : Problem) : Prop where
  | provider {earlier : List Declaration} {provider : Declaration}
      (member : provider ∈ batch.scopeProviders)
      (first : FirstViolated (batch.providerChecks conventions earlier provider) problem)
  | cycle (violated : (cycleCheck batch.interfaceTargets).violated)
      (reported : (cycleCheck batch.interfaceTargets).problem = problem)
  | interface {target : Declaration} (member : target ∈ batch.interfaceTargets)
      (first : FirstViolated (batch.interfaceChecks target) problem)
  | class {target : Declaration} (member : target ∈ batch.classTargets)
      (first : FirstViolated (batch.classChecks target) problem)
  | name {earlier : List (QualifiedName × QualifiedName)} {output : QualifiedName × QualifiedName}
      (member : output ∈ batch.requestedOutputs conventions)
      (first : FirstViolated (batch.nameChecks earlier output) problem)

/-! ## Codes of checks -/

section Codes

variable {batch : Batch} {conventions : Conventions} {check : Check}

theorem FirstViolated.code_mem {checks : List Check} {problem : Problem} {codes : List ErrorCode}
    (coded : ∀ check ∈ checks, check.problem.code ∈ codes) (first : FirstViolated checks problem) :
    problem.code ∈ codes := by
  rcases first.exists_mem with ⟨check, member, _, rfl⟩
  exact coded check member

theorem code_of_mem_repetitionChecks {earlier : List (QualifiedName × QualifiedName)}
    {output : QualifiedName × QualifiedName} (member : check ∈ repetitionChecks earlier output) :
    check.problem.code = .duplicateOutput := by
  rcases List.mem_map.mp member with ⟨_, _, rfl⟩
  rfl

theorem code_of_mem_streamChecks {owner : QualifiedName} {members : Members}
    (member : check ∈ streamChecks owner members) : check.problem.code ∈ [.malformedStream] := by
  rcases List.mem_append.mp member with ofMethod | ofProperty
  · rcases List.mem_map.mp ofMethod with ⟨_, _, rfl⟩
    exact List.mem_cons_self
  · rcases List.mem_map.mp ofProperty with ⟨_, _, rfl⟩
    exact List.mem_cons_self

namespace Batch

theorem code_of_mem_providerChecks {earlier : List Declaration} {provider : Declaration}
    (member : check ∈ batch.providerChecks conventions earlier provider) :
    check.problem.code ∈ [.inaccessibleDeclaration, .providerNotConstructible,
      .missingScopeCapability, .duplicateOutput] := by
  rcases List.mem_append.mp member with ofAccessor | ofName
  · simp only [accessorChecks, List.mem_cons, List.not_mem_nil, or_false] at ofAccessor
    rcases ofAccessor with rfl | rfl | rfl <;> simp [visibilityCheck, Problem.code]
  · simp [code_of_mem_repetitionChecks ofName]

theorem classChecks_eq (batch : Batch) (target : Declaration) :
    batch.classChecks target = (visibilityCheck target :: batch.fallbackChecks target)
      ++ streamChecks target.name (batch.members target) := rfl

theorem code_of_mem_targetChecks {target : Declaration}
    (member : check ∈ visibilityCheck target :: batch.fallbackChecks target) :
    check.problem.code ∈ [.inaccessibleDeclaration, .unknownScopeProvider] := by
  rw [fallbackChecks] at member
  rcases List.mem_cons.mp member with rfl | ofFallback
  · simp [visibilityCheck, Problem.code]
  · split at ofFallback
    · cases ofFallback
    · rw [List.mem_singleton.mp ofFallback]
      simp [Problem.code]

theorem code_of_mem_nameChecks {earlier : List (QualifiedName × QualifiedName)}
    {output : QualifiedName × QualifiedName} (member : check ∈ batch.nameChecks earlier output) :
    check.problem.code ∈ [.duplicateOutput] := by
  rcases List.mem_cons.mp member with rfl | ofName
  · exact List.mem_cons_self
  · simp [code_of_mem_repetitionChecks ofName]

end Batch

end Codes

/-! ## Refusals by code -/

namespace Batch

variable {batch : Batch} {conventions : Conventions} {problem : Problem}

theorem targetOrder_subset : batch.targetOrder ⊆ batch.interfaceTargets := by
  rcases outcome : supertypesFirst batch.interfaceTargets with _ | order
  · rw [targetOrder, outcome]
    exact List.nil_subset _
  · rw [targetOrder_eq outcome]
    exact (perm_and_supertypesFirst_of_eq_ok batch.nodup_interfaceTargets outcome).1.subset

theorem refusedAt_of_generate (refused : batch.generate conventions = .error problem) :
    batch.RefusedAt conventions problem := by
  have first := judged_generate.eq_error_iff.mp refused
  rw [checks] at first
  rcases first.append_cases with ofProvider | first
  · rcases ofProvider.checksInOrder_cases with ⟨_, _, member, ofProvider⟩
    exact .provider member ofProvider
  rcases first.append_cases with ofInterfaces | first
  · cases ofInterfaces with
    | here violated => exact .cycle violated rfl
    | later _ ofInterface =>
        rcases ofInterface.flatMap_cases with ⟨_, member, ofInterface⟩
        exact .interface (targetOrder_subset member) ofInterface
  rcases first.append_cases with ofClass | ofName
  · rcases ofClass.flatMap_cases with ⟨_, member, ofClass⟩
    exact .class member ofClass
  · rcases ofName.checksInOrder_cases with ⟨_, _, member, ofName⟩
    exact .name member ofName

/-- A cycle and a malformed stream are reported nowhere but at the check for cycles and at those of
the members that were collected for a target. -/
theorem refused_of_code (refused : batch.generate conventions = .error problem)
    (code : problem.code = .inheritanceCycle ∨ problem.code = .malformedStream) :
    ((cycleCheck batch.interfaceTargets).violated ∧
        (cycleCheck batch.interfaceTargets).problem = problem) ∨
      (∃ target ∈ batch.interfaceTargets, FirstViolated (batch.interfaceChecks target) problem) ∨
      ∃ target ∈ batch.classTargets,
        FirstViolated (streamChecks target.name (batch.members target)) problem := by
  have elsewhere {codes : List ErrorCode} (noCycle : .inheritanceCycle ∉ codes)
      (noStream : .malformedStream ∉ codes) : problem.code ∉ codes := by
    rcases code with code | code <;> rwa [code]
  cases refusedAt_of_generate refused with
  | provider _ first =>
      exact absurd (first.code_mem fun _ => code_of_mem_providerChecks)
        (elsewhere (by decide) (by decide))
  | cycle violated reported => exact .inl ⟨violated, reported⟩
  | interface member first => exact .inr (.inl ⟨_, member, first⟩)
  | «class» member first =>
      rw [classChecks_eq] at first
      rcases first.append_cases with ofTarget | ofStream
      · exact absurd (ofTarget.code_mem fun _ => code_of_mem_targetChecks)
          (elsewhere (by decide) (by decide))
      · exact .inr (.inr ⟨_, member, ofStream⟩)
  | name _ first =>
      exact absurd (first.code_mem fun _ => code_of_mem_nameChecks)
        (elsewhere (by decide) (by decide))

theorem cycle_of_generate {members : List QualifiedName}
    (refused : batch.generate conventions = .error (.inheritanceCycle members)) :
    (∃ target ∈ batch.interfaceTargets,
        Relation.TransGen (ListsWithin batch.interfaceTargets) target target) ∧
      members = cycleReport batch.interfaceTargets := by
  rcases refused_of_code refused (.inl rfl) with
    ⟨violated, reported⟩ | ⟨_, _, first⟩ | ⟨_, _, first⟩
  · exact ⟨violated, (Problem.inheritanceCycle.inj reported).symm⟩
  · exact absurd (first.code_mem fun _ => code_of_mem_streamChecks) (by simp [Problem.code])
  · exact absurd (first.code_mem fun _ => code_of_mem_streamChecks) (by simp [Problem.code])

theorem stream_of_generate {owner : QualifiedName} {member type : String}
    (refused : batch.generate conventions = .error (.malformedStream owner member type)) :
    (∃ target ∈ batch.interfaceTargets,
        FirstViolated (batch.interfaceChecks target) (.malformedStream owner member type)) ∨
      ∃ target ∈ batch.classTargets, FirstViolated
        (streamChecks target.name (batch.members target)) (.malformedStream owner member type) := by
  rcases refused_of_code refused (.inr rfl) with ⟨_, reported⟩ | atTarget
  · cases reported
  · exact atTarget

end Batch

end NativeWrappers
