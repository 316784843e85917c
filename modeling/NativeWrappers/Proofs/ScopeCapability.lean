import NativeWrappers.AccessorTable
import NativeWrappers.Proofs.Hierarchy.Lineage
/-!
# The scope capability

A scope provider passes on one of two grounds. As far as the batch tells, it is a subtype of the
runtime's capability interface, at the end of a chain of supertypes of any length. Or it ends up
with a property `scope` of the coroutine scope type, its own or an inherited one.
-/

namespace NativeWrappers.Batch

variable {batch : Batch} {declaration : Declaration} {type : QualifiedName}

/-- As far as the batch tells, the declaration is a subtype of the type: it lists the type itself,
or it lists a declaration of the batch that is one. -/
inductive IsSubtype (batch : Batch) (type : QualifiedName) : Declaration → Prop where
  | listed {declaration : Declaration} (listed : type ∈ declaration.supertypes) :
      IsSubtype batch type declaration
  | above {declaration supertype : Declaration} (lists : batch.Lists declaration supertype)
      (subtype : IsSubtype batch type supertype) : IsSubtype batch type declaration

theorem isSubtype_iff :
    batch.IsSubtype type declaration ↔
      ∃ ancestor, Relation.ReflTransGen batch.Lists declaration ancestor ∧
        type ∈ ancestor.supertypes := by
  constructor
  · intro subtype
    induction subtype with
    | listed listed => exact ⟨_, .refl, listed⟩
    | above lists _ ih =>
        rcases ih with ⟨ancestor, chain, listed⟩
        exact ⟨ancestor, .head lists chain, listed⟩
  · rintro ⟨ancestor, chain, listed⟩
    induction chain using Relation.ReflTransGen.head_induction_on with
    | refl => exact .listed listed
    | head lists _ ih => exact .above lists ih

theorem inherits_iff_isSubtype (member : declaration ∈ batch.declarations) :
    batch.inherits declaration type = true ↔ batch.IsSubtype type declaration := by
  rw [inherits, List.any_eq_true, isSubtype_iff]
  simp only [List.contains_iff_mem, mem_ancestry_iff member]

/-- Among the members of the declaration there is a property `scope` of the coroutine scope type. -/
def HasScopeProperty (batch : Batch) (declaration : Declaration) : Prop :=
  ∃ property ∈ (batch.members declaration).properties,
    property.name = "scope" ∧ isCoroutineScope property.type = true

/-- The two grounds on which a provider passes. -/
theorem exposesScope_iff (member : declaration ∈ batch.declarations) {runtime : RuntimeTypes} :
    batch.exposesScope declaration runtime = true ↔
      batch.IsSubtype runtime.scopeProviderName declaration ∨
        batch.HasScopeProperty declaration := by
  rw [exposesScope, Bool.or_eq_true, inherits_iff_isSubtype member, List.any_eq_true]
  simp only [HasScopeProperty, Bool.and_eq_true, beq_iff_eq]

end NativeWrappers.Batch
