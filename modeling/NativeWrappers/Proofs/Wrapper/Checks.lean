import NativeWrappers.Proofs.AccessorTable
import NativeWrappers.Proofs.Exposure
import NativeWrappers.Wrapper.Class
import NativeWrappers.Wrapper.Interface
/-!
# The checks of one generated declaration

An interface is refused only for the streams among the members that were collected for it. A class
is first refused for its visibility, then for the scope provider it falls back to, and then for the
streams among its members. Neither looks at the interfaces that it extends for this.
-/

namespace NativeWrappers

/-- The check on the result of a method. -/
def methodCheck (owner : QualifiedName) (method : Method) : Check :=
  streamCheck owner method.name method.suspending method.result

/-- The check on the type of a property, which is never handed over later. -/
def propertyCheck (owner : QualifiedName) (property : Property) : Check :=
  streamCheck owner property.name false property.type

/-- The checks on collected members, methods first. -/
def streamChecks (owner : QualifiedName) (members : Members) : List Check :=
  members.methods.map (methodCheck owner) ++ members.properties.map (propertyCheck owner)

/-- Only what is public or internal is mirrored. -/
def visibilityCheck (declaration : Declaration) : Check where
  violated := declaration.visibility.isReachable = false
  problem := .inaccessibleDeclaration declaration.name declaration.visibility

/-- The scope provider that a class falls back to, if its marker names one, has to be exported. -/
def Batch.fallbackChecks (batch : Batch) (declaration : Declaration) : List Check :=
  match declaration.markers.class?.bind (·.launchOnScope?) with
  | none => []
  | some provider =>
    [⟨∀ exported ∈ batch.scopeProviders, exported.name ≠ provider,
      .unknownScopeProvider declaration.name provider⟩]

/-- The checks of a class, in the order in which they are made. -/
def Batch.classChecks (batch : Batch) (declaration : Declaration) : List Check :=
  visibilityCheck declaration ::
    (batch.fallbackChecks declaration ++ streamChecks declaration.name (batch.members declaration))

section Members

variable {owner : QualifiedName} {surface : InheritedSurface} {runtime : RuntimeTypes}

theorem judged_ofMethod {method : Method} :
    Judged [methodCheck owner method] (Exposure.ofMethod owner method runtime) :=
  Exposure.judged_of

theorem judged_ofProperty {property : Property} :
    Judged [propertyCheck owner property] (Exposure.ofProperty owner property runtime) :=
  Exposure.judged_of

theorem judged_abstractMethod {method : Method} :
    Judged [methodCheck owner method] (abstractMethod owner surface runtime method) :=
  judged_ofMethod.map fun _ _ => ⟨_, rfl⟩

theorem judged_abstractProperty {property : Property} :
    Judged [propertyCheck owner property] (abstractProperty owner surface runtime property) :=
  judged_ofProperty.map fun _ _ => ⟨_, rfl⟩

theorem judged_delegateMethod {method : Method} :
    Judged [methodCheck owner method] (delegateMethod owner surface runtime method) :=
  judged_ofMethod.map fun _ _ => ⟨_, rfl⟩

theorem judged_delegateProperty {property : Property} :
    Judged [propertyCheck owner property] (delegateProperty owner surface runtime property) :=
  judged_ofProperty.map fun _ _ => ⟨_, rfl⟩

/-- Members that are generated one by one, methods first, make the checks of their streams. -/
theorem judged_members {members : Members} {α : Type}
    {methodStep : Method → Except Problem WrapperMethod}
    {propertyStep : Property → Except Problem WrapperProperty}
    {finish : List WrapperMethod → List WrapperProperty → α}
    (methodJudged : ∀ method, Judged [methodCheck owner method] (methodStep method))
    (propertyJudged : ∀ property, Judged [propertyCheck owner property] (propertyStep property)) :
    Judged (streamChecks owner members) (do
      let methods ← members.methods.mapM methodStep
      let properties ← members.properties.mapM propertyStep
      return finish methods properties) := by
  rw [streamChecks, List.map_eq_flatMap, List.map_eq_flatMap]
  apply (Judged.mapM fun method _ => methodJudged method).bind
  intro methods _
  apply (Judged.mapM fun property _ => propertyJudged property).map
  exact fun properties _ => ⟨finish methods properties, rfl⟩

end Members

namespace Batch

variable {batch : Batch} {conventions : Conventions} {interfaces : InterfaceTable}
  {accessors : AccessorTable} {declaration : Declaration} {name : QualifiedName}

theorem judged_interfaceWrapper :
    Judged (streamChecks declaration.name (batch.membersExcept declaration interfaces.contains))
      (batch.interfaceWrapper conventions interfaces declaration name) :=
  judged_members (fun _ => judged_abstractMethod) fun _ => judged_abstractProperty

theorem get?_eq_none_iff_of_accessorTable (built : batch.accessorTable conventions = .ok accessors)
    {provider : QualifiedName} :
    accessors.get? provider = none ↔
      ∀ exported ∈ batch.scopeProviders, exported.name ≠ provider := by
  have absent_iff : accessors.get? provider = none ↔
      provider ∉ accessors.accessors.map (·.provider) := by
    rw [AccessorTable.get?, List.find?_eq_none]
    simp
  rw [absent_iff, providers_of_accessorTable built, List.mem_map]
  simp

theorem judged_fallbackScope? (built : batch.accessorTable conventions = .ok accessors) :
    Judged (batch.fallbackChecks declaration) (fallbackScope? accessors declaration) := by
  rw [fallbackChecks, fallbackScope?]
  generalize declaration.markers.class?.bind (·.launchOnScope?) = provider?
  rcases provider? with _ | provider
  · exact .ok none
  · apply Judged.of_check
    · intro unknown
      dsimp only at unknown ⊢
      rw [(get?_eq_none_iff_of_accessorTable built).mpr unknown]
    · intro known
      dsimp only at known ⊢
      rcases found : accessors.get? provider with _ | accessor
      · exact absurd ((get?_eq_none_iff_of_accessorTable built).mp found) known
      · exact .ok (some accessor.name)

theorem judged_classWrapper (built : batch.accessorTable conventions = .ok accessors) :
    Judged (batch.classChecks declaration)
      (batch.classWrapper conventions interfaces accessors declaration name) := by
  apply Judged.of_check
  · intro unreachable
    change declaration.visibility.isReachable = false at unreachable
    rw [classWrapper, unreachable]
    rfl
  · intro reachable
    have isReachable : declaration.visibility.isReachable = true :=
      Bool.eq_true_of_not_eq_false reachable
    rw [classWrapper, if_pos isReachable]
    apply (judged_fallbackScope? built).bind
    intro scope? _
    exact judged_members (fun _ => judged_delegateMethod) fun _ => judged_delegateProperty

theorem judged_classWrappers (built : batch.accessorTable conventions = .ok accessors) :
    Judged (batch.classTargets.flatMap batch.classChecks)
      (batch.classWrappers conventions interfaces accessors) :=
  Judged.mapM fun _ _ => judged_classWrapper built

end Batch

end NativeWrappers
