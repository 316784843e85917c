import NativeWrappers.Files.Output
import NativeWrappers.Proofs.Hierarchy.Likeness
/-!
# Runs over alike batches

A pass cannot tell alike batches apart. Stage by stage, its run over the one agrees with its run
over the other: both build the same tables, or both stop at problems that count as the same. What a
stage takes over from an earlier one is therefore equal on both sides, and only what it reads from
the batch has to be compared.

Problems that are about names, visibilities and cycles are the same on both sides, so a problem
has to count as the same as itself.
-/

namespace NativeWrappers

variable {same : Problem → Problem → Prop}

section Members

variable {owner : QualifiedName} {surface : InheritedSurface} {runtime : RuntimeTypes}

theorem Method.Alike.abstract_agree {method method' : Method}
    (alike : Method.Alike same method method') :
    Agree same Eq (abstractMethod owner surface runtime method)
      (abstractMethod owner surface runtime method') := by
  apply (alike.exposures owner runtime).bind
  intro exposure exposure' exposuresAlike
  rw [alike.name, alike.parameters, alike.key, exposuresAlike.generated]
  exact .ok rfl

theorem Method.Alike.delegate_agree {method method' : Method}
    (alike : Method.Alike same method method') :
    Agree same Eq (delegateMethod owner surface runtime method)
      (delegateMethod owner surface runtime method') := by
  apply (alike.exposures owner runtime).bind
  intro exposure exposure' exposuresAlike
  rw [alike.name, alike.parameters, alike.visibility, alike.key, exposuresAlike.generated,
    exposuresAlike.wrapping]
  exact .ok rfl

theorem Property.Alike.abstract_agree {property property' : Property}
    (alike : Property.Alike same property property') :
    Agree same Eq (abstractProperty owner surface runtime property)
      (abstractProperty owner surface runtime property') := by
  apply (alike.exposures owner runtime).bind
  intro exposure exposure' exposuresAlike
  rw [alike.name, exposuresAlike.generated]
  exact .ok rfl

theorem Property.Alike.delegate_agree {property property' : Property}
    (alike : Property.Alike same property property') :
    Agree same Eq (delegateProperty owner surface runtime property)
      (delegateProperty owner surface runtime property') := by
  apply (alike.exposures owner runtime).bind
  intro exposure exposure' exposuresAlike
  rw [alike.name, alike.visibility, exposuresAlike.generated, exposuresAlike.wrapping]
  exact .ok rfl

end Members

namespace Declaration.Alike

variable {declaration declaration' : Declaration}
  (alike : Declaration.Alike same declaration declaration')

include alike

theorem interfaceName_eq (conventions : Conventions) :
    conventions.interfaceName declaration' = conventions.interfaceName declaration := by
  rw [Conventions.interfaceName, Conventions.interfaceName, alike.name, alike.markers]

theorem className_eq (conventions : Conventions) :
    conventions.className declaration' = conventions.className declaration := by
  rw [Conventions.className, Conventions.className, alike.name, alike.markers]

theorem fallbackScope?_eq (accessors : AccessorTable) :
    fallbackScope? accessors declaration' = fallbackScope? accessors declaration := by
  rw [fallbackScope?, fallbackScope?, alike.name, alike.markers]

theorem implementedInterfaces_eq (interfaces : InterfaceTable) :
    implementedInterfaces interfaces declaration'
      = implementedInterfaces interfaces declaration := by
  rw [implementedInterfaces, implementedInterfaces, alike.name, alike.supertypes]

end Declaration.Alike

/-- Collisions are found by what is in the batch, not by what it is like. -/
theorem WrapperModel.collision?_congr {batch batch' : Batch}
    (contained : ∀ name, batch'.contains name = batch.contains name)
    (claimed outputs : List (QualifiedName × QualifiedName)) :
    collision? batch' claimed outputs = collision? batch claimed outputs := by
  induction outputs generalizing claimed with
  | nil => rfl
  | cons output rest ih => simp only [collision?, contained, ih]

namespace Batch.Alike

variable {batch batch' : Batch} {declaration declaration' : Declaration} {conventions : Conventions}
  {interfaces : InterfaceTable} {accessors : AccessorTable} {name : QualifiedName}
  (alike : Batch.Alike same batch batch')

include alike

theorem exposesScope_eq (declarationsAlike : Declaration.Alike same declaration declaration')
    (runtime : RuntimeTypes) :
    batch'.exposesScope declaration' runtime = batch.exposesScope declaration runtime := by
  have inheritsEqual : batch'.inherits declaration' runtime.scopeProviderName
      = batch.inherits declaration runtime.scopeProviderName := by
    rw [inherits, inherits]
    apply any_eq_of_forall₂ (alike.lineage declarationsAlike _)
    intro ancestor ancestor' ancestorsAlike
    rw [ancestorsAlike.supertypes]
  rw [exposesScope, exposesScope, inheritsEqual]
  congr 1
  apply any_eq_of_forall₂ (alike.members declarationsAlike).properties
  intro property property' propertiesAlike
  rw [propertiesAlike.name, propertiesAlike.scope]

theorem accessor_eq (declarationsAlike : Declaration.Alike same declaration declaration') :
    batch'.accessor conventions declaration' = batch.accessor conventions declaration := by
  rw [accessor, accessor, alike.exposesScope_eq declarationsAlike,
    Declaration.isInterface, Declaration.isInterface, declarationsAlike.name,
    declarationsAlike.kind, declarationsAlike.visibility]

theorem interfaceWrapper_agree
    (declarationsAlike : Declaration.Alike same declaration declaration') :
    Agree same Eq (batch.interfaceWrapper conventions interfaces declaration name)
      (batch'.interfaceWrapper conventions interfaces declaration' name) := by
  have membersAlike := alike.membersExcept declarationsAlike interfaces.contains
  rw [interfaceWrapper, interfaceWrapper, declarationsAlike.name,
    declarationsAlike.supertypes, declarationsAlike.visibility]
  apply (Agree.mapM_eq membersAlike.methods fun _ _ => Method.Alike.abstract_agree).bind
  rintro methods _ rfl
  apply (Agree.mapM_eq membersAlike.properties fun _ _ => Property.Alike.abstract_agree).bind
  rintro properties _ rfl
  exact .ok rfl

theorem classWrapper_agree (reflexive : ∀ problem, same problem problem)
    (declarationsAlike : Declaration.Alike same declaration declaration') :
    Agree same Eq (batch.classWrapper conventions interfaces accessors declaration name)
      (batch'.classWrapper conventions interfaces accessors declaration' name) := by
  have membersAlike := alike.members declarationsAlike
  rw [classWrapper, classWrapper, declarationsAlike.fallbackScope?_eq,
    declarationsAlike.implementedInterfaces_eq, declarationsAlike.name,
    declarationsAlike.visibility]
  cases declaration.visibility.isReachable with
  | false => exact .error (reflexive _)
  | true =>
      apply (Agree.refl reflexive (fun _ => rfl) (fallbackScope? accessors declaration)).bind
      rintro scope? _ rfl
      apply (Agree.mapM_eq membersAlike.methods fun _ _ => Method.Alike.delegate_agree).bind
      rintro methods _ rfl
      apply (Agree.mapM_eq membersAlike.properties fun _ _ => Property.Alike.delegate_agree).bind
      rintro properties _ rfl
      exact .ok rfl

section Stages

variable (reflexive : ∀ problem, same problem problem)

include reflexive

theorem accessorTable_agree :
    Agree same Eq (batch.accessorTable conventions) (batch'.accessorTable conventions) := by
  apply Agree.foldlM (alike.filter_markers (·.exportedScopeProvider)) _ rfl
  rintro table _ provider provider' rfl providersAlike
  rw [alike.accessor_eq providersAlike]
  exact .refl reflexive (fun _ => rfl) _

theorem interfaceTable_agree :
    Agree same Eq (batch.interfaceTable conventions) (batch'.interfaceTable conventions) := by
  apply (supertypesFirst_alike (alike.filter_markers (·.interface?.isSome)) reflexive).bind
  intro order order' ordersAlike
  apply Agree.foldlM ordersAlike _ rfl
  rintro table _ target target' rfl targetsAlike
  rw [addInterface, addInterface, targetsAlike.interfaceName_eq]
  apply (alike.interfaceWrapper_agree targetsAlike).bind
  rintro wrapper _ rfl
  exact .refl reflexive (fun _ => rfl) _

theorem classWrappers_agree :
    Agree same Eq (batch.classWrappers conventions interfaces accessors)
      (batch'.classWrappers conventions interfaces accessors) := by
  apply Agree.mapM_eq (alike.filter_markers (·.class?.isSome))
  intro target target' targetsAlike
  rw [targetsAlike.className_eq]
  exact alike.classWrapper_agree reflexive targetsAlike

theorem generate_agree :
    Agree same Eq (batch.generate conventions) (batch'.generate conventions) := by
  apply (alike.accessorTable_agree reflexive).bind
  rintro accessors _ rfl
  apply (alike.interfaceTable_agree reflexive).bind
  rintro interfaces _ rfl
  apply (alike.classWrappers_agree reflexive).bind
  rintro classes _ rfl
  dsimp only
  rw [WrapperModel.collision?_congr alike.contains_eq]
  exact .refl reflexive (fun _ => rfl) _

theorem output_agree : Agree same Eq (batch.output conventions) (batch'.output conventions) := by
  apply (alike.generate_agree reflexive).bind
  rintro model _ rfl
  exact .ok rfl

end Stages

end Batch.Alike

end NativeWrappers
