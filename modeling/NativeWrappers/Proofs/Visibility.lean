import NativeWrappers.Proofs.Acceptance
import NativeWrappers.Proofs.References
/-!
# Which declarations are mirrored

A peer is public or internal and has to be able to refer to what it stands for. So accessors and
classes are generated from reachable declarations only. For interfaces nothing is checked: whatever
is marked gets one, and marking an unreachable declaration for an interface is the one way in which
it comes to be mirrored.
-/

namespace NativeWrappers

/-- A peer of the declaration can refer to it. -/
def Declaration.IsReachable (declaration : Declaration) : Prop :=
  declaration.visibility = .public ∨ declaration.visibility = .internal

instance Declaration.decidableIsReachable (declaration : Declaration) :
    Decidable declaration.IsReachable :=
  inferInstanceAs (Decidable (_ ∨ _))

namespace Batch

variable {batch : Batch} {conventions : Conventions} {model : WrapperModel}
  {declaration : Declaration}

/-- All targets are reachable, and so is every declaration that an output comes from. -/
structure MirrorsReachable (batch : Batch) (model : WrapperModel) : Prop where
  interfaceTargets : ∀ target ∈ batch.interfaceTargets, target.IsReachable
  classTargets : ∀ target ∈ batch.classTargets, target.IsReachable
  scopeProviders : ∀ provider ∈ batch.scopeProviders, provider.IsReachable
  origins : ∀ declaration ∈ batch.declarations, declaration.name ∈ model.outputs.map (·.2) →
    declaration.IsReachable

theorem accepted_of_generate (generated : batch.generate conventions = .ok model) :
    batch.Accepted conventions :=
  passed_checks_iff_accepted.mp (judged_generate.exists_eq_ok_iff.mp ⟨model, generated⟩)

/-- Targets of a batch are told apart by their names. -/
theorem mem_targets_of_name_mem {targets : List Declaration} (inBatch : targets ⊆ batch.declarations)
    (member : declaration ∈ batch.declarations) (named : declaration.name ∈ targets.map (·.name)) :
    declaration ∈ targets := by
  rcases List.mem_map.mp named with ⟨target, targetMember, sameName⟩
  rw [← List.inj_on_of_nodup_map batch.nodup (inBatch targetMember) member sameName]
  exact targetMember

/-- Where an output comes from is a target of its kind. -/
theorem target_of_mem_origins (covers : model.Covers batch)
    (member : declaration ∈ batch.declarations)
    (mirrored : declaration.name ∈ model.outputs.map (·.2)) :
    declaration ∈ batch.scopeProviders ∨ declaration ∈ batch.interfaceTargets ∨
      declaration ∈ batch.classTargets := by
  have origins : model.outputs.map (·.2) =
      model.accessors.map (·.provider) ++
        (model.interfaces.map (·.origin) ++ model.classes.map (·.origin)) := by
    simp [WrapperModel.outputs, Function.comp_def]
  rw [origins, List.mem_append, List.mem_append, covers.accessors, covers.interfaces.mem_iff,
    covers.classes] at mirrored
  rcases mirrored with ofProvider | ofInterface | ofClass
  · exact Or.inl (mem_targets_of_name_mem (List.filter_subset_self _) member ofProvider)
  · exact Or.inr (Or.inl (mem_targets_of_name_mem (List.filter_subset_self _) member ofInterface))
  · exact Or.inr (Or.inr (mem_targets_of_name_mem (List.filter_subset_self _) member ofClass))

/-- Only reachable declarations are mirrored exactly when all interface targets are reachable. No
accessor and no class is ever generated from an unreachable declaration. -/
theorem mirrorsReachable_iff (generated : batch.generate conventions = .ok model) :
    (batch.MirrorsReachable model ↔ ∀ target ∈ batch.interfaceTargets, target.IsReachable) ∧
      ∀ declaration ∈ batch.declarations, ¬ declaration.IsReachable →
        declaration.name ∉ model.accessors.map (·.provider) ∧
          declaration.name ∉ model.classes.map (·.origin) := by
  have accepted := accepted_of_generate generated
  have covers := covers_of_generate generated
  constructor
  · constructor
    · exact MirrorsReachable.interfaceTargets
    · intro interfacesReachable
      refine ⟨interfacesReachable, accepted.classesReachable, accepted.providersReachable, ?_⟩
      intro declaration member mirrored
      rcases target_of_mem_origins covers member mirrored with
        isProvider | isInterfaceTarget | isClassTarget
      · exact accepted.providersReachable declaration isProvider
      · exact interfacesReachable declaration isInterfaceTarget
      · exact accepted.classesReachable declaration isClassTarget
  · intro declaration member unreachable
    rw [covers.accessors, covers.classes]
    constructor
    · intro named
      have isProvider := mem_targets_of_name_mem (List.filter_subset_self _) member named
      exact unreachable (accepted.providersReachable declaration isProvider)
    · intro named
      have isClassTarget := mem_targets_of_name_mem (List.filter_subset_self _) member named
      exact unreachable (accepted.classesReachable declaration isClassTarget)

theorem mirrorsReachable_session :
    session.generate {} = .ok WrapperModel.session ∧
      session.MirrorsReachable WrapperModel.session := by
  refine ⟨generate_session, (mirrorsReachable_iff generate_session).1.mpr ?_⟩
  decide

/-- A private interface that is marked for interface generation. -/
def hidden : Batch where
  declarations :=
    [{ name := ⟨"", "Hidden"⟩, kind := .interface, visibility := .private
       markers := { interface? := some {} } }]
  nodup := by decide

end Batch

/-- The public interface that the private one gets. -/
def Wrapper.hidden : Wrapper where
  origin := ⟨"", "Hidden"⟩
  name := ⟨"", "HiddenNativeProtocol"⟩

namespace Batch

theorem interfaceTable_hidden :
    hidden.interfaceTable {} = .ok { wrappers := [.hidden], nodup := by decide } := by
  cbv

theorem generate_hidden : hidden.generate {} = .ok { interfaces := [.hidden] } := by
  refine generate_eq_ok_iff.mpr ⟨.empty, _, rfl, interfaceTable_hidden, rfl, rfl, rfl, ?_⟩
  decide

theorem not_mirrorsReachable_hidden :
    hidden.generate {} = .ok { interfaces := [.hidden] } ∧
      ¬ hidden.MirrorsReachable { interfaces := [.hidden] } := by
  refine ⟨generate_hidden, fun mirrors => ?_⟩
  have reachable := mirrors.origins hidden.declarations[0] List.mem_cons_self List.mem_cons_self
  exact reachable.elim nofun nofun

end Batch

end NativeWrappers
