import NativeWrappers.Files.Output
import NativeWrappers.Proofs.AccessorTable
import NativeWrappers.Proofs.WrapperModel
/-!
# The order of the input

Reordering a batch changes which supertypes-first order the interfaces are generated in, and with it
every table that an interface is generated against on the way. It does not change what is
generated: any supertypes-first order builds the same interfaces that a settled table holds, and
everything else looks at declarations, interfaces and accessors by name.
-/

namespace NativeWrappers

namespace WrapperModel

/-- The outputs of each kind are the same, up to order. -/
structure Permuted (model model' : WrapperModel) : Prop where
  accessors : model.accessors.Perm model'.accessors
  interfaces : model.interfaces.Perm model'.interfaces
  classes : model.classes.Perm model'.classes

namespace Permuted

variable {model model' : WrapperModel}

theorem outputs (permuted : model.Permuted model') : model.outputs.Perm model'.outputs :=
  (permuted.accessors.map _).append ((permuted.interfaces.append permuted.classes).map _)

theorem files (permuted : model.Permuted model') (runtime : RuntimeTypes) :
    (Output.ofModel runtime model).files.Perm (Output.ofModel runtime model').files :=
  (permuted.accessors.map _).append ((permuted.interfaces.append permuted.classes).map _)

end Permuted

end WrapperModel

namespace Batch

variable {batch batch' : Batch} {conventions : Conventions}

section Permuted

variable (permuted : batch.declarations.Perm batch'.declarations)

include permuted

theorem exists_interfaceTable_of_perm {table : InterfaceTable}
    (built : batch.interfaceTable conventions = .ok table) :
    ∃ table', batch'.interfaceTable conventions = .ok table' ∧
      table'.wrappers.Perm table.wrappers := by
  have targetsPermuted : batch.interfaceTargets.Perm batch'.interfaceTargets := permuted.filter _
  rcases interfaceTable_eq_ok_iff.mp built with ⟨order, ordered, traversed⟩
  rcases perm_and_supertypesFirst_of_eq_ok batch.nodup_interfaceTargets ordered with
    ⟨reordered, first⟩
  rcases exists_eq_ok_of_supertypesFirst (reordered.trans targetsPermuted) first with
    ⟨order', ordered'⟩
  have reordered' := (perm_and_supertypesFirst_of_eq_ok batch'.nodup_interfaceTargets ordered').1
  have ordersPermuted : order'.Perm order :=
    reordered'.trans (targetsPermuted.symm.trans reordered.symm)
  -- the interfaces of the one table, put in the other order, are a fixed point as well
  rcases exists_mapM_eq_ok_of_perm ordersPermuted traversed with
    ⟨wrappers', traversed', wrappersPermuted⟩
  have distinct' : (wrappers'.map (·.origin)).Nodup :=
    (wrappersPermuted.map _).nodup_iff.mpr table.nodup
  have sameLookup : table.get? = (⟨wrappers', distinct'⟩ : InterfaceTable).get? :=
    InterfaceTable.get?_eq_of_perm wrappersPermuted.symm
  refine ⟨⟨wrappers', distinct'⟩, interfaceTable_eq_ok_iff.mpr ⟨order', ordered', ?_⟩,
    wrappersPermuted⟩
  rw [← traversed']
  apply mapM_congr_of_mem
  intro target _
  symm
  apply interfaceWrapper_congr (.of_perm permuted target)
  intro supertype _
  rw [sameLookup]

theorem exists_accessorTable_of_perm {table : AccessorTable}
    (built : batch.accessorTable conventions = .ok table) :
    ∃ table', batch'.accessorTable conventions = .ok table' ∧
      table'.accessors.Perm table.accessors := by
  have providersPermuted : batch'.scopeProviders.Perm batch.scopeProviders :=
    (permuted.filter _).symm
  have sameAccessors : batch.accessor conventions = batch'.accessor conventions :=
    funext fun provider => accessor_congr (.of_perm permuted provider)
  rw [accessorTable_eq_ok_iff, sameAccessors] at built
  rcases exists_mapM_eq_ok_of_perm providersPermuted built with ⟨accessors', built', reordered⟩
  have distinct' : (accessors'.map (·.name)).Nodup :=
    (reordered.map _).nodup_iff.mpr table.nodup
  exact ⟨⟨accessors', distinct'⟩, accessorTable_eq_ok_iff.mpr built', reordered⟩

theorem contains_eq_of_perm (name : QualifiedName) :
    batch.contains name = batch'.contains name := by
  rw [contains, contains, get?, get?, find?_key_eq_of_perm batch.nodup permuted]

theorem exists_classWrappers_of_perm {interfaces interfaces' : InterfaceTable}
    {accessors accessors' : AccessorTable} {classes : List Wrapper}
    (sameInterfaces : interfaces.get? = interfaces'.get?)
    (sameAccessors : accessors.get? = accessors'.get?)
    (built : batch.classWrappers conventions interfaces accessors = .ok classes) :
    ∃ classes', batch'.classWrappers conventions interfaces' accessors' = .ok classes' ∧
      classes'.Perm classes := by
  have targetsPermuted : batch'.classTargets.Perm batch.classTargets := (permuted.filter _).symm
  have sameClass (target : Declaration) :
      batch.classWrapper conventions interfaces accessors target (conventions.className target)
        = batch'.classWrapper conventions interfaces' accessors' target
          (conventions.className target) := by
    apply classWrapper_congr (.of_perm permuted target)
    · intro origin _
      rw [sameInterfaces]
    · rw [fallbackScope?, fallbackScope?, sameAccessors]
  rw [classWrappers, mapM_congr_of_mem fun target _ => sameClass target] at built
  exact exists_mapM_eq_ok_of_perm targetsPermuted built

theorem exists_generate_of_perm {model : WrapperModel}
    (generated : batch.generate conventions = .ok model) :
    ∃ model', batch'.generate conventions = .ok model' ∧ model.Permuted model' := by
  rcases generate_eq_ok_iff.mp generated with ⟨accessors, interfaces, accessorsBuilt,
    interfacesBuilt, classesBuilt, sameAccessors, sameInterfaces, noCollision⟩
  rcases exists_accessorTable_of_perm permuted accessorsBuilt with
    ⟨accessors', accessorsBuilt', accessorsPermuted⟩
  rcases exists_interfaceTable_of_perm permuted interfacesBuilt with
    ⟨interfaces', interfacesBuilt', interfacesPermuted⟩
  have interfaceLookup : interfaces.get? = interfaces'.get? :=
    InterfaceTable.get?_eq_of_perm interfacesPermuted.symm
  have accessorLookup : accessors.get? = accessors'.get? :=
    funext (find?_key_eq_of_perm (nodup_providers accessorsBuilt) accessorsPermuted.symm)
  rcases exists_classWrappers_of_perm permuted interfaceLookup accessorLookup classesBuilt with
    ⟨classes', classesBuilt', classesPermuted⟩
  have modelsPermuted : model.Permuted ⟨accessors'.accessors, interfaces'.wrappers, classes'⟩ := by
    refine ⟨?_, ?_, classesPermuted.symm⟩
    · rw [sameAccessors]
      exact accessorsPermuted.symm
    · rw [sameInterfaces]
      exact interfacesPermuted.symm
  refine ⟨_, generate_eq_ok_iff.mpr ⟨accessors', interfaces', accessorsBuilt', interfacesBuilt',
    classesBuilt', rfl, rfl, ?_⟩, modelsPermuted⟩
  rw [WrapperModel.collision?_nil_eq_none_iff] at noCollision ⊢
  refine ⟨?_, (modelsPermuted.outputs.map _).nodup_iff.mp noCollision.2⟩
  intro output member
  rw [← contains_eq_of_perm permuted]
  exact noCollision.1 output (modelsPermuted.outputs.mem_iff.mpr member)

end Permuted

/-- Generation succeeds on all reorderings of a batch or on none, and they have the same outputs and
the same files, in some order. -/
theorem generate_perm (permuted : batch.declarations.Perm batch'.declarations) :
    ((∃ model, batch.generate conventions = .ok model) ↔
        ∃ model, batch'.generate conventions = .ok model) ∧
      ∀ model model', batch.generate conventions = .ok model →
        batch'.generate conventions = .ok model' →
        model.Permuted model' ∧
          ∃ output output', batch.output conventions = .ok output ∧
            batch'.output conventions = .ok output' ∧ output.files.Perm output'.files := by
  refine ⟨⟨?_, ?_⟩, ?_⟩
  · rintro ⟨model, generated⟩
    rcases exists_generate_of_perm permuted generated with ⟨model', generated', _⟩
    exact ⟨model', generated'⟩
  · rintro ⟨model, generated⟩
    rcases exists_generate_of_perm permuted.symm generated with ⟨model', generated', _⟩
    exact ⟨model', generated'⟩
  · intro model model' generated generated'
    rcases exists_generate_of_perm permuted generated with ⟨other, otherGenerated, modelsPermuted⟩
    rw [generated'] at otherGenerated
    cases otherGenerated
    refine ⟨modelsPermuted, .ofModel conventions.runtime model,
      .ofModel conventions.runtime model', ?_, ?_, modelsPermuted.files conventions.runtime⟩
    · rw [output, generated]
      rfl
    · rw [output, generated']
      rfl

theorem generate_perm_threeLevels :
    ∃ model, (⟨threeLevels.declarations.reverse, by decide⟩ : Batch).generate {} = .ok model ∧
      WrapperModel.threeLevels.Permuted model := by
  have permuted : threeLevels.declarations.Perm
      (⟨threeLevels.declarations.reverse, by decide⟩ : Batch).declarations :=
    (List.reverse_perm _).symm
  rcases (generate_perm permuted).1.mp ⟨_, generate_threeLevels⟩ with ⟨model, generated⟩
  exact ⟨model, generated, ((generate_perm permuted).2 _ _ generate_threeLevels generated).1⟩

end Batch

end NativeWrappers
