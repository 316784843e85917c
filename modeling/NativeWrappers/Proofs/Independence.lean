import NativeWrappers.Files.Output
import NativeWrappers.Proofs.AccessorTable
import NativeWrappers.Proofs.Hierarchy.Restriction
import NativeWrappers.Proofs.WrapperModel
/-!
# Unrelated declarations

When some declarations of a batch name none of the others, as a supertype or as the scope provider
to fall back to, the others do not matter for them, whatever they are: they may extend the part, be
marked, or be cyclic among themselves. Every look-up for a declaration of the part stays within the
part, the order of the interfaces is that of the whole with the others left out, and so is every
list of outputs.
-/

namespace NativeWrappers

namespace WrapperModel

variable {model : WrapperModel} {keep : QualifiedName → Bool}

/-- The outputs that come from these declarations. -/
def restrict (model : WrapperModel) (keep : QualifiedName → Bool) : WrapperModel where
  accessors := model.accessors.filter (keep ·.provider)
  interfaces := model.interfaces.filter (keep ·.origin)
  classes := model.classes.filter (keep ·.origin)

theorem outputs_restrict : (model.restrict keep).outputs = model.outputs.filter (keep ·.2) := by
  rw [outputs, outputs, restrict, List.filter_append, List.filter_map, List.filter_map,
    ← List.filter_append]
  rfl

theorem zip_outputs_files (model : WrapperModel) (runtime : RuntimeTypes) :
    model.outputs.zip (Output.ofModel runtime model).files
      = model.accessors.map (fun accessor =>
          ((accessor.name, accessor.provider), SourceFile.ofAccessor accessor))
        ++ (model.interfaces ++ model.classes).map fun wrapper =>
          ((wrapper.name, wrapper.origin), SourceFile.ofWrapper runtime wrapper) := by
  rw [outputs, Output.ofModel, List.zip_append (by simp), List.zip_map', List.zip_map']

/-- A restricted model is rendered to the files of the outputs that are left. -/
theorem files_restrict (runtime : RuntimeTypes) :
    (Output.ofModel runtime (model.restrict keep)).files
      = ((model.outputs.zip (Output.ofModel runtime model).files).filter (keep ·.1.2)).map
        (·.2) := by
  rw [zip_outputs_files, List.filter_append, List.map_append, List.filter_map, List.filter_map,
    List.map_map, List.map_map, List.filter_append]
  rfl

end WrapperModel

namespace InterfaceTable

/-- The interfaces that come from these declarations. -/
def restrict (table : InterfaceTable) (keep : QualifiedName → Bool) : InterfaceTable where
  wrappers := table.wrappers.filter (keep ·.origin)
  nodup := table.nodup.sublist (List.filter_sublist.map _)

theorem get?_restrict (table : InterfaceTable) (keep : QualifiedName → Bool)
    (origin : QualifiedName) :
    (table.restrict keep).get? origin = if keep origin then table.get? origin else none :=
  find?_filter_key keep table.wrappers origin

end InterfaceTable

namespace AccessorTable

/-- The accessors of these providers. -/
def restrict (table : AccessorTable) (keep : QualifiedName → Bool) : AccessorTable where
  accessors := table.accessors.filter (keep ·.provider)
  nodup := table.nodup.sublist (List.filter_sublist.map _)

theorem get?_restrict (table : AccessorTable) (keep : QualifiedName → Bool)
    (provider : QualifiedName) :
    (table.restrict keep).get? provider = if keep provider then table.get? provider else none :=
  find?_filter_key keep table.accessors provider

end AccessorTable

namespace Batch

variable {batch : Batch} {conventions : Conventions} {keep : QualifiedName → Bool}

/-- The batch of these declarations alone, in their order. -/
def restrict (batch : Batch) (keep : QualifiedName → Bool) : Batch where
  declarations := batch.declarations.filter (keep ·.name)
  nodup := batch.nodup.sublist (List.filter_sublist.map _)

/-- The kept declarations name no other declaration of the batch, neither as a supertype nor as the
scope provider to fall back to. -/
structure SelfContained (batch : Batch) (keep : QualifiedName → Bool) : Prop where
  supertypes : ∀ declaration ∈ batch.declarations, keep declaration.name = true →
    ∀ supertype ∈ declaration.supertypes, supertype ∈ batch.names → keep supertype = true
  fallbacks : ∀ declaration ∈ batch.declarations, keep declaration.name = true →
    ∀ provider ∈ declaration.markers.class?.bind (·.launchOnScope?),
      provider ∈ batch.names → keep provider = true

theorem get?_restrict (batch : Batch) (keep : QualifiedName → Bool) (name : QualifiedName) :
    (batch.restrict keep).get? name = if keep name then batch.get? name else none :=
  find?_filter_key keep batch.declarations name

/-- Leaving out does not matter for what is kept, or not there anyway. -/
theorem ite_eq_of_imp {α : Type} {kept : Bool} {found : Option α}
    (imp : ∀ value, found = some value → kept = true) : (if kept then found else none) = found := by
  rcases found with _ | value
  · rw [ite_self]
  · rw [if_pos (imp value rfl)]

theorem interfaceTargets_restrict :
    (batch.restrict keep).interfaceTargets = batch.interfaceTargets.filter (keep ·.name) :=
  List.filter_comm _ _ _

theorem classTargets_restrict :
    (batch.restrict keep).classTargets = batch.classTargets.filter (keep ·.name) :=
  List.filter_comm _ _ _

theorem scopeProviders_restrict :
    (batch.restrict keep).scopeProviders = batch.scopeProviders.filter (keep ·.name) :=
  List.filter_comm _ _ _

theorem mem_names_of_get?_of_interfaceTable {table : InterfaceTable}
    (built : batch.interfaceTable conventions = .ok table) {origin : QualifiedName}
    {wrapper : Wrapper} (found : table.get? origin = some wrapper) : origin ∈ batch.names := by
  rcases exists_settled_of_interfaceTable built with ⟨order, reordered, _, settled⟩
  rcases settled.exists_target_of_get? found with ⟨target, targetMember, named⟩
  exact List.mem_map.mpr ⟨target, subset_declarations_of_perm reordered targetMember, named⟩

theorem mem_names_of_get?_of_accessorTable {table : AccessorTable}
    (built : batch.accessorTable conventions = .ok table) {provider : QualifiedName}
    {accessor : Accessor} (found : table.get? provider = some accessor) :
    provider ∈ batch.names := by
  have listed : accessor.provider ∈ table.accessors.map (·.provider) :=
    List.mem_map_of_mem (List.mem_of_find?_eq_some found)
  have exposes : accessor.provider = provider := AccessorTable.provider_of_get? found
  rw [providers_of_accessorTable built, exposes] at listed
  rcases List.mem_map.mp listed with ⟨exported, exportedMember, named⟩
  exact List.mem_map.mpr ⟨exported, List.mem_of_mem_filter exportedMember, named⟩

section Restricted

variable (closed : batch.SelfContained keep)

include closed

theorem sameLineage_restrict {declaration : Declaration}
    (member : declaration ∈ batch.declarations) (kept : keep declaration.name = true) :
    SameLineage batch (batch.restrict keep) declaration := by
  apply SameLineage.of_agree fun name => name ∈ batch.names → keep name = true
  · intro name inside
    rw [get?_restrict]
    refine (ite_eq_of_imp fun found foundName => inside ?_).symm
    exact contains_iff.mp (Option.isSome_iff_exists.mpr ⟨found, foundName⟩)
  · intro other otherMember inside
    exact closed.supertypes other otherMember (inside (List.mem_map_of_mem otherMember))
  · exact closed.supertypes declaration member kept

theorem accessorTable_restrict {table : AccessorTable}
    (built : batch.accessorTable conventions = .ok table) :
    (batch.restrict keep).accessorTable conventions = .ok (table.restrict keep) := by
  rw [accessorTable_eq_ok_iff] at built ⊢
  rw [scopeProviders_restrict]
  refine mapM_filter_eq_ok ?_ ?_ built
  · intro provider accessor accessorBuilt
    rw [provider_of_accessor accessorBuilt]
  · intro provider member kept
    exact accessor_congr (sameLineage_restrict closed (List.mem_of_mem_filter member) kept)

theorem interfaceTable_restrict {table : InterfaceTable}
    (built : batch.interfaceTable conventions = .ok table) :
    (batch.restrict keep).interfaceTable conventions = .ok (table.restrict keep) := by
  rcases interfaceTable_eq_ok_iff.mp built with ⟨order, ordered, traversed⟩
  have reordered := (perm_and_supertypesFirst_of_eq_ok batch.nodup_interfaceTargets ordered).1
  have orderSubset := subset_declarations_of_perm reordered
  have closedTargets : KeepsSupertypes batch.interfaceTargets keep := by
    intro target targetMember kept supertype supertypeMember listed
    exact closed.supertypes target (List.mem_of_mem_filter targetMember) kept supertype.name listed
      (List.mem_map_of_mem (List.mem_of_mem_filter supertypeMember))
  refine interfaceTable_eq_ok_iff.mpr ⟨order.filter (keep ·.name), ?_, ?_⟩
  · rw [interfaceTargets_restrict]
    exact supertypesFirst_filter batch.nodup_interfaceTargets closedTargets ordered
  · refine mapM_filter_eq_ok ?_ ?_ traversed
    · intro target wrapper generated
      rw [origin_of_interfaceWrapper generated]
    · intro target member kept
      apply interfaceWrapper_congr (sameLineage_restrict closed (orderSubset member) kept)
      intro supertype listed
      -- only declarations of the batch have interfaces, and those that the target lists are kept
      rw [InterfaceTable.get?_restrict]
      refine (ite_eq_of_imp fun wrapper found => ?_).symm
      exact closed.supertypes target (orderSubset member) kept supertype listed
        (mem_names_of_get?_of_interfaceTable built found)

theorem fallbackScope?_restrict {table : AccessorTable} {target : Declaration}
    (built : batch.accessorTable conventions = .ok table) (member : target ∈ batch.declarations)
    (kept : keep target.name = true) :
    fallbackScope? table target = fallbackScope? (table.restrict keep) target := by
  have fallbackKept := closed.fallbacks target member kept
  rw [fallbackScope?, fallbackScope?]
  generalize target.markers.class?.bind (·.launchOnScope?) = provider? at fallbackKept
  rcases provider? with _ | provider
  · rfl
  · dsimp only
    rw [AccessorTable.get?_restrict, ite_eq_of_imp fun accessor found => ?_]
    exact fallbackKept provider rfl (mem_names_of_get?_of_accessorTable built found)

theorem classWrappers_restrict {interfaces : InterfaceTable} {accessors : AccessorTable}
    {classes : List Wrapper} (interfacesBuilt : batch.interfaceTable conventions = .ok interfaces)
    (accessorsBuilt : batch.accessorTable conventions = .ok accessors)
    (built : batch.classWrappers conventions interfaces accessors = .ok classes) :
    (batch.restrict keep).classWrappers conventions (interfaces.restrict keep)
      (accessors.restrict keep) = .ok (classes.filter (keep ·.origin)) := by
  rw [classWrappers, classTargets_restrict]
  refine mapM_filter_eq_ok ?_ ?_ built
  · intro target wrapper generated
    rw [origin_of_classWrapper generated]
  · intro target targetMember kept
    have member : target ∈ batch.declarations := List.mem_of_mem_filter targetMember
    apply classWrapper_congr (sameLineage_restrict closed member kept)
    · intro origin namedOrListed
      rw [InterfaceTable.get?_restrict]
      refine (ite_eq_of_imp fun wrapper found => ?_).symm
      rcases List.mem_cons.mp namedOrListed with named | listed
      · rw [named]
        exact kept
      · exact closed.supertypes target member kept origin listed
          (mem_names_of_get?_of_interfaceTable interfacesBuilt found)
    · exact fallbackScope?_restrict closed accessorsBuilt member kept

end Restricted

/-- What is generated from declarations that name no others is what the whole batch gives for them:
each list of outputs with the others left out, and the very same files. -/
theorem generate_restrict {model : WrapperModel} (closed : batch.SelfContained keep)
    (generated : batch.generate conventions = .ok model) :
    (batch.restrict keep).generate conventions = .ok (model.restrict keep) ∧
      ∃ output part, batch.output conventions = .ok output ∧
        (batch.restrict keep).output conventions = .ok part ∧
        part.files = ((model.outputs.zip output.files).filter (keep ·.1.2)).map (·.2) := by
  have generatedPart :
      (batch.restrict keep).generate conventions = .ok (model.restrict keep) := by
    rcases generate_eq_ok_iff.mp generated with ⟨accessors, interfaces, accessorsBuilt,
      interfacesBuilt, classesBuilt, sameAccessors, sameInterfaces, noCollision⟩
    refine generate_eq_ok_iff.mpr ⟨accessors.restrict keep, interfaces.restrict keep,
      accessorTable_restrict closed accessorsBuilt, interfaceTable_restrict closed interfacesBuilt,
      classWrappers_restrict closed interfacesBuilt accessorsBuilt classesBuilt, ?_, ?_, ?_⟩
    · rw [WrapperModel.restrict, sameAccessors]
      rfl
    · rw [WrapperModel.restrict, sameInterfaces]
      rfl
    · rw [WrapperModel.collision?_nil_eq_none_iff] at noCollision ⊢
      rw [WrapperModel.outputs_restrict]
      refine ⟨?_, noCollision.2.sublist (List.filter_sublist.map _)⟩
      intro output member
      -- a name that no declaration of the batch has is no name of a kept one either
      have free := noCollision.1 output (List.mem_of_mem_filter member)
      rw [contains, get?_restrict]
      split
      · exact free
      · rfl
  refine ⟨generatedPart, .ofModel conventions.runtime model,
    .ofModel conventions.runtime (model.restrict keep), ?_, ?_, WrapperModel.files_restrict _⟩
  · rw [output, generated]
    rfl
  · rw [output, generatedPart]
    rfl

theorem generate_restrict_threeLevels :
    (threeLevels.restrict (· != ⟨"", "Leaf"⟩)).generate {}
      = .ok (WrapperModel.threeLevels.restrict (· != ⟨"", "Leaf"⟩)) :=
  (generate_restrict ⟨by decide, by decide⟩ generate_threeLevels).1

end Batch

end NativeWrappers
