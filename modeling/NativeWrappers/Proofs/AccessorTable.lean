import NativeWrappers.AccessorTable
import NativeWrappers.Proofs.Hierarchy.Lineage
/-!
# Accessors without the order of insertion

Accessors are inserted one after the other, and each insertion looks at those before it. All that
these looks amount to is that names are distinct: a table is built exactly when every provider has
an accessor and the accessors together form a table.
-/

namespace NativeWrappers

namespace AccessorTable

variable {table table' : AccessorTable} {accessor : Accessor}

theorem eq_iff_accessors_eq : table = table' ↔ table.accessors = table'.accessors := by
  cases table
  cases table'
  simp

theorem provider_of_get? {provider : QualifiedName}
    (found : table.get? provider = some accessor) : accessor.provider = provider := by
  simpa using List.find?_some found

theorem exists_insert_eq_ok (fresh : table.accessors.find? (·.name == accessor.name) = none) :
    ∃ extended, table.insert accessor = .ok extended := by
  rw [insert]
  split
  · next existing found =>
      rw [fresh] at found
      cases found
  · exact ⟨_, rfl⟩

theorem insert_of_find? {existing : Accessor}
    (found : table.accessors.find? (·.name == accessor.name) = some existing) :
    table.insert accessor
      = .error (.duplicateOutput accessor.name existing.provider accessor.provider) := by
  rw [insert]
  split
  · next other foundOther =>
      rw [found] at foundOther
      cases foundOther
      rfl
  · next absent =>
      rw [found] at absent
      cases absent

theorem insert_eq_ok_iff :
    table.insert accessor = .ok table' ↔ table'.accessors = table.accessors ++ [accessor] := by
  constructor
  · exact accessors_of_insert
  · intro extended
    have distinct := table'.nodup
    rw [extended, List.map_append, List.nodup_append] at distinct
    rw [insert]
    split
    · next existing found =>
        have sameName : existing.name = accessor.name := by simpa using List.find?_some found
        have existingName := List.mem_map_of_mem (f := (·.name)) (List.mem_of_find?_eq_some found)
        exact absurd sameName (distinct.2.2 _ existingName _ List.mem_cons_self)
    · rw [Except.ok.injEq, eq_iff_accessors_eq]
      exact extended.symm

end AccessorTable

namespace Batch

variable {batch batch' : Batch} {conventions : Conventions} {table table' : AccessorTable}

theorem foldlM_insert_eq_ok_iff {providers : List Declaration} :
    providers.foldlM
        (fun table provider => do table.insert (← batch.accessor conventions provider)) table
        = .ok table' ↔
      ∃ added, providers.mapM (batch.accessor conventions) = .ok added ∧
        table'.accessors = table.accessors ++ added := by
  induction providers generalizing table with
  | nil =>
      simp only [List.foldlM_nil, List.mapM_nil, pure_eq_ok_iff, exists_eq_left, List.append_nil]
      exact AccessorTable.eq_iff_accessors_eq
  | cons provider rest ih =>
      simp only [List.foldlM_cons, List.mapM_cons, bind_eq_ok_iff, pure_eq_ok_iff, ih]
      constructor
      · rintro ⟨extended, ⟨accessor, stepped, inserted⟩, added, traversed, equal⟩
        refine ⟨accessor :: added, ⟨accessor, stepped, added, traversed, rfl⟩, ?_⟩
        rw [equal, AccessorTable.accessors_of_insert inserted, List.append_assoc,
          List.singleton_append]
      · rintro ⟨_, ⟨accessor, stepped, added, traversed, rfl⟩, equal⟩
        rw [List.append_cons] at equal
        have distinct := table'.nodup
        rw [equal, List.map_append] at distinct
        refine ⟨⟨table.accessors ++ [accessor], distinct.of_append_left⟩, ?_⟩
        exact ⟨⟨accessor, stepped, AccessorTable.insert_eq_ok_iff.mpr rfl⟩, added, traversed, equal⟩

/-- A table is built exactly when it lists the accessors of all providers. -/
theorem accessorTable_eq_ok_iff :
    batch.accessorTable conventions = .ok table ↔
      batch.scopeProviders.mapM (batch.accessor conventions) = .ok table.accessors := by
  rw [accessorTable, foldlM_insert_eq_ok_iff, AccessorTable.empty]
  simp

/-- A provider is judged by its ancestors alone. -/
theorem accessor_congr {provider : Declaration} (same : SameLineage batch batch' provider) :
    batch.accessor conventions provider = batch'.accessor conventions provider := by
  rw [accessor, accessor, exposesScope, exposesScope, inherits, inherits, ancestry, ancestry, same,
    same.members]

theorem provider_of_accessor {provider : Declaration} {accessor : Accessor}
    (built : batch.accessor conventions provider = .ok accessor) :
    accessor.provider = provider.name := by
  rw [Batch.accessor] at built
  split at built
  · cases built
  · split at built
    · cases built
    · split at built
      · cases built
      · cases built
        rfl

theorem providers_of_accessorTable (built : batch.accessorTable conventions = .ok table) :
    table.accessors.map (·.provider) = batch.scopeProviders.map (·.name) :=
  map_eq_map_of_mapM_eq_ok (fun _ _ => provider_of_accessor) (accessorTable_eq_ok_iff.mp built)

theorem nodup_providers (built : batch.accessorTable conventions = .ok table) :
    (table.accessors.map (·.provider)).Nodup := by
  rw [providers_of_accessorTable built]
  exact batch.nodup.sublist (List.filter_sublist.map _)

end Batch

end NativeWrappers
