import NativeWrappers.Hierarchy.Lineage
import NativeWrappers.Conventions
import NativeWrappers.Problem
import NativeWrappers.Wrapper
/-!
# Scope accessors

Exported scope providers become global accessors, which generated classes fall back to when they
are constructed without a scope. A provider has to be a reachable class, because its accessor
constructs it, and has to expose an execution scope: it lists the runtime's capability interface
among its supertypes, itself or through an ancestor, or it ends up with a property `scope` of the
coroutine scope type.
-/

namespace NativeWrappers

/-- The accessors of a batch, in input order of their providers and with distinct names. -/
structure AccessorTable where
  accessors : List Accessor := []
  nodup : (accessors.map (·.name)).Nodup := by exact List.nodup_nil

namespace AccessorTable

/-- The table of no accessor. -/
def empty : AccessorTable := {}

/-- The accessor that exposes this provider. -/
def get? (table : AccessorTable) (provider : QualifiedName) : Option Accessor :=
  table.accessors.find? (·.provider == provider)

/-- How many accessors the table has. -/
def size (table : AccessorTable) : Nat := table.accessors.length

/-- Whether the table has no accessor. -/
def isEmpty (table : AccessorTable) : Bool := table.accessors.isEmpty

/-- The table with one more accessor. The name must be new. -/
def insert (table : AccessorTable) (accessor : Accessor) : Except Problem AccessorTable :=
  match found : table.accessors.find? (·.name == accessor.name) with
  | some existing => .error (.duplicateOutput accessor.name existing.provider accessor.provider)
  | none =>
    .ok
      { accessors := table.accessors ++ [accessor]
        nodup := by
          simp only [List.map_append, List.map_cons, List.map_nil, List.nodup_append,
            table.nodup, true_and]
          refine ⟨by simp, ?_⟩
          intro name member last lastMember equal
          simp only [List.mem_singleton] at lastMember
          obtain ⟨existing, inAccessors, named⟩ := List.mem_map.1 member
          have different := List.find?_eq_none.1 found existing inAccessors
          exact different (by simp [named, equal, lastMember]) }

theorem accessors_of_insert {table extended : AccessorTable} {accessor : Accessor}
    (inserted : table.insert accessor = .ok extended) :
    extended.accessors = table.accessors ++ [accessor] := by
  unfold insert at inserted
  split at inserted
  · cases inserted
  · cases inserted
    rfl

end AccessorTable

namespace Batch

/-- Whether a type is the coroutine scope type. Arguments and nullability are not looked at. -/
def isCoroutineScope (type : TypeExpr) : Bool :=
  type.name == ⟨"kotlinx.coroutines", "CoroutineScope"⟩

/-- Whether the declaration or one of its ancestors in the batch lists this supertype. -/
def inherits (batch : Batch) (declaration : Declaration) (capability : QualifiedName) : Bool :=
  (batch.ancestry declaration).any (·.supertypes.contains capability)

/-- Whether the declaration exposes an execution scope. -/
def exposesScope (batch : Batch) (declaration : Declaration) (runtime : RuntimeTypes) : Bool :=
  batch.inherits declaration runtime.scopeProviderName ||
    (batch.members declaration).properties.any fun property =>
      property.name == "scope" && isCoroutineScope property.type

/-- The accessor of a provider, if the provider may have one. -/
def accessor (batch : Batch) (conventions : Conventions) (provider : Declaration) :
    Except Problem Accessor :=
  if !provider.visibility.isReachable then
    .error (.inaccessibleDeclaration provider.name provider.visibility)
  else if provider.isInterface then
    .error (.providerNotConstructible provider.name)
  else if !batch.exposesScope provider conventions.runtime then
    .error (.missingScopeCapability provider.name)
  else
    .ok
      { name := conventions.accessorName provider.name
        provider := provider.name
        visibility := provider.visibility.ofPeer }

/-- The accessors of all exported providers. The first provider that may have no accessor, or whose
accessor has the name of an earlier one, is the problem. -/
def accessorTable (batch : Batch) (conventions : Conventions) : Except Problem AccessorTable :=
  batch.scopeProviders.foldlM
    (fun table provider => do table.insert (← batch.accessor conventions provider))
    AccessorTable.empty

end Batch

end NativeWrappers
