import NativeWrappers.Problem
import NativeWrappers.Wrapper
/-!
# Tables of generated interfaces

The interfaces that exist at one moment of a pass, by the declaration they were generated from, and
the surface of members that a generated declaration overrides when it extends some of them.
-/

namespace NativeWrappers

/-- Generated interfaces with distinct origins, in the order of their generation. -/
structure InterfaceTable where
  wrappers : List Wrapper := []
  nodup : (wrappers.map (·.origin)).Nodup := by exact List.nodup_nil

namespace InterfaceTable

/-- The table of no interface. -/
def empty : InterfaceTable := {}

/-- The interface generated from this declaration. -/
def get? (table : InterfaceTable) (origin : QualifiedName) : Option Wrapper :=
  table.wrappers.find? (·.origin == origin)

/-- Whether an interface was generated from this declaration. -/
def contains (table : InterfaceTable) (origin : QualifiedName) : Bool :=
  (table.get? origin).isSome

/-- How many interfaces the table has. -/
def size (table : InterfaceTable) : Nat := table.wrappers.length

/-- Whether the table has no interface. -/
def isEmpty (table : InterfaceTable) : Bool := table.wrappers.isEmpty

/-- The table with one more interface. Its origin must be new. -/
def insert (table : InterfaceTable) (wrapper : Wrapper) : Except Problem InterfaceTable :=
  match found : table.get? wrapper.origin with
  | some existing => .error (.duplicateOutput wrapper.name existing.origin wrapper.origin)
  | none =>
    .ok
      { wrappers := table.wrappers ++ [wrapper]
        nodup := by
          simp only [List.map_append, List.map_cons, List.map_nil, List.nodup_append,
            table.nodup, true_and]
          refine ⟨by simp, ?_⟩
          intro origin member last lastMember equal
          simp only [List.mem_singleton] at lastMember
          obtain ⟨existing, inTable, named⟩ := List.mem_map.1 member
          have different := List.find?_eq_none.1 found existing inTable
          exact different (by simp [named, equal, lastMember]) }

theorem wrappers_of_insert {table extended : InterfaceTable} {wrapper : Wrapper}
    (inserted : table.insert wrapper = .ok extended) :
    extended.wrappers = table.wrappers ++ [wrapper] := by
  unfold insert at inserted
  split at inserted
  · cases inserted
  · cases inserted
    rfl

theorem mem_of_get? {table : InterfaceTable} {origin : QualifiedName} {wrapper : Wrapper}
    (found : table.get? origin = some wrapper) : wrapper ∈ table.wrappers :=
  List.mem_of_find?_eq_some found

theorem origin_of_get? {table : InterfaceTable} {origin : QualifiedName} {wrapper : Wrapper}
    (found : table.get? origin = some wrapper) : wrapper.origin = origin := by
  simpa using List.find?_some found

end InterfaceTable

/-- The members that the supertypes of a generated declaration expose, and which it overrides. -/
structure InheritedSurface where
  methods : List MethodKey
  properties : List String

namespace InheritedSurface

/-- What these generated supertypes expose together. -/
def ofSupertypes (supertypes : List Wrapper) : InheritedSurface where
  methods := supertypes.flatMap (·.methodKeys)
  properties := supertypes.flatMap (·.propertyNames)

/-- Whether a supertype exposes a method of this key. -/
def hasMethod (surface : InheritedSurface) (key : MethodKey) : Bool :=
  surface.methods.contains key

/-- Whether a supertype exposes a property of this name. -/
def hasProperty (surface : InheritedSurface) (name : String) : Bool :=
  surface.properties.contains name

end InheritedSurface

end NativeWrappers
