import NativeWrappers.Proofs.Traversal
/-!
# Lists with an index

A list whose entries have a key can be kept together with an index, a map from keys to positions. A
look-up takes the position from the index and the entry from the list, without asking whether the
list has the position. That goes well as long as the two are in step: the index has exactly the
positions of the keys. An entry with a new key keeps them in step.
-/

namespace NativeWrappers

instance : Hashable QualifiedName where
  hash name := mixHash (hash name.package) (hash name.simple)

/-- Entries, and positions of entries by their key. -/
structure IndexedList (α : Type) where
  entries : List α := []
  index : Std.HashMap QualifiedName Nat := ∅

/-- A position was looked up in a list that does not have it. -/
structure OutOfBounds where
  position : Nat

theorem getElem?_concat {α : Type} (list : List α) (last : α) (position : Nat) :
    (list ++ [last])[position]?
      = if position = list.length then some last else list[position]? := by
  induction list generalizing position with
  | nil => cases position <;> simp
  | cons head rest ih => cases position <;> simp [ih]

namespace IndexedList

variable {α : Type} {key : α → QualifiedName} {list : IndexedList α} {entry : α}
  {name : QualifiedName} {position : Nat}

/-- The entry at the position that the index has for the key. -/
def find (list : IndexedList α) (name : QualifiedName) : Except OutOfBounds (Option α) :=
  match list.index[name]? with
  | none => .ok none
  | some position =>
    match list.entries[position]? with
    | some entry => .ok (some entry)
    | none => .error ⟨position⟩

/-- The list with one more entry at the end, whose position the index has for the key. -/
def push (list : IndexedList α) (name : QualifiedName) (entry : α) : IndexedList α where
  entries := list.entries ++ [entry]
  index := list.index.insert name list.entries.length

/-- The index has for each key the position of the entry with that key, and has nothing else. -/
def InStep (list : IndexedList α) (key : α → QualifiedName) : Prop :=
  ∀ (name : QualifiedName) (position : Nat),
    list.index[name]? = some position ↔ (list.entries.map key)[position]? = some name

theorem inStep_empty : InStep ({} : IndexedList α) key := by
  intro name position
  simp

namespace InStep

theorem nodup (inStep : list.InStep key) : (list.entries.map key).Nodup := by
  rw [List.nodup_iff_getElem?_ne_getElem?]
  intro first second before bound same
  have present := List.getElem?_eq_getElem bound
  have firstIndexed := (inStep _ _).mpr (same.trans present)
  rw [(inStep _ _).mpr present, Option.some.injEq] at firstIndexed
  omega

/-- A position in the index is that of an entry with the key. -/
theorem points (inStep : list.InStep key) (indexed : list.index[name]? = some position) :
    ∃ entry, list.entries[position]? = some entry ∧ key entry = name := by
  rw [inStep, List.getElem?_map, Option.map_eq_some_iff] at indexed
  exact indexed

theorem mem_index_iff (inStep : list.InStep key) :
    name ∈ list.index ↔ name ∈ list.entries.map key := by
  rw [← Std.HashMap.isSome_getElem?_iff_mem, Option.isSome_iff_exists, List.mem_iff_getElem?]
  exact exists_congr fun position => inStep name position

/-- A look-up never fails, and it finds what a search of the list finds. -/
theorem find_eq (inStep : list.InStep key) (name : QualifiedName) :
    list.find name = .ok (list.entries.find? (key · == name)) := by
  rw [find]
  cases indexed : list.index[name]? with
  | none =>
      have absent : list.entries.find? (key · == name) = none := by
        rw [List.find?_eq_none]
        intro entry member keyed
        have known : name ∈ list.index :=
          inStep.mem_index_iff.mpr (beq_iff_eq.mp keyed ▸ List.mem_map_of_mem member)
        simp [known] at indexed
      rw [absent]
  | some position =>
      rcases inStep.points indexed with ⟨entry, at_position, keyed⟩
      have found := (find?_key_eq_some_iff inStep.nodup).mpr
        ⟨List.mem_of_getElem? at_position, keyed⟩
      simp only [at_position, found]

/-- A new key keeps list and index in step. -/
theorem push (inStep : list.InStep key) (fresh : key entry ∉ list.entries.map key) :
    (list.push (key entry) entry).InStep key := by
  intro name position
  simp only [IndexedList.push, Std.HashMap.getElem?_insert, List.map_append, List.map_cons,
    List.map_nil, getElem?_concat, List.length_map, beq_iff_eq]
  by_cases named : key entry = name
  · have unknown : (list.entries.map key)[position]? ≠ some name := fun known =>
      fresh (named ▸ List.mem_of_getElem? known)
    by_cases last : position = list.entries.length
    · simp [named, last]
    · rw [if_pos named, if_neg last, Option.some.injEq]
      simp only [unknown, Ne.symm last]
  · rw [if_neg named, inStep]
    by_cases last : position = list.entries.length
    · simp [named, last]
    · simp [last]

end InStep

end IndexedList

end NativeWrappers
