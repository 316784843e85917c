import NativeWrappers.Proofs.AccessorTable
import NativeWrappers.Proofs.Agreement
import NativeWrappers.Proofs.Index.Basic
import NativeWrappers.Proofs.Wrapper.InterfaceTable
/-!
# Stores with an index

Generated interfaces, accessors and the declarations of a batch are looked up by name again and
again. Here each of the three is kept as a list with an index, extended side by side. The tables of
the generator, which search their lists, turn out to be the same stores: an insertion is refused by
both or accepted by both, and an unguarded look-up through the index is never out of bounds and
finds what the search finds.
-/

namespace NativeWrappers

namespace IndexedList

variable {α : Type} {key : α → QualifiedName} {store : IndexedList α} {entries : List α}

/-- The store holds these entries, with an index that is in step. -/
structure Holds (store : IndexedList α) (key : α → QualifiedName) (entries : List α) : Prop where
  inStep : store.InStep key
  entries_eq : store.entries = entries

/-- The store holds these entries under distinct keys, the index points to them, and looking up in
the store is `get?`, which finds the one entry with a key. -/
structure Implements (store : IndexedList α) (key : α → QualifiedName) (entries : List α)
    (get? : QualifiedName → Option α) : Prop where
  entries_eq : store.entries = entries
  points : ∀ name position, store.index[name]? = some position →
    ∃ entry, store.entries[position]? = some entry ∧ key entry = name
  nodup : (store.entries.map key).Nodup
  find_eq : ∀ name, store.find name = .ok (get? name)
  get?_eq_some_iff : ∀ name entry, get? name = some entry ↔ entry ∈ store.entries ∧ key entry = name

namespace Holds

theorem empty : Holds ({} : IndexedList α) key [] :=
  ⟨inStep_empty, rfl⟩

theorem push (holds : store.Holds key entries) {entry : α} (fresh : key entry ∉ entries.map key) :
    (store.push (key entry) entry).Holds key (entries ++ [entry]) := by
  rw [← holds.entries_eq] at fresh ⊢
  exact ⟨holds.inStep.push fresh, rfl⟩

theorem implements (holds : store.Holds key entries) :
    store.Implements key entries fun name => entries.find? (key · == name) := by
  rw [← holds.entries_eq]
  exact
    { entries_eq := rfl
      points := fun _ _ => holds.inStep.points
      nodup := holds.inStep.nodup
      find_eq := holds.inStep.find_eq
      get?_eq_some_iff := fun _ _ => find?_key_eq_some_iff holds.inStep.nodup }

end Holds

end IndexedList

section Interfaces

/-- One more interface, if the index does not have its origin. -/
def IndexedList.insertWrapper (store : IndexedList Wrapper) (wrapper : Wrapper) :
    Except OutOfBounds (Except Problem (IndexedList Wrapper)) := do
  match ← store.find wrapper.origin with
  | some existing => return .error (.duplicateOutput wrapper.name existing.origin wrapper.origin)
  | none => return .ok (store.push wrapper.origin wrapper)

/-- An interface that is refused leaves the store as it is. -/
def IndexedList.insertWrapperOrKeep (store : IndexedList Wrapper) (wrapper : Wrapper) :
    Except OutOfBounds (IndexedList Wrapper) := do
  match ← store.insertWrapper wrapper with
  | .ok extended => return extended
  | .error _ => return store

/-- What becomes of these attempts to insert. -/
def IndexedList.ofWrappers (wrappers : List Wrapper) : Except OutOfBounds (IndexedList Wrapper) :=
  wrappers.foldlM IndexedList.insertWrapperOrKeep {}

/-- An interface that is refused leaves the table as it is. -/
def InterfaceTable.insertOrKeep (table : InterfaceTable) (wrapper : Wrapper) : InterfaceTable :=
  match table.insert wrapper with
  | .ok extended => extended
  | .error _ => table

/-- What becomes of these attempts to insert. -/
def InterfaceTable.ofWrappers (wrappers : List Wrapper) : InterfaceTable :=
  wrappers.foldl InterfaceTable.insertOrKeep InterfaceTable.empty

namespace IndexedList

variable {store : IndexedList Wrapper} {table : InterfaceTable}

theorem Holds.find_eq_get? (holds : store.Holds (·.origin) table.wrappers)
    (origin : QualifiedName) : store.find origin = .ok (table.get? origin) :=
  holds.implements.find_eq origin

/-- Store and table refuse the same interfaces, with the same problem. -/
theorem exists_insertWrapper_eq (holds : store.Holds (·.origin) table.wrappers)
    (wrapper : Wrapper) :
    ∃ result, store.insertWrapper wrapper = .ok result ∧
      Agree Eq (fun extended extended' => extended.Holds (·.origin) extended'.wrappers)
        result (table.insert wrapper) := by
  rw [insertWrapper, holds.find_eq_get?]
  cases found : table.get? wrapper.origin with
  | some existing =>
      rw [InterfaceTable.insert_of_get? found]
      exact ⟨_, rfl, .error rfl⟩
  | none =>
      have fresh := InterfaceTable.get?_eq_none_iff.mp found
      rcases InterfaceTable.exists_insert_eq_ok fresh with ⟨extended, inserted⟩
      rw [inserted]
      refine ⟨_, rfl, .ok ?_⟩
      rw [InterfaceTable.wrappers_of_insert inserted]
      exact holds.push fresh

theorem exists_insertWrapperOrKeep_eq (holds : store.Holds (·.origin) table.wrappers)
    (wrapper : Wrapper) :
    ∃ next, store.insertWrapperOrKeep wrapper = .ok next ∧
      next.Holds (·.origin) (table.insertOrKeep wrapper).wrappers := by
  rcases exists_insertWrapper_eq holds wrapper with ⟨result, inserted, agree⟩
  rw [insertWrapperOrKeep, inserted, InterfaceTable.insertOrKeep]
  generalize table.insert wrapper = result' at agree
  cases agree with
  | ok extendedHolds => exact ⟨_, rfl, extendedHolds⟩
  | error _ => exact ⟨_, rfl, holds⟩

theorem exists_foldlM_insertWrapperOrKeep_eq {wrappers : List Wrapper}
    (holds : store.Holds (·.origin) table.wrappers) :
    ∃ last, wrappers.foldlM insertWrapperOrKeep store = .ok last ∧
      last.Holds (·.origin) (wrappers.foldl InterfaceTable.insertOrKeep table).wrappers := by
  induction wrappers generalizing store table with
  | nil => exact ⟨store, rfl, holds⟩
  | cons wrapper rest ih =>
      rcases exists_insertWrapperOrKeep_eq holds wrapper with ⟨next, stepped, nextHolds⟩
      rw [List.foldlM_cons, stepped, List.foldl_cons]
      exact ih nextHolds

theorem exists_ofWrappers_eq (wrappers : List Wrapper) :
    ∃ store, ofWrappers wrappers = .ok store ∧
      store.Holds (·.origin) (InterfaceTable.ofWrappers wrappers).wrappers :=
  exists_foldlM_insertWrapperOrKeep_eq Holds.empty

/-- An interface is refused exactly if there is one of its origin. -/
theorem exists_insertWrapper_eq_error_iff (holds : store.Holds (·.origin) table.wrappers)
    {wrapper : Wrapper} :
    (∃ problem, store.insertWrapper wrapper = .ok (.error problem)) ↔
      wrapper.origin ∈ store.entries.map (·.origin) := by
  rw [holds.entries_eq, ← not_iff_not, ← InterfaceTable.get?_eq_none_iff, insertWrapper,
    holds.find_eq_get?]
  cases table.get? wrapper.origin with
  | some existing => simp [bind, Except.bind, pure, Except.pure]
  | none => simp [bind, Except.bind, pure, Except.pure]

end IndexedList

end Interfaces

section Accessors

/-- One more accessor, if its name is new. The index is by provider. -/
def IndexedList.insertAccessor (store : IndexedList Accessor) (accessor : Accessor) :
    Except Problem (IndexedList Accessor) :=
  match store.entries.find? (·.name == accessor.name) with
  | some existing => .error (.duplicateOutput accessor.name existing.provider accessor.provider)
  | none => .ok (store.push accessor.provider accessor)

/-- The accessors of all exported providers. -/
def IndexedList.ofProviders (batch : Batch) (conventions : Conventions) :
    Except Problem (IndexedList Accessor) :=
  batch.scopeProviders.foldlM
    (fun store provider => do store.insertAccessor (← batch.accessor conventions provider)) {}

namespace IndexedList

variable {batch : Batch} {conventions : Conventions} {store : IndexedList Accessor}
  {table : AccessorTable}

theorem insertAccessor_agree (holds : store.Holds (·.provider) table.accessors)
    {accessor : Accessor} (fresh : accessor.provider ∉ table.accessors.map (·.provider)) :
    Agree Eq (fun extended extended' => extended.Holds (·.provider) extended'.accessors ∧
        extended'.accessors = table.accessors ++ [accessor])
      (store.insertAccessor accessor) (table.insert accessor) := by
  rw [insertAccessor, holds.entries_eq]
  cases found : table.accessors.find? (·.name == accessor.name) with
  | some existing =>
      rw [AccessorTable.insert_of_find? found]
      exact .error rfl
  | none =>
      rcases AccessorTable.exists_insert_eq_ok found with ⟨extended, inserted⟩
      have accessors := AccessorTable.accessors_of_insert inserted
      rw [inserted]
      refine .ok ⟨?_, accessors⟩
      rw [accessors]
      exact holds.push fresh

/-- An insertion asks for a new name and not for a new provider. The index stays in step because
the providers still to come are new. -/
theorem foldlM_insertAccessor_agree {providers : List Declaration}
    (holds : store.Holds (·.provider) table.accessors)
    (distinct : (table.accessors.map (·.provider) ++ providers.map (·.name)).Nodup) :
    Agree Eq (fun extended extended' => extended.Holds (·.provider) extended'.accessors)
      (providers.foldlM
        (fun store provider => do store.insertAccessor (← batch.accessor conventions provider))
        store)
      (providers.foldlM
        (fun table provider => do table.insert (← batch.accessor conventions provider))
        table) := by
  induction providers generalizing store table with
  | nil => exact .ok holds
  | cons provider rest ih =>
      rw [List.foldlM_cons, List.foldlM_cons]
      cases built : batch.accessor conventions provider with
      | error problem => exact .error rfl
      | ok accessor =>
          have provided := Batch.provider_of_accessor built
          rw [List.map_cons, List.append_cons, ← provided] at distinct
          have fresh : accessor.provider ∉ table.accessors.map (·.provider) := by
            intro known
            exact List.disjoint_of_nodup_append distinct.of_append_left known List.mem_cons_self
          apply (insertAccessor_agree holds fresh).bind
          rintro extended extended' ⟨extendedHolds, accessors⟩
          apply ih extendedHolds
          simpa [accessors] using distinct

theorem ofProviders_agree :
    Agree Eq (fun store table => store.Holds (·.provider) table.accessors)
      (ofProviders batch conventions) (batch.accessorTable conventions) := by
  apply foldlM_insertAccessor_agree Holds.empty
  exact batch.nodup.sublist (List.filter_sublist.map _)

end IndexedList

end Accessors

section Declarations

variable {seen names : List QualifiedName} {name : QualifiedName}

theorem firstRepeated?_go_eq_some_iff (distinct : seen.Nodup) :
    firstRepeated?.go seen names = some name ↔ ∃ before after,
      names = before ++ name :: after ∧ (seen ++ before).Nodup ∧ name ∈ seen ++ before := by
  induction names generalizing seen with
  | nil => simp [firstRepeated?.go]
  | cons head rest ih =>
      rw [firstRepeated?.go]
      by_cases known : head ∈ seen
      · rw [if_pos known, Option.some.injEq]
        constructor
        · rintro rfl
          exact ⟨[], rest, rfl, by simpa using distinct, by simpa using known⟩
        · rintro ⟨before, after, split, front, _⟩
          cases before with
          | nil => exact (List.cons.inj split).1
          | cons first before =>
              -- A name before the first repeated one is not a repeated one itself.
              rw [(List.cons.inj split).1] at known
              exact absurd List.mem_cons_self (List.disjoint_of_nodup_append front known)
      · have extended : (seen ++ [head]).Nodup := by
          rw [← List.concat_eq_append]
          exact distinct.concat known
        rw [if_neg known, ih extended]
        constructor
        · rintro ⟨before, after, rfl, front, repeated⟩
          exact ⟨head :: before, after, rfl, by simpa using front, by simpa using repeated⟩
        · rintro ⟨before, after, split, front, repeated⟩
          cases before with
          | nil =>
              rw [List.append_nil, ← (List.cons.inj split).1] at repeated
              exact absurd repeated known
          | cons first before =>
              rcases List.cons.inj split with ⟨rfl, rfl⟩
              exact ⟨before, after, rfl, by simpa using front, by simpa using repeated⟩

/-- The first repeated name is the first one that is among those before it. -/
theorem firstRepeated?_eq_some_iff :
    firstRepeated? names = some name ↔
      ∃ before after, names = before ++ name :: after ∧ before.Nodup ∧ name ∈ before := by
  rw [firstRepeated?, firstRepeated?_go_eq_some_iff List.nodup_nil]
  simp only [List.nil_append]

/-- What repeats first need not be what is first among the names that repeat. -/
example : firstRepeated? [⟨"", "A"⟩, ⟨"", "B"⟩, ⟨"", "B"⟩, ⟨"", "A"⟩] = some ⟨"", "B"⟩ := by
  rfl

theorem firstRepeated?_eq_none_iff : firstRepeated? names = none ↔ names.Nodup := by
  refine ⟨nodup_of_firstRepeated?, fun distinct => ?_⟩
  rw [Option.eq_none_iff_forall_ne_some]
  intro name repeated
  rcases firstRepeated?_eq_some_iff.mp repeated with ⟨before, after, rfl, _, known⟩
  exact List.disjoint_of_nodup_append distinct known List.mem_cons_self

namespace Batch

variable {declarations : List Declaration}

theorem ofList_eq_error_iff :
    ofList declarations = .error name ↔ firstRepeated? (declarations.map (·.name)) = some name := by
  rw [ofList]
  split
  · next repeated found => rw [found, Except.error.injEq, Option.some.injEq]
  · next distinct => simp [distinct]

/-- Exactly a list in which a name repeats is refused. -/
theorem exists_ofList_eq_error_iff :
    (∃ name, ofList declarations = .error name) ↔ ¬ (declarations.map (·.name)).Nodup := by
  simp only [ofList_eq_error_iff, ← firstRepeated?_eq_none_iff, ← Option.isSome_iff_exists,
    Option.isSome_iff_ne_none]

/-- The name it is refused for is that of the first declaration that has the name of an earlier
one. -/
theorem ofList_eq_error_iff_exists :
    ofList declarations = .error name ↔ ∃ before repeated after,
      declarations = before ++ repeated :: after ∧ repeated.name = name ∧
        (before.map (·.name)).Nodup ∧ name ∈ before.map (·.name) := by
  rw [ofList_eq_error_iff, firstRepeated?_eq_some_iff]
  constructor
  · rintro ⟨before, after, split, distinct, known⟩
    rcases List.map_eq_append_iff.mp split with ⟨front, back, rfl, rfl, mapped⟩
    rcases List.map_eq_cons_iff.mp mapped with ⟨repeated, rest, rfl, named, rfl⟩
    exact ⟨front, repeated, rest, rfl, named, distinct, known⟩
  · rintro ⟨before, repeated, after, rfl, named, distinct, known⟩
    refine ⟨before.map (·.name), after.map (·.name), ?_, distinct, known⟩
    rw [List.map_append, List.map_cons, named]

end Batch

namespace IndexedList

/-- The index with the position of one more declaration, whose name must be new. -/
def register (index : Std.HashMap QualifiedName Nat) (numbered : Declaration × Nat) :
    Except QualifiedName (Std.HashMap QualifiedName Nat) :=
  let inserted := index.containsThenInsert numbered.1.name numbered.2
  if inserted.1 then .error numbered.1.name else .ok inserted.2

/-- The declarations with the index of their positions. -/
def ofDeclarations (declarations : List Declaration) :
    Except QualifiedName (IndexedList Declaration) := do
  return { entries := declarations, index := ← declarations.zipIdx.foldlM register ∅ }

variable {before : List Declaration} {index : Std.HashMap QualifiedName Nat}

theorem register_eq {numbered : Declaration × Nat} :
    register index numbered = if numbered.1.name ∈ index then .error numbered.1.name
      else .ok (index.insert numbered.1.name numbered.2) := by
  simp [register]

/-- Registering stops at the first name that is among those before it, and is in step otherwise. -/
theorem foldlM_register (rest : List Declaration) (inStep : InStep ⟨before, index⟩ (·.name)) :
    (∃ name, firstRepeated?.go (before.map (·.name)) (rest.map (·.name)) = some name ∧
      (rest.zipIdx before.length).foldlM register index = .error name) ∨
    (firstRepeated?.go (before.map (·.name)) (rest.map (·.name)) = none ∧
      ∃ extended, (rest.zipIdx before.length).foldlM register index = .ok extended ∧
        InStep ⟨before ++ rest, extended⟩ (·.name)) := by
  induction rest generalizing before index with
  | nil => exact .inr ⟨rfl, index, rfl, by rwa [List.append_nil]⟩
  | cons declaration rest ih =>
      have indexed : declaration.name ∈ index ↔ declaration.name ∈ before.map (·.name) :=
        inStep.mem_index_iff
      rw [List.map_cons, firstRepeated?.go, List.zipIdx_cons, List.foldlM_cons, register_eq]
      by_cases known : declaration.name ∈ before.map (·.name)
      · rw [if_pos known, if_pos (indexed.mpr known)]
        exact .inl ⟨declaration.name, rfl, rfl⟩
      · rw [if_neg known, if_neg (mt indexed.mp known)]
        have registered := ih (inStep.push known)
        simpa [IndexedList.push, bind, Except.bind] using registered

theorem ofDeclarations_agree (declarations : List Declaration) :
    Agree Eq (fun store batch => store.Holds (·.name) batch.declarations)
      (ofDeclarations declarations) (Batch.ofList declarations) := by
  rw [ofDeclarations]
  rcases foldlM_register declarations inStep_empty with
    ⟨name, repeated, stopped⟩ | ⟨distinct, index, registered, inStep⟩
  · rw [List.length_nil] at stopped
    rw [stopped, Batch.ofList_eq_error_iff.mpr repeated]
    exact .error rfl
  · rw [List.length_nil] at registered
    rw [registered]
    cases built : Batch.ofList declarations with
    | ok batch => exact .ok ⟨inStep, (Batch.declarations_of_ofList built).symm⟩
    | error name => cases distinct.symm.trans (Batch.ofList_eq_error_iff.mp built)

end IndexedList

end Declarations

namespace IndexedList

/-- The three stores are in step with their indexes, and they are the tables and the batch that the
generator works with. -/
theorem stores_inStep :
    (∀ wrappers, ∃ store, ofWrappers wrappers = .ok store ∧
      store.Implements (·.origin) (InterfaceTable.ofWrappers wrappers).wrappers
        (InterfaceTable.ofWrappers wrappers).get? ∧
      ∀ wrapper,
        (∃ result, store.insertWrapper wrapper = .ok result ∧
          Agree Eq (fun extended extended' => extended.Holds (·.origin) extended'.wrappers)
            result ((InterfaceTable.ofWrappers wrappers).insert wrapper)) ∧
        ((∃ problem, store.insertWrapper wrapper = .ok (.error problem)) ↔
          wrapper.origin ∈ store.entries.map (·.origin))) ∧
    (∀ batch conventions,
      Agree Eq (fun store table => store.Implements (·.provider) table.accessors table.get?)
        (ofProviders batch conventions) (batch.accessorTable conventions)) ∧
    (∀ declarations,
      Agree Eq (fun store batch => store.Implements (·.name) batch.declarations batch.get?)
        (ofDeclarations declarations) (Batch.ofList declarations)) ∧
    (∀ declarations, (∃ name, ofDeclarations declarations = .error name) ↔
      ¬ (declarations.map (·.name)).Nodup) ∧
    ∀ declarations name, ofDeclarations declarations = .error name ↔
      ∃ before repeated after, declarations = before ++ repeated :: after ∧
        repeated.name = name ∧ (before.map (·.name)).Nodup ∧ name ∈ before.map (·.name) := by
  refine ⟨?interfaces, ?accessors, ?declarations, ?refused, ?repeated⟩
  case interfaces =>
    intro wrappers
    rcases exists_ofWrappers_eq wrappers with ⟨store, built, holds⟩
    exact ⟨store, built, holds.implements, fun wrapper =>
      ⟨exists_insertWrapper_eq holds wrapper, exists_insertWrapper_eq_error_iff holds⟩⟩
  case accessors =>
    intro batch conventions
    exact ofProviders_agree.mono fun _ _ holds => holds.implements
  case declarations =>
    intro declarations
    exact (ofDeclarations_agree declarations).mono fun _ _ holds => holds.implements
  case refused =>
    intro declarations
    simp only [(ofDeclarations_agree declarations).eq_error_iff, Batch.exists_ofList_eq_error_iff]
  case repeated =>
    intro declarations name
    rw [(ofDeclarations_agree declarations).eq_error_iff, Batch.ofList_eq_error_iff_exists]

end IndexedList

end NativeWrappers
