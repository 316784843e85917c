import NativeWrappers.Declaration
/-!
# Batches

One generation pass works on a batch: a list of declarations whose names are all different. The
order of the list breaks ties wherever the generator has a choice. Declarations without markers
belong to the batch too, because their members flow into what is generated from their subtypes.

Main statement: `get?` answers with the one declaration of a name (`get?_eq_some_iff`).
-/

namespace NativeWrappers

/-- The first name in the list that occurred before. -/
def firstRepeated? : (names : List QualifiedName) → Option QualifiedName :=
  go []
where
  go (seen : List QualifiedName) : List QualifiedName → Option QualifiedName
    | [] => none
    | name :: rest => if name ∈ seen then some name else go (seen ++ [name]) rest

theorem nodup_of_firstRepeated?_go {seen names : List QualifiedName} (distinct : seen.Nodup)
    (none : firstRepeated?.go seen names = none) : (seen ++ names).Nodup := by
  induction names generalizing seen with
  | nil => simpa using distinct
  | cons name rest ih =>
    unfold firstRepeated?.go at none
    split at none
    · contradiction
    · next fresh =>
      have extended : (seen ++ [name]).Nodup := by
        simp only [List.nodup_append, distinct, true_and]
        refine ⟨by simp, ?_⟩
        intro other member last lastMember equal
        simp only [List.mem_singleton] at lastMember
        subst lastMember
        exact fresh (equal ▸ member)
      simpa [List.append_assoc] using ih extended none

theorem nodup_of_firstRepeated? {names : List QualifiedName}
    (none : firstRepeated? names = none) : names.Nodup :=
  nodup_of_firstRepeated?_go List.nodup_nil none

/-- Distinctly named declarations, in input order. -/
structure Batch where
  declarations : List Declaration
  nodup : (declarations.map (·.name)).Nodup

namespace Batch

/-- The batch of these declarations, or the first name that repeats. -/
def ofList (declarations : List Declaration) : Except QualifiedName Batch :=
  match repeats : firstRepeated? (declarations.map (·.name)) with
  | some name => .error name
  | none => .ok ⟨declarations, nodup_of_firstRepeated? repeats⟩

/-- What is said of a list in which a declaration repeats. -/
def repetitionMessage (name : QualifiedName) : String :=
  "declaration " ++ name.quoted ++ " appears more than once"

/-- The declaration of this name, if the batch has one. -/
def get? (batch : Batch) (name : QualifiedName) : Option Declaration :=
  batch.declarations.find? (·.name == name)

/-- Whether the batch declares this name. -/
def contains (batch : Batch) (name : QualifiedName) : Bool :=
  (batch.get? name).isSome

/-- How many declarations the batch has. -/
def size (batch : Batch) : Nat := batch.declarations.length

/-- Whether the batch has no declaration. -/
def isEmpty (batch : Batch) : Bool := batch.declarations.isEmpty

/-- The names, in input order. -/
def names (batch : Batch) : List QualifiedName := batch.declarations.map (·.name)

/-- The declarations marked for interface generation, in input order. -/
def interfaceTargets (batch : Batch) : List Declaration :=
  batch.declarations.filter (·.markers.interface?.isSome)

/-- The declarations marked for class generation, in input order. -/
def classTargets (batch : Batch) : List Declaration :=
  batch.declarations.filter (·.markers.class?.isSome)

/-- The declarations exported as scope providers, in input order. -/
def scopeProviders (batch : Batch) : List Declaration :=
  batch.declarations.filter (·.markers.exportedScopeProvider)

theorem name_of_get? {batch : Batch} {name : QualifiedName} {declaration : Declaration}
    (found : batch.get? name = some declaration) : declaration.name = name := by
  simpa using List.find?_some found

theorem mem_of_get? {batch : Batch} {name : QualifiedName} {declaration : Declaration}
    (found : batch.get? name = some declaration) : declaration ∈ batch.declarations :=
  List.mem_of_find?_eq_some found

/-- Looking a member up by its name gives that member. -/
theorem get?_name {batch : Batch} {declaration : Declaration}
    (member : declaration ∈ batch.declarations) :
    batch.get? declaration.name = some declaration := by
  have distinct := batch.nodup
  unfold get?
  revert member distinct
  generalize batch.declarations = declarations
  intro member distinct
  induction declarations with
  | nil => cases member
  | cons head tail ih =>
    simp only [List.map_cons, List.nodup_cons] at distinct
    by_cases same : head.name = declaration.name
    · rcases List.mem_cons.1 member with equal | inTail
      · simp [equal]
      · exact absurd (List.mem_map.2 ⟨declaration, inTail, same.symm⟩) distinct.1
    · rcases List.mem_cons.1 member with equal | inTail
      · exact absurd (by rw [equal]) same
      · have unequal : (head.name == declaration.name) = false := by simp [same]
        rw [List.find?_cons, unequal]
        exact ih inTail distinct.2

/-- A look-up answers with exactly the member of that name. -/
theorem get?_eq_some_iff {batch : Batch} {name : QualifiedName} {declaration : Declaration} :
    batch.get? name = some declaration ↔
      declaration ∈ batch.declarations ∧ declaration.name = name :=
  ⟨fun found => ⟨mem_of_get? found, name_of_get? found⟩,
    fun ⟨member, equal⟩ => equal ▸ get?_name member⟩

theorem declarations_of_ofList {declarations : List Declaration} {batch : Batch}
    (built : ofList declarations = .ok batch) : batch.declarations = declarations := by
  unfold ofList at built
  split at built
  · cases built
  · cases built
    rfl

end Batch

end NativeWrappers
