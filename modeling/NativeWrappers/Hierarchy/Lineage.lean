import NativeWrappers.Batch
/-!
# Lineage and collected members

The lineage of a declaration lists it and then its ancestors in the batch, depth first along the
direct supertypes, each declaration once. Supertypes outside the batch are opaque and contribute
nothing. Cyclic hierarchies are allowed: a declaration that was visited is not entered again.

What a wrapper exposes is collected along the lineage. The first method of each key and the first
property of each name win, so an override shadows what it overrides, and only reachable members
count.
-/

namespace NativeWrappers

/-- The list with only the first element of each key kept. -/
def distinctBy {α κ : Type} [DecidableEq κ] (key : α → κ) : List α → List α
  | [] => []
  | first :: rest => first :: (distinctBy key rest).filter fun other => key other ≠ key first

section DistinctBy

variable {α κ : Type} [DecidableEq κ] {key : α → κ}

theorem mem_of_mem_distinctBy {element : α} {list : List α}
    (member : element ∈ distinctBy key list) : element ∈ list := by
  induction list with
  | nil => cases member
  | cons first rest ih =>
    simp only [distinctBy, List.mem_cons, List.mem_filter] at member
    rcases member with equal | ⟨inRest, _⟩
    · exact equal ▸ List.mem_cons_self
    · exact List.mem_cons_of_mem _ (ih inRest)

theorem nodup_map_distinctBy (list : List α) : ((distinctBy key list).map key).Nodup := by
  induction list with
  | nil => exact List.nodup_nil
  | cons first rest ih =>
    simp only [distinctBy, List.map_cons, List.nodup_cons]
    refine ⟨by simp, ?_⟩
    exact List.Nodup.sublist (List.Sublist.map key List.filter_sublist) ih

theorem exists_mem_distinctBy {element : α} {list : List α} (member : element ∈ list) :
    ∃ kept ∈ distinctBy key list, key kept = key element := by
  induction list with
  | nil => cases member
  | cons first rest ih =>
    by_cases same : key element = key first
    · exact ⟨first, by simp [distinctBy], same.symm⟩
    · rcases List.mem_cons.1 member with equal | inRest
      · exact absurd (by rw [equal]) same
      · obtain ⟨kept, keptMember, equal⟩ := ih inRest
        refine ⟨kept, ?_, equal⟩
        simp only [distinctBy, List.mem_cons, List.mem_filter]
        exact Or.inr ⟨keptMember, by simpa [equal] using same⟩

end DistinctBy

/-- The declarations of a list that do not have this name. -/
def withoutName (declarations : List Declaration) (name : QualifiedName) : List Declaration :=
  declarations.filter (·.name != name)

@[simp] theorem mem_withoutName {declarations : List Declaration} {name : QualifiedName}
    {declaration : Declaration} :
    declaration ∈ withoutName declarations name ↔
      declaration ∈ declarations ∧ declaration.name ≠ name := by
  simp [withoutName]

/-- Taking the name of a member away leaves fewer declarations. -/
theorem length_withoutName_lt {declarations : List Declaration} {declaration : Declaration}
    (member : declaration ∈ declarations) :
    (withoutName declarations declaration.name).length < declarations.length :=
  List.length_filter_lt_length_iff_exists.2 ⟨declaration, member, by simp⟩

/-- Visit the pending names in order. A name of an unvisited declaration yields it, and its own
supertypes come next, before what was pending. Any other name is passed over. -/
def preorder (unvisited : List Declaration) : (pending : List QualifiedName) → List Declaration
  | [] => []
  | name :: rest =>
    match _found : unvisited.find? (·.name == name) with
    | none => preorder unvisited rest
    | some declaration =>
      declaration ::
        preorder (withoutName unvisited declaration.name) (declaration.supertypes ++ rest)
termination_by pending => (unvisited.length, pending.length)
decreasing_by
  · exact Prod.Lex.right _ (by simp)
  · exact Prod.Lex.left _ _ (length_withoutName_lt (List.mem_of_find?_eq_some _found))

namespace Batch

/-- The declaration and then its ancestors in the batch, depth first, each once. Direct supertypes
for which `inherited` holds are not entered. -/
def lineage (batch : Batch) (declaration : Declaration) (inherited : QualifiedName → Bool) :
    List Declaration :=
  declaration :: preorder (withoutName batch.declarations declaration.name)
    (declaration.supertypes.filter (!inherited ·))

/-- The declaration and all its ancestors in the batch. -/
def ancestry (batch : Batch) (declaration : Declaration) : List Declaration :=
  batch.lineage declaration fun _ => false

end Batch

/-- The members that a wrapper exposes. -/
structure Members where
  methods : List Method := []
  properties : List Property := []
deriving DecidableEq, Repr

namespace Members

/-- The reachable members of a lineage: the first method of each key and the first property of
each name. -/
def ofLineage (lineage : List Declaration) : Members where
  methods := distinctBy (·.key) (lineage.flatMap (·.reachableMethods))
  properties := distinctBy (·.name) (lineage.flatMap (·.reachableProperties))

end Members

namespace Batch

/-- The members of a declaration and of all its ancestors. -/
def members (batch : Batch) (declaration : Declaration) : Members :=
  Members.ofLineage (batch.ancestry declaration)

/-- The members of a declaration and its ancestors, without those that reach it only through a
direct supertype for which `inherited` holds. -/
def membersExcept (batch : Batch) (declaration : Declaration) (inherited : QualifiedName → Bool) :
    Members :=
  Members.ofLineage (batch.lineage declaration inherited)

end Batch

end NativeWrappers
