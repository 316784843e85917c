import NativeWrappers.Proofs.Agreement
import NativeWrappers.Proofs.Hierarchy.Lineage
import NativeWrappers.Proofs.Hierarchy.Order
import NativeWrappers.Proofs.QualifiedName
import NativeWrappers.Proofs.Relocation.Basic
/-!
# Lineages and orders of relocated batches

Walks along the supertypes compare names and never look inside them. So a relocated batch is walked
in the same way: its lineages, collected members and supertypes-first orders are those of the batch,
relocated. Only the report of a cycle is different, because it is sorted by the names themselves.
-/

namespace NativeWrappers

namespace Relocation

variable (relocation : Relocation)

/-! ## Look-ups and lineages -/

theorem find?_declarations (declarations : List Declaration) (name : QualifiedName) :
    (declarations.map relocation.declaration).find? (·.name == relocation.name name)
      = (declarations.find? (·.name == name)).map relocation.declaration :=
  relocation.find?_map_move Declaration.name _ (fun _ => rfl) declarations name

theorem withoutName_declarations (declarations : List Declaration) (name : QualifiedName) :
    withoutName (declarations.map relocation.declaration) (relocation.name name)
      = (withoutName declarations name).map relocation.declaration := by
  rw [withoutName, withoutName, List.filter_map]
  congr 2
  funext declaration
  exact congrArg Bool.not (relocation.beq_name declaration.name name)

theorem preorder_declarations (unvisited : List Declaration) (pending : List QualifiedName) :
    preorder (unvisited.map relocation.declaration) (pending.map relocation.name)
      = (preorder unvisited pending).map relocation.declaration := by
  induction unvisited, pending using preorder.induct with
  | case1 unvisited => rw [List.map_nil, preorder, preorder, List.map_nil]
  | case2 unvisited name rest absent ih =>
      have absent' := relocation.find?_declarations unvisited name
      rw [absent] at absent'
      rw [List.map_cons, preorder_of_find?_eq_none absent, preorder_of_find?_eq_none absent', ih]
  | case3 unvisited name rest visited found ih =>
      have found' := relocation.find?_declarations unvisited name
      rw [found] at found'
      rw [List.map_append, ← withoutName_declarations] at ih
      rw [List.map_cons, preorder_of_find?_eq_some found, preorder_of_find?_eq_some found',
        List.map_cons, ← ih]
      rfl

theorem get?_batch (batch : Batch) (name : QualifiedName) :
    (relocation.batch batch).get? (relocation.name name)
      = (batch.get? name).map relocation.declaration :=
  relocation.find?_declarations batch.declarations name

theorem contains_batch (batch : Batch) (name : QualifiedName) :
    (relocation.batch batch).contains (relocation.name name) = batch.contains name := by
  rw [Batch.contains, Batch.contains, get?_batch, Option.isSome_map]

theorem filter_markers (batch : Batch) (marked : Markers → Bool)
    (kept : ∀ markers, marked (relocation.markers markers) = marked markers) :
    (relocation.batch batch).declarations.filter (marked ·.markers)
      = (batch.declarations.filter (marked ·.markers)).map relocation.declaration := by
  rw [Relocation.batch, List.filter_map]
  congr 2
  funext declaration
  exact kept declaration.markers

section Lineages

variable (batch : Batch) (declaration : Declaration) {inherited inherited' : QualifiedName → Bool}
  (same : ∀ name, inherited' (relocation.name name) = inherited name)

include same

theorem lineage_batch :
    (relocation.batch batch).lineage (relocation.declaration declaration) inherited'
      = (batch.lineage declaration inherited).map relocation.declaration := by
  have entered : (declaration.supertypes.map relocation.name).filter (!inherited' ·)
      = (declaration.supertypes.filter (!inherited ·)).map relocation.name := by
    rw [List.filter_map]
    congr 2
    funext name
    exact congrArg Bool.not (same name)
  have above := relocation.preorder_declarations (withoutName batch.declarations declaration.name)
    (declaration.supertypes.filter (!inherited ·))
  rw [← withoutName_declarations, ← entered] at above
  rw [Batch.lineage, Batch.lineage, List.map_cons, ← above]
  rfl

theorem methods_membersExcept :
    ((relocation.batch batch).membersExcept (relocation.declaration declaration) inherited').methods
      = (batch.membersExcept declaration inherited).methods.map relocation.method := by
  have offered (lineage : List Declaration) :
      (lineage.map relocation.declaration).flatMap (·.reachableMethods)
        = (lineage.flatMap (·.reachableMethods)).map relocation.method := by
    rw [List.map_flatMap, List.flatMap_map]
    simp only [reachableMethods_declaration]
  rw [Batch.membersExcept, Batch.membersExcept, relocation.lineage_batch batch declaration same,
    Members.ofLineage, Members.ofLineage, offered]
  exact distinctBy_map Function.injective_id relocation.key_method _

theorem properties_membersExcept :
    ((relocation.batch batch).membersExcept (relocation.declaration declaration)
        inherited').properties
      = (batch.membersExcept declaration inherited).properties.map relocation.property := by
  have offered (lineage : List Declaration) :
      (lineage.map relocation.declaration).flatMap (·.reachableProperties)
        = (lineage.flatMap (·.reachableProperties)).map relocation.property := by
    rw [List.map_flatMap, List.flatMap_map]
    simp only [reachableProperties_declaration]
  rw [Batch.membersExcept, Batch.membersExcept, relocation.lineage_batch batch declaration same,
    Members.ofLineage, Members.ofLineage, offered]
  have sameName (property : Property) : (relocation.property property).name = property.name := rfl
  exact distinctBy_map Function.injective_id sameName _

omit same

theorem ancestry_batch :
    (relocation.batch batch).ancestry (relocation.declaration declaration)
      = (batch.ancestry declaration).map relocation.declaration :=
  relocation.lineage_batch batch declaration fun _ => rfl

theorem methods_members :
    ((relocation.batch batch).members (relocation.declaration declaration)).methods
      = (batch.members declaration).methods.map relocation.method :=
  relocation.methods_membersExcept batch declaration fun _ => rfl

theorem properties_members :
    ((relocation.batch batch).members (relocation.declaration declaration)).properties
      = (batch.members declaration).properties.map relocation.property :=
  relocation.properties_membersExcept batch declaration fun _ => rfl

end Lineages

/-! ## Orders -/

section Orders

variable (declarations : List Declaration)

theorem lastPosition?_declarations (name : QualifiedName) :
    lastPosition? (declarations.map relocation.declaration) (relocation.name name)
      = lastPosition? declarations name := by
  induction declarations with
  | nil => rfl
  | cons head rest ih =>
      have sameName : (relocation.declaration head).name = relocation.name head.name := rfl
      rw [List.map_cons, lastPosition?, lastPosition?, ih, sameName]
      simp only [name_inj]

theorem positionsAbove_declarations :
    positionsAbove (declarations.map relocation.declaration) = positionsAbove declarations := by
  have sameAbove (declaration : Declaration) :
      supertypePositions (declarations.map relocation.declaration)
          (relocation.declaration declaration)
        = supertypePositions declarations declaration := by
    rw [supertypePositions, supertypePositions, Relocation.declaration, List.filterMap_map]
    exact List.filterMap_congr fun name _ => relocation.lastPosition?_declarations declarations name
  funext position
  rw [positionsAbove, positionsAbove, List.map_map]
  congr 2
  exact funext sameAbove

theorem declarationsAt_declarations (positions : List Nat) :
    declarationsAt (declarations.map relocation.declaration) positions
      = (declarationsAt declarations positions).map relocation.declaration := by
  rw [declarationsAt, declarationsAt, List.map_filterMap]
  apply List.filterMap_congr
  intro position _
  rw [List.getElem?_map]

/-- A relocated list has the relocated order, or reports the relocated cycle. -/
theorem supertypesFirst_agree :
    Agree relocation.Relocates (fun order order' => order.map relocation.declaration = order')
      (supertypesFirst declarations)
      (supertypesFirst (declarations.map relocation.declaration)) := by
  have placed : placedDeclarations (declarations.map relocation.declaration)
      = (placedDeclarations declarations).map relocation.declaration := by
    rw [placedDeclarations, placedDeclarations, positionsAbove_declarations, List.length_map,
      declarationsAt_declarations]
  have waiting : waitingDeclarations (declarations.map relocation.declaration)
      = (waitingDeclarations declarations).map relocation.declaration := by
    rw [waitingDeclarations, waitingDeclarations, positionsAbove_declarations, List.length_map,
      declarationsAt_declarations]
  rw [supertypesFirst_eq, supertypesFirst_eq, placed, waiting]
  simp only [List.map_eq_nil_iff]
  split
  · exact .ok rfl
  · refine .error (.inheritanceCycle ?_)
    have names : ((waitingDeclarations declarations).map relocation.declaration).map (·.name)
        = ((waitingDeclarations declarations).map (·.name)).map relocation.name := by
      rw [List.map_map, List.map_map]
      rfl
    rw [names]
    exact (QualifiedName.sort_perm _).trans ((QualifiedName.sort_perm _).symm.map _)

end Orders

end Relocation

end NativeWrappers
