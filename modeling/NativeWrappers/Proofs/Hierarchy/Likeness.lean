import NativeWrappers.AccessorTable
import NativeWrappers.Exposure
import NativeWrappers.Proofs.Agreement
import NativeWrappers.Proofs.Hierarchy.Lineage
import NativeWrappers.Proofs.Hierarchy.Order
/-!
# Alike declarations

What a pass reads of a declaration is its name, kind, visibility, supertypes and markers, and of its
reachable members the names, the parameters and what they expose. Two declarations are alike if
they have all of this in common, whatever the declared types and the unreachable members are. Alike
batches have alike lineages, alike collected members and alike orders of their interface targets.

A refusal to expose a member may be worded for its declared type. Which problems count as the same
is therefore left open.
-/

namespace NativeWrappers

section Lists

variable {α β κ : Type} {related : α → β → Prop} {list : List α} {list' : List β}

theorem rel_find? {keep : α → Bool} {keep' : β → Bool}
    (pointwise : List.Forall₂ related list list')
    (kept : ∀ element element', related element element' → keep' element' = keep element) :
    Option.Rel related (list.find? keep) (list'.find? keep') := by
  induction pointwise with
  | nil => exact .none
  | cons headsRelated _ ih =>
      rw [List.find?_cons, List.find?_cons, kept _ _ headsRelated]
      split
      · exact .some headsRelated
      · exact ih

theorem map_eq_of_forall₂ {value : α → κ} {value' : β → κ}
    (pointwise : List.Forall₂ related list list')
    (equal : ∀ element element', related element element' → value' element' = value element) :
    list'.map value' = list.map value := by
  induction pointwise with
  | nil => rfl
  | cons headsRelated _ ih => rw [List.map_cons, List.map_cons, equal _ _ headsRelated, ih]

theorem any_eq_of_forall₂ {holds : α → Bool} {holds' : β → Bool}
    (pointwise : List.Forall₂ related list list')
    (equal : ∀ element element', related element element' → holds' element' = holds element) :
    list'.any holds' = list.any holds := by
  induction pointwise with
  | nil => rfl
  | cons headsRelated _ ih => rw [List.any_cons, List.any_cons, equal _ _ headsRelated, ih]

theorem rel_distinctBy [DecidableEq κ] {key : α → κ} {key' : β → κ}
    (pointwise : List.Forall₂ related list list')
    (keyed : ∀ element element', related element element' → key' element' = key element) :
    List.Forall₂ related (distinctBy key list) (distinctBy key' list') := by
  induction pointwise with
  | nil => exact .nil
  | cons headsRelated _ ih =>
      refine .cons headsRelated (List.rel_filter ?_ ih)
      intro element element' elementsRelated
      simp only [keyed _ _ elementsRelated, keyed _ _ headsRelated]

end Lists

/-- Two exposures that generated members show in one way. -/
structure Exposure.Alike (exposure exposure' : Exposure) : Prop where
  wrapping : exposure'.delivery.wrapping = exposure.delivery.wrapping
  generated : exposure'.generated = exposure.generated

section Alike

variable (same : Problem → Problem → Prop)

/-- Two methods that are wrapped in one way, or refused for the same reason. -/
structure Method.Alike (method method' : Method) : Prop where
  name : method'.name = method.name
  parameters : method'.parameters = method.parameters
  visibility : method'.visibility = method.visibility
  exposures : ∀ owner runtime, Agree same Exposure.Alike
    (Exposure.ofMethod owner method runtime) (Exposure.ofMethod owner method' runtime)

/-- Two properties that are wrapped in one way, or refused for the same reason. -/
structure Property.Alike (property property' : Property) : Prop where
  name : property'.name = property.name
  visibility : property'.visibility = property.visibility
  scope : Batch.isCoroutineScope property'.type = Batch.isCoroutineScope property.type
  exposures : ∀ owner runtime, Agree same Exposure.Alike
    (Exposure.ofProperty owner property runtime) (Exposure.ofProperty owner property' runtime)

/-- Two declarations that differ only in what a pass does not read. -/
structure Declaration.Alike (declaration declaration' : Declaration) : Prop where
  name : declaration'.name = declaration.name
  kind : declaration'.kind = declaration.kind
  visibility : declaration'.visibility = declaration.visibility
  supertypes : declaration'.supertypes = declaration.supertypes
  markers : declaration'.markers = declaration.markers
  methods : List.Forall₂ (Method.Alike same)
    declaration.reachableMethods declaration'.reachableMethods
  properties : List.Forall₂ (Property.Alike same)
    declaration.reachableProperties declaration'.reachableProperties

/-- The members are alike, one by one. -/
structure Members.Alike (members members' : Members) : Prop where
  methods : List.Forall₂ (Method.Alike same) members.methods members'.methods
  properties : List.Forall₂ (Property.Alike same) members.properties members'.properties

/-- The declarations are alike, one by one. -/
def Batch.Alike (batch batch' : Batch) : Prop :=
  List.Forall₂ (Declaration.Alike same) batch.declarations batch'.declarations

end Alike

theorem Exposure.Alike.refl (exposure : Exposure) : exposure.Alike exposure := ⟨rfl, rfl⟩

variable {same : Problem → Problem → Prop}

theorem Method.Alike.refl (reflexive : ∀ problem, same problem problem) (method : Method) :
    Method.Alike same method method :=
  ⟨rfl, rfl, rfl, fun _ _ => .refl reflexive Exposure.Alike.refl _⟩

theorem Property.Alike.refl (reflexive : ∀ problem, same problem problem) (property : Property) :
    Property.Alike same property property :=
  ⟨rfl, rfl, rfl, fun _ _ => .refl reflexive Exposure.Alike.refl _⟩

theorem Method.Alike.key {method method' : Method} (alike : Method.Alike same method method') :
    method'.key = method.key := by
  rw [Method.key, Method.key, alike.name, alike.parameters]

section Declarations

variable {declarations declarations' : List Declaration}
  (alike : List.Forall₂ (Declaration.Alike same) declarations declarations')

include alike

theorem find?_alike (name : QualifiedName) :
    Option.Rel (Declaration.Alike same) (declarations.find? (·.name == name))
      (declarations'.find? (·.name == name)) := by
  apply rel_find? alike
  intro declaration declaration' declarationsAlike
  rw [declarationsAlike.name]

theorem withoutName_alike (name : QualifiedName) :
    List.Forall₂ (Declaration.Alike same) (withoutName declarations name)
      (withoutName declarations' name) := by
  apply List.rel_filter _ alike
  intro declaration declaration' declarationsAlike
  simp only [declarationsAlike.name]

theorem names_eq_of_alike : declarations'.map (·.name) = declarations.map (·.name) :=
  map_eq_of_forall₂ alike fun _ _ declarationsAlike => declarationsAlike.name

theorem preorder_alike (pending : List QualifiedName) :
    List.Forall₂ (Declaration.Alike same) (preorder declarations pending)
      (preorder declarations' pending) := by
  induction declarations, pending using preorder.induct generalizing declarations' with
  | case1 unvisited =>
      rw [preorder, preorder]
      exact .nil
  | case2 unvisited name rest absent ih =>
      have found := find?_alike alike name
      rw [absent] at found
      generalize absent' : declarations'.find? (·.name == name) = none? at found
      cases found
      rw [preorder_of_find?_eq_none absent, preorder_of_find?_eq_none absent']
      exact ih alike
  | case3 unvisited name rest visited found ih =>
      have alikeFound := find?_alike alike name
      rw [found] at alikeFound
      generalize found' : declarations'.find? (·.name == name) = visited? at alikeFound
      cases alikeFound with
      | some visitedAlike =>
          rw [preorder_of_find?_eq_some found, preorder_of_find?_eq_some found',
            visitedAlike.name, visitedAlike.supertypes]
          exact .cons visitedAlike (ih (withoutName_alike alike visited.name))

theorem lastPosition?_alike (name : QualifiedName) :
    lastPosition? declarations' name = lastPosition? declarations name := by
  induction alike with
  | nil => rfl
  | cons headsAlike _ ih => rw [lastPosition?, lastPosition?, ih, headsAlike.name]

theorem positionsAbove_alike : positionsAbove declarations' = positionsAbove declarations := by
  have table : declarations'.map (supertypePositions declarations')
      = declarations.map (supertypePositions declarations) := by
    apply map_eq_of_forall₂ alike
    intro declaration declaration' declarationsAlike
    rw [supertypePositions, supertypePositions, declarationsAlike.supertypes]
    exact List.filterMap_congr fun name _ => lastPosition?_alike alike name
  funext position
  rw [positionsAbove, positionsAbove, table]

theorem getElem?_alike (position : Nat) :
    Option.Rel (Declaration.Alike same) declarations[position]? declarations'[position]? := by
  induction alike generalizing position with
  | nil => exact .none
  | cons headsAlike _ ih =>
      cases position with
      | zero => exact .some headsAlike
      | succ position => exact ih position

theorem declarationsAt_alike (positions : List Nat) :
    List.Forall₂ (Declaration.Alike same) (declarationsAt declarations positions)
      (declarationsAt declarations' positions) := by
  apply List.rel_filterMap (R := Eq) _ (List.forall₂_refl positions)
  rintro position _ rfl
  exact getElem?_alike alike position

/-- Alike lists have alike orders, or report one and the same cycle. -/
theorem supertypesFirst_alike (reflexive : ∀ problem, same problem problem) :
    Agree same (List.Forall₂ (Declaration.Alike same)) (supertypesFirst declarations)
      (supertypesFirst declarations') := by
  have placed : List.Forall₂ (Declaration.Alike same) (placedDeclarations declarations)
      (placedDeclarations declarations') := by
    rw [placedDeclarations, placedDeclarations, positionsAbove_alike alike, ← alike.length_eq]
    exact declarationsAt_alike alike _
  have waiting : List.Forall₂ (Declaration.Alike same) (waitingDeclarations declarations)
      (waitingDeclarations declarations') := by
    rw [waitingDeclarations, waitingDeclarations, positionsAbove_alike alike, ← alike.length_eq]
    exact declarationsAt_alike alike _
  have noneWaits :
      waitingDeclarations declarations' = [] ↔ waitingDeclarations declarations = [] := by
    rw [← List.length_eq_zero_iff, ← waiting.length_eq, List.length_eq_zero_iff]
  rw [supertypesFirst_eq, supertypesFirst_eq, names_eq_of_alike waiting, if_congr noneWaits rfl rfl]
  split
  · exact .ok placed
  · exact .error (reflexive _)

end Declarations

namespace Batch.Alike

variable {batch batch' : Batch} {declaration declaration' : Declaration}

theorem contains_eq (alike : Batch.Alike same batch batch') (name : QualifiedName) :
    batch'.contains name = batch.contains name := by
  rw [Bool.eq_iff_iff, contains_iff, contains_iff, names, names, names_eq_of_alike alike]

theorem filter_markers (alike : Batch.Alike same batch batch') (marked : Markers → Bool) :
    List.Forall₂ (Declaration.Alike same) (batch.declarations.filter (marked ·.markers))
      (batch'.declarations.filter (marked ·.markers)) := by
  apply List.rel_filter _ alike
  intro declaration declaration' declarationsAlike
  simp only [declarationsAlike.markers]

section Lineages

variable (alike : Batch.Alike same batch batch')
  (declarationsAlike : Declaration.Alike same declaration declaration')

include alike declarationsAlike

theorem lineage (inherited : QualifiedName → Bool) :
    List.Forall₂ (Declaration.Alike same) (batch.lineage declaration inherited)
      (batch'.lineage declaration' inherited) := by
  rw [Batch.lineage, Batch.lineage, declarationsAlike.name, declarationsAlike.supertypes]
  exact .cons declarationsAlike (preorder_alike (withoutName_alike alike declaration.name) _)

theorem membersExcept (inherited : QualifiedName → Bool) :
    Members.Alike same (batch.membersExcept declaration inherited)
      (batch'.membersExcept declaration' inherited) where
  methods := by
    apply rel_distinctBy (List.rel_flatMap (lineage alike declarationsAlike inherited) _)
    · intro method method' methodsAlike
      exact methodsAlike.key
    · intro other other' othersAlike
      exact othersAlike.methods
  properties := by
    apply rel_distinctBy (List.rel_flatMap (lineage alike declarationsAlike inherited) _)
    · intro property property' propertiesAlike
      exact propertiesAlike.name
    · intro other other' othersAlike
      exact othersAlike.properties

theorem members : Members.Alike same (batch.members declaration) (batch'.members declaration') :=
  membersExcept alike declarationsAlike fun _ => false

end Lineages

end Batch.Alike

end NativeWrappers
