import Mathlib.Data.List.Perm.Basic
import NativeWrappers.Hierarchy.Order
import NativeWrappers.Proofs.Traversal
/-!
# What the supertypes-first order guarantees

The order is computed on positions by a queue. One invariant of the queue carries both directions:
what is placed never waits for a later position, and what still waits when the queue is empty waits
for something that waits as well. So an order is found whenever there is one, and the order that is
found lists no declaration before its supertypes.
-/

namespace NativeWrappers

/-! ## The queue -/

/-- The state of the queue: every position below `count` is placed, queued or waiting; what is
placed or queued waits for placed positions only, and no placed position for itself or a later one;
whatever waits is held up by a position that is not placed. -/
structure Placing (above : Nat → List Nat) (count : Nat) (queue waiting placed : List Nat) :
    Prop where
  perm : (placed ++ (queue ++ waiting)).Perm (List.range count)
  served : ∀ position ∈ placed ++ queue, ∀ needed ∈ above position, needed ∈ placed
  ordered : placed.Pairwise fun earlier later => later ∉ above earlier
  irreflexive : ∀ position ∈ placed, position ∉ above position
  heldUp : ∀ position ∈ waiting, ∃ needed ∈ above position, needed ∉ placed

namespace Placing

variable {above : Nat → List Nat} {count : Nat} {placed waiting : List Nat}

theorem isFree_iff {position : Nat} :
    isFree above placed position = true ↔ ∀ needed ∈ above position, needed ∈ placed := by
  simp [isFree]

theorem mem_freed {position : Nat} :
    position ∈ freed above placed waiting ↔
      position ∈ waiting ∧ ∀ needed ∈ above position, needed ∈ placed := by
  rw [freed, List.mem_filter, isFree_iff]

theorem mem_blocked {position : Nat} :
    position ∈ blocked above placed waiting ↔
      position ∈ waiting ∧ ∃ needed ∈ above position, needed ∉ placed := by
  rw [blocked, List.mem_filter, Bool.not_eq_true', ← Bool.not_eq_true, isFree_iff]
  simp

theorem perm_freed_blocked (above : Nat → List Nat) (placed waiting : List Nat) :
    (freed above placed waiting ++ blocked above placed waiting).Perm waiting :=
  List.filter_append_perm _ _

theorem initial (above : Nat → List Nat) (count : Nat) :
    Placing above count (freed above [] (List.range count)) (blocked above [] (List.range count))
      [] where
  perm := perm_freed_blocked above [] (List.range count)
  served _ member := (mem_freed.mp member).2
  ordered := List.Pairwise.nil
  irreflexive _ member := nomatch member
  heldUp _ member := (mem_blocked.mp member).2

theorem front_not_mem {front : Nat} {queue : List Nat}
    (placing : Placing above count (front :: queue) waiting placed) : front ∉ placed := by
  have distinct : (placed ++ (front :: queue ++ waiting)).Nodup :=
    placing.perm.nodup_iff.mpr List.nodup_range
  exact fun member => (List.nodup_append.mp distinct).2.2 front member front List.mem_cons_self rfl

theorem next {front : Nat} {queue : List Nat}
    (placing : Placing above count (front :: queue) waiting placed) :
    Placing above count (queue ++ freed above (placed ++ [front]) waiting)
      (blocked above (placed ++ [front]) waiting) (placed ++ [front]) := by
  have frontNew := placing.front_not_mem
  have frontServed : ∀ needed ∈ above front, needed ∈ placed :=
    placing.served front (List.mem_append_right _ List.mem_cons_self)
  refine ⟨?_, ?_, ?_, ?_, ?_⟩
  · have split := perm_freed_blocked above (placed ++ [front]) waiting
    have regrouped : (placed ++ [front] ++ (queue ++ freed above (placed ++ [front]) waiting
        ++ blocked above (placed ++ [front]) waiting)).Perm
        (placed ++ (front :: queue ++ waiting)) := by
      simpa using ((split.append_left queue).cons front).append_left placed
    exact regrouped.trans placing.perm
  · intro position member needed neededMember
    rcases List.mem_append.mp member with inPlaced | inQueue
    · rcases List.mem_append.mp inPlaced with old | isFront
      · exact List.mem_append_left _
          (placing.served position (List.mem_append_left _ old) needed neededMember)
      · rw [List.mem_singleton.mp isFront] at neededMember
        exact List.mem_append_left _ (frontServed needed neededMember)
    · rcases List.mem_append.mp inQueue with queued | joined
      · exact List.mem_append_left _ (placing.served position
          (List.mem_append_right _ (List.mem_cons_of_mem _ queued)) needed neededMember)
      · exact (mem_freed.mp joined).2 needed neededMember
  · refine List.pairwise_append.mpr ⟨placing.ordered, List.pairwise_singleton _ _, ?_⟩
    intro earlier earlierMember later laterMember waits
    rw [List.mem_singleton.mp laterMember] at waits
    exact frontNew
      (placing.served earlier (List.mem_append_left _ earlierMember) front waits)
  · intro position member waits
    rcases List.mem_append.mp member with old | isFront
    · exact placing.irreflexive position old waits
    · rw [List.mem_singleton.mp isFront] at waits
      exact frontNew (frontServed front waits)
  · intro position member
    exact (mem_blocked.mp member).2

theorem placeQueue {queue : List Nat} (placing : Placing above count queue waiting placed) :
    Placing above count [] (placeQueue above queue waiting placed).2
      (placeQueue above queue waiting placed).1 := by
  induction queue, waiting, placed using NativeWrappers.placeQueue.induct above with
  | case1 waiting placed =>
      rw [NativeWrappers.placeQueue]
      exact placing
  | case2 waiting placed front queue ih =>
      rw [NativeWrappers.placeQueue]
      exact ih placing.next

theorem placePositions (above : Nat → List Nat) (count : Nat) :
    Placing above count [] (placePositions above count).2 (placePositions above count).1 :=
  (initial above count).placeQueue

end Placing

/-! ## Lists of declarations -/

/-- No declaration of the list names itself or a later one as a supertype. -/
structure SupertypesFirst (order : List Declaration) : Prop where
  irreflexive : ∀ declaration ∈ order, declaration.name ∉ declaration.supertypes
  ordered : order.Pairwise fun earlier later => later.name ∉ earlier.supertypes

namespace SupertypesFirst

variable {before after : List Declaration} {declaration : Declaration}

theorem not_listed (first : SupertypesFirst (declaration :: after)) :
    ∀ other ∈ declaration :: after, other.name ∉ declaration.supertypes := by
  intro other member listed
  rcases List.mem_cons.mp member with equal | later
  · rw [equal] at listed
    exact first.irreflexive declaration List.mem_cons_self listed
  · exact (List.pairwise_cons.mp first.ordered).1 other later listed

theorem of_append_right (first : SupertypesFirst (before ++ after)) : SupertypesFirst after where
  irreflexive other member := first.irreflexive other (List.mem_append_right _ member)
  ordered := (List.pairwise_append.mp first.ordered).2.1

theorem tail (first : SupertypesFirst (declaration :: after)) : SupertypesFirst after :=
  ⟨fun other member => first.irreflexive other (List.mem_cons_of_mem _ member),
    first.ordered.of_cons⟩

theorem mem_before {supertype : Declaration}
    (first : SupertypesFirst (before ++ declaration :: after))
    (member : supertype ∈ before ++ declaration :: after)
    (listed : supertype.name ∈ declaration.supertypes) : supertype ∈ before := by
  refine (List.mem_append.mp member).resolve_right fun notBefore => ?_
  exact first.of_append_right.not_listed supertype notBefore listed

/-- What holds of a declaration whenever it holds of its supertypes in the list, holds of the whole
list. -/
theorem induction {order : List Declaration} (first : SupertypesFirst order)
    {motive : Declaration → Prop}
    (step : ∀ declaration ∈ order,
      (∀ supertype ∈ order, supertype.name ∈ declaration.supertypes → motive supertype) →
        motive declaration) :
    ∀ declaration ∈ order, motive declaration := by
  suffices fromPrefix : ∀ after before, order = before ++ after →
      (∀ declaration ∈ before, motive declaration) → ∀ declaration ∈ after, motive declaration from
    fromPrefix order [] rfl fun _ member => nomatch member
  intro after
  induction after with
  | nil => exact fun _ _ _ _ member => nomatch member
  | cons next after ih =>
      intro before split settled
      have nextHolds : motive next := by
        apply step next (by rw [split]; simp)
        intro supertype member listed
        rw [split] at first member
        exact settled supertype (first.mem_before member listed)
      intro declaration member
      rcases List.mem_cons.mp member with equal | inAfter
      · rw [equal]
        exact nextHolds
      · refine ih (before ++ [next]) (by simp [split]) ?_ declaration inAfter
        intro other otherMember
        rcases List.mem_append.mp otherMember with inBefore | isNext
        · exact settled other inBefore
        · rw [List.mem_singleton.mp isNext]
          exact nextHolds

end SupertypesFirst

section Positions

variable {declarations : List Declaration}

theorem exists_of_lastPosition? {name : QualifiedName} {position : Nat}
    (found : lastPosition? declarations name = some position) :
    ∃ declaration, declarations[position]? = some declaration ∧ declaration.name = name := by
  induction declarations generalizing position with
  | nil => cases found
  | cons head rest ih =>
      rw [lastPosition?] at found
      split at found
      · next later foundLater =>
          cases found
          simpa using ih foundLater
      · split at found
        · next named =>
            cases found
            exact ⟨head, by simp, named⟩
        · cases found

theorem lastPosition?_isSome {declaration : Declaration} (member : declaration ∈ declarations) :
    ∃ position, lastPosition? declarations declaration.name = some position := by
  induction declarations with
  | nil => cases member
  | cons head rest ih =>
      rw [lastPosition?]
      split
      · next position _ => exact ⟨position + 1, rfl⟩
      · next absent =>
          rcases List.mem_cons.mp member with equal | inRest
          · exact ⟨0, by simp [equal]⟩
          · rcases ih inRest with ⟨position, found⟩
            rw [absent] at found
            cases found

theorem mem_supertypePositions_iff (distinct : (declarations.map (·.name)).Nodup)
    {declaration supertype : Declaration} {position : Nat}
    (there : declarations[position]? = some supertype) :
    position ∈ supertypePositions declarations declaration ↔
      supertype.name ∈ declaration.supertypes := by
  rw [supertypePositions, List.mem_filterMap]
  constructor
  · rintro ⟨name, listed, found⟩
    rcases exists_of_lastPosition? found with ⟨other, otherThere, named⟩
    rw [there] at otherThere
    cases otherThere
    rw [named]
    exact listed
  · intro listed
    rcases lastPosition?_isSome (List.mem_of_getElem? there) with ⟨other, found⟩
    rcases exists_of_lastPosition? found with ⟨declaration', there', named⟩
    refine ⟨supertype.name, listed, ?_⟩
    have samePosition : other = position := by
      have otherName : (declarations.map (·.name))[other]? = some supertype.name := by
        rw [List.getElem?_map, there', Option.map_some, named]
      have positionName : (declarations.map (·.name))[position]? = some supertype.name := by
        rw [List.getElem?_map, there, Option.map_some]
      have inRange := (List.getElem?_eq_some_iff.mp otherName).1
      exact (List.getElem?_inj inRange distinct).mp (otherName.trans positionName.symm)
    rw [found, samePosition]

/-- The positions above each place of a list, as the queue is given them. -/
def positionsAbove (declarations : List Declaration) (position : Nat) : List Nat :=
  (declarations.map (supertypePositions declarations)).getD position []

theorem positionsAbove_of_getElem? {declaration : Declaration} {position : Nat}
    (there : declarations[position]? = some declaration) :
    positionsAbove declarations position = supertypePositions declarations declaration := by
  simp [positionsAbove, List.getD_eq_getElem?_getD, there]

theorem declarationsAt_range (declarations : List Declaration) :
    declarationsAt declarations (List.range declarations.length) = declarations := by
  induction declarations with
  | nil => rfl
  | cons head rest ih =>
      rw [declarationsAt] at ih ⊢
      rw [List.length_cons, List.range_succ_eq_map, List.filterMap_cons, List.filterMap_map]
      simpa [Function.comp_def] using ih

theorem declarationsAt_perm {positions : List Nat}
    (all : positions.Perm (List.range declarations.length)) :
    (declarationsAt declarations positions).Perm declarations := by
  have reordered : (declarationsAt declarations positions).Perm
      (declarationsAt declarations (List.range declarations.length)) := all.filterMap _
  rwa [declarationsAt_range] at reordered

theorem mem_declarationsAt {positions : List Nat} {declaration : Declaration} :
    declaration ∈ declarationsAt declarations positions ↔
      ∃ position ∈ positions, declarations[position]? = some declaration :=
  List.mem_filterMap

theorem exists_mem_declarationsAt {positions : List Nat} {position : Nat}
    (member : position ∈ positions) (inRange : position < declarations.length) :
    ∃ declaration ∈ declarationsAt declarations positions,
      declarations[position]? = some declaration :=
  have there := List.getElem?_eq_getElem inRange
  ⟨_, mem_declarationsAt.mpr ⟨position, member, there⟩, there⟩

end Positions

/-! ## What is placed and what is not -/

/-- The declarations that the queue places, in this order. -/
def placedDeclarations (declarations : List Declaration) : List Declaration :=
  declarationsAt declarations (placePositions (positionsAbove declarations) declarations.length).1

/-- The declarations that still wait when the queue is empty, in input order. -/
def waitingDeclarations (declarations : List Declaration) : List Declaration :=
  declarationsAt declarations (placePositions (positionsAbove declarations) declarations.length).2

section Placed

variable {declarations : List Declaration}

theorem placing_positionsAbove (declarations : List Declaration) :
    Placing (positionsAbove declarations) declarations.length []
      (placePositions (positionsAbove declarations) declarations.length).2
      (placePositions (positionsAbove declarations) declarations.length).1 :=
  Placing.placePositions _ _

theorem perm_placed_waiting (declarations : List Declaration) :
    (placedDeclarations declarations ++ waitingDeclarations declarations).Perm declarations := by
  have all := declarationsAt_perm (placing_positionsAbove declarations).perm
  rwa [List.nil_append, declarationsAt, List.filterMap_append] at all

/-- Among the placed declarations none is listed before a supertype of it. -/
theorem supertypesFirst_placed (distinct : (declarations.map (·.name)).Nodup) :
    SupertypesFirst (placedDeclarations declarations) where
  irreflexive declaration member listed := by
    rcases mem_declarationsAt.mp member with ⟨position, placed, there⟩
    apply (placing_positionsAbove declarations).irreflexive position placed
    rw [positionsAbove_of_getElem? there]
    exact (mem_supertypePositions_iff distinct there).mpr listed
  ordered := by
    refine List.pairwise_filterMap.mpr ((placing_positionsAbove declarations).ordered.imp ?_)
    intro earlier later notAbove declaration there supertype supertypeThere listed
    apply notAbove
    rw [positionsAbove_of_getElem? there]
    exact (mem_supertypePositions_iff distinct supertypeThere).mpr listed

/-- A placed declaration has its supertypes in the list placed as well. -/
theorem mem_placed_of_listed (distinct : (declarations.map (·.name)).Nodup)
    {declaration supertype : Declaration} (placed : declaration ∈ placedDeclarations declarations)
    (member : supertype ∈ declarations) (listed : supertype.name ∈ declaration.supertypes) :
    supertype ∈ placedDeclarations declarations := by
  rcases mem_declarationsAt.mp placed with ⟨position, positionPlaced, there⟩
  rcases List.mem_iff_getElem?.mp member with ⟨needed, supertypeThere⟩
  have neededAbove : needed ∈ positionsAbove declarations position := by
    rw [positionsAbove_of_getElem? there]
    exact (mem_supertypePositions_iff distinct supertypeThere).mpr listed
  exact mem_declarationsAt.mpr ⟨needed, (placing_positionsAbove declarations).served position
    (List.mem_append_left _ positionPlaced) needed neededAbove, supertypeThere⟩

/-- A declaration that waits has a supertype that waits as well. -/
theorem exists_waiting_of_waiting {declaration : Declaration}
    (waits : declaration ∈ waitingDeclarations declarations) :
    ∃ supertype ∈ waitingDeclarations declarations,
      supertype.name ∈ declaration.supertypes := by
  have placing := placing_positionsAbove declarations
  rcases mem_declarationsAt.mp waits with ⟨position, positionWaits, there⟩
  rcases placing.heldUp position positionWaits with ⟨needed, neededAbove, notPlaced⟩
  rw [positionsAbove_of_getElem? there, supertypePositions, List.mem_filterMap] at neededAbove
  rcases neededAbove with ⟨name, listed, foundName⟩
  rcases exists_of_lastPosition? foundName with ⟨supertype, supertypeThere, named⟩
  have inRange := List.mem_range.mpr (List.getElem?_eq_some_iff.mp supertypeThere).1
  have placedOrWaiting := placing.perm.mem_iff.mpr inRange
  rw [List.nil_append] at placedOrWaiting
  have neededWaits := (List.mem_append.mp placedOrWaiting).resolve_left notPlaced
  exact ⟨supertype, mem_declarationsAt.mpr ⟨needed, neededWaits, supertypeThere⟩, named ▸ listed⟩

theorem waitingDeclarations_eq_nil_iff :
    waitingDeclarations declarations = [] ↔
      (placePositions (positionsAbove declarations) declarations.length).2 = [] := by
  constructor
  · intro none
    apply List.eq_nil_iff_forall_not_mem.mpr
    intro position waits
    have inRange := (placing_positionsAbove declarations).perm.mem_iff.mp
      (List.mem_append_right _ waits)
    rcases exists_mem_declarationsAt waits (List.mem_range.mp inRange) with
      ⟨declaration, declarationWaits, _⟩
    change declaration ∈ waitingDeclarations declarations at declarationWaits
    rw [none] at declarationWaits
    cases declarationWaits
  · intro none
    rw [waitingDeclarations, none]
    rfl

/-- The order lists what is placed. If something waits, its names are the problem. -/
theorem supertypesFirst_eq (declarations : List Declaration) :
    supertypesFirst declarations =
      if waitingDeclarations declarations = [] then .ok (placedDeclarations declarations)
      else .error (.inheritanceCycle
        (QualifiedName.sort ((waitingDeclarations declarations).map (·.name)))) := by
  rw [if_congr (waitingDeclarations_eq_nil_iff.trans List.isEmpty_iff.symm) rfl rfl]
  rfl

/-- The order that is found lists all declarations, and none before a supertype of it. -/
theorem perm_and_supertypesFirst_of_eq_ok {order : List Declaration}
    (distinct : (declarations.map (·.name)).Nodup)
    (found : supertypesFirst declarations = .ok order) :
    order.Perm declarations ∧ SupertypesFirst order := by
  rw [supertypesFirst_eq] at found
  split at found
  · next noneWaits =>
      cases found
      have all := perm_placed_waiting declarations
      rw [noneWaits, List.append_nil] at all
      exact ⟨all, supertypesFirst_placed distinct⟩
  · cases found

/-- An order is found whenever there is one. -/
theorem exists_eq_ok_of_supertypesFirst {order : List Declaration}
    (reordered : order.Perm declarations) (first : SupertypesFirst order) :
    ∃ found, supertypesFirst declarations = .ok found := by
  have subset : waitingDeclarations declarations ⊆ order := by
    intro declaration waits
    exact reordered.mem_iff.mpr ((perm_placed_waiting declarations).mem_iff.mp
      (List.mem_append_right _ waits))
  have noneWaits : ∀ declaration ∈ order, declaration ∉ waitingDeclarations declarations := by
    refine first.induction ?_
    intro declaration _ settled waits
    rcases exists_waiting_of_waiting waits with ⟨supertype, supertypeWaits, listed⟩
    exact settled supertype (subset supertypeWaits) listed supertypeWaits
  have waitingEmpty : waitingDeclarations declarations = [] := by
    apply List.eq_nil_iff_forall_not_mem.mpr
    intro declaration waits
    exact noneWaits declaration (subset waits) waits
  exact ⟨placedDeclarations declarations, by rw [supertypesFirst_eq, if_pos waitingEmpty]⟩

end Placed

end NativeWrappers
