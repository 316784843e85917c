import NativeWrappers.Proofs.Hierarchy.Order
/-!
# The order of a part

When a part of a list refers to nothing outside it, the queue treats it as if it were alone: a step
that places something outside frees nothing in the part and leaves its share of the queue as it is,
and a step that places something of the part is a step of the queue of the part alone. So the order
of the part is what is left of the order of the whole.

The queue works on positions, which change when the rest is taken away. `Renumbers` says how the
positions of the two queues correspond.
-/

namespace NativeWrappers

/-! ## The queue of a part -/

/-- Some positions have new numbers, and those wait for such positions only. -/
structure Renumbers (renumber : Nat → Option Nat) (above above' : Nat → List Nat) : Prop where
  injective : ∀ {position other number : Nat}, renumber position = some number →
    renumber other = some number → position = other
  above_eq : ∀ {position number : Nat}, renumber position = some number →
    (above position).map renumber = (above' number).map some

namespace Renumbers

variable {renumber : Nat → Option Nat} {above above' : Nat → List Nat} {placed waiting : List Nat}

theorem isFree_eq (renumbers : Renumbers renumber above above') {position number : Nat}
    (renumbered : renumber position = some number) :
    isFree above' (placed.filterMap renumber) number = isFree above placed position := by
  have correspond := renumbers.above_eq renumbered
  rw [Bool.eq_iff_iff, Placing.isFree_iff, Placing.isFree_iff]
  constructor
  · intro served needed neededMember
    have listed : renumber needed ∈ (above' number).map some :=
      correspond ▸ List.mem_map_of_mem neededMember
    rcases List.mem_map.mp listed with ⟨neededNumber, numberMember, neededRenumbered⟩
    rcases List.mem_filterMap.mp (served neededNumber numberMember) with
      ⟨other, otherPlaced, otherRenumbered⟩
    rw [renumbers.injective neededRenumbered.symm otherRenumbered]
    exact otherPlaced
  · intro served neededNumber numberMember
    have listed : some neededNumber ∈ (above position).map renumber :=
      correspond ▸ List.mem_map_of_mem numberMember
    rcases List.mem_map.mp listed with ⟨needed, neededMember, neededRenumbered⟩
    exact List.mem_filterMap.mpr ⟨needed, served needed neededMember, neededRenumbered⟩

theorem filterMap_filter_eq {keeps keeps' : Nat → Bool}
    (agree : ∀ position number, renumber position = some number →
      keeps' number = keeps position) :
    (waiting.filter keeps).filterMap renumber = (waiting.filterMap renumber).filter keeps' := by
  rw [List.filterMap_filter, List.filter_filterMap]
  apply List.filterMap_congr
  intro position _
  rcases renumbered : renumber position with _ | number
  · simp
  · simp [Option.filter, agree position number renumbered]

theorem freed_eq (renumbers : Renumbers renumber above above') (placed waiting : List Nat) :
    (freed above placed waiting).filterMap renumber
      = freed above' (placed.filterMap renumber) (waiting.filterMap renumber) :=
  filterMap_filter_eq fun _ _ => renumbers.isFree_eq

theorem blocked_eq (renumbers : Renumbers renumber above above') (placed waiting : List Nat) :
    (blocked above placed waiting).filterMap renumber
      = blocked above' (placed.filterMap renumber) (waiting.filterMap renumber) :=
  filterMap_filter_eq fun _ _ renumbered => by rw [renumbers.isFree_eq renumbered]

theorem blocked_eq_of_freed_eq_nil (heldUp : freed above placed waiting = []) :
    blocked above placed waiting = waiting := by
  rw [freed, List.filter_eq_nil_iff] at heldUp
  rw [blocked, List.filter_eq_self]
  intro position member
  rw [Bool.not_eq_true', Bool.eq_false_iff]
  exact heldUp position member

/-- The queue of the part does to the part what the whole queue does to it, as long as whatever
waits is held up. -/
theorem placeQueue_eq (renumbers : Renumbers renumber above above') (queue : List Nat)
    (heldUp : freed above placed waiting = []) :
    placeQueue above' (queue.filterMap renumber) (waiting.filterMap renumber)
        (placed.filterMap renumber)
      = ((placeQueue above queue waiting placed).1.filterMap renumber,
        (placeQueue above queue waiting placed).2.filterMap renumber) := by
  induction queue, waiting, placed using placeQueue.induct above with
  | case1 waiting placed =>
      rw [placeQueue, List.filterMap_nil, placeQueue]
  | case2 front queue waiting placed ih =>
      have stillHeldUp : freed above (placed ++ [front])
          (blocked above (placed ++ [front]) waiting) = [] := by
        simp [freed, blocked]
      have later := ih stillHeldUp
      rw [List.filterMap_append, renumbers.freed_eq, renumbers.blocked_eq,
        List.filterMap_append] at later
      rw [placeQueue, ← later]
      rcases renumbered : renumber front with _ | number
      · -- the front is outside the part, whose share of the state stays the same
        have noneJoins := (renumbers.freed_eq placed waiting).symm
        have allWait := renumbers.blocked_eq placed waiting
        rw [heldUp, List.filterMap_nil] at noneJoins
        rw [blocked_eq_of_freed_eq_nil heldUp] at allWait
        rw [List.filterMap_cons_none renumbered, List.filterMap_cons_none renumbered,
          List.filterMap_nil, List.append_nil, noneJoins, List.append_nil, ← allWait]
      · rw [List.filterMap_cons_some renumbered, placeQueue, List.filterMap_cons_some renumbered,
          List.filterMap_nil]

theorem placePositions_eq (renumbers : Renumbers renumber above above') {count count' : Nat}
    (counted : (List.range count).filterMap renumber = List.range count') :
    placePositions above' count'
      = ((placePositions above count).1.filterMap renumber,
        (placePositions above count).2.filterMap renumber) := by
  have heldUp : freed above [] (blocked above [] (List.range count)) = [] := by
    simp [freed, blocked]
  have fromStart := renumbers.placeQueue_eq (freed above [] (List.range count)) heldUp
  rw [renumbers.freed_eq, renumbers.blocked_eq, List.filterMap_nil, counted] at fromStart
  exact fromStart

end Renumbers

/-! ## The list of a part -/

/-- The position that an element has among the kept ones, if it is kept. -/
def keptPosition? {α : Type} (keep : α → Bool) : (list : List α) → (position : Nat) → Option Nat
  | [], _ => none
  | element :: _, 0 => if keep element then some 0 else none
  | element :: rest, position + 1 =>
    (keptPosition? keep rest position).map fun kept => if keep element then kept + 1 else kept

section Positions

variable {α : Type} {keep : α → Bool}

/-- An element is found at its new position if it is kept, and no other element has one. -/
theorem keptPosition?_bind_getElem? (keep : α → Bool) (list : List α) (position : Nat) :
    (keptPosition? keep list position).bind ((list.filter keep)[·]?)
      = list[position]?.filter keep := by
  induction list generalizing position with
  | nil => rfl
  | cons element rest ih =>
      rw [List.filter_cons]
      cases position with
      | zero => cases kept : keep element <;> simp [keptPosition?, kept, Option.filter]
      | succ position =>
          rw [keptPosition?, List.getElem?_cons_succ, ← ih position, Option.bind_map]
          cases keep element <;> rfl

theorem exists_of_keptPosition? {list : List α} {position number : Nat}
    (renumbered : keptPosition? keep list position = some number) :
    ∃ element, list[position]? = some element ∧ (list.filter keep)[number]? = some element := by
  induction list generalizing position number with
  | nil => cases renumbered
  | cons element rest ih =>
      cases position with
      | zero =>
          cases kept : keep element with
          | false => simp [keptPosition?, kept] at renumbered
          | true =>
              simp only [keptPosition?, kept, if_true, Option.some.injEq] at renumbered
              rw [← renumbered, List.filter_cons_of_pos kept]
              exact ⟨element, rfl, rfl⟩
      | succ position =>
          rw [keptPosition?, Option.map_eq_some_iff] at renumbered
          rcases renumbered with ⟨inRest, renumberedInRest, rfl⟩
          rcases ih renumberedInRest with ⟨other, there, thereKept⟩
          refine ⟨other, there, ?_⟩
          cases kept : keep element with
          | false => simpa [kept] using thereKept
          | true => simpa [kept] using thereKept

theorem exists_keptPosition? (keep : α → Bool) {list : List α} {position : Nat} {element : α}
    (there : list[position]? = some element) (kept : keep element = true) :
    ∃ number, keptPosition? keep list position = some number := by
  have found := keptPosition?_bind_getElem? keep list position
  rw [there, Option.filter_some, if_pos kept, Option.bind_eq_some_iff] at found
  rcases found with ⟨number, renumbered, _⟩
  exact ⟨number, renumbered⟩

theorem filterMap_keptPosition?_range (list : List α) :
    (List.range list.length).filterMap (keptPosition? keep list)
      = List.range (list.filter keep).length := by
  induction list with
  | nil => rfl
  | cons element rest ih =>
      have later : (fun position => keptPosition? keep (element :: rest) (position + 1))
          = fun position => (keptPosition? keep rest position).map fun kept =>
            if keep element then kept + 1 else kept := rfl
      rw [List.length_cons, List.range_succ_eq_map, List.filterMap_cons, List.filterMap_map,
        Function.comp_def, later, ← List.map_filterMap, ih, List.filter_cons]
      cases kept : keep element with
      | false => simp [keptPosition?, kept]
      | true => simp [keptPosition?, kept, List.range_succ_eq_map]

end Positions

section Declarations

variable {declarations : List Declaration} {keep : QualifiedName → Bool}

/-- A name refers to the same declaration as before if it is the name of a kept one. -/
theorem lastPosition?_filter (name : QualifiedName) :
    lastPosition? (declarations.filter (keep ·.name)) name
      = (lastPosition? declarations name).bind (keptPosition? (keep ·.name) declarations) := by
  induction declarations with
  | nil => rfl
  | cons head rest ih =>
      rw [List.filter_cons]
      rcases found : lastPosition? rest name with _ | position
      · rw [found, Option.bind_none] at ih
        by_cases named : head.name = name
        · subst named
          cases kept : keep head.name <;> simp [lastPosition?, keptPosition?, ih, found, kept]
        · cases keep head.name <;> simp [lastPosition?, ih, found, named]
      · rw [found, Option.bind_some] at ih
        rcases renumbered : keptPosition? (keep ·.name) rest position with _ | number
        · -- the last declaration of this name is not kept, so none of this name is
          have notKept : keep name = false := by
            rcases exists_of_lastPosition? found with ⟨declaration, there, named⟩
            rw [← named, Bool.eq_false_iff]
            intro kept
            rcases exists_keptPosition? (keep ·.name) there kept with ⟨number, renumbered'⟩
            rw [renumbered] at renumbered'
            cases renumbered'
          cases kept : keep head.name with
          | false => simp [lastPosition?, keptPosition?, ih, found, renumbered]
          | true =>
              have different : head.name ≠ name := by
                intro named
                rw [named, notKept] at kept
                cases kept
              simp [lastPosition?, keptPosition?, ih, found, renumbered, different]
        · cases kept : keep head.name <;>
            simp [lastPosition?, keptPosition?, ih, found, renumbered, kept]

/-- Every supertype of a kept declaration that is in the list is kept. -/
def KeepsSupertypes (declarations : List Declaration) (keep : QualifiedName → Bool) : Prop :=
  ∀ declaration ∈ declarations, keep declaration.name = true →
    ∀ supertype ∈ declarations, supertype.name ∈ declaration.supertypes →
      keep supertype.name = true

theorem map_keptPosition?_supertypePositions (closed : KeepsSupertypes declarations keep)
    {declaration : Declaration} (member : declaration ∈ declarations)
    (kept : keep declaration.name = true) :
    (supertypePositions declarations declaration).map (keptPosition? (keep ·.name) declarations)
      = (supertypePositions (declarations.filter (keep ·.name)) declaration).map some := by
  have allKept := closed declaration member kept
  rw [supertypePositions, supertypePositions]
  generalize declaration.supertypes = supertypes at allKept
  induction supertypes with
  | nil => rfl
  | cons name rest ih =>
      have restKept := ih fun supertype supertypeMember listed =>
        allKept supertype supertypeMember (List.mem_cons_of_mem _ listed)
      rw [List.filterMap_cons, List.filterMap_cons, lastPosition?_filter]
      rcases found : lastPosition? declarations name with _ | position
      · exact restKept
      · rcases exists_of_lastPosition? found with ⟨supertype, there, named⟩
        have supertypeKept := allKept supertype (List.mem_of_getElem? there)
          (named ▸ List.mem_cons_self)
        rcases exists_keptPosition? (keep ·.name) there supertypeKept with ⟨number, renumbered⟩
        rw [Option.bind_some, renumbered, List.map_cons, List.map_cons, renumbered, restKept]

theorem renumbers_keptPosition? (distinct : (declarations.map (·.name)).Nodup)
    (closed : KeepsSupertypes declarations keep) :
    Renumbers (keptPosition? (keep ·.name) declarations) (positionsAbove declarations)
      (positionsAbove (declarations.filter (keep ·.name))) where
  injective := by
    intro position other number renumbered otherRenumbered
    rcases exists_of_keptPosition? renumbered with ⟨declaration, there, thereKept⟩
    rcases exists_of_keptPosition? otherRenumbered with ⟨declaration', there', thereKept'⟩
    rw [thereKept] at thereKept'
    cases thereKept'
    have inRange := (List.getElem?_eq_some_iff.mp there).1
    exact (List.getElem?_inj inRange distinct.of_map).mp (there.trans there'.symm)
  above_eq := by
    intro position number renumbered
    rcases exists_of_keptPosition? renumbered with ⟨declaration, there, thereKept⟩
    have kept : keep declaration.name = true :=
      (List.mem_filter.mp (List.mem_of_getElem? thereKept)).2
    rw [positionsAbove_of_getElem? there, positionsAbove_of_getElem? thereKept]
    exact map_keptPosition?_supertypePositions closed (List.mem_of_getElem? there) kept

theorem declarationsAt_filter (positions : List Nat) :
    declarationsAt (declarations.filter (keep ·.name))
        (positions.filterMap (keptPosition? (keep ·.name) declarations))
      = (declarationsAt declarations positions).filter (keep ·.name) := by
  rw [declarationsAt, declarationsAt, List.filterMap_filterMap, List.filter_filterMap]
  exact List.filterMap_congr fun position _ => keptPosition?_bind_getElem? _ declarations position

/-- The order of a part that refers to nothing outside it is what is left of the order of the
whole. -/
theorem supertypesFirst_filter {order : List Declaration}
    (distinct : (declarations.map (·.name)).Nodup) (closed : KeepsSupertypes declarations keep)
    (ordered : supertypesFirst declarations = .ok order) :
    supertypesFirst (declarations.filter (keep ·.name)) = .ok (order.filter (keep ·.name)) := by
  have renumbers := renumbers_keptPosition? distinct closed
  have positions := renumbers.placePositions_eq (filterMap_keptPosition?_range declarations)
  have placed : placedDeclarations (declarations.filter (keep ·.name))
      = (placedDeclarations declarations).filter (keep ·.name) := by
    rw [placedDeclarations, positions]
    exact declarationsAt_filter _
  have waiting : waitingDeclarations (declarations.filter (keep ·.name))
      = (waitingDeclarations declarations).filter (keep ·.name) := by
    rw [waitingDeclarations, positions]
    exact declarationsAt_filter _
  rw [supertypesFirst_eq] at ordered ⊢
  split at ordered
  · next noneWaits =>
      cases ordered
      rw [waiting, noneWaits, List.filter_nil, if_pos rfl, placed]
  · cases ordered

end Declarations

end NativeWrappers
