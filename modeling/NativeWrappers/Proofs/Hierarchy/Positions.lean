import NativeWrappers.Proofs.Hierarchy.Countdown
import NativeWrappers.Proofs.Hierarchy.Cycles
/-!
# Orders of lists with repeated names

The order is one of the entries of a list, not of the names in it. Entries may share a name, and
then a supertype refers to the last of them; an entry may also list one supertype several times.
Whatever the list is, an order is found exactly when the references have no cycle. Otherwise the
report has one name for every entry that a cycle can be reached from.
-/

namespace NativeWrappers

/-- The entry at the one position lists the name of the entry at the other, and no later entry has
this name. -/
def RefersTo (declarations : List Declaration) (position target : Nat) : Prop :=
  ∃ declaration supertype,
    declarations[position]? = some declaration ∧ declarations[target]? = some supertype ∧
      supertype.name ∈ declaration.supertypes ∧
      ∀ later other, target < later → declarations[later]? = some other →
        other.name ≠ supertype.name

/-- A chain of references leads from the position to one that is on a cycle. -/
def LeadsToCycle (declarations : List Declaration) (position : Nat) : Prop :=
  ∃ other, Relation.ReflTransGen (RefersTo declarations) position other ∧
    Relation.TransGen (RefersTo declarations) other other

/-- The order has every entry of the list once, and after all entries that it refers to. -/
structure Arranges (declarations order : List Declaration) (positions : List Nat) : Prop where
  all : positions.Perm (List.range declarations.length)
  entries : order.map some = positions.map (declarations[·]?)
  after : ∀ position target, RefersTo declarations position target →
    positions.idxOf target < positions.idxOf position

/-- The names are those of the entries at these positions, in ascending order, and from exactly
these positions a cycle can be reached. -/
structure Reports (declarations : List Declaration) (names : List QualifiedName)
    (positions : List Nat) : Prop where
  sorted : names.Pairwise fun first second => first.ordered second = true
  distinct : positions.Nodup
  leads : ∀ position, position ∈ positions ↔ LeadsToCycle declarations position
  entries : (names.map some).Perm
    (positions.map fun position => declarations[position]?.map (·.name))

/-! ## References and positions -/

section References

variable {declarations : List Declaration} {position target : Nat}

theorem name_ne_of_lastPosition? {name : QualifiedName} {later : Nat} {other : Declaration}
    (found : lastPosition? declarations name = some position) (after : position < later)
    (there : declarations[later]? = some other) : other.name ≠ name := by
  induction declarations generalizing position later with
  | nil => cases there
  | cons head rest ih =>
      rcases Nat.exists_eq_add_one.mpr (Nat.zero_lt_of_lt after) with ⟨before, rfl⟩
      rw [List.getElem?_cons_succ] at there
      rw [lastPosition?] at found
      split at found
      · next inRest foundInRest =>
          cases found
          exact ih foundInRest (Nat.lt_of_succ_lt_succ after) there
      · next absent =>
          rintro rfl
          rcases lastPosition?_isSome (List.mem_of_getElem? there) with ⟨last, foundLast⟩
          rw [absent] at foundLast
          cases foundLast

theorem lastPosition?_eq_some_iff {name : QualifiedName} :
    lastPosition? declarations name = some position ↔
      ∃ declaration, declarations[position]? = some declaration ∧ declaration.name = name ∧
        ∀ later other, position < later → declarations[later]? = some other →
          other.name ≠ name := by
  constructor
  · intro found
    rcases exists_of_lastPosition? found with ⟨declaration, there, named⟩
    exact ⟨declaration, there, named, fun _ _ => name_ne_of_lastPosition? found⟩
  · rintro ⟨declaration, there, rfl, isLast⟩
    rcases lastPosition?_isSome (List.mem_of_getElem? there) with ⟨last, found⟩
    rcases exists_of_lastPosition? found with ⟨declaration', there', named⟩
    -- neither of the two comes after the other
    rcases Nat.lt_trichotomy position last with before | same | after
    · exact absurd named (isLast last declaration' before there')
    · rw [found, same]
    · exact absurd rfl (name_ne_of_lastPosition? found after there)

theorem mem_positionsAbove_iff :
    target ∈ positionsAbove declarations position ↔ RefersTo declarations position target := by
  rcases there : declarations[position]? with _ | declaration
  · simp [positionsAbove, List.getD_eq_getElem?_getD, there, RefersTo]
  · rw [positionsAbove_of_getElem? there, supertypePositions, List.mem_filterMap]
    constructor
    · rintro ⟨name, listed, found⟩
      rcases lastPosition?_eq_some_iff.mp found with ⟨supertype, supertypeThere, rfl, isLast⟩
      exact ⟨declaration, supertype, there, supertypeThere, listed, isLast⟩
    · rintro ⟨declaration', supertype, there', supertypeThere, listed, isLast⟩
      rw [there] at there'
      cases there'
      exact ⟨supertype.name, listed,
        lastPosition?_eq_some_iff.mpr ⟨supertype, supertypeThere, rfl, isLast⟩⟩

theorem RefersTo.position_lt (refers : RefersTo declarations position target) :
    position < declarations.length := by
  rcases refers with ⟨_, _, there, _⟩
  exact (List.getElem?_eq_some_iff.mp there).1

theorem RefersTo.target_lt (refers : RefersTo declarations position target) :
    target < declarations.length := by
  rcases refers with ⟨_, _, _, there, _⟩
  exact (List.getElem?_eq_some_iff.mp there).1

theorem LeadsToCycle.lt_length (leads : LeadsToCycle declarations position) :
    position < declarations.length := by
  rcases leads with ⟨other, chain, cycle⟩
  rcases Relation.TransGen.head'_iff.mp (.trans_right chain cycle) with ⟨_, step, _⟩
  exact step.position_lt

theorem map_some_declarationsAt {positions : List Nat}
    (inRange : ∀ position ∈ positions, position < declarations.length) :
    (declarationsAt declarations positions).map some = positions.map (declarations[·]?) := by
  induction positions with
  | nil => rfl
  | cons first rest ih =>
      have there := List.getElem?_eq_getElem (inRange first List.mem_cons_self)
      have restInRange := ih fun position member => inRange position (List.mem_cons_of_mem _ member)
      rw [declarationsAt] at restInRange ⊢
      rw [List.filterMap_cons, there, List.map_cons, List.map_cons, there, restInRange]

end References

/-! ## Placed and waiting positions -/

theorem rel_of_idxOf_lt {relation : Nat → Nat → Prop} {list : List Nat} {first second : Nat}
    (sorted : list.Pairwise relation) (firstMember : first ∈ list) (secondMember : second ∈ list)
    (before : list.idxOf first < list.idxOf second) : relation first second := by
  have related := List.pairwise_iff_getElem.mp sorted _ _
    (List.idxOf_lt_length_of_mem firstMember) (List.idxOf_lt_length_of_mem secondMember) before
  rwa [List.getElem_idxOf, List.getElem_idxOf] at related

namespace Placing

variable {above : Nat → List Nat} {count : Nat} {placed waiting : List Nat}

theorem nodup (placing : Placing above count [] waiting placed) : (placed ++ waiting).Nodup :=
  placing.perm.nodup_iff.mpr List.nodup_range

theorem length_placed_eq_iff (placing : Placing above count [] waiting placed) :
    placed.length = count ↔ waiting = [] := by
  have lengths := placing.perm.length_eq
  rw [List.nil_append, List.length_append, List.length_range] at lengths
  rw [← List.length_eq_zero_iff]
  omega

/-- Whatever a placed position names is placed before it. -/
theorem placed_before {position needed : Nat} (placing : Placing above count [] waiting placed)
    (member : position ∈ placed) (named : needed ∈ above position) :
    needed ∈ placed ∧ placed.idxOf needed < placed.idxOf position := by
  have neededPlaced := placing.served position (List.mem_append_left _ member) needed named
  refine ⟨neededPlaced, Nat.lt_of_not_le fun notBefore => ?_⟩
  rcases Nat.eq_or_lt_of_le notBefore with same | before
  · rw [List.idxOf_inj member] at same
    exact placing.irreflexive position member (same ▸ named)
  · exact rel_of_idxOf_lt placing.ordered member neededPlaced before named

end Placing

theorem arranges_placed {declarations : List Declaration} {placed : List Nat}
    (placing : Placing (positionsAbove declarations) declarations.length [] [] placed) :
    Arranges declarations (declarationsAt declarations placed) placed := by
  have all : placed.Perm (List.range declarations.length) := by
    simpa using placing.perm
  have member {position : Nat} (inRange : position < declarations.length) : position ∈ placed :=
    all.mem_iff.mpr (List.mem_range.mpr inRange)
  refine ⟨all, ?_, ?_⟩
  · exact map_some_declarationsAt fun position listed => List.mem_range.mp (all.mem_iff.mp listed)
  · intro position target refers
    exact (placing.placed_before (member refers.position_lt) (mem_positionsAbove_iff.mpr refers)).2

section Waiting

variable {declarations : List Declaration} {placed waiting : List Nat} {position : Nat}
  (placing : Placing (positionsAbove declarations) declarations.length [] waiting placed)

include placing

theorem not_leadsToCycle_of_placed (member : position ∈ placed) :
    ¬ LeadsToCycle declarations position := by
  have before {position target : Nat} (member : position ∈ placed)
      (refers : RefersTo declarations position target) :=
    placing.placed_before member (mem_positionsAbove_iff.mpr refers)
  rintro ⟨other, chain, cycle⟩
  have otherPlaced : other ∈ placed := by
    clear cycle
    induction chain with
    | refl => exact member
    | tail _ refers ih => exact (before ih refers).1
  -- along the cycle everything is placed, each before the one that refers to it
  have descends : ∀ target, Relation.TransGen (RefersTo declarations) other target →
      target ∈ placed ∧ placed.idxOf target < placed.idxOf other := by
    intro target chain
    induction chain with
    | single refers => exact before otherPlaced refers
    | tail _ refers ih =>
        have next := before ih.1 refers
        exact ⟨next.1, next.2.trans ih.2⟩
  exact lt_irrefl _ (descends other cycle).2

theorem mem_waiting_iff : position ∈ waiting ↔ LeadsToCycle declarations position := by
  have placedOrWaiting {position : Nat} (inRange : position < declarations.length) :
      position ∈ placed ∨ position ∈ waiting :=
    List.mem_append.mp (placing.perm.mem_iff.mpr (List.mem_range.mpr inRange))
  constructor
  · intro waits
    refine exists_cycle_of_serial (fun other otherWaits => ?_) waits
    rcases placing.heldUp other otherWaits with ⟨needed, named, notPlaced⟩
    have refers := mem_positionsAbove_iff.mp named
    exact ⟨needed, (placedOrWaiting refers.target_lt).resolve_left notPlaced, refers⟩
  · intro leads
    exact (placedOrWaiting leads.lt_length).resolve_left fun member =>
      not_leadsToCycle_of_placed placing member leads

theorem noneWaits_iff_acyclic :
    waiting = [] ↔
      ∀ position, ¬ Relation.TransGen (RefersTo declarations) position position := by
  rw [List.eq_nil_iff_forall_not_mem]
  constructor
  · intro noneWaits position cycle
    exact noneWaits position ((mem_waiting_iff placing).mpr ⟨position, .refl, cycle⟩)
  · intro acyclic position waits
    rcases (mem_waiting_iff placing).mp waits with ⟨other, _, cycle⟩
    exact acyclic other cycle

theorem reports_waiting :
    Reports declarations
      (QualifiedName.sort ((declarationsAt declarations waiting).map (·.name))) waiting where
  sorted := QualifiedName.pairwise_sort _
  distinct := (List.nodup_append.mp placing.nodup).2.1
  leads _ := mem_waiting_iff placing
  entries := by
    refine ((QualifiedName.sort_perm _).map some).trans (.of_eq ?_)
    have entries : (declarationsAt declarations waiting).map some
        = waiting.map (declarations[·]?) :=
      map_some_declarationsAt fun position waits => ((mem_waiting_iff placing).mp waits).lt_length
    calc ((declarationsAt declarations waiting).map (·.name)).map some
        = ((declarationsAt declarations waiting).map some).map (·.map (·.name)) := by
          rw [List.map_map, List.map_map]
          rfl
      _ = waiting.map fun position => declarations[position]?.map (·.name) := by
          rw [entries, List.map_map]
          rfl

end Waiting

/-! ## Every list -/

/-- The order of a list, whatever names are repeated in it. Counting down gives it without a count
below zero and without placing an entry twice. There is an order exactly when no entry refers to
itself, directly or in a cycle; then it has all entries, each after those that it refers to.
Otherwise the problem names all entries from which a cycle can be reached, and no others. -/
theorem supertypesFirst_spec (declarations : List Declaration) :
    (∃ placed degrees,
      countPositions (positionsAbove declarations) declarations.length = some (placed, degrees) ∧
        placed.Nodup ∧
        supertypesFirst declarations = countedOutcome declarations placed degrees) ∧
      ((∃ order, supertypesFirst declarations = .ok order) ↔
        ∀ position, ¬ Relation.TransGen (RefersTo declarations) position position) ∧
      (∀ order, supertypesFirst declarations = .ok order →
        order.Perm declarations ∧ ∃ positions, Arranges declarations order positions) ∧
      ∀ problem, supertypesFirst declarations = .error problem →
        ∃ names positions, problem = .inheritanceCycle names ∧
          Reports declarations names positions := by
  have placing := placing_positionsAbove declarations
  rcases countPositions_eq (positionsAbove declarations) declarations.length with
    ⟨degrees, counted, left⟩
  have outcome := supertypesFirst_eq declarations
  rw [if_congr waitingDeclarations_eq_nil_iff rfl rfl, placedDeclarations, waitingDeclarations]
    at outcome
  generalize placePositions (positionsAbove declarations) declarations.length = queue
    at placing counted left outcome
  rcases queue with ⟨placed, waiting⟩
  dsimp only at placing counted left outcome
  refine ⟨⟨placed, degrees, counted, (List.nodup_append.mp placing.nodup).1, ?_⟩, ?_, ?_, ?_⟩
  · rw [outcome, countedOutcome, left, if_congr placing.length_placed_eq_iff rfl rfl]
  · rw [outcome, ← noneWaits_iff_acyclic placing]
    by_cases noneWaits : waiting = [] <;> simp [noneWaits]
  · intro order found
    rw [outcome] at found
    split at found
    · next noneWaits =>
        cases found
        rw [noneWaits] at placing
        have arranges := arranges_placed placing
        exact ⟨declarationsAt_perm arranges.all, placed, arranges⟩
    · cases found
  · intro problem failed
    rw [outcome] at failed
    split at failed
    · cases failed
    · cases failed
      exact ⟨_, waiting, rfl, reports_waiting placing⟩

end NativeWrappers
