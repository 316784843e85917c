import Mathlib.Algebra.GroupWithZero.Nat
import Mathlib.Data.List.Count
import Mathlib.Data.List.Nodup
import NativeWrappers.Proofs.Hierarchy.Order
/-!
# Counting down to an order

The queue need not look for what it frees. It is enough to count, for every position, how many times
it names one that is not placed yet, and to count down once for every time that it names the front
of the queue. A position joins the queue when its count becomes zero. This is the same queue,
provided that no count ever falls below zero: a supertype that is listed repeatedly is counted
repeatedly, and it has to be counted down as many times.
-/

namespace NativeWrappers

/-! ## The algorithm -/

/-- Count down once for every listed position. Answers with the counts that are left, and with the
positions whose count became zero, in order. There is no answer if a count would fall below zero. -/
def discharge (degrees : List Nat) : (listed : List Nat) → Option (List Nat × List Nat)
  | [] => some (degrees, [])
  | position :: rest =>
    match degrees[position]? with
    | some (degree + 1) =>
      (discharge (degrees.set position degree) rest).map fun (remaining, ready) =>
        (remaining, if degree = 0 then position :: ready else ready)
    | _ => none

theorem sum_set_of_getElem? {degrees : List Nat} {position degree : Nat}
    (counted : degrees[position]? = some (degree + 1)) :
    (degrees.set position degree).sum + 1 = degrees.sum := by
  induction degrees generalizing position with
  | nil => cases counted
  | cons first rest ih =>
      cases position with
      | zero =>
          cases counted
          rw [List.set_cons_zero, List.sum_cons, List.sum_cons]
          omega
      | succ position =>
          have inRest : (rest.set position degree).sum + 1 = rest.sum := ih counted
          rw [List.set_cons_succ, List.sum_cons, List.sum_cons]
          omega

/-- Whatever becomes ready was counted down at least once. -/
theorem sum_add_length_le_of_discharge {degrees listed remaining ready : List Nat}
    (discharged : discharge degrees listed = some (remaining, ready)) :
    remaining.sum + ready.length ≤ degrees.sum := by
  induction listed generalizing degrees remaining ready with
  | nil =>
      cases discharged
      simp
  | cons position rest ih =>
      rw [discharge] at discharged
      split at discharged
      · next degree counted =>
          rcases Option.map_eq_some_iff.mp discharged with ⟨⟨remaining', ready'⟩, inner, equal⟩
          have lowered := sum_set_of_getElem? counted
          have below := ih inner
          cases equal
          split
          · rw [List.length_cons]
            omega
          · omega
      · cases discharged

/-- Place the queue front by front, counting down where the front is named. Answers with the placed
positions in order and with the counts that are left. -/
def countDown (dependents : Nat → List Nat) (degrees : List Nat) :
    (queue placed : List Nat) → Option (List Nat × List Nat)
  | [], placed => some (placed, degrees)
  | front :: queue, placed =>
    match _discharged : discharge degrees (dependents front) with
    | none => none
    | some (remaining, ready) =>
      countDown dependents remaining (queue ++ ready) (placed ++ [front])
termination_by queue => degrees.sum + queue.length
decreasing_by
  have shrinks := sum_add_length_le_of_discharge _discharged
  rw [List.length_append, List.length_cons]
  omega

/-- The positions below `count` that name this one, in order, each as often as it does. -/
def dependents (above : Nat → List Nat) (count front : Nat) : List Nat :=
  (List.range count).flatMap fun position =>
    List.replicate ((above position).count front) position

/-- The counts of the positions below `count`, and then the queue of those that name none. -/
def countPositions (above : Nat → List Nat) (count : Nat) : Option (List Nat × List Nat) :=
  countDown (dependents above count)
    ((List.range count).map fun position => (above position).length)
    ((List.range count).filter fun position => (above position).length = 0) []

/-- The outcome for a list of declarations when these positions were placed and these counts are
left. -/
def countedOutcome (declarations : List Declaration) (placed degrees : List Nat) :
    Except Problem (List Declaration) :=
  if placed.length = declarations.length then
    .ok (declarationsAt declarations placed)
  else
    .error (.inheritanceCycle
      (QualifiedName.sort ((declarationsAt declarations
        ((List.range declarations.length).filter fun position =>
          0 < degrees.getD position 0)).map (·.name))))

/-! ## Counting down for one front -/

theorem set_map_range (degree : Nat → Nat) (count position lowered : Nat) :
    ((List.range count).map degree).set position lowered
      = (List.range count).map (Function.update degree position lowered) := by
  apply List.ext_getElem
  · simp
  · intro index inSet inMap
    rw [List.getElem_set]
    by_cases here : position = index
    · simp [here]
    · simp [here, Function.update_of_ne (Ne.symm here)]

/-- A position that is listed several times in a row becomes ready if that is its whole count. -/
theorem discharge_replicate {degree : Nat → Nat} {count position times : Nat}
    (inRange : position < count) (enough : times ≤ degree position) (rest : List Nat) :
    discharge ((List.range count).map degree) (List.replicate times position ++ rest)
      = (discharge ((List.range count).map
          (Function.update degree position (degree position - times))) rest).map
        fun (remaining, ready) => (remaining,
          if times ≠ 0 ∧ times = degree position then position :: ready else ready) := by
  induction times generalizing degree with
  | zero => simp
  | succ times ih =>
      rcases Nat.exists_eq_add_one.mpr (Nat.zero_lt_of_lt enough) with ⟨lowered, counted⟩
      have there : ((List.range count).map degree)[position]? = some (lowered + 1) := by
        simp [inRange, counted]
      have enough' : times ≤ Function.update degree position lowered position := by
        rw [Function.update_self]
        omega
      rw [List.replicate_succ, List.cons_append, discharge, there]
      dsimp only
      rw [set_map_range, ih enough', Function.update_self, Function.update_idem, Option.map_map,
        counted, Nat.add_sub_add_right]
      congr 1
      funext ⟨remaining, ready⟩
      -- the last of the listed occurrences takes the count to zero, or none does
      have sameReady : (if lowered = 0 then
            position :: (if times ≠ 0 ∧ times = lowered then position :: ready else ready)
          else if times ≠ 0 ∧ times = lowered then position :: ready else ready)
          = if times + 1 ≠ 0 ∧ times + 1 = lowered + 1 then position :: ready else ready := by
        grind
      exact congrArg (Prod.mk remaining) sameReady

/-- Positions that are listed one after the other, none more often than its count, are counted down
by that much, and ready are those that were listed for the whole of it. -/
theorem discharge_flatMap {degree demand : Nat → Nat} {count : Nat} {positions : List Nat}
    (distinct : positions.Nodup) (inRange : ∀ position ∈ positions, position < count)
    (enough : ∀ position ∈ positions, demand position ≤ degree position) :
    discharge ((List.range count).map degree)
        (positions.flatMap fun position => List.replicate (demand position) position)
      = some ((List.range count).map fun position =>
          if position ∈ positions then degree position - demand position else degree position,
        positions.filter fun position =>
          demand position ≠ 0 ∧ demand position = degree position) := by
  induction positions generalizing degree with
  | nil => simp [discharge]
  | cons first rest ih =>
      rcases List.nodup_cons.mp distinct with ⟨firstNew, restDistinct⟩
      have untouched (position : Nat) (member : position ∈ rest) (lowered : Nat) :
          Function.update degree first lowered position = degree position :=
        Function.update_of_ne (ne_of_mem_of_not_mem member firstNew) _ _
      have enough' : ∀ position ∈ rest, demand position
          ≤ Function.update degree first (degree first - demand first) position := by
        intro position member
        rw [untouched position member]
        exact enough position (List.mem_cons_of_mem _ member)
      rw [List.flatMap_cons, discharge_replicate (inRange first List.mem_cons_self)
        (enough first List.mem_cons_self), ih restDistinct
        (fun position member => inRange position (List.mem_cons_of_mem _ member)) enough',
        Option.map_some, List.filter_cons]
      have sameDegrees (position : Nat) :
          (if position ∈ rest then
              Function.update degree first (degree first - demand first) position - demand position
            else Function.update degree first (degree first - demand first) position)
            = if position ∈ first :: rest then degree position - demand position
              else degree position := by
        by_cases isFirst : position = first
        · rw [isFirst, if_neg firstNew, Function.update_self, if_pos List.mem_cons_self]
        · rw [Function.update_of_ne isFirst]
          simp only [List.mem_cons, isFirst, false_or]
      have sameReady : rest.filter (fun position => demand position ≠ 0 ∧ demand position
            = Function.update degree first (degree first - demand first) position)
          = rest.filter fun position =>
            demand position ≠ 0 ∧ demand position = degree position := by
        apply List.filter_congr
        intro position member
        rw [untouched position member]
      rw [funext sameDegrees, sameReady]
      simp only [decide_eq_true_eq]

/-! ## The same queue -/

section Queue

variable {above : Nat → List Nat} {count : Nat} {placed : List Nat}

/-- How many times the position names one that is not placed. -/
def openAbove (above : Nat → List Nat) (placed : List Nat) (position : Nat) : Nat :=
  (above position).countP (· ∉ placed)

theorem openAbove_nil (above : Nat → List Nat) (position : Nat) :
    openAbove above [] position = (above position).length := by
  simp [openAbove]

theorem openAbove_eq_zero_iff {position : Nat} :
    openAbove above placed position = 0 ↔ isFree above placed position = true := by
  rw [openAbove, List.countP_eq_zero, Placing.isFree_iff]
  simp

theorem openAbove_append_front (above : Nat → List Nat) {front : Nat} (frontNew : front ∉ placed)
    (position : Nat) :
    openAbove above (placed ++ [front]) position + (above position).count front
      = openAbove above placed position := by
  rw [openAbove, openAbove]
  induction above position with
  | nil => rfl
  | cons named rest ih =>
      rw [List.countP_cons, List.countP_cons, List.count_cons, ← ih]
      by_cases isFront : named = front
      · rw [isFront]
        simp [frontNew]
        omega
      · simp [isFront]
        omega

theorem blocked_blocked (placed : List Nat) (front : Nat) (waiting : List Nat) :
    blocked above (placed ++ [front]) (blocked above placed waiting)
      = blocked above (placed ++ [front]) waiting := by
  rw [blocked, blocked, blocked, List.filter_filter]
  apply List.filter_congr
  intro position _
  have stays (free : isFree above placed position = true) :
      isFree above (placed ++ [front]) position = true := by
    rw [Placing.isFree_iff] at free ⊢
    exact fun needed named => List.mem_append_left _ (free needed named)
  grind

/-- Placing the front counts down to what is open after it, and frees what the queue lets join. -/
theorem discharge_dependents (above : Nat → List Nat) (count : Nat) {front : Nat}
    (frontNew : front ∉ placed) :
    discharge ((List.range count).map (openAbove above placed)) (dependents above count front)
      = some ((List.range count).map (openAbove above (placed ++ [front])),
        freed above (placed ++ [front]) (blocked above placed (List.range count))) := by
  have counted (position : Nat) := openAbove_append_front above frontNew position
  rw [dependents, discharge_flatMap List.nodup_range (fun _ => List.mem_range.mp)
    fun position _ => (counted position) ▸ Nat.le_add_left _ _]
  congr 2
  · apply List.map_congr_left
    intro position member
    rw [if_pos member, ← counted position, Nat.add_sub_cancel]
  · rw [freed, blocked, List.filter_filter]
    apply List.filter_congr
    intro position _
    rw [Bool.eq_iff_iff, Bool.and_eq_true, Bool.not_eq_true', ← Bool.not_eq_true,
      ← openAbove_eq_zero_iff, ← openAbove_eq_zero_iff, decide_eq_true_eq]
    have taken := counted position
    omega

/-- From what is open at any moment of the queue, counting down places what the queue places. -/
theorem countDown_eq {queue waiting : List Nat} (placing : Placing above count queue waiting placed)
    (stillWaiting : waiting = blocked above placed (List.range count)) :
    countDown (dependents above count) ((List.range count).map (openAbove above placed)) queue
        placed
      = some ((placeQueue above queue waiting placed).1,
        (List.range count).map (openAbove above (placeQueue above queue waiting placed).1)) ∧
    (placeQueue above queue waiting placed).2
      = blocked above (placeQueue above queue waiting placed).1 (List.range count) := by
  induction queue, waiting, placed using placeQueue.induct above with
  | case1 waiting placed =>
      rw [placeQueue, countDown]
      exact ⟨rfl, stillWaiting⟩
  | case2 front queue waiting placed ih =>
      have stillWaiting' : blocked above (placed ++ [front]) waiting
          = blocked above (placed ++ [front]) (List.range count) := by
        rw [stillWaiting, blocked_blocked]
      have discharged := discharge_dependents above count placing.front_not_mem
      rw [← stillWaiting] at discharged
      rw [placeQueue, countDown, discharged]
      exact ih placing.next stillWaiting'

end Queue

/-- Counting down never gets stuck. It places what the queue places, and leaves a count at exactly
those positions that the queue leaves waiting. -/
theorem countPositions_eq (above : Nat → List Nat) (count : Nat) :
    ∃ degrees, countPositions above count = some ((placePositions above count).1, degrees) ∧
      ((List.range count).filter fun position => 0 < degrees.getD position 0)
        = (placePositions above count).2 := by
  have start := countDown_eq (.initial above count) rfl
  have sameQueue : ((List.range count).filter fun position => (above position).length = 0)
      = freed above [] (List.range count) := by
    rw [freed]
    apply List.filter_congr
    intro position _
    rw [Bool.eq_iff_iff, decide_eq_true_eq, ← openAbove_eq_zero_iff, openAbove_nil]
  refine ⟨(List.range count).map (openAbove above (placePositions above count).1), ?_, ?_⟩
  · rw [countPositions, sameQueue, ← funext (openAbove_nil above)]
    exact start.1
  · refine Eq.trans ?_ start.2.symm
    rw [blocked]
    apply List.filter_congr
    intro position member
    have counted : ((List.range count).map (openAbove above (placePositions above count).1)).getD
        position 0 = openAbove above (placePositions above count).1 position := by
      simp [List.getD_eq_getElem?_getD, List.mem_range.mp member]
    rw [counted, Bool.eq_iff_iff, decide_eq_true_eq, Bool.not_eq_true', ← Bool.not_eq_true,
      Nat.pos_iff_ne_zero, ne_eq, openAbove_eq_zero_iff]
    rfl

/-- What is named twice is counted twice, and counted down twice. -/
example : countPositions (fun position => if position = 0 then [1, 1] else []) 2
    = some ([1, 0], [0, 0]) := by
  cbv

end NativeWrappers
