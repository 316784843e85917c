import Mathlib.Data.Finset.Lattice.Fold
import Mathlib.Order.Lattice.Nat
import NativeWrappers.Proofs.Hierarchy.Positions
/-!
# The order goes by depth

An entry joins the queue when the last of the entries that it refers to is placed, and entries that
join at the same moment do so in input order. This tells the whole order: first the entries that
refer to none, then the others by the place of the last entry that they waited for. Along such an
order the depth of the entries cannot decrease, so it goes layer by layer, although the queue never
looks at a depth. And there is only one order like that.
-/

namespace NativeWrappers

/-- A chain of this many references leads upwards from the position. -/
inductive Climbs (declarations : List Declaration) : (position length : Nat) → Prop
  | stay (position : Nat) : Climbs declarations position 0
  | up {position target length : Nat} (refers : RefersTo declarations position target)
      (onward : Climbs declarations target length) : Climbs declarations position (length + 1)

/-- The order goes by depth, which is the length of the longest chain of references upwards. Entries
of depth zero keep their input order. Deeper ones of the same depth follow the order of the latest
entries that they refer to, and keep their input order if this is the same one. -/
structure GoesByDepth (declarations : List Declaration) (positions : List Nat)
    (depth latest : Nat → Nat) : Prop where
  longest : ∀ position < declarations.length,
    IsGreatest {length | Climbs declarations position length} (depth position)
  last : ∀ position < declarations.length, 0 < depth position →
    IsGreatest {place | ∃ target, RefersTo declarations position target ∧
      positions.idxOf target = place} (latest position)
  increasing : positions.Pairwise fun earlier later => depth earlier ≤ depth later
  roots : positions.Pairwise fun earlier later =>
    depth earlier = 0 → depth later = 0 → earlier < later
  layers : positions.Pairwise fun earlier later =>
    depth earlier = depth later → 0 < depth earlier →
      latest earlier < latest later ∨ latest earlier = latest later ∧ earlier < later

/-! ## When an entry joins the queue -/

section Queue

variable {above : Nat → List Nat} {count position needed : Nat}
  {line queue waiting placed more : List Nat}

/-- How many of the line are placed when everything above the position is. -/
def readyAfter (above : Nat → List Nat) (line : List Nat) (position : Nat) : Nat :=
  (above position).toFinset.sup fun needed => line.idxOf needed + 1

theorem readyAfter_le_iff {bound : Nat} :
    readyAfter above line position ≤ bound ↔
      ∀ needed ∈ above position, line.idxOf needed < bound := by
  rw [readyAfter, Finset.sup_le_iff]
  simp only [List.mem_toFinset, Nat.succ_le_iff]

theorem idxOf_lt_readyAfter (named : needed ∈ above position) :
    line.idxOf needed < readyAfter above line position :=
  readyAfter_le_iff.mp le_rfl needed named

theorem exists_readyAfter_eq (positive : 0 < readyAfter above line position) :
    ∃ needed ∈ above position, readyAfter above line position = line.idxOf needed + 1 := by
  rcases Finset.lt_sup_iff.mp positive with ⟨needed, member, _⟩
  rcases Finset.exists_mem_eq_sup _ ⟨needed, member⟩ fun needed => line.idxOf needed + 1 with
    ⟨last, lastMember, equal⟩
  exact ⟨last, List.mem_toFinset.mp lastMember, equal⟩

theorem readyAfter_append (inLine : ∀ needed ∈ above position, needed ∈ line) :
    readyAfter above (line ++ more) position = readyAfter above line position := by
  apply Finset.sup_congr rfl
  intro needed member
  rw [List.idxOf_append_of_mem (inLine needed (List.mem_toFinset.mp member))]

/-- The first joins the queue before the second. -/
def JoinsBefore (above : Nat → List Nat) (line : List Nat) (first second : Nat) : Prop :=
  readyAfter above line first < readyAfter above line second ∨
    readyAfter above line first = readyAfter above line second ∧ first < second

/-- Whatever waits does so in input order, and the placed and the queued stand in the order in which
they joined. -/
structure KeepsJoinOrder (above : Nat → List Nat) (queue waiting placed : List Nat) : Prop where
  waiting : waiting.Pairwise (· < ·)
  joined : (placed ++ queue).Pairwise (JoinsBefore above (placed ++ queue))

namespace KeepsJoinOrder

theorem initial (above : Nat → List Nat) (count : Nat) :
    KeepsJoinOrder above (freed above [] (List.range count)) (blocked above [] (List.range count))
      [] where
  waiting := List.pairwise_lt_range.filter _
  joined := by
    rw [List.nil_append]
    refine (List.pairwise_lt_range.filter _).imp_of_mem ?_
    intro first second firstMember secondMember before
    have atOnce {position : Nat} (member : position ∈ freed above [] (List.range count)) :
        readyAfter above (freed above [] (List.range count)) position = 0 := by
      rw [← Nat.le_zero, readyAfter_le_iff]
      intro needed named
      cases (Placing.mem_freed.mp member).2 needed named
    exact .inr ⟨(atOnce firstMember).trans (atOnce secondMember).symm, before⟩

/-- Whatever is placed or queued waited only for what was placed. -/
theorem readyAfter_le_length {front : Nat}
    (placing : Placing above count (front :: queue) waiting placed)
    (member : position ∈ placed ++ front :: queue) :
    readyAfter above (placed ++ front :: queue) position ≤ placed.length := by
  rw [readyAfter_le_iff]
  intro needed named
  have neededPlaced := placing.served position member needed named
  rw [List.idxOf_append_of_mem neededPlaced]
  exact List.idxOf_lt_length_of_mem neededPlaced

/-- What joins when the front is placed has waited for the front, and for nothing later. -/
theorem readyAfter_of_mem_freed {front : Nat}
    (placing : Placing above count (front :: queue) waiting placed)
    (member : position ∈ freed above (placed ++ [front]) waiting) :
    readyAfter above (placed ++ front :: queue) position = placed.length + 1 := by
  rcases Placing.mem_freed.mp member with ⟨waited, served⟩
  apply le_antisymm
  · rw [readyAfter_le_iff]
    intro needed named
    have inLine : needed ∈ placed ++ [front] := served needed named
    rw [← List.singleton_append, ← List.append_assoc, List.idxOf_append_of_mem inLine]
    simpa using List.idxOf_lt_length_of_mem inLine
  · rcases placing.heldUp position waited with ⟨needed, named, notPlaced⟩
    have isFront : needed = front := by
      simpa [notPlaced] using served needed named
    rw [isFront] at named
    have place : (placed ++ front :: queue).idxOf front = placed.length := by
      rw [List.idxOf_append_of_notMem placing.front_not_mem]
      simp
    exact place ▸ idxOf_lt_readyAfter named

theorem next {front : Nat} (placing : Placing above count (front :: queue) waiting placed)
    (keeps : KeepsJoinOrder above (front :: queue) waiting placed) :
    KeepsJoinOrder above (queue ++ freed above (placed ++ [front]) waiting)
      (blocked above (placed ++ [front]) waiting) (placed ++ [front]) := by
  have sameLine : placed ++ [front] ++ (queue ++ freed above (placed ++ [front]) waiting)
      = placed ++ front :: queue ++ freed above (placed ++ [front]) waiting := by
    simp
  -- those who join now stand at the end, where nobody has waited for them
  have sameMoment {position : Nat} (inLine : position ∈ placed ++ front :: queue ∨
      position ∈ freed above (placed ++ [front]) waiting) :
      readyAfter above (placed ++ front :: queue ++ freed above (placed ++ [front]) waiting)
          position
        = readyAfter above (placed ++ front :: queue) position := by
    apply readyAfter_append
    intro needed named
    rcases inLine with old | new
    · exact List.mem_append_left _ (placing.served position old needed named)
    · have served := (Placing.mem_freed.mp new).2 needed named
      simp only [List.mem_append, List.mem_singleton] at served
      simp only [List.mem_append, List.mem_cons]
      tauto
  refine ⟨keeps.waiting.filter _, ?_⟩
  rw [sameLine, List.pairwise_append]
  refine ⟨?_, ?_, ?_⟩
  · refine keeps.joined.imp_of_mem ?_
    intro first second firstMember secondMember before
    rwa [JoinsBefore, sameMoment (.inl firstMember), sameMoment (.inl secondMember)]
  · refine (keeps.waiting.filter _).imp_of_mem ?_
    intro first second firstMember secondMember before
    rw [JoinsBefore, sameMoment (.inr firstMember), sameMoment (.inr secondMember),
      readyAfter_of_mem_freed placing firstMember, readyAfter_of_mem_freed placing secondMember]
    exact .inr ⟨rfl, before⟩
  · intro first firstMember second secondMember
    rw [JoinsBefore, sameMoment (.inl firstMember), sameMoment (.inr secondMember),
      readyAfter_of_mem_freed placing secondMember]
    exact .inl (Nat.lt_succ_of_le (readyAfter_le_length placing firstMember))

theorem placeQueue (placing : Placing above count queue waiting placed)
    (keeps : KeepsJoinOrder above queue waiting placed) :
    KeepsJoinOrder above [] (placeQueue above queue waiting placed).2
      (placeQueue above queue waiting placed).1 := by
  induction queue, waiting, placed using NativeWrappers.placeQueue.induct above with
  | case1 waiting placed =>
      rw [NativeWrappers.placeQueue]
      exact keeps
  | case2 waiting placed front queue ih =>
      rw [NativeWrappers.placeQueue]
      exact ih placing.next (keeps.next placing)

end KeepsJoinOrder

/-- What is placed stands in the order in which it joined the queue. -/
theorem pairwise_joinsBefore_placePositions (above : Nat → List Nat) (count : Nat) :
    (placePositions above count).1.Pairwise (JoinsBefore above (placePositions above count).1) := by
  have keeps := (KeepsJoinOrder.initial above count).placeQueue (.initial above count)
  simpa [placePositions] using keeps.joined

end Queue

/-! ## Depths -/

section Depth

variable {declarations order : List Declaration} {positions : List Nat}
  {position target length : Nat}

/-- The length of the longest chain of references upwards from the position. -/
noncomputable def depthOf (declarations : List Declaration) (position : Nat) : Nat :=
  sSup {length | Climbs declarations position length}

namespace Arranges

theorem position_mem (arranges : Arranges declarations order positions)
    (inRange : position < declarations.length) : position ∈ positions :=
  arranges.all.mem_iff.mpr (List.mem_range.mpr inRange)

/-- Every reference leads to an earlier place, so no chain is longer than its first place. -/
theorem length_le_idxOf (arranges : Arranges declarations order positions)
    (climbs : Climbs declarations position length) : length ≤ positions.idxOf position := by
  induction climbs with
  | stay position => exact Nat.zero_le _
  | up refers _ ih => exact Nat.succ_le_of_lt (ih.trans_lt (arranges.after _ _ refers))

theorem isGreatest_depthOf (arranges : Arranges declarations order positions) (position : Nat) :
    IsGreatest {length | Climbs declarations position length} (depthOf declarations position) := by
  have bounded : BddAbove {length | Climbs declarations position length} :=
    ⟨positions.idxOf position, fun _ climbs => arranges.length_le_idxOf climbs⟩
  exact ⟨Nat.sSup_mem ⟨0, .stay position⟩ bounded, fun _ climbs => le_csSup bounded climbs⟩

theorem depthOf_lt (arranges : Arranges declarations order positions)
    (refers : RefersTo declarations position target) :
    depthOf declarations target < depthOf declarations position :=
  (arranges.isGreatest_depthOf position).2 (.up refers (arranges.isGreatest_depthOf target).1)

/-- The longest chain goes through an entry that is one less deep. -/
theorem exists_refersTo_depthOf (arranges : Arranges declarations order positions)
    (positive : 0 < depthOf declarations position) :
    ∃ target, RefersTo declarations position target ∧
      depthOf declarations position = depthOf declarations target + 1 := by
  have climbs : Climbs declarations position (depthOf declarations position) :=
    (arranges.isGreatest_depthOf position).1
  generalize deep : depthOf declarations position = depth at climbs positive
  cases climbs with
  | stay => cases positive
  | @up _ target length refers onward =>
      refine ⟨target, refers, ?_⟩
      have longest : length ≤ depthOf declarations target :=
        (arranges.isGreatest_depthOf target).2 onward
      have below := arranges.depthOf_lt refers
      omega

theorem readyAfter_pos_iff (arranges : Arranges declarations order positions) :
    0 < readyAfter (positionsAbove declarations) positions position ↔
      0 < depthOf declarations position := by
  constructor
  · intro positive
    rcases exists_readyAfter_eq positive with ⟨target, named, _⟩
    exact Nat.zero_lt_of_lt (arranges.depthOf_lt (mem_positionsAbove_iff.mp named))
  · intro positive
    rcases arranges.exists_refersTo_depthOf positive with ⟨target, refers, _⟩
    exact Nat.zero_lt_of_lt (idxOf_lt_readyAfter (mem_positionsAbove_iff.mpr refers))

theorem isGreatest_readyAfter (arranges : Arranges declarations order positions)
    (positive : 0 < depthOf declarations position) :
    IsGreatest {place | ∃ target, RefersTo declarations position target ∧
        positions.idxOf target = place}
      (readyAfter (positionsAbove declarations) positions position - 1) := by
  constructor
  · rcases exists_readyAfter_eq (arranges.readyAfter_pos_iff.mpr positive) with
      ⟨target, named, place⟩
    exact ⟨target, mem_positionsAbove_iff.mp named, by omega⟩
  · rintro place ⟨target, refers, rfl⟩
    have before : positions.idxOf target
        < readyAfter (positionsAbove declarations) positions position :=
      idxOf_lt_readyAfter (mem_positionsAbove_iff.mpr refers)
    exact Nat.le_sub_one_of_lt before

/-- Whoever joins the queue first is not the deeper one: the deepest entry that it waited for is not
placed after the last one that the other waited for. -/
theorem depthOf_le (arranges : Arranges declarations order positions)
    (joined : positions.Pairwise (JoinsBefore (positionsAbove declarations) positions))
    {later : Nat} (laterMember : later ∈ positions) (member : position ∈ positions)
    (before : positions.idxOf position < positions.idxOf later) :
    depthOf declarations position ≤ depthOf declarations later := by
  induction place : positions.idxOf later using Nat.strong_induction_on
    generalizing later position with
  | _ place ih =>
      rcases Nat.eq_zero_or_pos (depthOf declarations position) with none | positive
      · exact none ▸ Nat.zero_le _
      · rcases arranges.exists_refersTo_depthOf positive with ⟨target, refers, deep⟩
        have targetPlaced : positions.idxOf target
            < readyAfter (positionsAbove declarations) positions position :=
          idxOf_lt_readyAfter (mem_positionsAbove_iff.mpr refers)
        have noLater : readyAfter (positionsAbove declarations) positions position
            ≤ readyAfter (positionsAbove declarations) positions later := by
          rcases rel_of_idxOf_lt joined member laterMember before with earlier | ⟨same, _⟩
          · exact earlier.le
          · exact same.le
        rcases exists_readyAfter_eq ((Nat.zero_lt_of_lt targetPlaced).trans_le noLater) with
          ⟨last, lastNamed, lastPlaced⟩
        have lastRefers := mem_positionsAbove_iff.mp lastNamed
        have targetMember := arranges.position_mem refers.target_lt
        have lastMember := arranges.position_mem lastRefers.target_lt
        have lastBefore := arranges.after later last lastRefers
        have notDeeper : depthOf declarations target ≤ depthOf declarations last := by
          rcases Nat.lt_or_eq_of_le
            (show positions.idxOf target ≤ positions.idxOf last by omega) with first | same
          · exact ih (positions.idxOf last) (by omega) lastMember targetMember first rfl
          · rw [(List.idxOf_inj targetMember).mp same]
        have below := arranges.depthOf_lt lastRefers
        omega

theorem goesByDepth (arranges : Arranges declarations order positions)
    (joined : positions.Pairwise (JoinsBefore (positionsAbove declarations) positions)) :
    GoesByDepth declarations positions (depthOf declarations)
      (readyAfter (positionsAbove declarations) positions · - 1) where
  longest position _ := arranges.isGreatest_depthOf position
  last position _ := arranges.isGreatest_readyAfter
  increasing := by
    have distinct : positions.Nodup := arranges.all.nodup_iff.mpr List.nodup_range
    rw [List.pairwise_iff_getElem]
    intro first second firstInRange secondInRange before
    apply arranges.depthOf_le joined (List.getElem_mem _) (List.getElem_mem _)
    rwa [distinct.idxOf_getElem, distinct.idxOf_getElem]
  roots := by
    refine joined.imp ?_
    intro earlier later before earlierRoot laterRoot
    have laterAtOnce : ¬ 0 < readyAfter (positionsAbove declarations) positions later := by
      rw [arranges.readyAfter_pos_iff, laterRoot]
      exact lt_irrefl 0
    rcases before with lower | ⟨_, inputOrder⟩
    · exact absurd (Nat.zero_lt_of_lt lower) laterAtOnce
    · exact inputOrder
  layers := by
    refine joined.imp ?_
    intro earlier later before same positive
    have earlierWaits := arranges.readyAfter_pos_iff.mpr positive
    have laterWaits := arranges.readyAfter_pos_iff.mpr (same ▸ positive)
    rcases before with lower | ⟨equal, inputOrder⟩
    · exact .inl (by omega)
    · exact .inr ⟨by rw [equal], inputOrder⟩

end Arranges

namespace GoesByDepth

variable {positions' : List Nat} {depth latest depth' latest' : Nat → Nat}

theorem depth_lt (goes : GoesByDepth declarations positions depth latest)
    (refers : RefersTo declarations position target) : depth target < depth position :=
  (goes.longest position refers.position_lt).2
    (.up refers (goes.longest target refers.target_lt).1)

/-- The latest entry above the second in one order, and above the first in another order. -/
theorem exists_lower_upper (goes : GoesByDepth declarations positions depth latest)
    (goes' : GoesByDepth declarations positions' depth' latest') {first second : Nat}
    (firstInRange : first < declarations.length) (secondInRange : second < declarations.length)
    (firstDeep : 0 < depth first) (secondDeep : 0 < depth second) (firstDeep' : 0 < depth' first)
    (secondDeep' : 0 < depth' second) :
    ∃ lower upper, RefersTo declarations first lower ∧ RefersTo declarations second upper ∧
      positions.idxOf lower ≤ latest first ∧ positions.idxOf upper = latest second ∧
      positions'.idxOf lower = latest' first ∧ positions'.idxOf upper ≤ latest' second := by
  rcases (goes.last second secondInRange secondDeep).1 with ⟨upper, refersUpper, upperPlace⟩
  rcases (goes'.last first firstInRange firstDeep').1 with ⟨lower, refersLower, lowerPlace⟩
  exact ⟨lower, upper, refersLower, refersUpper,
    (goes.last first firstInRange firstDeep).2 ⟨lower, refersLower, rfl⟩, upperPlace, lowerPlace,
    (goes'.last second secondInRange secondDeep').2 ⟨upper, refersUpper, rfl⟩⟩

/-- Two orders that go by depth put the same entry first. Where they could differ, both have the
same depth, and then the latest entries above them are in the same order by induction. -/
theorem idxOf_lt (all : positions.Perm (List.range declarations.length))
    (all' : positions'.Perm (List.range declarations.length))
    (goes : GoesByDepth declarations positions depth latest)
    (goes' : GoesByDepth declarations positions' depth' latest') {first second : Nat}
    (firstInRange : first < declarations.length) (secondInRange : second < declarations.length)
    (before : positions.idxOf first < positions.idxOf second) :
    positions'.idxOf first < positions'.idxOf second := by
  have member {position : Nat} (inRange : position < declarations.length) : position ∈ positions :=
    all.mem_iff.mpr (List.mem_range.mpr inRange)
  have member' {position : Nat} (inRange : position < declarations.length) :
      position ∈ positions' :=
    all'.mem_iff.mpr (List.mem_range.mpr inRange)
  have sameDepth {position : Nat} (inRange : position < declarations.length) :
      depth' position = depth position :=
    (goes'.longest position inRange).unique (goes.longest position inRange)
  induction deep : depth second using Nat.strong_induction_on generalizing first second with
  | _ bound ih =>
      by_contra notBefore
      have different : positions'.idxOf first ≠ positions'.idxOf second := by
        rw [ne_eq, List.idxOf_inj (member' firstInRange)]
        rintro rfl
        exact lt_irrefl _ before
      have after : positions'.idxOf second < positions'.idxOf first := by omega
      have notDeeper := rel_of_idxOf_lt goes.increasing (member firstInRange)
        (member secondInRange) before
      have notDeeper' := rel_of_idxOf_lt goes'.increasing (member' secondInRange)
        (member' firstInRange) after
      rw [sameDepth firstInRange, sameDepth secondInRange] at notDeeper'
      have same := le_antisymm notDeeper notDeeper'
      rcases Nat.eq_zero_or_pos (depth second) with root | positive
      · have inputOrder := rel_of_idxOf_lt goes.roots (member firstInRange) (member secondInRange)
          before (same.trans root) root
        have inputOrder' := rel_of_idxOf_lt goes'.roots (member' secondInRange)
          (member' firstInRange) after ((sameDepth secondInRange).trans root)
          ((sameDepth firstInRange).trans (same.trans root))
        omega
      · have firstDeep : 0 < depth first := same ▸ positive
        have firstDeep' : 0 < depth' first := sameDepth firstInRange ▸ firstDeep
        have secondDeep' : 0 < depth' second := sameDepth secondInRange ▸ positive
        have same' : depth' second = depth' first := by
          rw [sameDepth firstInRange, sameDepth secondInRange, same]
        have inLayer := rel_of_idxOf_lt goes.layers (member firstInRange) (member secondInRange)
          before same firstDeep
        have inLayer' := rel_of_idxOf_lt goes'.layers (member' secondInRange)
          (member' firstInRange) after same' secondDeep'
        rcases exists_lower_upper goes goes' firstInRange secondInRange firstDeep positive
          firstDeep' secondDeep' with
          ⟨lower, upper, refersLower, refersUpper, lowerPlace, upperPlace, lowerPlace', upperPlace'⟩
        have inOrder (earlier : positions.idxOf lower < positions.idxOf upper) :
            positions'.idxOf lower < positions'.idxOf upper :=
          ih (depth upper) (deep ▸ goes.depth_lt refersUpper) refersLower.target_lt
            refersUpper.target_lt earlier rfl
        have equal (samePlace : positions.idxOf lower = positions.idxOf upper) :
            positions'.idxOf lower = positions'.idxOf upper := by
          rw [(List.idxOf_inj (member refersLower.target_lt)).mp samePlace]
        omega

/-- No two orders of a list go by depth. -/
theorem unique (all : positions.Perm (List.range declarations.length))
    (all' : positions'.Perm (List.range declarations.length))
    (goes : GoesByDepth declarations positions depth latest)
    (goes' : GoesByDepth declarations positions' depth' latest') : positions' = positions := by
  have distinct : positions.Nodup := all.nodup_iff.mpr List.nodup_range
  have distinct' : positions'.Nodup := all'.nodup_iff.mpr List.nodup_range
  have inRange' {position : Nat} (member : position ∈ positions') :
      position < declarations.length :=
    List.mem_range.mp (all'.mem_iff.mp member)
  have sorted : positions.Pairwise fun first second =>
      positions.idxOf first < positions.idxOf second := by
    rw [List.pairwise_iff_getElem]
    intro first second _ _ before
    rwa [distinct.idxOf_getElem, distinct.idxOf_getElem]
  have sorted' : positions'.Pairwise fun first second =>
      positions.idxOf first < positions.idxOf second := by
    rw [List.pairwise_iff_getElem]
    intro first second _ _ before
    apply idxOf_lt all' all goes' goes (inRange' (List.getElem_mem _))
      (inRange' (List.getElem_mem _))
    rwa [distinct'.idxOf_getElem, distinct'.idxOf_getElem]
  refine List.Perm.eq_of_pairwise ?_ sorted' sorted (all'.trans all.symm)
  intro first second _ _ before after
  exact absurd (before.trans after) (lt_irrefl _)

end GoesByDepth

end Depth

/-- The order that is found goes by depth, and no other order of the list does. -/
theorem goesByDepth_of_supertypesFirst {declarations order : List Declaration}
    (found : supertypesFirst declarations = .ok order) :
    ∃ positions depth latest, Arranges declarations order positions ∧
      GoesByDepth declarations positions depth latest ∧
      ∀ positions' depth' latest', positions'.Perm (List.range declarations.length) →
        GoesByDepth declarations positions' depth' latest' → positions' = positions := by
  rw [supertypesFirst_eq] at found
  split at found
  · next noneWaits =>
      cases found
      have placing := placing_positionsAbove declarations
      rw [waitingDeclarations_eq_nil_iff.mp noneWaits] at placing
      have arranges := arranges_placed placing
      have goes := arranges.goesByDepth (pairwise_joinsBefore_placePositions _ _)
      exact ⟨_, _, _, arranges, goes,
        fun _ _ _ all' goes' => GoesByDepth.unique arranges.all all' goes goes'⟩
  · cases found

/-- A declaration below two others, one of which comes later and has another one above it. It lists
the other one twice. -/
def unevenDiamond : List Declaration :=
  [{ name := ⟨"", "Leaf"⟩, kind := .interface
     supertypes := [⟨"", "Left"⟩, ⟨"", "Left"⟩, ⟨"", "Right"⟩] },
   { name := ⟨"", "Left"⟩, kind := .interface },
   { name := ⟨"", "Right"⟩, kind := .interface, supertypes := [⟨"", "Top"⟩] },
   { name := ⟨"", "Top"⟩, kind := .interface }]

theorem goesByDepth_unevenDiamond :
    ∃ positions depth latest,
      Arranges unevenDiamond (declarationsAt unevenDiamond [1, 3, 2, 0]) positions ∧
        GoesByDepth unevenDiamond positions depth latest := by
  have found : supertypesFirst unevenDiamond = .ok (declarationsAt unevenDiamond [1, 3, 2, 0]) := by
    cbv
  rcases goesByDepth_of_supertypesFirst found with
    ⟨positions, depth, latest, arranges, goes, _⟩
  exact ⟨positions, depth, latest, arranges, goes⟩

end NativeWrappers
