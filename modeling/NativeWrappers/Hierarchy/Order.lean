import NativeWrappers.Problem
/-!
# Supertypes first

A generated interface can only extend generated supertypes that already exist, so interface targets
are put in an order in which every one comes after its supertypes in the list. A supertype name
refers to the last declaration of that name in the list, and names of no declaration in the list are
ignored.

The order is that of a queue. At first it holds the declarations without supertypes in the list,
in input order. The front of the queue is placed, and whatever thereby has all its supertypes placed
joins the end, again in input order. What never joins lies on a cycle or below one.
-/

namespace NativeWrappers

/-- The position of the last declaration of this name. -/
def lastPosition? : (declarations : List Declaration) → (name : QualifiedName) → Option Nat
  | [], _ => none
  | declaration :: rest, name =>
    match lastPosition? rest name with
    | some position => some (position + 1)
    | none => if declaration.name = name then some 0 else none

/-- The positions that the supertypes of a declaration refer to. -/
def supertypePositions (declarations : List Declaration) (declaration : Declaration) : List Nat :=
  declaration.supertypes.filterMap (lastPosition? declarations)

/-- Whether all positions above the given one are placed. -/
def isFree (above : Nat → List Nat) (placed : List Nat) (position : Nat) : Bool :=
  (above position).all placed.contains

/-- The waiting positions that can be placed next. -/
def freed (above : Nat → List Nat) (placed waiting : List Nat) : List Nat :=
  waiting.filter (isFree above placed)

/-- The waiting positions that still have to wait. -/
def blocked (above : Nat → List Nat) (placed waiting : List Nat) : List Nat :=
  waiting.filter (!isFree above placed ·)

/-- Every waiting position is freed or blocked. -/
theorem length_freed_add_length_blocked (above : Nat → List Nat) (placed waiting : List Nat) :
    (freed above placed waiting).length + (blocked above placed waiting).length
      = waiting.length := by
  induction waiting with
  | nil => rfl
  | cons position rest ih =>
    simp only [freed, blocked] at ih ⊢
    cases free : isFree above placed position <;> simp [free] <;> omega

/-- Place the queue front by front. Answers with the placed positions in order, and with the
positions that never joined the queue. -/
def placeQueue (above : Nat → List Nat) : (queue waiting placed : List Nat) → List Nat × List Nat
  | [], waiting, placed => (placed, waiting)
  | front :: queue, waiting, placed =>
    placeQueue above (queue ++ freed above (placed ++ [front]) waiting)
      (blocked above (placed ++ [front]) waiting) (placed ++ [front])
termination_by queue waiting => queue.length + waiting.length
decreasing_by
  have parts := length_freed_add_length_blocked above (placed ++ [front]) waiting
  simp only [List.length_append, List.length_cons]
  omega

/-- The positions below `count` that can be placed, in order, and those that cannot. -/
def placePositions (above : Nat → List Nat) (count : Nat) : List Nat × List Nat :=
  placeQueue above (freed above [] (List.range count)) (blocked above [] (List.range count)) []

/-- The declarations at these positions. -/
def declarationsAt (declarations : List Declaration) (positions : List Nat) : List Declaration :=
  positions.filterMap (declarations[·]?)

/-- The declarations, each after its supertypes in the list. If some cannot be ordered, all of them
are reported, sorted by name. -/
def supertypesFirst (declarations : List Declaration) : Except Problem (List Declaration) :=
  let table := declarations.map (supertypePositions declarations)
  let result := placePositions (fun position => table.getD position []) declarations.length
  if result.2.isEmpty then
    .ok (declarationsAt declarations result.1)
  else
    .error (.inheritanceCycle
      (QualifiedName.sort ((declarationsAt declarations result.2).map (·.name))))

end NativeWrappers
