import NativeWrappers.QualifiedName
/-!
# Type expressions

A type as it stands in a signature: a type constructor by its qualified name, the ordered generic
arguments, and whether the type is nullable. Type expressions nest without bound, so the functions
on them come in pairs, one for a type and one for a list of arguments.
-/

namespace NativeWrappers

/-- A possibly generic, possibly nullable type. -/
structure TypeExpr where
  name : QualifiedName
  arguments : List TypeExpr := []
  nullable : Bool := false
deriving Repr, Inhabited

namespace TypeExpr

mutual

/-- Equality of types is decided by comparing them part by part. -/
def decideEq : (first second : TypeExpr) → Decidable (first = second)
  | ⟨name, arguments, nullable⟩, ⟨name', arguments', nullable'⟩ =>
    match decEq name name', decideEqList arguments arguments', decEq nullable nullable' with
    | isTrue names, isTrue lists, isTrue flags => isTrue (by rw [names, lists, flags])
    | isFalse names, _, _ => isFalse fun equal => names (congrArg TypeExpr.name equal)
    | _, isFalse lists, _ => isFalse fun equal => lists (congrArg TypeExpr.arguments equal)
    | _, _, isFalse flags => isFalse fun equal => flags (congrArg TypeExpr.nullable equal)

/-- Equality of argument lists. -/
def decideEqList : (first second : List TypeExpr) → Decidable (first = second)
  | [], [] => isTrue rfl
  | [], _ :: _ => isFalse nofun
  | _ :: _, [] => isFalse nofun
  | head :: tail, head' :: tail' =>
    match decideEq head head', decideEqList tail tail' with
    | isTrue heads, isTrue tails => isTrue (by rw [heads, tails])
    | isFalse heads, _ => isFalse fun equal => heads (List.cons.inj equal).1
    | _, isFalse tails => isFalse fun equal => tails (List.cons.inj equal).2

end

instance : DecidableEq TypeExpr := decideEq

/-- The type of the result of a method that returns nothing. -/
def unit : TypeExpr := { name := ⟨"kotlin", "Unit"⟩ }

/-- The type that also admits null. -/
def asNullable (type : TypeExpr) : TypeExpr := { type with nullable := true }

mutual

/-- The written form: `package.Name<Argument, Argument?>?`. -/
def display : TypeExpr → String
  | ⟨name, arguments, nullable⟩ =>
    name.dotted ++ (if arguments.isEmpty then "" else "<" ++ displayList arguments ++ ">")
      ++ (if nullable then "?" else "")

/-- The written forms of some types, with commas between. -/
def displayList : List TypeExpr → String
  | [] => ""
  | [type] => type.display
  | type :: next :: rest => type.display ++ ", " ++ displayList (next :: rest)

end

mutual

/-- The type and every type nested in its arguments, outermost first. -/
def subterms : TypeExpr → List TypeExpr
  | ⟨name, arguments, nullable⟩ => ⟨name, arguments, nullable⟩ :: subtermsList arguments

/-- The types of a list and every type nested in their arguments, in order. -/
def subtermsList : List TypeExpr → List TypeExpr
  | [] => []
  | type :: rest => type.subterms ++ subtermsList rest

end

/-- Every type constructor that the type mentions, outermost first. -/
def names (type : TypeExpr) : List QualifiedName := type.subterms.map (·.name)

theorem self_mem_subterms (type : TypeExpr) : type ∈ type.subterms := by
  cases type
  simp [subterms]

theorem name_mem_names (type : TypeExpr) : type.name ∈ type.names :=
  List.mem_map_of_mem type.self_mem_subterms

end TypeExpr

end NativeWrappers
