/-!
# Package-qualified names

Every declaration, supertype reference and generated type is addressed by a qualified name: a
package, which may be empty, and a simple name. A name is written with a dot between the two, and
a written name is read by splitting it at its last dot. The two directions agree exactly on the
names whose simple part has no dot.
-/

namespace NativeWrappers

/-- A simple name in a package. The package may be empty. -/
structure QualifiedName where
  package : String
  simple : String
deriving DecidableEq, Repr, Inhabited

namespace QualifiedName

/-- The written form: the simple name alone when the package is empty, otherwise both with a dot
between them. -/
def dotted (name : QualifiedName) : String :=
  if name.package = "" then name.simple else name.package ++ "." ++ name.simple

/-- Read a written name: what follows the last dot is the simple name, what precedes it the
package. Without a dot the package is empty. -/
def parse (text : String) : QualifiedName :=
  let reversed := text.toList.reverse
  match reversed.dropWhile (· ≠ '.') with
  | [] => ⟨"", text⟩
  | _ :: package =>
    ⟨String.ofList package.reverse, String.ofList (reversed.takeWhile (· ≠ '.')).reverse⟩

/-- The name in the same package with another simple name. -/
def sibling (name : QualifiedName) (simple : String) : QualifiedName :=
  ⟨name.package, simple⟩

/-- Whether the name lies in this package itself. -/
def inPackage (name : QualifiedName) (package : String) : Bool :=
  name.package == package

/-- Names are ordered by package and then by simple name, each by code points. -/
def ordered (first second : QualifiedName) : Bool :=
  decide (first.package < second.package) ||
    (first.package == second.package && decide (first.simple ≤ second.simple))

/-- The names in ascending order, repetitions kept. -/
def sort (names : List QualifiedName) : List QualifiedName :=
  names.mergeSort ordered

/-- The name as messages show it. -/
def quoted (name : QualifiedName) : String :=
  "`" ++ name.dotted ++ "`"

/-- A name without a package is written as its simple name. -/
theorem dotted_of_package_empty {name : QualifiedName} (empty : name.package = "") :
    name.dotted = name.simple := by
  simp [dotted, empty]

end QualifiedName

end NativeWrappers
