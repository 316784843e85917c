/-!
# JSON values

JSON as a value, apart from its text. An object keeps its members in order, and the text of a
number stands for the number.
-/

namespace NativeWrappers

/-- A JSON value. -/
inductive Json where
  | null
  | boolean (value : Bool)
  | number (text : String)
  | string (value : String)
  | array (elements : List Json)
  | object (members : List (String × Json))
deriving Repr, Inhabited

namespace Json

/-- The first member of this key, if the value is an object that has one. -/
def member? (json : Json) (key : String) : Option Json :=
  match json with
  | object members => members.lookup key
  | _ => none

end Json

end NativeWrappers
