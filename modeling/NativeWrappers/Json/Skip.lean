import NativeWrappers.Json.Number
import NativeWrappers.Json.Text
/-!
# Values passed over

The value of an unknown member is passed over. It has to be JSON, but it may nest without limit, so
what is open is kept in a list, innermost first.
-/

namespace NativeWrappers.Json

/-- What can be open around a value. -/
inductive Frame where
  | array
  | object
deriving DecidableEq, Repr

namespace Frame

/-- The character that closes a frame. -/
def closing : Frame → Char
  | array => ']'
  | object => '}'

/-- The fault of a text that ends inside. -/
def endFault : Frame → Fault
  | array => .endInArray
  | object => .endInObject

/-- The fault of a value that neither a comma nor the end follows. -/
def commaFault : Frame → Fault
  | array => .expectedCommaOrBracket
  | object => .expectedCommaOrBrace

end Frame

/-- Pass over a value that is no array and no object, or over the start of one. -/
def skipHead (cursor : Cursor) : Except Failure (Option Frame × Cursor) :=
  let cursor := cursor.skipBlanks
  match cursor.peek? with
  | none => .error (cursor.failureAhead .endInValue)
  | some 'n' => (cursor.next.readWord ['u', 'l', 'l']).map (none, ·)
  | some 't' => (cursor.next.readWord ['r', 'u', 'e']).map (none, ·)
  | some 'f' => (cursor.next.readWord ['a', 'l', 's', 'e']).map (none, ·)
  | some '-' => (skipNumber cursor.next).map (none, ·)
  | some '"' => (skipString cursor.next).map (none, ·)
  | some '[' => .ok (some .array, cursor.next)
  | some '{' => .ok (some .object, cursor.next)
  | some character =>
    if isDigit character then (skipNumber cursor).map (none, ·)
    else .error (cursor.failureAhead .expectedValue)

/-- Pass over the ends of what is open, and over a comma if another value follows it. Answers with
what is still open. Behind a value, `afterValue`, one of the two has to come. -/
def skipClosings : (frames : List Frame) → (afterValue : Bool) → Cursor →
    Except Failure (List Frame × Cursor)
  | [], _, cursor => .ok ([], cursor)
  | frame :: outer, afterValue, cursor =>
    let cursor := cursor.skipBlanks
    match cursor.peek? with
    | none => .error (cursor.failureAhead frame.endFault)
    | some character =>
      if afterValue && character == ',' then .ok (frame :: outer, cursor.next)
      else if character = frame.closing then skipClosings outer true cursor.next
      else if afterValue then .error (cursor.failureAhead frame.commaFault)
      else .ok (frame :: outer, cursor)

/-- Pass over a key and the colon behind it. -/
def skipKey (cursor : Cursor) : Except Failure Cursor := do
  let cursor := cursor.skipBlanks
  match cursor.peek? with
  | none => throw (cursor.failureAhead .endInObject)
  | some '"' =>
    let cursor := (← skipString cursor.next).skipBlanks
    match cursor.peek? with
    | none => throw (cursor.failureAhead .endInObject)
    | some ':' => return cursor.next
    | some _ => throw (cursor.failureAhead .expectedColon)
  | some _ => throw (cursor.failureAhead .keyNotString)

/-- Pass over values until nothing is open, at most `fuel` of them. -/
def skipValues : (fuel : Nat) → (frames : List Frame) → Cursor → Except Failure Cursor
  | 0, _, cursor => .error (cursor.failureAhead .endInValue)
  | fuel + 1, frames, cursor => do
    let (opened?, cursor) ← skipHead cursor
    let (frames, cursor) ←
      skipClosings (opened?.toList ++ frames) opened?.isNone cursor
    match frames with
    | [] => return cursor
    | .array :: _ => skipValues fuel frames cursor
    | .object :: _ => skipValues fuel frames (← skipKey cursor)

/-- Pass over a value. -/
def skipValue (cursor : Cursor) : Except Failure Cursor :=
  skipValues (cursor.rest.length + 1) [] cursor

end NativeWrappers.Json
