import NativeWrappers.Json.Skip
import NativeWrappers.Json.Value
/-!
# Reading by a schema

A schema says which JSON is expected: texts, flags, words from a list, arrays, and records of named
kinds. Reading by a schema checks a text and gives the value that it writes in one normal form. An
object and an array of its values in the order of the schema both write a record, a word can be
wrapped as the key of an object, and members that the schema does not know are left out.

The first fault in reading order is the one reported. A missing member is noticed at the end of its
record, the first in the order of the schema. What a schema expects may nest to a limit only.
-/

namespace NativeWrappers.Json

/-- The expected form of a value, where `Kind` names the kinds of records. -/
inductive Shape (Kind : Type) where
  | text
  | flag
  /-- One of these words. -/
  | choice (words : List String)
  | list (element : Shape Kind)
  | record (kind : Kind)
deriving DecidableEq, Repr

/-- Whether a member has to be there. -/
inductive Presence where
  | required
  /-- It may be left out. -/
  | defaulted
  /-- It may be left out, and it may be null. -/
  | nullable
deriving DecidableEq, Repr

/-- An expected member of a record. -/
structure Field (Kind : Type) where
  key : String
  presence : Presence
  shape : Shape Kind
deriving DecidableEq, Repr

/-- The kinds of records: what messages call them, and their members in order. -/
structure Schema (Kind : Type) where
  name : Kind → String
  fields : Kind → List (Field Kind)

/-- How many arrays and objects may stand inside each other. -/
def nestingLimit : Nat := 127

/-- Report a value that is not of the expected type. A number or string is read for the report. -/
def rejectType {α : Type} (expected : String) (cursor : Cursor) :
    Except Failure (α × Cursor) := do
  let (found, cursor) ← found
  throw (cursor.failure (.invalidType found expected))
where
  found : Except Failure (Found × Cursor) :=
    match cursor.peek? with
    | some 'n' => (cursor.next.readWord ['u', 'l', 'l']).map (.null, ·)
    | some 't' => (cursor.next.readWord ['r', 'u', 'e']).map (.boolean true, ·)
    | some 'f' => (cursor.next.readWord ['a', 'l', 's', 'e']).map (.boolean false, ·)
    | some '-' => readNumber cursor.next false
    | some '"' => (readString cursor.next).map fun (text, cursor) => (.string text, cursor)
    | some '[' => .ok (.array, cursor)
    | some '{' => .ok (.object, cursor)
    | some character =>
      if isDigit character then readNumber cursor true
      else .error (cursor.failureAhead .expectedValue)
    | none => .error (cursor.failureAhead .expectedValue)

/-- Read a text where messages call the expected thing `expected`. -/
def readText (expected : String) (cursor : Cursor) : Except Failure (String × Cursor) :=
  let cursor := cursor.skipBlanks
  match cursor.peek? with
  | none => .error (cursor.failureAhead .endInValue)
  | some '"' => readString cursor.next
  | some _ => rejectType expected cursor

/-- Read true or false. -/
def readFlag (cursor : Cursor) : Except Failure (Json × Cursor) :=
  let cursor := cursor.skipBlanks
  match cursor.peek? with
  | none => .error (cursor.failureAhead .endInValue)
  | some 't' => (cursor.next.readWord ['r', 'u', 'e']).map (.boolean true, ·)
  | some 'f' => (cursor.next.readWord ['a', 'l', 's', 'e']).map (.boolean false, ·)
  | some _ => rejectType "a boolean" cursor

/-- Pass over the colon between a key and its value. -/
def readColon (cursor : Cursor) : Except Failure Cursor :=
  let cursor := cursor.skipBlanks
  match cursor.peek? with
  | none => .error (cursor.failureAhead .endInObject)
  | some ':' => .ok cursor.next
  | some _ => .error (cursor.failureAhead .expectedColon)

/-- Read a text that has to be one of some words. -/
def readWordOf (words : List String) (cursor : Cursor) : Except Failure (String × Cursor) := do
  let (word, cursor) ← readText "variant identifier" cursor
  if words.contains word then return (word, cursor)
  else throw (cursor.failure (.unknownVariant word words))

/-- Read the null that stands behind a word written as a key. -/
def readNull (cursor : Cursor) : Except Failure Cursor :=
  let cursor := cursor.skipBlanks
  match cursor.peek? with
  | none => .error (cursor.failureAhead .endInValue)
  | some 'n' => cursor.next.readWord ['u', 'l', 'l']
  | some _ => (rejectType "unit" cursor : Except Failure (Unit × Cursor)).map (·.2)

/-- Read a word, either alone or as the key of an object whose value is null. -/
def readChoice (levels : Nat) (words : List String) (cursor : Cursor) :
    Except Failure (Json × Cursor) := do
  let cursor := cursor.skipBlanks
  match cursor.peek? with
  | none => throw (cursor.failureAhead .endInValue)
  | some '"' =>
    let (word, cursor) ← readWordOf words cursor
    return (.string word, cursor)
  | some '{' =>
    if levels = 0 then
      throw (cursor.failureAhead .nestingLimit)
    let (word, cursor) ← readWordOf words cursor.next
    let cursor := (← readNull (← readColon cursor)).skipBlanks
    match cursor.peek? with
    | none => throw (cursor.failure .endInObject)
    | some '}' => return (.string word, cursor.next)
    | some _ => throw (cursor.failure .expectedValue)
  | some _ => throw (cursor.failureAhead .expectedValue)

/-- Whether another element follows in an array, and the cursor at that element or at the closing
bracket. `first` says that no element came before. -/
def nextElement (first : Bool) (cursor : Cursor) : Except Failure (Bool × Cursor) :=
  let cursor := cursor.skipBlanks
  match cursor.peek? with
  | none => .error (cursor.failureAhead .endInArray)
  | some ']' => .ok (false, cursor)
  | some character =>
    if first then .ok (true, cursor)
    else if character = ',' then
      let cursor := cursor.next.skipBlanks
      match cursor.peek? with
      | none => .error (cursor.failureAhead .endInValue)
      | some ']' => .error (cursor.failureAhead .trailingComma)
      | some _ => .ok (true, cursor)
    else
      .error (cursor.failureAhead .expectedCommaOrBracket)

/-- Whether another member follows in an object, and the cursor at its key or at the closing
brace. -/
def nextMember (first : Bool) (cursor : Cursor) : Except Failure (Bool × Cursor) :=
  let cursor := cursor.skipBlanks
  match cursor.peek? with
  | none => .error (cursor.failureAhead .endInObject)
  | some '}' => .ok (false, cursor)
  | some character =>
    if first then
      if character = '"' then .ok (true, cursor) else .error (cursor.failureAhead .keyNotString)
    else if character = ',' then
      let cursor := cursor.next.skipBlanks
      match cursor.peek? with
      | none => .error (cursor.failureAhead .endInValue)
      | some '"' => .ok (true, cursor)
      | some '}' => .error (cursor.failureAhead .trailingComma)
      | some _ => .error (cursor.failureAhead .keyNotString)
    else
      .error (cursor.failureAhead .expectedCommaOrBrace)

/-- Read elements up to the closing bracket, at most `fuel` of them. -/
def readElements (readElement : Cursor → Except Failure (Json × Cursor)) :
    (fuel : Nat) → (first : Bool) → Cursor → Except Failure (List Json × Cursor)
  | 0, _, cursor => .error (cursor.failureAhead .endInArray)
  | fuel + 1, first, cursor => do
    let (more, cursor) ← nextElement first cursor
    if more then
      let (element, cursor) ← readElement cursor
      let (elements, cursor) ← readElements readElement fuel false cursor
      return (element :: elements, cursor)
    else
      return ([], cursor.next)

/-- Read the closing bracket behind the last element that is expected. -/
def readBracket (cursor : Cursor) : Except Failure Cursor :=
  let cursor := cursor.skipBlanks
  match cursor.peek? with
  | none => .error (cursor.failureAhead .endInArray)
  | some ']' => .ok cursor.next
  | some ',' =>
    let cursor := cursor.next.skipBlanks
    match cursor.peek? with
    | some ']' => .error (cursor.failureAhead .trailingComma)
    | _ => .error (cursor.failureAhead .trailingCharacters)
  | some _ => .error (cursor.failureAhead .trailingCharacters)

/-- The cursor behind the closing brace, if it comes next. -/
def passBrace (cursor : Cursor) : Cursor :=
  let cursor := cursor.skipBlanks
  if cursor.peek? = some '}' then cursor.next else cursor

section Records

variable {Kind : Type}

/-- Read the value of a field, or the null that may stand for it. -/
def readField (readShape : Shape Kind → Cursor → Except Failure (Json × Cursor))
    (field : Field Kind) (cursor : Cursor) : Except Failure (Json × Cursor) :=
  let start := cursor.skipBlanks
  if field.presence = .nullable ∧ start.peek? = some 'n' then
    (start.next.readWord ['u', 'l', 'l']).map (.null, ·)
  else
    readShape field.shape cursor

/-- Read the values of a record in the order of its fields, where `index` come before. Values at the
end may be left out, except required ones. -/
def readPositions (readShape : Shape Kind → Cursor → Except Failure (Json × Cursor))
    (expected : String) :
    (fields : List (Field Kind)) → (index : Nat) → Cursor →
    Except Failure (List (String × Json) × Cursor)
  | [], _, cursor => (readBracket cursor).map ([], ·)
  | field :: fields, index, cursor => do
    let (more, cursor) ← nextElement (index == 0) cursor
    if more then
      let (value, cursor) ← readField readShape field cursor
      let (members, cursor) ← readPositions readShape expected fields (index + 1) cursor
      return ((field.key, value) :: members, cursor)
    else
      match (field :: fields).findIdx? (·.presence == .required) with
      | some missing => throw (cursor.next.failure (.invalidLength (index + missing) expected))
      | none => return ([], cursor.next)

/-- Read the members of a record up to the closing brace, at most `fuel` of them, after those
found. -/
def readMembers (readShape : Shape Kind → Cursor → Except Failure (Json × Cursor))
    (fields : List (Field Kind)) :
    (fuel : Nat) → (first : Bool) → (members : List (String × Json)) → Cursor →
    Except Failure (List (String × Json) × Cursor)
  | 0, _, _, cursor => .error (cursor.failureAhead .endInObject)
  | fuel + 1, first, members, cursor => do
    let (more, cursor) ← nextMember first cursor
    if more then
      let (key, cursor) ← readString cursor.next
      match fields.find? (·.key == key) with
      | none =>
        readMembers readShape fields fuel false members (← skipValue (← readColon cursor))
      | some field =>
        if (members.lookup key).isSome then
          throw ((passBrace cursor).failure (.duplicateField key))
        let (value, cursor) ← readField readShape field (← readColon cursor)
        readMembers readShape fields fuel false (members ++ [(key, value)]) cursor
    else
      match fields.find? fun field =>
          field.presence == .required && (members.lookup field.key).isNone with
      | some field => throw (cursor.next.failure (.missingField field.key))
      | none => return (members, cursor.next)

/-- What a message calls a record of this kind. -/
def Schema.recordText (schema : Schema Kind) (kind : Kind) : String := "struct " ++ schema.name kind

/-- What a message calls a record of the right length. -/
def Schema.lengthText (schema : Schema Kind) (kind : Kind) : String :=
  let count := (schema.fields kind).length
  schema.recordText kind ++ " with " ++ toString count
    ++ if count = 1 then " element" else " elements"

/-- Read a value of this shape, with arrays and objects inside each other up to `levels` deep. -/
def Schema.read (schema : Schema Kind) : (levels : Nat) → Shape Kind → Cursor →
    Except Failure (Json × Cursor)
  | _, .text, cursor => do
    let (text, cursor) ← readText "a string" cursor
    return (.string text, cursor)
  | _, .flag, cursor => readFlag cursor
  | levels, .choice words, cursor => readChoice levels words cursor
  | levels, .list element, cursor => do
    let cursor := cursor.skipBlanks
    match cursor.peek? with
    | none => throw (cursor.failureAhead .endInValue)
    | some '[' =>
      match levels with
      | 0 => throw (cursor.failureAhead .nestingLimit)
      | levels + 1 =>
        let (elements, cursor) ←
          readElements (schema.read levels element) (cursor.rest.length + 1) true cursor.next
        return (.array elements, cursor)
    | some _ => rejectType "a sequence" cursor
  | levels, .record kind, cursor => do
    let cursor := cursor.skipBlanks
    match cursor.peek? with
    | none => throw (cursor.failureAhead .endInValue)
    | some '[' =>
      match levels with
      | 0 => throw (cursor.failureAhead .nestingLimit)
      | levels + 1 =>
        let (members, cursor) ←
          readPositions (schema.read levels) (schema.lengthText kind) (schema.fields kind) 0
            cursor.next
        return (.object members, cursor)
    | some '{' =>
      match levels with
      | 0 => throw (cursor.failureAhead .nestingLimit)
      | levels + 1 =>
        let (members, cursor) ←
          readMembers (schema.read levels) (schema.fields kind) (cursor.rest.length + 1) true []
            cursor.next
        return (.object members, cursor)
    | some _ => rejectType (schema.recordText kind) cursor

/-- Read a whole text as one record. Nothing but blanks may follow it. -/
def Schema.readDocument (schema : Schema Kind) (kind : Kind) (text : String) :
    Except Failure Json := do
  let (json, cursor) ← schema.read nestingLimit (.record kind) (Cursor.ofText text)
  let cursor := cursor.skipBlanks
  if cursor.rest.isEmpty then return json
  else throw (cursor.failureAhead .trailingCharacters)

end Records

end NativeWrappers.Json
