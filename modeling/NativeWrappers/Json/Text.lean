import NativeWrappers.Json.Cursor
/-!
# JSON strings

A string is read up to its closing quotation mark. Characters below the blank have to be escaped.
An escape by number stands for a code unit of sixteen bits, so a character beyond them takes a
leading and a trailing surrogate; a string that is read has no surrogate alone, while a string that
is passed over may have any.
-/

namespace NativeWrappers.Json

/-- The number that a hexadecimal digit stands for. -/
def hexValue? (character : Char) : Option Nat :=
  if character.isDigit then some (character.toNat - '0'.toNat)
  else if 'a' ≤ character ∧ character ≤ 'f' then some (character.toNat - 'a'.toNat + 10)
  else if 'A' ≤ character ∧ character ≤ 'F' then some (character.toNat - 'A'.toNat + 10)
  else none

/-- The number that hexadecimal digits stand for. -/
def hexNumber? (digits : List Char) : Option Nat :=
  digits.foldl
    (fun number? digit => do return (← number?) * 16 + (← hexValue? digit)) (some 0)

/-- Read the four hexadecimal digits of a code unit. -/
def readUnit (cursor : Cursor) : Except Failure (Nat × Cursor) :=
  let digits := cursor.rest.take 4
  let bytes := byteCount digits
  if bytes < 4 then
    .error ⟨.endInString, cursor.offset + bytes⟩
  else
    match hexNumber? digits with
    | some unit => .ok (unit, ⟨cursor.rest.drop 4, cursor.offset + 4⟩)
    | none => .error ⟨.invalidEscape, cursor.offset + 4⟩

/-- Whether a code unit is the first of a pair of surrogates. -/
def isLeading (unit : Nat) : Bool := decide (0xD800 ≤ unit) && decide (unit ≤ 0xDBFF)

/-- Whether a code unit is the second of a pair of surrogates. -/
def isTrailing (unit : Nat) : Bool := decide (0xDC00 ≤ unit) && decide (unit ≤ 0xDFFF)

/-- Read one character that has to follow a leading surrogate. -/
def readAfterLeading (expected : Char) (cursor : Cursor) : Except Failure Cursor :=
  match cursor.peek? with
  | none => .error (cursor.failure .endInString)
  | some character =>
    if character = expected then .ok cursor.next
    else .error (cursor.failureAhead .unfinishedSurrogate)

/-- Read an escape by number behind its letter: a code unit, or a pair of surrogates. -/
def readNumbered (cursor : Cursor) : Except Failure (Char × Cursor) := do
  let (unit, cursor) ← readUnit cursor
  if isTrailing unit then
    throw (cursor.failure .loneSurrogate)
  else if isLeading unit then
    let cursor ← readAfterLeading '\\' cursor
    let cursor ← readAfterLeading 'u' cursor
    let (trailing, cursor) ← readUnit cursor
    if isTrailing trailing then
      return (Char.ofNat (0x10000 + (unit - 0xD800) * 0x400 + (trailing - 0xDC00)), cursor)
    else
      throw (cursor.failure .loneSurrogate)
  else
    return (Char.ofNat unit, cursor)

/-- The character that a letter behind a backslash stands for. -/
def simpleEscape? : Char → Option Char
  | '"' => some '"'
  | '\\' => some '\\'
  | '/' => some '/'
  | 'b' => some '\x08'
  | 'f' => some '\x0c'
  | 'n' => some '\n'
  | 'r' => some '\r'
  | 't' => some '\t'
  | _ => none

/-- Read an escape behind its backslash. -/
def readEscape (cursor : Cursor) : Except Failure (Char × Cursor) :=
  match cursor.peek? with
  | none => .error (cursor.failure .endInString)
  | some 'u' => readNumbered cursor.next
  | some letter =>
    match simpleEscape? letter with
    | some character => .ok (character, cursor.next)
    | none => .error (cursor.failureAhead .invalidEscape)

/-- Pass over an escape behind its backslash. Any code unit will do. -/
def skipEscape (cursor : Cursor) : Except Failure Cursor :=
  match cursor.peek? with
  | none => .error (cursor.failure .endInString)
  | some 'u' => (readUnit cursor.next).map (·.2)
  | some letter =>
    if (simpleEscape? letter).isSome then .ok cursor.next
    else .error (cursor.failureAhead .invalidEscape)

/-- Read the characters of a string up to its end, at most `fuel` of them. -/
def readCharacters : (fuel : Nat) → (reversed : List Char) → Cursor →
    Except Failure (String × Cursor)
  | 0, _, cursor => .error (cursor.failure .endInString)
  | fuel + 1, reversed, cursor =>
    match cursor.peek? with
    | none => .error (cursor.failure .endInString)
    | some '"' => .ok (String.ofList reversed.reverse, cursor.next)
    | some '\\' => do
      let (character, cursor) ← readEscape cursor.next
      readCharacters fuel (character :: reversed) cursor
    | some character =>
      if character.toNat < 32 then .error (cursor.failureAhead .controlCharacter)
      else readCharacters fuel (character :: reversed) cursor.next

/-- Read a string, behind its opening quotation mark. -/
def readString (cursor : Cursor) : Except Failure (String × Cursor) :=
  readCharacters (cursor.rest.length + 1) [] cursor

/-- Pass over the characters of a string up to its end, at most `fuel` of them. -/
def skipCharacters : (fuel : Nat) → Cursor → Except Failure Cursor
  | 0, cursor => .error (cursor.failure .endInString)
  | fuel + 1, cursor =>
    match cursor.peek? with
    | none => .error (cursor.failure .endInString)
    | some '"' => .ok cursor.next
    | some '\\' => do skipCharacters fuel (← skipEscape cursor.next)
    | some character =>
      if character.toNat < 32 then .error (cursor.failure .controlCharacter)
      else skipCharacters fuel cursor.next

/-- Pass over a string, behind its opening quotation mark. -/
def skipString (cursor : Cursor) : Except Failure Cursor :=
  skipCharacters (cursor.rest.length + 1) cursor

end NativeWrappers.Json
