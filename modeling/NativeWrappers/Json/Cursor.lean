import NativeWrappers.Json.Fault
/-!
# Cursors

A position in a text that is being read: the characters that are left, and how many bytes lie
behind. A fault is noticed either behind the last character read or at the next one, and is reported
there.
-/

namespace NativeWrappers.Json

/-- What is left of a text, and the number of bytes before it. -/
structure Cursor where
  rest : List Char
  offset : Nat := 0
deriving DecidableEq, Repr

/-- How many bytes the characters take up. -/
def byteCount (characters : List Char) : Nat :=
  characters.foldl (fun bytes character => bytes + character.utf8Size) 0

namespace Cursor

/-- The cursor at the start of a text. -/
def ofText (text : String) : Cursor := { rest := text.toList }

/-- The next character, if there is one. -/
def peek? (cursor : Cursor) : Option Char := cursor.rest.head?

/-- The cursor behind the next character. -/
def next (cursor : Cursor) : Cursor :=
  match cursor.rest with
  | [] => cursor
  | character :: rest => ⟨rest, cursor.offset + character.utf8Size⟩

/-- A failure noticed behind the last character read. -/
def failure (cursor : Cursor) (fault : Fault) : Failure := ⟨fault, cursor.offset⟩

/-- A failure noticed on looking at the next byte, if there is one. -/
def failureAhead (cursor : Cursor) (fault : Fault) : Failure :=
  ⟨fault, if cursor.rest.isEmpty then cursor.offset else cursor.offset + 1⟩

/-- Whether a character may stand between two parts of a text. -/
def isBlank (character : Char) : Bool :=
  character == ' ' || character == '\n' || character == '\t' || character == '\r'

/-- The cursor at the first character that is not accepted. -/
def skipWhile (accepts : Char → Bool) (cursor : Cursor) : Cursor :=
  ⟨cursor.rest.dropWhile accepts,
    cursor.offset + byteCount (cursor.rest.takeWhile accepts)⟩

/-- The cursor at the next character that is no blank. -/
def skipBlanks (cursor : Cursor) : Cursor := cursor.skipWhile isBlank

/-- Read the rest of a word whose first character was read. -/
def readWord : (word : List Char) → Cursor → Except Failure Cursor
  | [], cursor => .ok cursor
  | expected :: word, cursor =>
    match cursor.peek? with
    | none => .error (cursor.failure .endInValue)
    | some character =>
      if character = expected then readWord word cursor.next
      else .error (cursor.failureAhead .expectedWord)

end Cursor

end NativeWrappers.Json
