import NativeWrappers.Text.Quoted
/-!
# Faults in JSON text

What can be wrong with a text that is read as JSON of an expected shape: the text is no JSON, or it
is JSON of another shape. `message` is the wording of a fault.
-/

namespace NativeWrappers.Json

/-- What stands where something else is expected. -/
inductive Found where
  | null
  | boolean (value : Bool)
  | integer (value : Int)
  /-- A number with a fraction or an exponent, by its shortest decimal. -/
  | decimal (text : String)
  | string (value : String)
  | array
  | object
deriving DecidableEq, Repr

/-- What is wrong. -/
inductive Fault where
  | endInValue
  | endInArray
  | endInObject
  | endInString
  | expectedValue
  | expectedWord
  | expectedColon
  | expectedCommaOrBracket
  | expectedCommaOrBrace
  | trailingComma
  | trailingCharacters
  | keyNotString
  | invalidNumber
  | numberOutOfRange
  | invalidEscape
  | controlCharacter
  | loneSurrogate
  | unfinishedSurrogate
  | nestingLimit
  | missingField (key : String)
  | duplicateField (key : String)
  | unknownVariant (variant : String) (known : List String)
  | invalidType (found : Found) (expected : String)
  | invalidLength (length : Nat) (expected : String)
deriving DecidableEq, Repr

namespace Found

/-- What a message calls the value that was found. -/
def text : Found → String
  | null => "null"
  | boolean value => "boolean `" ++ (if value then "true" else "false") ++ "`"
  | integer value => "integer `" ++ toString value ++ "`"
  | decimal written => "floating point `" ++ written ++ "`"
  | string value => "string " ++ Text.quote value
  | array => "sequence"
  | object => "map"

end Found

namespace Fault

/-- How a message lists the names that would have been right. -/
def alternatives (names : List String) : String :=
  match names.map fun name => "`" ++ name ++ "`" with
  | [first, second] => first ++ " or " ++ second
  | [only] => only
  | quoted => "one of " ++ ", ".intercalate quoted

/-- The message of a fault, without its place. -/
def message : Fault → String
  | endInValue => "EOF while parsing a value"
  | endInArray => "EOF while parsing a list"
  | endInObject => "EOF while parsing an object"
  | endInString => "EOF while parsing a string"
  | expectedValue => "expected value"
  | expectedWord => "expected ident"
  | expectedColon => "expected `:`"
  | expectedCommaOrBracket => "expected `,` or `]`"
  | expectedCommaOrBrace => "expected `,` or `\x7d`"
  | trailingComma => "trailing comma"
  | trailingCharacters => "trailing characters"
  | keyNotString => "key must be a string"
  | invalidNumber => "invalid number"
  | numberOutOfRange => "number out of range"
  | invalidEscape => "invalid escape"
  | controlCharacter => "control character (\\u0000-\\u001F) found while parsing a string"
  | loneSurrogate => "lone leading surrogate in hex escape"
  | unfinishedSurrogate => "unexpected end of hex escape"
  | nestingLimit => "recursion limit exceeded"
  | missingField key => "missing field `" ++ key ++ "`"
  | duplicateField key => "duplicate field `" ++ key ++ "`"
  | unknownVariant variant known =>
    "unknown variant `" ++ variant ++ "`, expected " ++ alternatives known
  | invalidType found expected => "invalid type: " ++ found.text ++ ", expected " ++ expected
  | invalidLength length expected =>
    "invalid length " ++ toString length ++ ", expected " ++ expected

end Fault

/-- A fault and where it was noticed, as a number of bytes from the start of the text. -/
structure Failure where
  fault : Fault
  offset : Nat
deriving DecidableEq, Repr

/-- The line of a byte offset, counted from one, and its distance from the start of that line. -/
def position (text : String) (offset : Nat) : Nat × Nat :=
  go text.toList 0 1 0
where
  go : List Char → (byte line lineStart : Nat) → Nat × Nat
    | [], _, line, lineStart => (line, offset - lineStart)
    | character :: rest, byte, line, lineStart =>
      if offset ≤ byte then (line, offset - lineStart)
      else if character = '\n' then go rest (byte + 1) (line + 1) (byte + 1)
      else go rest (byte + character.utf8Size) line lineStart

/-- The wording of a failure in a text: the fault and its position. -/
def Failure.message (failure : Failure) (text : String) : String :=
  let place := position text failure.offset
  failure.fault.message ++ " at line " ++ toString place.1 ++ " column " ++ toString place.2

end NativeWrappers.Json
