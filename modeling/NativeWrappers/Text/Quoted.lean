import NativeWrappers.Text.Unprintable
/-!
# Quoted text

Text as a message quotes it: between quotation marks, with escapes for quotation marks, backslashes
and characters that would not show.
-/

namespace NativeWrappers.Text

/-- A number in hexadecimal digits. -/
def hexadecimal (number : Nat) : String := String.ofList (Nat.toDigits 16 number)

/-- A character as it stands in a quoted text, escaped if need be. -/
def quoteCharacter (character : Char) : String :=
  if character = Char.ofNat 0 then "\\0"
  else if character = '\t' then "\\t"
  else if character = '\r' then "\\r"
  else if character = '\n' then "\\n"
  else if character = '\\' then "\\\\"
  else if character = '"' then "\\\""
  else if isUnprintable character then "\\u\x7b" ++ hexadecimal character.toNat ++ "\x7d"
  else String.singleton character

/-- A text in quotation marks. -/
def quote (text : String) : String :=
  "\"" ++ String.join (text.toList.map quoteCharacter) ++ "\""

end NativeWrappers.Text
