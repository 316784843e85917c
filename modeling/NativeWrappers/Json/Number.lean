import NativeWrappers.Decimal.Shortest
import NativeWrappers.Json.Cursor
/-!
# JSON numbers

No member of a model is a number, but a number that stands in the wrong place is named in the
message, so it is read. A number without fraction and exponent is an integer as long as 64 bits hold
it. Any other is computed in floating point from its first digits, as many as 64 bits hold, and the
power of ten: one multiplication or division for each 308 places.
-/

namespace NativeWrappers.Json

/-- Whether a character is a decimal digit. -/
def isDigit (character : Char) : Bool := character.isDigit

/-- The number that a decimal digit stands for. -/
def digitValue (character : Char) : Nat := character.toNat - '0'.toNat

/-- Whether 64 bits hold the digits with one more. -/
def fits (significand digit : Nat) : Bool := decide (significand * 10 + digit < Nat.pow 2 64)

/-- Take up digits while 64 bits hold them. Answers with the number, how many digits were taken up,
and the cursor behind them. -/
def takeDigits : (rest : List Char) → (significand taken offset : Nat) → Nat × Nat × Cursor
  | [], significand, taken, offset => (significand, taken, ⟨[], offset⟩)
  | character :: rest, significand, taken, offset =>
    if isDigit character && fits significand (digitValue character) then
      takeDigits rest (significand * 10 + digitValue character) (taken + 1) (offset + 1)
    else
      (significand, taken, ⟨character :: rest, offset⟩)

/-- A double scaled by a power of ten. There is none if the result is too large. -/
def scale (fuel : Nat) (value : Float) (power : Int) : Option Float :=
  match fuel with
  | 0 => some value
  | fuel + 1 =>
    if power.natAbs ≤ 308 then
      let factor := Float.ofScientific 1 false power.natAbs
      if 0 ≤ power then
        let scaled := value * factor
        if scaled.isInf then none else some scaled
      else
        some (value / factor)
    else if value == 0.0 then some value
    else if 0 ≤ power then none
    else scale fuel (value / Float.ofScientific 1 false 308) (power + 308)

/-- The number of these digits and this power of ten, for a message. -/
def decimal (cursor : Cursor) (positive : Bool) (significand : Nat) (power : Int) :
    Except Failure (Found × Cursor) :=
  match scale 8 significand.toUInt64.toFloat power with
  | some value => .ok (.decimal (Decimal.text (if positive then value else -value)), cursor)
  | none => .error (cursor.failure .numberOutOfRange)

/-- The largest exponent that is computed with. -/
def exponentLimit : Nat := Nat.pow 2 31 - 1

/-- Take up the digits of an exponent, up to the first that makes it too large. Answers with the
exponent, if it is not too large, and the cursor behind the digits taken up. -/
def takeExponent : (rest : List Char) → (exponent offset : Nat) → Option Nat × Cursor
  | [], exponent, offset => (some exponent, ⟨[], offset⟩)
  | character :: rest, exponent, offset =>
    if isDigit character then
      let extended := exponent * 10 + digitValue character
      if exponentLimit < extended then (none, ⟨rest, offset + 1⟩)
      else takeExponent rest extended (offset + 1)
    else
      (some exponent, ⟨character :: rest, offset⟩)

/-- A power of ten that stays within 32 bits. -/
def saturate (power : Int) : Int :=
  let limit : Int := exponentLimit
  if limit < power then limit else if power < -limit - 1 then -limit - 1 else power

/-- Read the exponent of a number from the letter on. -/
def readExponent (cursor : Cursor) (positive : Bool) (significand : Nat) (power : Int) :
    Except Failure (Found × Cursor) :=
  let behindLetter := cursor.next
  let (positiveExponent, start) :=
    match behindLetter.peek? with
    | some '+' => (true, behindLetter.next)
    | some '-' => (false, behindLetter.next)
    | _ => (true, behindLetter)
  match start.peek? with
  | none => .error (start.failure .endInValue)
  | some first =>
    if isDigit first then
      match takeExponent start.next.rest (digitValue first) start.next.offset with
      | (some exponent, behind) =>
        decimal behind positive significand
          (saturate (if positiveExponent then power + exponent else power - exponent))
      | (none, behind) =>
        if significand ≠ 0 ∧ positiveExponent then
          .error (behind.failure .numberOutOfRange)
        else
          .ok (.decimal (if positive then "0.0" else "-0.0"), behind.skipWhile isDigit)
    else
      .error (start.failureAhead .invalidNumber)

/-- Whether a character is the letter before an exponent. -/
def startsExponent (character : Char) : Bool := character == 'e' || character == 'E'

/-- Read the exponent of a number if it has one, behind all its other digits. -/
def readEnd (cursor : Cursor) (positive : Bool) (significand : Nat) (power : Int) :
    Except Failure (Found × Cursor) :=
  if cursor.peek?.any startsExponent then readExponent cursor positive significand power
  else decimal cursor positive significand power

/-- Read the fraction of a number from the point on. It has at least one digit. -/
def readFraction (cursor : Cursor) (positive : Bool) (significand : Nat) (power : Int) :
    Except Failure (Found × Cursor) :=
  let (extended, taken, behind) := takeDigits cursor.next.rest significand 0 cursor.next.offset
  if behind.peek?.any isDigit then
    readEnd (behind.skipWhile isDigit) positive extended (power - taken)
  else if taken = 0 then
    match behind.peek? with
    | some _ => .error (behind.failureAhead .invalidNumber)
    | none => .error (behind.failure .endInValue)
  else
    readEnd behind positive extended (power - taken)

/-- Read what follows the integral digits of a number. -/
def readFromDigits (cursor : Cursor) (positive : Bool) (significand : Nat) :
    Except Failure (Found × Cursor) :=
  match cursor.peek? with
  | some '.' => readFraction cursor positive significand 0
  | some 'e' | some 'E' => readExponent cursor positive significand 0
  | _ =>
    if positive then
      .ok (.integer significand, cursor)
    else if 0 < significand ∧ significand ≤ Nat.pow 2 63 then
      .ok (.integer (-significand), cursor)
    else
      .ok (.decimal (Decimal.text (-significand.toUInt64.toFloat)), cursor)

/-- Read an integral part of more digits than 64 bits hold. -/
def readLong (cursor : Cursor) (positive : Bool) (significand : Nat) :
    Except Failure (Found × Cursor) :=
  let power : Int := (cursor.rest.takeWhile isDigit).length
  let behind := cursor.skipWhile isDigit
  match behind.peek? with
  | some '.' => readFraction behind positive significand power
  | _ => readEnd behind positive significand power

/-- Read a number behind its sign. No digit follows a leading zero. -/
def readNumber (cursor : Cursor) (positive : Bool) : Except Failure (Found × Cursor) :=
  match cursor.peek? with
  | none => .error (cursor.failure .endInValue)
  | some '0' =>
    if cursor.next.peek?.any isDigit then .error (cursor.next.failureAhead .invalidNumber)
    else readFromDigits cursor.next positive 0
  | some first =>
    if isDigit first then
      let (significand, _, behind) := takeDigits cursor.rest 0 0 cursor.offset
      if behind.peek?.any isDigit then readLong behind positive significand
      else readFromDigits behind positive significand
    else
      .error (cursor.failureAhead .invalidNumber)

/-- Pass over an exponent from the letter on. -/
def skipExponent (cursor : Cursor) : Except Failure Cursor :=
  let behindLetter := cursor.next
  let start :=
    match behindLetter.peek? with
    | some '+' | some '-' => behindLetter.next
    | _ => behindLetter
  if start.peek?.any isDigit then .ok (start.skipWhile isDigit)
  else .error (start.failureAhead .invalidNumber)

/-- Pass over what may follow the integral digits of a number. -/
def skipFromDigits (cursor : Cursor) : Except Failure Cursor :=
  match cursor.peek? with
  | some '.' =>
    let start := cursor.next
    let behind := start.skipWhile isDigit
    if !start.peek?.any isDigit then .error (start.failureAhead .invalidNumber)
    else if behind.peek?.any startsExponent then skipExponent behind
    else .ok behind
  | some 'e' | some 'E' => skipExponent cursor
  | _ => .ok cursor

/-- Pass over a number behind its sign. No digit follows a leading zero. -/
def skipNumber (cursor : Cursor) : Except Failure Cursor :=
  match cursor.peek? with
  | some '0' =>
    if cursor.next.peek?.any isDigit then .error (cursor.next.failureAhead .invalidNumber)
    else skipFromDigits cursor.next
  | some first =>
    if isDigit first then skipFromDigits (cursor.skipWhile isDigit)
    else .error (cursor.failureAhead .invalidNumber)
  | none => .error (cursor.failureAhead .invalidNumber)

end NativeWrappers.Json
