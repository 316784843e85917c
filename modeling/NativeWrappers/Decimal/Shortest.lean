/-!
# Shortest decimals

The text of a binary floating-point number in the fewest digits that read back. A positive number is
a natural number times a power of two, and the reals that round to it form an interval. The text
takes its digits from the coarsest decimal grid that has a point in this interval, and of two points
the nearer, in a tie the even one.

Small and large exponents are written apart: positional up to sixteen places before the point and
down to five zeros after it, otherwise one digit before the point and an exponent.
-/

namespace NativeWrappers.Decimal

/-- A positive number `mantissa * 2 ^ exponent`, with the interval that rounds to it in quarters of
the last place. -/
structure Binary where
  mantissa : Nat
  exponent : Int
  /-- Whether the next smaller number is only half as far away as the next larger. -/
  atBoundary : Bool
deriving DecidableEq, Repr

namespace Binary

/-- A rational number with a power of two, as a fraction. -/
def scaled (quarters : Nat) (exponent : Int) : Nat × Nat :=
  if 0 ≤ exponent then (quarters * Nat.pow 2 exponent.toNat, 1)
  else (quarters, Nat.pow 2 (-exponent).toNat)

/-- The number as a fraction. -/
def value (number : Binary) : Nat × Nat := scaled (4 * number.mantissa) (number.exponent - 2)

/-- The lower end of the interval that rounds to the number, as a fraction. -/
def lower (number : Binary) : Nat × Nat :=
  scaled (4 * number.mantissa - if number.atBoundary then 1 else 2) (number.exponent - 2)

/-- The upper end of the interval that rounds to the number, as a fraction. -/
def upper (number : Binary) : Nat × Nat := scaled (4 * number.mantissa + 2) (number.exponent - 2)

end Binary

/-- The grid point `digits * 10 ^ power` as a fraction. -/
def gridPoint (digits : Nat) (power : Int) : Nat × Nat :=
  if 0 ≤ power then (digits * Nat.pow 10 power.toNat, 1) else (digits, Nat.pow 10 (-power).toNat)

/-- Whether one fraction is at most another. -/
def atMost (first second : Nat × Nat) : Bool := decide (first.1 * second.2 ≤ second.1 * first.2)

/-- Whether a grid point rounds to the number. The ends of the interval do if the mantissa is
even. -/
def readsBack (number : Binary) (digits : Nat) (power : Int) : Bool :=
  let point := gridPoint digits power
  if number.mantissa % 2 = 0 then
    atMost number.lower point && atMost point number.upper
  else
    !atMost point number.lower && !atMost number.upper point

/-- The digits of the last grid point that is not above the number. -/
def below (number : Binary) (power : Int) : Nat :=
  if 0 ≤ power then number.value.1 / (number.value.2 * Nat.pow 10 power.toNat)
  else number.value.1 * Nat.pow 10 (-power).toNat / number.value.2

/-- The sign of the difference between the number and the middle of two neighbouring points. -/
def compareMiddle (number : Binary) (digits : Nat) (power : Int) : Ordering :=
  let middle := gridPoint (2 * digits + 1) power
  compare (2 * number.value.1 * middle.2) (middle.1 * number.value.2)

/-- The best point of a grid, if one reads back. -/
def onGrid? (number : Binary) (power : Int) : Option Nat :=
  let digits := below number power
  match decide (0 < digits) && readsBack number digits power,
      readsBack number (digits + 1) power with
  | true, true =>
    match compareMiddle number digits power with
    | .lt => some digits
    | .gt => some (digits + 1)
    | .eq => some (if digits % 2 = 0 then digits else digits + 1)
  | true, false => some digits
  | false, true => some (digits + 1)
  | false, false => none

/-- The digits and the power of ten of the shortest decimal, from the coarsest grid downwards. -/
def shortest? (number : Binary) : Option (Nat × Int) :=
  (List.range 650).findSome? fun (index : Nat) =>
    let power : Int := 309 - (index : Int)
    (onGrid? number power).map (·, power)

/-- So many zeros. -/
def zeros (count : Nat) : List Char := List.replicate count '0'

/-- The text of `digits * 10 ^ power`. -/
def layOut (digits : Nat) (power : Int) : String :=
  let written := Nat.toDigits 10 digits
  let point : Int := written.length + power
  String.ofList <|
    if 0 ≤ power ∧ point ≤ 16 then
      written ++ zeros power.toNat ++ ['.', '0']
    else if 0 < point ∧ point ≤ 16 then
      written.take point.toNat ++ '.' :: written.drop point.toNat
    else if -5 < point ∧ point ≤ 0 then
      '0' :: '.' :: zeros (-point).toNat ++ written
    else
      let exponent := (toString (point - 1)).toList
      match written with
      | first :: rest =>
        if rest.isEmpty then first :: 'e' :: exponent
        else first :: '.' :: rest ++ 'e' :: exponent
      | [] => 'e' :: exponent

/-- The number that the bits of a finite positive double stand for. -/
def ofBits (bits : Nat) : Binary :=
  let fraction : Nat := bits % Nat.pow 2 52
  let exponent : Nat := bits / Nat.pow 2 52 % Nat.pow 2 11
  if exponent = 0 then
    ⟨fraction, -1074, false⟩
  else
    ⟨Nat.pow 2 52 + fraction, (exponent : Int) - 1075, fraction == 0 && decide (1 < exponent)⟩

/-- The text of a finite double. -/
def text (number : Float) : String :=
  let bits := number.toBits.toNat
  let sign := if bits / Nat.pow 2 63 = 1 then "-" else ""
  let magnitude := ofBits (bits % Nat.pow 2 63)
  if magnitude.mantissa = 0 then
    sign ++ "0.0"
  else
    match shortest? magnitude with
    | some (digits, power) => sign ++ layOut digits power
    | none => sign ++ "0.0"

end NativeWrappers.Decimal
