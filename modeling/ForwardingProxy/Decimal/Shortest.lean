/-!
Contract: the shortest decimal text of a binary floating-point number.

Owns: the decomposition of a double into `mantissa * 2 ^ exponent`, the interval of reals that
round to it, the search for the fewest decimal digits inside that interval, and the text of the
digits, which has an exponent when the point would be far away from them.

The search tries one digit, two digits, and so on. On each grid only the two neighbours of the
number can be nearest to it; the nearer one inside the interval is taken.
-/

namespace ForwardingProxy.Decimal

/-- A positive number `mantissa * 2 ^ (exponent - 1074)` with the interval ends in quarter units. -/
structure Binary where
  mantissa : Nat
  exponent : Nat
  /-- Quarter units down to the middle between the number and its lower neighbour. -/
  below : Nat

/-- A fraction of naturals. -/
structure Fraction where
  numerator : Nat
  denominator : Nat

/-- `quarters * 2 ^ (exponent - 1076)`. -/
def Fraction.ofQuarters (quarters exponent : Nat) : Fraction :=
  if 1076 ≤ exponent then ⟨quarters * Nat.pow 2 (exponent - 1076), 1⟩
  else ⟨quarters, Nat.pow 2 (1076 - exponent)⟩

/-- The fraction divided by `10 ^ power`. -/
def Fraction.scaleDown (fraction : Fraction) : Int → Fraction
  | .ofNat power => ⟨fraction.numerator, fraction.denominator * Nat.pow 10 power⟩
  | .negSucc power => ⟨fraction.numerator * Nat.pow 10 (power + 1), fraction.denominator⟩

/-- The greatest natural not above the fraction. -/
def Fraction.floor (fraction : Fraction) : Nat :=
  fraction.numerator / fraction.denominator

namespace Binary

/-- The number itself. -/
def value (binary : Binary) : Fraction :=
  .ofQuarters (4 * binary.mantissa) binary.exponent

/-- The lower end of the interval of reals that round to the number. -/
def lower (binary : Binary) : Fraction :=
  .ofQuarters (4 * binary.mantissa - binary.below) binary.exponent

/-- The upper end of that interval. -/
def upper (binary : Binary) : Fraction :=
  .ofQuarters (4 * binary.mantissa + 2) binary.exponent

/-- Whether `digits * 10 ^ power` rounds to the number; the ends count for an even mantissa. -/
def accepts (binary : Binary) (digits : Nat) (power : Int) : Bool :=
  let low := binary.lower.scaleDown power
  let high := binary.upper.scaleDown power
  if binary.mantissa % 2 = 0 then
    low.numerator ≤ digits * low.denominator && digits * high.denominator ≤ high.numerator
  else
    low.numerator < digits * low.denominator && digits * high.denominator < high.numerator

/-- The nearer accepted neighbour of the number on the grid of `10 ^ power`. -/
def onGrid? (binary : Binary) (power : Int) : Option Nat :=
  let scaled := binary.value.scaleDown power
  let down := scaled.floor
  let nearerUp := 2 * scaled.numerator > (2 * down + 1) * scaled.denominator
  match binary.accepts down power, binary.accepts (down + 1) power with
  | true, true => some (if nearerUp then down + 1 else down)
  | true, false => some down
  | false, true => some (down + 1)
  | false, false => none

/-- The decimal exponent of the leading digit. -/
def leadingPower (binary : Binary) : Int :=
  let value := binary.value
  if value.denominator ≤ value.numerator then
    Int.ofNat ((Nat.toDigits 10 value.floor).length - 1)
  else
    let scaled := (value.numerator * Nat.pow 10 400) / value.denominator
    Int.ofNat (Nat.toDigits 10 scaled).length - 1 - 400

/-- The first grid with an accepted point, from the coarsest on; `tries` grids are looked at. -/
def search (binary : Binary) : (tries : Nat) → (power : Int) → Nat × Int
  | 0, power => ((binary.value.scaleDown power).floor, power)
  | tries + 1, power =>
      match binary.onGrid? power with
      | some digits => (digits, power)
      | none => search binary tries (power - 1)

/-- The fewest digits that read back as the number, with the power of ten of the last one. -/
def shortest (binary : Binary) : Nat × Int :=
  binary.search 18 binary.leadingPower

end Binary

/-- `digits * 10 ^ power` written with a point and at least one digit on both sides of it. -/
def positional (digits : Nat) : (power : Int) → String
  | .ofNat power =>
      String.ofList (Nat.toDigits 10 digits) ++ String.ofList (List.replicate power '0') ++ ".0"
  | .negSucc power =>
      let written := Nat.toDigits 10 digits
      let places := power + 1
      let padded := List.replicate (places + 1 - written.length) '0' ++ written
      let whole := padded.take (padded.length - places)
      String.ofList whole ++ "." ++ String.ofList (padded.drop whole.length)

/-- An exponent with its sign. -/
def signedExponent : (exponent : Int) → String
  | .ofNat exponent => "e+" ++ toString exponent
  | .negSucc exponent => "e-" ++ toString (exponent + 1)

/-- The digits with a point after the first, if there are more, and an exponent. -/
def scientific (digits : Nat) (exponent : Int) : String :=
  match Nat.toDigits 10 digits with
  | [] => signedExponent exponent
  | [digit] => String.ofList [digit] ++ signedExponent exponent
  | digit :: more => String.ofList (digit :: '.' :: more) ++ signedExponent exponent

/-- `digits * 10 ^ power` without an exponent while the point is near the digits, else with one. -/
def decimal (digits : Nat) (power : Int) : String :=
  let point := Int.ofNat (Nat.toDigits 10 digits).length + power
  if -5 < point ∧ point ≤ 16 then positional digits power
  else scientific digits (point - 1)

/-- Drops zeros at the end of the digits. -/
def dropZeros : (tries : Nat) → Nat → Int → Nat × Int
  | 0, digits, power => (digits, power)
  | tries + 1, digits, power =>
      if digits % 10 = 0 then dropZeros tries (digits / 10) (power + 1)
      else (digits, power)

/-- The parts of a finite, non-zero double. -/
def Binary.ofBits (bits : Nat) : Binary :=
  let fraction := bits % Nat.pow 2 52
  let biased := bits / Nat.pow 2 52 % Nat.pow 2 11
  if biased = 0 then ⟨fraction, 0, 2⟩
  else ⟨fraction + Nat.pow 2 52, biased - 1, if fraction = 0 ∧ 1 < biased then 1 else 2⟩

/-- The shortest text of a finite double from its bits, with its sign. -/
def textOfBits (bits : Nat) : String :=
  let sign := if bits / Nat.pow 2 63 % 2 = 1 then "-" else ""
  if bits % Nat.pow 2 63 = 0 then sign ++ "0.0"
  else
    let (digits, power) := (Binary.ofBits bits).shortest
    let (digits, power) := dropZeros 20 digits power
    sign ++ decimal digits power

/-- The shortest text of a finite double. -/
def text (number : Float) : String :=
  textOfBits number.toBits.toNat

end ForwardingProxy.Decimal
