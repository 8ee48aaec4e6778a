import ForwardingProxy.Decimal.Shortest
import ForwardingProxy.Json.Cursor

/-!
Contract: reading numbers.

Owns: `readNumber`, which says what kind of number stands in a text, and `skipNumber`, which only
checks its form.

No setting is a number, so a number that is read is only ever named in an error. An integer of up
to 64 bits is named exactly. Any other number is a double: its leading digits that fit into 64
bits, times a power of ten that is applied in steps of at most 308 places.
-/

namespace ForwardingProxy.Json.Reader

/-- The greatest integer that is kept exactly. -/
def integerLimit : Nat := Nat.pow 2 64 - 1

/-- The greatest exponent that is kept exactly. -/
def exponentLimit : Nat := Nat.pow 2 31 - 1

/-- Appends digits to a number while it stays below the limit; the digits left over follow. -/
def appendDigits (limit : Nat) : Nat → List Nat → Nat × List Nat
  | number, [] => (number, [])
  | number, digit :: digits =>
      if limit < number * 10 + digit then (number, digit :: digits)
      else appendDigits limit (number * 10 + digit) digits

/-- Divides by powers of ten, at most 308 places at a time. -/
def divideByTens : (steps : Nat) → Float → Nat → Float
  | 0, number, _ => number
  | steps + 1, number, places =>
      if places ≤ 308 then number / Float.ofScientific 1 false places
      else if number == 0.0 then number
      else divideByTens steps (number / Float.ofScientific 1 false 308) (places - 308)

/-- The double of `significand * 10 ^ exponent`, with its sign. -/
def doubleOf (positive : Bool) (significand : Nat) (exponent : Int) : Reader Float := do
  let signed := fun (number : Float) => if positive then number else -number
  let whole := Float.ofNat significand
  match exponent with
  | .ofNat places =>
      if places ≤ 308 then
        let scaled := whole * Float.ofScientific 1 false places
        if scaled.isInf then failHere .numberOutOfRange else pure (signed scaled)
      else if significand = 0 then pure (signed whole)
      else failHere .numberOutOfRange
  | .negSucc less => pure (signed (divideByTens (less / 308 + 2) whole (less + 1)))

/-- Reads an exponent whose letter comes next. -/
def readExponent (positive : Bool) (significand : Nat) (start : Int) : Reader Float := do
  advance
  let upward ←
    match ← peek? with
    | some 43 => do advance; pure true
    | some 45 => do advance; pure false
    | _ => pure true
  match ← take? with
  | none => failHere .endInValue
  | some byte =>
      if isDigit byte then
        exponentDigits upward (digitValue byte) ((← remaining) + 1)
      else failHere .invalidNumber
where
  /-- The double that the significand has once the exponent is known. -/
  scaled (upward : Bool) (exponent : Nat) : Reader Float :=
    doubleOf positive significand (if upward then start + exponent else start - exponent)
  /-- Reads the further digits; an exponent beyond the limit makes the number zero or too large. -/
  exponentDigits (upward : Bool) : (exponent : Nat) → (fuel : Nat) → Reader Float
    | exponent, 0 => scaled upward exponent
    | exponent, fuel + 1 => do
        match ← peek? with
        | some byte =>
            if isDigit byte then
              advance
              let longer := exponent * 10 + digitValue byte
              if exponentLimit < longer then
                if significand ≠ 0 ∧ upward then failHere .numberOutOfRange
                else
                  discard takeDigits
                  pure (if positive then 0.0 else -0.0)
              else exponentDigits upward longer fuel
            else scaled upward exponent
        | none => scaled upward exponent

/-- Reads the exponent if there is one, then gives the double. -/
def finishDouble (positive : Bool) (significand : Nat) (exponent : Int) : Reader Float := do
  match ← peek? with
  | some 101 | some 69 => readExponent positive significand exponent
  | _ => doubleOf positive significand exponent

/-- Reads decimal places whose point comes next. -/
def readPlaces (positive : Bool) (significand : Nat) (exponent : Int) : Reader Float := do
  advance
  let digits ← takeDigits
  if digits.isEmpty then
    match ← peek? with
    | some _ => failAhead .invalidNumber
    | none => failHere .endInValue
  else
    let (longer, left) := appendDigits integerLimit significand digits
    finishDouble positive longer (exponent - Int.ofNat (digits.length - left.length))

/-- Reads a number whose sign is read. -/
def readNumber (positive : Bool) : Reader Found := do
  match ← take? with
  | none => failHere .endInValue
  | some byte =>
      if !isDigit byte then failHere .invalidNumber
      else
        let digits ← if byte = 48 then
            match ← peek? with
            | some next => if isDigit next then failAhead .invalidNumber else pure []
            | none => pure []
          else takeDigits
        let (significand, left) := appendDigits integerLimit (digitValue byte) digits
        let exponent := Int.ofNat left.length
        match ← peek? with
        | some 46 => return .floating (Decimal.text (← readPlaces positive significand exponent))
        | some 101 | some 69 =>
            return .floating (Decimal.text (← readExponent positive significand exponent))
        | _ =>
            if !left.isEmpty then
              return .floating (Decimal.text (← doubleOf positive significand exponent))
            else if positive then return .integer significand
            else if significand = 0 ∨ Nat.pow 2 63 < significand then
              return .floating (Decimal.text (-Float.ofNat significand))
            else return .integer (-Int.ofNat significand)

/-- Checks an exponent whose letter comes next. -/
def skipExponent : Reader Unit := do
  advance
  match ← peek? with
  | some 43 | some 45 => advance
  | _ => pure ()
  match ← take? with
  | some byte => if isDigit byte then discard takeDigits else failHere .invalidNumber
  | none => failHere .invalidNumber

/-- Checks the form of a number whose sign is read. -/
def skipNumber : Reader Unit := do
  match ← take? with
  | none => failHere .invalidNumber
  | some byte =>
      if byte = 48 then
        match ← peek? with
        | some next => if isDigit next then failAhead .invalidNumber else skipFraction
        | none => pure ()
      else if isDigit byte then
        discard takeDigits
        skipFraction
      else failHere .invalidNumber
where
  /-- Checks what may follow the whole part. -/
  skipFraction : Reader Unit := do
    match ← peek? with
    | some 46 =>
        advance
        let digits ← takeDigits
        if digits.isEmpty then failAhead .invalidNumber
        else
          match ← peek? with
          | some 101 | some 69 => skipExponent
          | _ => pure ()
    | some 101 | some 69 => skipExponent
    | _ => pure ()

end ForwardingProxy.Json.Reader
