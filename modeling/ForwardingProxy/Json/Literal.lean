import ForwardingProxy.Json.Cursor

/-!
Contract: reading string literals whose opening quote is read.

Owns: `readLiteral`, which gives the text, and `skipLiteral`, which only checks its form.

A skipped literal may hold surrogates without their partner, and a control character in it is
reported before it is read.
-/

namespace ForwardingProxy.Json.Reader

/-- The value of a hexadecimal digit. -/
def hexValue? (byte : UInt8) : Option Nat :=
  if 48 ≤ byte && byte ≤ 57 then some (byte.toNat - 48)
  else if 97 ≤ byte && byte ≤ 102 then some (byte.toNat - 87)
  else if 65 ≤ byte && byte ≤ 70 then some (byte.toNat - 55)
  else none

/-- The number that hexadecimal digits write. -/
def hexNumber? (digits : List UInt8) : Option Nat :=
  digits.foldl (fun number digit =>
    match number, hexValue? digit with
    | some value, some more => some (16 * value + more)
    | _, _ => none) (some 0)

/-- Reads exactly as many bytes as the number says, or all that are left. -/
def takeBytes : Nat → Reader (List UInt8)
  | 0 => pure []
  | count + 1 => do
      match ← take? with
      | none => pure []
      | some byte => return byte :: (← takeBytes count)

/-- Reads four hexadecimal digits. -/
def takeHexEscape : Reader Nat := do
  let digits ← takeBytes 4
  if digits.length < 4 then failHere .endInString
  else
    match hexNumber? digits with
    | none => failHere .invalidEscape
    | some number => pure number

/-- Whether the number is the first half of a surrogate pair. -/
def isLeadingSurrogate (number : Nat) : Bool :=
  0xD800 ≤ number && number ≤ 0xDBFF

/-- Whether the number is the second half of a surrogate pair. -/
def isTrailingSurrogate (number : Nat) : Bool :=
  0xDC00 ≤ number && number ≤ 0xDFFF

/-- Reads the byte that has to continue a surrogate pair. -/
def expectPairByte (expected : UInt8) : Reader Unit := do
  match ← take? with
  | none => failHere .endInString
  | some byte => if byte = expected then pure () else failHere .cutSurrogate

/-- Reads a code point escape whose `u` is read; a surrogate needs its partner. -/
def takeCodePoint : Reader Nat := do
  let first ← takeHexEscape
  if isTrailingSurrogate first then failHere .loneSurrogate
  else if isLeadingSurrogate first then
    expectPairByte 92
    expectPairByte 117
    let second ← takeHexEscape
    if isTrailingSurrogate second then
      pure (0x10000 + (first - 0xD800) * 0x400 + (second - 0xDC00))
    else failHere .loneSurrogate
  else pure first

/-- The character that a one-letter escape stands for. -/
def shortEscape? (letter : UInt8) : Option Char :=
  if letter = 34 then some '"'
  else if letter = 92 then some '\\'
  else if letter = 47 then some '/'
  else if letter = 98 then some '\x08'
  else if letter = 102 then some '\x0c'
  else if letter = 110 then some '\n'
  else if letter = 114 then some '\r'
  else if letter = 116 then some '\t'
  else none

/-- Reads an escape whose backslash is read. -/
def takeEscape : Reader Char := do
  match ← take? with
  | none => failHere .endInString
  | some letter =>
      if letter = 117 then return Char.ofNat (← takeCodePoint)
      else
        match shortEscape? letter with
        | some character => pure character
        | none => failHere .invalidEscape

/-- Reads an escape whose backslash is read, without looking at what it stands for. -/
def skipEscape : Reader Unit := do
  match ← take? with
  | none => failHere .endInString
  | some letter =>
      if letter = 117 then discard takeHexEscape
      else if (shortEscape? letter).isSome then pure ()
      else failHere .invalidEscape

/-- Reads up to the closing quote; `reversed` holds the bytes of the text so far, last one first. -/
def literalLoop : (fuel : Nat) → (reversed : List UInt8) → Reader (List UInt8)
  | 0, reversed => pure reversed
  | fuel + 1, reversed => do
      match ← take? with
      | none => failHere .endInString
      | some byte =>
          if byte = 34 then pure reversed
          else if byte = 92 then
            let character ← takeEscape
            literalLoop fuel (character.toString.toUTF8.toList.reverse ++ reversed)
          else if byte < 32 then failHere .controlCharacter
          else literalLoop fuel (byte :: reversed)

/-- Reads the text of a literal. -/
def readLiteral : Reader String := do
  let reversed ← literalLoop ((← remaining) + 1) []
  pure ((String.fromUTF8? (ByteArray.mk reversed.reverse.toArray)).getD "")

/-- Reads up to the closing quote and forgets the text. -/
def skipLiteralLoop : (fuel : Nat) → Reader Unit
  | 0 => pure ()
  | fuel + 1 => do
      match ← peek? with
      | none => failHere .endInString
      | some byte =>
          if byte = 34 then advance
          else if byte = 92 then
            advance
            skipEscape
            skipLiteralLoop fuel
          else if byte < 32 then failHere .controlCharacter
          else
            advance
            skipLiteralLoop fuel

/-- Checks the form of a literal. -/
def skipLiteral : Reader Unit := do
  skipLiteralLoop ((← remaining) + 1)

end ForwardingProxy.Json.Reader
