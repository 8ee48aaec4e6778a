import ForwardingProxy.Text.Quoted

/-!
Contract: string literals read back.

Owns: `readLiteral`, which reads the characters of a string literal behind its opening quote, and
the fact that it reads every quoted text back.

Does not own: literals that are never written, such as those with byte escapes or line
continuations; they are not read.
-/

namespace ForwardingProxy.Text

/-- What stands behind a reader of a literal. -/
inductive LiteralState where
  | plain
  | backslash
  /-- A backslash and `u`. -/
  | codePoint
  /-- A code point escape and the value of its digits so far. -/
  | digits (value : Nat)

/-- The character that a backslash and one letter stand for. -/
def shortEscape? (letter : Char) : Option Char :=
  [('0', '\x00'), ('t', '\t'), ('r', '\r'), ('n', '\n'), ('\\', '\\'), ('"', '"'),
    ('\'', '\'')].lookup letter

/-- The value of a hexadecimal digit. -/
def hexDigit? (digit : Char) : Option Nat :=
  if '0' ≤ digit ∧ digit ≤ '9' then some (digit.toNat - 48)
  else if 'a' ≤ digit ∧ digit ≤ 'f' then some (digit.toNat - 87)
  else if 'A' ≤ digit ∧ digit ≤ 'F' then some (digit.toNat - 55)
  else none

/-- The value with one more hexadecimal digit behind it. -/
def withDigit? (value : Nat) (digit : Char) : Option Nat :=
  (hexDigit? digit).map fun last => 16 * value + last

/-- The character with that code point. -/
def scalar? (value : Nat) : Option Char :=
  if value.isValidChar then some (Char.ofNat value) else none

/-- The characters up to the closing quote, and what follows it. -/
def readLiteral : LiteralState → List Char → Option (List Char × List Char)
  | _, [] => none
  | .plain, character :: rest =>
      if character = '"' then some ([], rest)
      else if character = '\\' then readLiteral .backslash rest
      else (readLiteral .plain rest).map (Prod.map (character :: ·) id)
  | .backslash, character :: rest =>
      if character = 'u' then readLiteral .codePoint rest
      else
        match shortEscape? character with
        | some escaped => (readLiteral .plain rest).map (Prod.map (escaped :: ·) id)
        | none => none
  | .codePoint, character :: rest =>
      if character = '{' then readLiteral (.digits 0) rest else none
  | .digits value, character :: rest =>
      if character = '}' then
        match scalar? value with
        | some escaped => (readLiteral .plain rest).map (Prod.map (escaped :: ·) id)
        | none => none
      else
        match withDigit? value character with
        | some longer => readLiteral (.digits longer) rest
        | none => none

/-! ### Code points -/

theorem withDigit?_digitChar {value digit : Nat} (isDigit : digit < 16) :
    withDigit? value digit.digitChar = some (16 * value + digit) := by
  have read : ∀ digit < 16, hexDigit? digit.digitChar = some digit := by decide
  rw [withDigit?, read digit isDigit]
  rfl

/-- Hexadecimal digits have the number that they are written for as their value. -/
theorem foldlM_toDigits (number : Nat) :
    (Nat.toDigits 16 number).foldlM withDigit? 0 = some number := by
  induction number using Nat.strongRecOn with
  | ind number inductionHypothesis =>
      by_cases isDigit : number < 16
      · rw [Nat.toDigits_of_lt_base isDigit]
        show withDigit? 0 number.digitChar >>= pure = some number
        rw [withDigit?_digitChar isDigit]
        simp
      · rw [Nat.toDigits_of_base_le (by decide) (by omega), List.foldlM_append,
          inductionHypothesis (number / 16) (by omega)]
        show withDigit? (number / 16) (number % 16).digitChar >>= pure = some number
        rw [withDigit?_digitChar (by omega), Nat.div_add_mod]
        rfl

/-- The reader takes digits in for as long as they have a value. -/
theorem readLiteral_digits {start value : Nat} {digits : List Char}
    (isValue : digits.foldlM withDigit? start = some value) (rest : List Char) :
    readLiteral (.digits start) (digits ++ rest) = readLiteral (.digits value) rest := by
  induction digits generalizing start with
  | nil =>
      cases isValue
      rfl
  | cons digit digits inductionHypothesis =>
      rw [List.foldlM_cons] at isValue
      cases longer : withDigit? start digit with
      | none =>
          rw [longer] at isValue
          cases isValue
      | some next =>
          rw [longer] at isValue
          have isDigit : digit ≠ '}' := by
            rintro rfl
            cases longer
          rw [List.cons_append, readLiteral, if_neg isDigit, longer]
          exact inductionHypothesis isValue

theorem newline_not_mem_digits {start value : Nat} {digits : List Char}
    (isValue : digits.foldlM withDigit? start = some value) : '\n' ∉ digits := by
  induction digits generalizing start with
  | nil => exact List.not_mem_nil
  | cons digit digits inductionHypothesis =>
      rw [List.foldlM_cons] at isValue
      cases longer : withDigit? start digit with
      | none =>
          rw [longer] at isValue
          cases isValue
      | some next =>
          rw [longer] at isValue
          rw [List.mem_cons, not_or]
          refine ⟨?_, inductionHypothesis isValue⟩
          rintro rfl
          cases longer

theorem scalar?_toNat (character : Char) : scalar? character.toNat = some character := by
  have isValid : character.toNat.isValidChar := character.valid
  rw [scalar?, if_pos isValid, Char.ofNat_toNat]

/-! ### Texts -/

/-- A character is written as a short escape, as itself, or by its code point. -/
theorem quotedCharacter_cases (character : Char) :
    (∃ letter, quotedCharacter character = ['\\', letter] ∧ letter ≠ 'u' ∧ letter ≠ '\n' ∧
        shortEscape? letter = some character) ∨
      (quotedCharacter character = [character] ∧ character ≠ '"' ∧ character ≠ '\\' ∧
        character ≠ '\n') ∨
      quotedCharacter character = codePointEscape character := by
  unfold quotedCharacter
  by_cases isNull : character = '\x00'
  · exact .inl ⟨'0', if_pos isNull, by decide, by decide, by rw [isNull]; rfl⟩
  rw [if_neg isNull]
  by_cases isTab : character = '\t'
  · exact .inl ⟨'t', if_pos isTab, by decide, by decide, by rw [isTab]; rfl⟩
  rw [if_neg isTab]
  by_cases isReturn : character = '\r'
  · exact .inl ⟨'r', if_pos isReturn, by decide, by decide, by rw [isReturn]; rfl⟩
  rw [if_neg isReturn]
  by_cases isFeed : character = '\n'
  · exact .inl ⟨'n', if_pos isFeed, by decide, by decide, by rw [isFeed]; rfl⟩
  rw [if_neg isFeed]
  by_cases isBackslash : character = '\\'
  · exact .inl ⟨'\\', if_pos isBackslash, by decide, by decide, by rw [isBackslash]; rfl⟩
  rw [if_neg isBackslash]
  by_cases isQuote : character = '"'
  · exact .inl ⟨'"', if_pos isQuote, by decide, by decide, by rw [isQuote]; rfl⟩
  rw [if_neg isQuote]
  cases extendsGrapheme character with
  | true => exact .inr (.inr rfl)
  | false =>
      cases isPrintable character with
      | true => exact .inr (.inl ⟨rfl, isQuote, isBackslash, isFeed⟩)
      | false => exact .inr (.inr rfl)

/-- Each character is read back from what is written for it. -/
theorem readLiteral_quotedCharacter (character : Char) (rest : List Char) :
    readLiteral .plain (quotedCharacter character ++ rest) =
      (readLiteral .plain rest).map (Prod.map (character :: ·) id) := by
  obtain ⟨letter, written, notCodePoint, _, escaped⟩ | ⟨written, notQuote, notBackslash, _⟩ |
    written := quotedCharacter_cases character
  · rw [written]
    show readLiteral .backslash (letter :: rest) = _
    rw [readLiteral, if_neg notCodePoint, escaped]
  · rw [written, List.singleton_append, readLiteral, if_neg notQuote, if_neg notBackslash]
  · rw [written]
    show readLiteral (.digits 0) (Nat.toDigits 16 character.toNat ++ ['}'] ++ rest) = _
    rw [List.append_assoc, readLiteral_digits (foldlM_toDigits character.toNat)]
    show (match scalar? character.toNat with | some escaped => _ | none => none) = _
    rw [scalar?_toNat]
    rfl

/-- A quoted text is read back, whatever its characters are. -/
theorem readLiteral_quoted (characters rest : List Char) :
    readLiteral .plain (characters.flatMap quotedCharacter ++ '"' :: rest) =
      some (characters, rest) := by
  induction characters with
  | nil => rfl
  | cons character characters inductionHypothesis =>
      rw [List.flatMap_cons, List.append_assoc, readLiteral_quotedCharacter, inductionHypothesis]
      rfl

/-- A quoted text stands on one line. -/
theorem newline_not_mem_quotedOf (characters : List Char) : '\n' ∉ quotedOf characters := by
  have noneWritten : ∀ character, '\n' ∉ quotedCharacter character := by
    intro character
    obtain ⟨letter, written, _, notNewline, _⟩ | ⟨written, _, _, notNewline⟩ | written :=
      quotedCharacter_cases character
    · rw [written]
      simp [Ne.symm notNewline]
    · rw [written]
      simp [Ne.symm notNewline]
    · rw [written]
      simp [codePointEscape, newline_not_mem_digits (foldlM_toDigits character.toNat)]
  simp [quotedOf, noneWritten]

end ForwardingProxy.Text
