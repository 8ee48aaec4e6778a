import ForwardingProxy.Name

/-!
Contract: literals in source text.

Owns: the lengths of strings, characters and numbers, each from its first character on; 0 where
the text begins with none.

A number ends where its form ends: letters behind it that are no numeric type begin something new.
A point belongs to a number unless a letter or a second point follows it.
-/

namespace ForwardingProxy.Source

/-- The number of characters up to the closing quote; a backslash hides the character after it. -/
def quotedLength : List Char → Nat
  | [] => 0
  | '\\' :: _ :: rest => 2 + quotedLength rest
  | character :: rest => if character = '"' then 1 else 1 + quotedLength rest

/-- The number of characters up to a quote with that many `#` after it. -/
def rawQuotedLength (hashes : Nat) : List Char → Nat
  | [] => 0
  | character :: rest =>
      if character = '"' && (rest.take hashes).length == hashes && (rest.take hashes).all (· == '#')
      then 1 + hashes
      else 1 + rawQuotedLength hashes rest

/-- The length of a string literal without escapes, from its `#` or quote on. -/
def rawStringLength (characters : List Char) : Nat :=
  let hashes := (characters.takeWhile (· == '#')).length
  match characters.drop hashes with
  | '"' :: rest => hashes + 1 + rawQuotedLength hashes rest
  | _ => 0

/-- A digit of a number with base 16. -/
def isHexDigit (character : Char) : Bool :=
  character.isDigit || ('a' ≤ character && character ≤ 'f')
    || ('A' ≤ character && character ≤ 'F')

/-- The length of an escape from behind its backslash on. -/
def escapeLength : List Char → Nat
  | 'u' :: '{' :: rest =>
      let digits := (rest.takeWhile isHexDigit).length
      if 0 < digits && (rest.drop digits).head? == some '}' then digits + 3 else 0
  | 'u' :: rest => if ((rest.take 4).filter isHexDigit).length = 4 then 5 else 0
  | 'x' :: rest => if ((rest.take 2).filter isHexDigit).length = 2 then 3 else 0
  | _ :: _ => 1
  | [] => 0

/-- The length of a character literal, from its first quote on. -/
def characterLength : List Char → Nat
  | '\'' :: '\'' :: _ => 2
  | '\'' :: '\\' :: rest =>
      let escape := escapeLength rest
      if 0 < escape && (rest.drop escape).head? == some '\'' then escape + 3 else 0
  | '\'' :: _ :: '\'' :: _ => 3
  | _ => 0

/-- The length of a literal behind `letters` more characters. -/
def lengthBehind (letters length : Nat) : Nat :=
  if length = 0 then 0 else letters + length

/-- The length of a string or character literal with its letters in front. -/
def textLiteralLength : List Char → Nat
  | '"' :: rest => 1 + quotedLength rest
  | '\'' :: rest => characterLength ('\'' :: rest)
  | 'b' :: '\'' :: rest => lengthBehind 1 (characterLength ('\'' :: rest))
  | 'b' :: '"' :: rest => 2 + quotedLength rest
  | 'c' :: '"' :: rest => 2 + quotedLength rest
  | 'b' :: 'r' :: rest => lengthBehind 2 (rawStringLength rest)
  | 'c' :: 'r' :: rest => lengthBehind 2 (rawStringLength rest)
  | 'r' :: rest => lengthBehind 1 (rawStringLength rest)
  | _ => 0

/-- A decimal digit, or the mark that may stand between two. -/
def isNumberCharacter (character : Char) : Bool :=
  character.isDigit || character == '_'

/-- The number of characters that come first and satisfy the test. -/
def leadingLength (test : Char → Bool) (characters : List Char) : Nat :=
  (characters.takeWhile test).length

/-- The length of a type's letter and its width behind a number with a point or an exponent. -/
def widthLength : List Char → Nat
  | letter :: rest =>
      if ['u', 'i', 'f'].contains letter then lengthBehind 1 (leadingLength Char.isDigit rest)
      else 0
  | [] => 0

/-- The length of an exponent with the width behind it. -/
def exponentLength : List Char → Nat
  | letter :: rest =>
      if letter = 'e' || letter = 'E' then
        let sign := if rest.head?.any ['+', '-'].contains then 1 else 0
        let digits := leadingLength isNumberCharacter (rest.drop sign)
        if digits = 0 then 0
        else 1 + sign + digits + widthLength (rest.drop (sign + digits))
      else 0
  | [] => 0

/-- The length of what follows the digits of a fraction. -/
def fractionEndLength (characters : List Char) : Nat :=
  if characters.head?.any ['e', 'E'].contains then exponentLength characters
  else widthLength characters

/-- The length of a number with a point or an exponent. -/
def pointNumberLength (characters : List Char) : Nat :=
  let whole := leadingLength isNumberCharacter characters
  match characters.drop whole with
  | '.' :: rest =>
      if rest.head?.any fun next => next.isAlpha || next == '.' then 0
      else
        let fraction := leadingLength isNumberCharacter rest
        whole + 1 + fraction + fractionEndLength (rest.drop fraction)
  | rest => lengthBehind whole (exponentLength rest)

/-- The length of the type behind a whole number. -/
def numericTypeLength (characters : List Char) : Nat :=
  ((Name.numericTypes.find? fun name => name.toList.isPrefixOf characters).map
    String.length).getD 0

/-- The number of digits of a whole number, with the letters that tell its base. -/
def wholeDigitsLength : List Char → Nat
  | '0' :: 'x' :: rest =>
      1 + lengthBehind 1 (leadingLength (fun c => isHexDigit c || c == '_') rest)
  | '0' :: 'b' :: rest => 1 + lengthBehind 1 (leadingLength ['0', '1', '_'].contains rest)
  | '0' :: 'o' :: rest =>
      1 + lengthBehind 1 (leadingLength (fun c => ('0' ≤ c && c ≤ '7') || c == '_') rest)
  | characters => leadingLength isNumberCharacter characters

/-- The length of a number that begins with a digit. -/
def numberLength (characters : List Char) : Nat :=
  let withPoint := pointNumberLength characters
  if withPoint = 0 then
    let digits := wholeDigitsLength characters
    digits + numericTypeLength (characters.drop digits)
  else withPoint

end ForwardingProxy.Source
