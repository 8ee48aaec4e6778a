import ForwardingProxy.Text.Printable

/-!
Contract: string literals of the generated code.

Owns: `quoted`, which writes a text between double quotes so that reading the literal gives the text
back. Quote, backslash, tab, line feed, carriage return and NUL have short escapes; a character that
joins the one before it or has no visible form is written by its code point in hexadecimal.
-/

namespace ForwardingProxy.Text

/-- The escape `\u` with the code point in lower-case hexadecimal between braces. -/
def codePointEscape (character : Char) : List Char :=
  '\\' :: 'u' :: '{' :: (Nat.toDigits 16 character.toNat ++ ['}'])

/-- One character inside a string literal. -/
def quotedCharacter (character : Char) : List Char :=
  if character = '\x00' then ['\\', '0']
  else if character = '\t' then ['\\', 't']
  else if character = '\r' then ['\\', 'r']
  else if character = '\n' then ['\\', 'n']
  else if character = '\\' then ['\\', '\\']
  else if character = '"' then ['\\', '"']
  else if extendsGrapheme character then codePointEscape character
  else if isPrintable character then [character]
  else codePointEscape character

/-- The string literal that denotes the text. -/
def quotedOf (characters : List Char) : List Char :=
  '"' :: (characters.flatMap quotedCharacter ++ ['"'])

/-- `quotedOf` on strings. -/
def quoted (text : String) : String :=
  String.ofList (quotedOf text.toList)

end ForwardingProxy.Text
