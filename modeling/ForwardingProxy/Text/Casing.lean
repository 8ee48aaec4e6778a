import ForwardingProxy.Text.LetterCase

/-!
Contract: case conventions of names.

Owns: `capitalize`, which joins a property name to `get` and `set`, and `snakeCase`, which turns a
type name into the tail of a function name.
-/

namespace ForwardingProxy.Text

/-- The text with its first character in upper case; an expanding character keeps its expansion. -/
def capitalizeOf : List Char → List Char
  | [] => []
  | first :: rest => toUppercase first ++ rest

/-- `capitalizeOf` on strings. -/
def capitalize (text : String) : String :=
  String.ofList (capitalizeOf text.toList)

/-- A character after which an upper-case letter starts a new word. -/
def endsWord (character : Char) : Bool :=
  isLowercase character || ('0' ≤ character && character ≤ '9')

/-- Lower-cases every upper-case letter and puts `_` before it when `afterWord` holds there. -/
def snakeCaseOf (afterWord : Bool) : List Char → List Char
  | [] => []
  | character :: rest =>
      if isUppercase character then
        (if afterWord then ['_'] else []) ++ toLowercase character ++ snakeCaseOf false rest
      else
        character :: snakeCaseOf (endsWord character) rest

/-- `snakeCaseOf` on strings, from the start of a word. -/
def snakeCase (text : String) : String :=
  String.ofList (snakeCaseOf false text.toList)

end ForwardingProxy.Text
