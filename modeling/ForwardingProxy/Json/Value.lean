/-!
Contract: JSON values and their indented text.

Owns: `Json.Value` for the values that configuration and reports are made of, the text of string
literals, and `Value.pretty`, which indents by two spaces and keeps the order of fields.

Does not own: reading, which is in `Json.Record`.
-/

namespace ForwardingProxy.Json

/-- A JSON value without numbers; objects keep the order of their fields. -/
inductive Value where
  | boolean (value : Bool)
  | text (value : String)
  | list (elements : List Value)
  | object (fields : List (String × Value))

/-- The value under a key of an object. -/
def Value.get? (key : String) : Value → Option Value
  | .object fields => fields.lookup key
  | _ => none

/-- The text that the value is, if it is one. -/
def Value.text? : Value → Option String
  | .text value => some value
  | _ => none

/-- The texts of a list of texts. -/
def Value.texts? : Value → Option (List String)
  | .list elements => elements.mapM Value.text?
  | _ => none

/-- One character inside a string literal; of the controls five have short escapes. -/
def literalCharacter (character : Char) : List Char :=
  if character = '"' then ['\\', '"']
  else if character = '\\' then ['\\', '\\']
  else if character = '\x08' then ['\\', 'b']
  else if character = '\x0c' then ['\\', 'f']
  else if character = '\n' then ['\\', 'n']
  else if character = '\r' then ['\\', 'r']
  else if character = '\t' then ['\\', 't']
  else if character.toNat < 32 then
    ['\\', 'u', '0', '0',
      Nat.digitChar (character.toNat / 16), Nat.digitChar (character.toNat % 16)]
  else [character]

/-- The string literal of a text. -/
def literal (text : String) : String :=
  String.ofList ('"' :: (text.toList.flatMap literalCharacter ++ ['"']))

/-- A line end followed by two spaces for each level. -/
def newLine (depth : Nat) : String :=
  String.ofList ('\n' :: List.replicate (2 * depth) ' ')

/-- Pieces on lines of their own between two brackets; nothing stands between them when empty. -/
def bracketed (opening closing : String) (depth : Nat) (pieces : List String) : String :=
  if pieces.isEmpty then opening ++ closing
  else
    opening ++ newLine (depth + 1) ++ ("," ++ newLine (depth + 1)).intercalate pieces
      ++ newLine depth ++ closing

mutual

/-- The indented text of a value at that depth. -/
def Value.prettyAt (depth : Nat) : Value → String
  | .boolean value => if value then "true" else "false"
  | .text value => literal value
  | .list elements => bracketed "[" "]" depth (prettyElements (depth + 1) elements)
  | .object fields => bracketed "\x7b" "\x7d" depth (prettyFields (depth + 1) fields)

/-- The texts of the elements of a list. -/
def prettyElements (depth : Nat) : List Value → List String
  | [] => []
  | element :: rest => element.prettyAt depth :: prettyElements depth rest

/-- The texts of the fields of an object. -/
def prettyFields (depth : Nat) : List (String × Value) → List String
  | [] => []
  | (key, value) :: rest =>
      (literal key ++ ": " ++ value.prettyAt depth) :: prettyFields depth rest

end

/-- The indented text of a value. -/
def Value.pretty (value : Value) : String :=
  value.prettyAt 0

end ForwardingProxy.Json
