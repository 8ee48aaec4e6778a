import ForwardingProxy.Text.Quoted

/-!
Contract: what can be wrong with a JSON text, and where.

Owns: `Json.Problem`, `Json.Position`, `Json.ReadError` and their wording.
-/

namespace ForwardingProxy.Json

/-- What stands where another kind of value is expected. -/
inductive Found where
  | integer (value : Int)
  | floating (digits : String)
  | text (value : String)
  | boolean (value : Bool)
  | null
  | sequence
  | map
deriving DecidableEq, Repr

/-- The found value in words. -/
def Found.describe : Found → String
  | .integer value => "integer `" ++ toString value ++ "`"
  | .floating digits => "floating point `" ++ digits ++ "`"
  | .text value => "string " ++ Text.quoted value
  | .boolean value => "boolean `" ++ (if value then "true" else "false") ++ "`"
  | .null => "null"
  | .sequence => "sequence"
  | .map => "map"

/-- Why a JSON text cannot be read. -/
inductive Problem where
  | endInValue
  | endInObject
  | endInList
  | endInString
  | expectedValue
  | expectedWord
  | expectedColon
  | expectedCommaInObject
  | expectedCommaInList
  | trailingComma
  | trailingCharacters
  | keyNotText
  | invalidNumber
  | numberOutOfRange
  | invalidEscape
  | controlCharacter
  | loneSurrogate
  | cutSurrogate
  | wrongType (found : Found) (expected : String)
  | duplicateField (name : String)
deriving DecidableEq, Repr

/-- The problem in words. -/
def Problem.describe : Problem → String
  | .endInValue => "EOF while parsing a value"
  | .endInObject => "EOF while parsing an object"
  | .endInList => "EOF while parsing a list"
  | .endInString => "EOF while parsing a string"
  | .expectedValue => "expected value"
  | .expectedWord => "expected ident"
  | .expectedColon => "expected `:`"
  | .expectedCommaInObject => "expected `,` or `\x7d`"
  | .expectedCommaInList => "expected `,` or `]`"
  | .trailingComma => "trailing comma"
  | .trailingCharacters => "trailing characters"
  | .keyNotText => "key must be a string"
  | .invalidNumber => "invalid number"
  | .numberOutOfRange => "number out of range"
  | .invalidEscape => "invalid escape"
  | .controlCharacter => "control character (\\u0000-\\u001F) found while parsing a string"
  | .loneSurrogate => "lone leading surrogate in hex escape"
  | .cutSurrogate => "unexpected end of hex escape"
  | .wrongType found expected => "invalid type: " ++ found.describe ++ ", expected " ++ expected
  | .duplicateField name => "duplicate field `" ++ name ++ "`"

/-- Lines count from one; the column counts the bytes of the line that were read. -/
structure Position where
  line : Nat
  column : Nat
deriving DecidableEq, Repr

/-- A problem and the place where it was met. -/
structure ReadError where
  problem : Problem
  position : Position
deriving DecidableEq, Repr

/-- The error in words. -/
def ReadError.message (error : ReadError) : String :=
  error.problem.describe ++ " at line " ++ toString error.position.line
    ++ " column " ++ toString error.position.column

end ForwardingProxy.Json
