import ForwardingProxy.Json.Skip
import ForwardingProxy.Json.Value

/-!
Contract: reading a JSON text against the shape of the value it has to hold.

Owns: `Shape`, and `read`, which gives the value of that shape or the first error.

A record is written as an object, or as a list of its first fields in order. Unknown fields are
passed over, missing ones stay missing, and a known field that comes twice is an error.
-/

namespace ForwardingProxy.Json

/-- The values a reader asks for; `expected` names the shape in errors. -/
inductive Shape where
  | text (expected : String)
  | list (element : Shape)
  | record (expected : String) (fields : List (String × Shape))

/-- What an error says was expected. -/
def Shape.expected : Shape → String
  | .text expected => expected
  | .list _ => "a sequence"
  | .record expected _ => expected

namespace Reader

/-- Reads a value of the wrong kind and fails with its name. -/
def failType {α : Type} (shape : Shape) : Reader α := do
  match ← peek? with
  | some 110 => advance; takeWord [117, 108, 108]; fail .null
  | some 116 => advance; takeWord [114, 117, 101]; fail (.boolean true)
  | some 102 => advance; takeWord [97, 108, 115, 101]; fail (.boolean false)
  | some 45 => advance; fail (← readNumber false)
  | some 34 => advance; fail (.text (← readLiteral))
  | some 91 => fail .sequence
  | some 123 => fail .map
  | some byte => if isDigit byte then fail (← readNumber true) else failAhead .expectedValue
  | none => failAhead .expectedValue
where
  /-- Fails at the last byte of the value. -/
  fail (found : Found) : Reader α :=
    failHere (.wrongType found shape.expected)

/-- Whether a further element comes; reads the comma before it. -/
def nextElement (first : Bool) : Reader Bool := do
  match ← peekPastBlanks? with
  | none => failAhead .endInList
  | some 93 => pure false
  | some byte =>
      if first then pure true
      else if byte = 44 then
        advance
        match ← peekPastBlanks? with
        | some 93 => failAhead .trailingComma
        | some _ => pure true
        | none => failAhead .endInValue
      else failAhead .expectedCommaInList

/-- Reads the bracket that ends a list. -/
def closeList : Reader Unit := do
  match ← peekPastBlanks? with
  | some 93 => advance
  | some 44 =>
      advance
      match ← peekPastBlanks? with
      | some 93 => failAhead .trailingComma
      | _ => failAhead .trailingCharacters
  | some _ => failAhead .trailingCharacters
  | none => failAhead .endInList

/-- Whether a further key comes; reads the comma before it and the key's opening quote. -/
def nextKey (first : Bool) : Reader Bool := do
  match ← peekPastBlanks? with
  | none => failAhead .endInObject
  | some 125 => pure false
  | some byte =>
      if first then
        if byte = 34 then
          advance
          pure true
        else failAhead .keyNotText
      else if byte = 44 then
        advance
        match ← peekPastBlanks? with
        | some 34 => advance; pure true
        | some 125 => failAhead .trailingComma
        | some _ => failAhead .keyNotText
        | none => failAhead .endInValue
      else failAhead .expectedCommaInObject

/-- Reads the colon after a key. -/
def takeColon : Reader Unit := do
  match ← peekPastBlanks? with
  | some 58 => advance
  | some _ => failAhead .expectedColon
  | none => failAhead .endInObject

/-- Fails for a repeated field, once blanks and a closing bracket after its key are read. -/
def failDuplicate {α : Type} (name : String) : Reader α := do
  match ← peekPastBlanks? with
  | some 125 => advance
  | _ => pure ()
  failHere (.duplicateField name)

mutual

/-- Reads a value of the shape. -/
def readShape : (fuel : Nat) → (shape : Shape) → Reader Value
  | 0, _ => failHere .endInValue
  | fuel + 1, shape => do
      match ← peekPastBlanks? with
      | none => failAhead .endInValue
      | some byte =>
          match shape with
          | .text _ =>
              if byte = 34 then
                advance
                return .text (← readLiteral)
              else failType shape
          | .list element =>
              if byte = 91 then
                advance
                let elements ← readElements fuel element true
                closeList
                return .list elements
              else failType shape
          | .record _ fields =>
              if byte = 91 then
                advance
                let values ← readPositional fuel fields true
                closeList
                return .object values
              else if byte = 123 then
                advance
                let values ← readMembers fuel fields [] true
                advance
                return .object values
              else failType shape

/-- Reads the elements of a list up to its closing bracket. -/
def readElements : (fuel : Nat) → (element : Shape) → (first : Bool) → Reader (List Value)
  | 0, _, _ => pure []
  | fuel + 1, element, first => do
      if ← nextElement first then
        let value ← readShape fuel element
        return value :: (← readElements fuel element false)
      else pure []

/-- Reads fields that are written without keys, as long as elements come. -/
def readPositional :
    (fuel : Nat) → (fields : List (String × Shape)) → (first : Bool) →
      Reader (List (String × Value))
  | 0, _, _ => pure []
  | _, [], _ => pure []
  | fuel + 1, (name, shape) :: fields, first => do
      if ← nextElement first then
        let value ← readShape fuel shape
        return (name, value) :: (← readPositional fuel fields false)
      else pure []

/-- Reads keys and values up to the closing bracket; `known` holds the fields so far. -/
def readMembers :
    (fuel : Nat) → (fields : List (String × Shape)) → (known : List (String × Value)) →
      (first : Bool) → Reader (List (String × Value))
  | 0, _, known, _ => pure known
  | fuel + 1, fields, known, first => do
      if ← nextKey first then
        let name ← readLiteral
        match fields.lookup name with
        | none =>
            takeColon
            skipValue
            readMembers fuel fields known false
        | some shape =>
            if (known.lookup name).isSome then failDuplicate name
            else
              takeColon
              let value ← readShape fuel shape
              readMembers fuel fields (known ++ [(name, value)]) false
      else pure known

end

/-- Reads one value and the blanks after it. -/
def readDocument (shape : Shape) : Reader Value := do
  let value ← readShape (2 * (← remaining) + 4) shape
  match ← peekPastBlanks? with
  | none => pure value
  | some _ => failAhead .trailingCharacters

end Reader

/-- The value of that shape that a whole text writes. -/
def read (shape : Shape) (text : String) : Except ReadError Value :=
  (Reader.readDocument shape).run' (Cursor.start text)

end ForwardingProxy.Json
