import ForwardingProxy.Json.Problem

/-!
Contract: reading a JSON text byte by byte.

Owns: `Cursor`, the reading monad, and the steps all readers are made of: looking ahead, taking a
byte, skipping blanks, taking digits, and failing at the last or at the next byte.
-/

namespace ForwardingProxy.Json

/-- The bytes still to be read and the position of what was read. -/
structure Cursor where
  rest : List UInt8
  position : Position

namespace Cursor

/-- The cursor before a text. -/
def start (text : String) : Cursor :=
  ⟨text.toUTF8.toList, ⟨1, 0⟩⟩

/-- The position once a byte is read too. -/
def positionAfter (position : Position) (byte : UInt8) : Position :=
  if byte = 10 then ⟨position.line + 1, 0⟩ else ⟨position.line, position.column + 1⟩

/-- The cursor after its next byte; unchanged at the end. -/
def next (cursor : Cursor) : Cursor :=
  match cursor.rest with
  | [] => cursor
  | byte :: rest => ⟨rest, positionAfter cursor.position byte⟩

/-- The cursor after bytes that satisfy the test, from the given position on. -/
def afterWhile (test : UInt8 → Bool) : List UInt8 → Position → Cursor
  | [], position => ⟨[], position⟩
  | byte :: rest, position =>
      if test byte then afterWhile test rest (positionAfter position byte)
      else ⟨byte :: rest, position⟩

/-- The cursor after spaces, tabs, line feeds and carriage returns. -/
def afterBlanks (cursor : Cursor) : Cursor :=
  afterWhile (fun byte => byte = 32 || byte = 9 || byte = 10 || byte = 13)
    cursor.rest cursor.position

end Cursor

/-- A reader moves the cursor and gives a value, or ends with an error. -/
abbrev Reader := StateT Cursor (Except ReadError)

namespace Reader

/-- The next byte, which stays unread. -/
def peek? : Reader (Option UInt8) :=
  fun cursor => .ok (cursor.rest.head?, cursor)

/-- Reads one byte. -/
def advance : Reader Unit :=
  fun cursor => .ok ((), cursor.next)

/-- Reads blanks, then looks at the next byte. -/
def peekPastBlanks? : Reader (Option UInt8) :=
  fun cursor => .ok (cursor.afterBlanks.rest.head?, cursor.afterBlanks)

/-- Reads one byte and gives it. -/
def take? : Reader (Option UInt8) :=
  fun cursor => .ok (cursor.rest.head?, cursor.next)

/-- How many bytes are left; bounds every loop over them. -/
def remaining : Reader Nat :=
  fun cursor => .ok (cursor.rest.length, cursor)

/-- Fails at the last byte that was read. -/
def failHere {α : Type} (problem : Problem) : Reader α :=
  fun cursor => .error ⟨problem, cursor.position⟩

/-- Fails at the next byte; at the end of the text there is none to count. -/
def failAhead {α : Type} (problem : Problem) : Reader α :=
  fun cursor => .error ⟨problem, cursor.next.position⟩

/-- Whether the byte is a decimal digit. -/
def isDigit (byte : UInt8) : Bool :=
  48 ≤ byte && byte ≤ 57

/-- The value of a decimal digit. -/
def digitValue (byte : UInt8) : Nat :=
  byte.toNat - 48

/-- Reads all decimal digits that come next. -/
def takeDigits : Reader (List Nat) :=
  fun cursor =>
    .ok ((cursor.rest.takeWhile isDigit).map digitValue,
      Cursor.afterWhile isDigit cursor.rest cursor.position)

/-- Reads the rest of a word whose first byte is read. -/
def takeWord : List UInt8 → Reader Unit
  | [] => pure ()
  | expected :: word => do
      match ← take? with
      | none => failHere .endInValue
      | some byte =>
          if byte = expected then takeWord word else failHere .expectedWord

end Reader

end ForwardingProxy.Json
