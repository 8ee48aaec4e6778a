import ForwardingProxy.Json.Literal
import ForwardingProxy.Json.Number

/-!
Contract: passing over a value that nobody asked for.

Owns: `skipValue`, which checks the form of any value without a limit on its nesting.

The brackets that are open are kept as a list of frames, innermost first. After a comma a list
expects a value and an object a key, so a comma before a closing bracket is met as a missing value
or key.
-/

namespace ForwardingProxy.Json.Reader

/-- An open bracket. -/
inductive Frame where
  | list
  | object
deriving DecidableEq

/-- What the text may not do inside the frame after a complete value. -/
def Frame.missingComma : Frame → Problem
  | .list => .expectedCommaInList
  | .object => .expectedCommaInObject

/-- The text ended inside the frame. -/
def Frame.ended : Frame → Problem
  | .list => .endInList
  | .object => .endInObject

/-- The byte that closes the frame. -/
def Frame.closing : Frame → UInt8
  | .list => 93
  | .object => 125

/-- Reads a scalar value, or opens a frame. -/
def skipOpening : Reader (Option Frame) := do
  match ← peekPastBlanks? with
  | none => failAhead .endInValue
  | some 110 => advance; takeWord [117, 108, 108]; pure none
  | some 116 => advance; takeWord [114, 117, 101]; pure none
  | some 102 => advance; takeWord [97, 108, 115, 101]; pure none
  | some 45 => advance; skipNumber; pure none
  | some 34 => advance; skipLiteral; pure none
  | some 91 => advance; pure (some .list)
  | some 123 => advance; pure (some .object)
  | some byte =>
      if isDigit byte then
        skipNumber
        pure none
      else failAhead .expectedValue

/-- Closes frames up to the next comma or first value; `complete` tells that a value was read. -/
def skipClosings : (frames : List Frame) → (complete : Bool) → Reader (List Frame)
  | [], _ => pure []
  | frame :: outer, complete => do
      match ← peekPastBlanks? with
      | none => failAhead frame.ended
      | some byte =>
          if complete ∧ byte = 44 then
            advance
            pure (frame :: outer)
          else if byte = frame.closing then
            advance
            skipClosings outer true
          else if complete then failAhead frame.missingComma
          else pure (frame :: outer)

/-- Reads a key and its colon. -/
def skipKey : Reader Unit := do
  match ← peekPastBlanks? with
  | some 34 => advance
  | some _ => failAhead .keyNotText
  | none => failAhead .endInObject
  skipLiteral
  match ← peekPastBlanks? with
  | some 58 => advance
  | some _ => failAhead .expectedColon
  | none => failAhead .endInObject

/-- Reads values until no frame is open. -/
def skipLoop : (fuel : Nat) → (frames : List Frame) → Reader Unit
  | 0, _ => pure ()
  | fuel + 1, frames => do
      let opened ← skipOpening
      let waiting ←
        match opened with
        | some frame => skipClosings (frame :: frames) false
        | none => skipClosings frames true
      match waiting with
      | [] => pure ()
      | .list :: _ => skipLoop fuel waiting
      | .object :: _ => do
          skipKey
          skipLoop fuel waiting

/-- Passes over one value. -/
def skipValue : Reader Unit := do
  skipLoop ((← remaining) + 1) []

end ForwardingProxy.Json.Reader
