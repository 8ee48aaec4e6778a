import ForwardingProxy.Source.Token

/-!
Contract: runs of tokens between brackets.

Owns: finding the end of a bracketed group, of a parameter list between angle brackets and of a
statement.

The end of a group of braces is found by counting braces only, and between braces nothing else is
counted, so that what is wrong inside a function body does not reach beyond it.
-/

namespace ForwardingProxy.Source

/-- The closing mark for an opening one. -/
def closingMark? (opening : String) : Option String :=
  if opening = "(" then some ")"
  else if opening = "[" then some "]"
  else if opening = "\x7b" then some "\x7d"
  else none

/-- Cuts where that many open brackets are closed, counting brackets of their kind only: the tokens
inside, and those after the last. -/
def cutGroup (opening closing : String) : (depth : Nat) → List Token → List Token × List Token
  | _, [] => ([], [])
  | depth, token :: rest =>
      if token.isMark closing then
        match depth with
        | 0 | 1 => ([], rest)
        | deeper + 1 =>
            let (inside, after) := cutGroup opening closing deeper rest
            (token :: inside, after)
      else
        let (inside, after) :=
          cutGroup opening closing (if token.isMark opening then depth + 1 else depth) rest
        (token :: inside, after)

/-- How many braces are open behind a token. -/
def bracesBehind (braces : Nat) (token : Token) : Nat :=
  if token.isMark "\x7b" then braces + 1
  else if token.isMark "\x7d" then braces - 1
  else braces

/-- Cuts where that many open brackets are closed as `cutGroup` does, but outside braces only. -/
def cutOutside (opening closing : String) :
    (depth braces : Nat) → List Token → List Token × List Token
  | _, _, [] => ([], [])
  | depth, braces, token :: rest =>
      if braces = 0 && token.isMark closing then
        match depth with
        | 0 | 1 => ([], rest)
        | deeper + 1 =>
            let (inside, after) := cutOutside opening closing deeper 0 rest
            (token :: inside, after)
      else
        let (inside, after) :=
          cutOutside opening closing
            (if braces = 0 && token.isMark opening then depth + 1 else depth)
            (bracesBehind braces token) rest
        (token :: inside, after)

/-- The tokens inside the group that comes first, and those after it. -/
def group? : List Token → Option (List Token × List Token)
  | [] => none
  | first :: rest =>
      if first.kind = .mark then
        (closingMark? first.text).map fun closing =>
          if first.text = "\x7b" then cutGroup first.text closing 1 rest
          else cutOutside first.text closing 1 0 rest
      else none

/-- The tokens inside a group of that opening mark, when it comes first, and those after it. -/
def groupOf? (opening : String) (tokens : List Token) : Option (List Token × List Token) :=
  if tokens.head?.any fun token => token.isMark opening then group? tokens else none

/-- How many brackets `()` and `[]` and how many braces are open. -/
structure Depth where
  brackets : Nat
  braces : Nat
deriving DecidableEq, Repr

namespace Depth

/-- The depth where no bracket is open. -/
def outside : Depth := ⟨0, 0⟩

/-- The depth behind a token. A closing brace that closes no brace closes a bracket. -/
def behind (depth : Depth) (token : Token) : Depth :=
  if depth.braces ≠ 0 || token.isMark "\x7b" then
    { depth with braces := bracesBehind depth.braces token }
  else if token.isMark "(" || token.isMark "[" then { depth with brackets := depth.brackets + 1 }
  else if token.isMark ")" || token.isMark "]" || token.isMark "\x7d" then
    { depth with brackets := depth.brackets - 1 }
  else depth

end Depth

/-- The tokens after that many open `<` are closed; marks inside other brackets do not count. -/
def dropAngles : (angles : Nat) → (depth : Depth) → List Token → List Token
  | _, _, [] => []
  | angles, depth, token :: rest =>
      if depth = .outside && token.isMark ">" then
        match angles with
        | 0 | 1 => rest
        | fewer + 1 => dropAngles fewer depth rest
      else if depth = .outside && token.isMark "<" then dropAngles (angles + 1) depth rest
      else dropAngles angles (depth.behind token) rest

/-- Whether a parameter list between angle brackets comes first, and the tokens after it. -/
def skipAngles (tokens : List Token) : Bool × List Token :=
  match tokens with
  | first :: rest => if first.isMark "<" then (true, dropAngles 1 .outside rest) else (false, tokens)
  | [] => (false, [])

/-- The tokens from the first on that satisfies the test outside `()`, `[]` and `{}`. -/
def dropUntil (stops : Token → Bool) : (depth : Depth) → List Token → List Token
  | _, [] => []
  | depth, token :: rest =>
      if depth = .outside && stops token then token :: rest
      else dropUntil stops (depth.behind token) rest

/-- The tokens after the first `;` outside `()`, `[]` and `{}`. -/
def dropStatement (tokens : List Token) : List Token :=
  (dropUntil (fun token => token.isMark ";") .outside tokens).drop 1

end ForwardingProxy.Source
