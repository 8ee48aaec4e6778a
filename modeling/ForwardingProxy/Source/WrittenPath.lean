import ForwardingProxy.Source.Bracket

/-!
Contract: paths in imports, attributes and expressions.

Owns: `Source.readPath`, which reads the longest path that comes first as its segments.

A segment that is a bracketed type, or that has arguments behind `::`, stands as its source text
together with all segments before it. A `::` that no segment follows is not part of the path.
-/

namespace ForwardingProxy.Source

/-- Reads the segments behind those of a path that begins with `all`. -/
def readFurtherSegments (all : List Token) :
    (fuel : Nat) → (segments : List String) → List Token → List String × List Token
  | fuel + 1, segments, separator :: next :: rest =>
      if !separator.isMark "::" then (segments, separator :: next :: rest)
      else if next.kind = .word then
        readFurtherSegments all fuel (segments ++ [next.text]) rest
      else if next.isMark "<" then
        let after := dropAngles 1 .outside rest
        readFurtherSegments all fuel [textUntil all after] after
      else (segments, separator :: next :: rest)
  | _, segments, tokens => (segments, tokens)

/-- Reads a path. -/
def readPath (tokens : List Token) : List String × List Token :=
  match tokens with
  | [] => ([], [])
  | first :: rest =>
      if first.kind = .word || first.kind = .placeholder then
        readFurtherSegments tokens rest.length [first.text] rest
      else if first.isMark "<" then
        let after := dropAngles 1 .outside rest
        readFurtherSegments tokens rest.length [textUntil tokens after] after
      else readFurtherSegments tokens tokens.length [] tokens

end ForwardingProxy.Source
