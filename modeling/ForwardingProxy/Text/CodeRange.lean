/-!
Contract: sets of code points as sorted tables of strided ranges.

Owns: `CodeRange` and membership in a table of them.

Does not own: any table; each property of characters keeps its own.
-/

namespace ForwardingProxy.Text

/-- The code points `first`, `first + stride`, … up to `last`. -/
structure CodeRange where
  first : Nat
  last : Nat
  stride : Nat

/-- Membership in one range. -/
def CodeRange.contains (range : CodeRange) (code : Nat) : Bool :=
  range.first ≤ code && code ≤ range.last && (code - range.first) % range.stride == 0

/-- Membership in a table whose ranges are sorted by `first`; ends at the first range above. -/
def CodeRange.anyContains : List CodeRange → Nat → Bool
  | [], _ => false
  | range :: rest, code =>
      if code < range.first then false
      else range.contains code || anyContains rest code

end ForwardingProxy.Text
