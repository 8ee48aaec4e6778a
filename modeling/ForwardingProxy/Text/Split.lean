/-!
Contract: cutting a text at single separator characters.

Owns: `splitAt`, which keeps empty pieces, and `fields`, which drops them.
-/

namespace ForwardingProxy.Text

/-- The pieces between separators; at least one, and empty ones are kept. -/
def splitAt (isSeparator : Char → Bool) : List Char → List (List Char)
  | [] => [[]]
  | character :: rest =>
      if isSeparator character then [] :: splitAt isSeparator rest
      else
        match splitAt isSeparator rest with
        | [] => [[character]]
        | piece :: pieces => (character :: piece) :: pieces

/-- The non-empty pieces between separators. -/
def fields (isSeparator : Char → Bool) (text : String) : List String :=
  ((splitAt isSeparator text.toList).filter fun piece => !piece.isEmpty).map String.ofList

end ForwardingProxy.Text
