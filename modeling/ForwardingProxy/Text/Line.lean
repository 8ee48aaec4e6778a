/-!
Contract: the lines of a text.

Owns: `lines`, where a line ends at a line feed, one carriage return before it belongs to the line
end, and a text that ends in a line feed has no further, empty line.
-/

namespace ForwardingProxy.Text

/-- The pieces between line feeds; at least one. -/
def linePieces : List Char → List (List Char)
  | [] => [[]]
  | character :: rest =>
      if character = '\n' then [] :: linePieces rest
      else
        match linePieces rest with
        | [] => [[character]]
        | piece :: pieces => (character :: piece) :: pieces

/-- The line without one carriage return at its end. -/
def dropCarriageReturn (line : List Char) : List Char :=
  if line.getLast? = some '\r' then line.dropLast else line

/-- Drops the carriage return of every piece that a line feed ends, and an empty last piece. -/
def linesOfPieces : List (List Char) → List (List Char)
  | [] => []
  | [piece] => if piece.isEmpty then [] else [piece]
  | piece :: pieces => dropCarriageReturn piece :: linesOfPieces pieces

/-- The lines of a text, without their line ends. -/
def lines (text : String) : List String :=
  (linesOfPieces (linePieces text.toList)).map String.ofList

end ForwardingProxy.Text
