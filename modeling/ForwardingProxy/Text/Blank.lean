import ForwardingProxy.Text.CodeRange

/-!
Contract: white space and its removal at the ends of a text.

Owns: the table of the `White_Space` property, `isBlank`, and trimming over characters and strings.
-/

namespace ForwardingProxy.Text

/-- Code points with the `White_Space` property. -/
private def blankRanges : List CodeRange := [
  ⟨0x9, 0xd, 1⟩, ⟨0x20, 0x20, 1⟩, ⟨0x85, 0x85, 1⟩, ⟨0xa0, 0xa0, 1⟩, ⟨0x1680, 0x1680, 1⟩,
  ⟨0x2000, 0x200a, 1⟩, ⟨0x2028, 0x2029, 1⟩, ⟨0x202f, 0x202f, 1⟩, ⟨0x205f, 0x205f, 1⟩,
  ⟨0x3000, 0x3000, 1⟩]

/-- White space of any kind, line ends included. -/
def isBlank (character : Char) : Bool :=
  CodeRange.anyContains blankRanges character.toNat

/-- A character that ASCII shows is no blank. -/
theorem isBlank_of_graphic {character : Char}
    (graphic : 0x20 < character.toNat ∧ character.toNat < 0x7f) : isBlank character = false := by
  simp only [isBlank, blankRanges, CodeRange.anyContains, CodeRange.contains]
  grind

/-- The text without the blanks at its end. -/
def dropEndBlanks (characters : List Char) : List Char :=
  (characters.reverse.dropWhile isBlank).reverse

/-- The text without the blanks at both ends. -/
def dropOuterBlanks (characters : List Char) : List Char :=
  dropEndBlanks (characters.dropWhile isBlank)

/-- `dropEndBlanks` on strings. -/
def trimEnd (text : String) : String :=
  String.ofList (dropEndBlanks text.toList)

/-- `dropOuterBlanks` on strings. -/
def trim (text : String) : String :=
  String.ofList (dropOuterBlanks text.toList)

end ForwardingProxy.Text
