import ForwardingProxy.Text.Alphabetic
import ForwardingProxy.Text.Numeric

/-!
Contract: plain identifiers, as they may be used for markers, file names and path segments.

Owns: the identifier test over characters and strings, and what it says of each character.
-/

namespace ForwardingProxy.Text

/-- A character that may begin an identifier. -/
def beginsIdentifier (character : Char) : Bool :=
  isAlphabetic character || character == '_'

/-- A character that may follow inside an identifier. -/
def continuesIdentifier (character : Char) : Bool :=
  isAlphabetic character || isNumeric character || character == '_'

/-- A letter or underscore followed by letters, numbers and underscores. -/
def isIdentifierOf : List Char → Bool
  | [] => false
  | first :: rest => beginsIdentifier first && rest.all continuesIdentifier

/-- `isIdentifierOf` on strings. -/
def isIdentifier (text : String) : Bool :=
  isIdentifierOf text.toList

/-- The first character of an identifier might as well stand inside of it. -/
theorem continuesIdentifier_of_isIdentifierOf {characters : List Char}
    (isIdentifier : isIdentifierOf characters = true) {character : Char}
    (member : character ∈ characters) : continuesIdentifier character = true := by
  cases characters with
  | nil => cases member
  | cons first rest =>
      rw [isIdentifierOf, Bool.and_eq_true] at isIdentifier
      rcases List.mem_cons.mp member with rfl | later
      · have begins := isIdentifier.1
        unfold beginsIdentifier at begins
        unfold continuesIdentifier
        rcases Bool.or_eq_true_iff.mp begins with isLetter | isMark
        · rw [isLetter, Bool.true_or, Bool.true_or]
        · rw [isMark, Bool.or_true]
      · exact List.all_eq_true.mp isIdentifier.2 character later

end ForwardingProxy.Text
