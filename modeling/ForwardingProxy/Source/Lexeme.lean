import ForwardingProxy.Source.Comment
import ForwardingProxy.Source.Literal
import ForwardingProxy.Text.Blank

/-!
Contract: the cut of source text into its smallest pieces.

Owns: `Source.Lexeme` and `Source.lexemes`, whose texts joined in order are the whole text.

Every piece is at least one character long. A comment, a string literal and a character literal
are one piece each, so that brackets inside them are never seen as brackets. An apostrophe that
begins no character literal is a mark of its own.
-/

namespace ForwardingProxy.Source

/-- The kinds of pieces. -/
inductive Lexeme.Kind where
  | blanks
  | comment
  /-- An identifier or keyword, with `r#` if it is raw. -/
  | word
  /-- A number, a string or a character. -/
  | literal
  /-- An apostrophe and the word behind it. -/
  | lifetime
  /-- A `$` and the name behind it. -/
  | placeholder
  /-- Punctuation. -/
  | mark
deriving DecidableEq, Repr

/-- A piece of source text. -/
structure Lexeme where
  kind : Lexeme.Kind
  text : String
deriving DecidableEq, Repr

/-- Whether a piece only separates others. -/
def Lexeme.separates (lexeme : Lexeme) : Bool :=
  lexeme.kind == .blanks || lexeme.kind == .comment

/-- A character that may stand in a word. -/
def isWordCharacter (character : Char) : Bool :=
  character.isAlphanum || character == '_' || (128 ≤ character.toNat && !Text.isBlank character)

/-- A character that may begin a word. -/
def beginsWord (character : Char) : Bool :=
  isWordCharacter character && !character.isDigit

/-- The length of a word, with `r#` if it is raw. -/
def wordLength (characters : List Char) : Nat :=
  match characters with
  | 'r' :: '#' :: first :: rest =>
      if beginsWord first then 3 + leadingLength isWordCharacter rest else 1
  | _ => leadingLength isWordCharacter characters

/-- The length of a placeholder, from behind its `$` on; 0 if no name follows. -/
def placeholderLength : List Char → Nat
  | first :: rest =>
      if first.isAlpha || first == '_' then 1 + leadingLength isWordCharacter rest else 0
  | [] => 0

/-- The length of the punctuation that comes first. A third colon leaves the first one alone. -/
def markLength : List Char → Nat
  | ':' :: ':' :: ':' :: _ => 1
  | ':' :: ':' :: _ => 2
  | '-' :: '>' :: _ => 2
  | '.' :: '.' :: '.' :: _ => 3
  | '.' :: '.' :: '=' :: _ => 3
  | '.' :: '.' :: _ => 2
  | _ => 1

/-- The kind and length of a piece that begins with something else than a blank or a comment. -/
def firstVisible (first : Char) (rest : List Char) : Lexeme.Kind × Nat :=
  let literal := textLiteralLength (first :: rest)
  if literal ≠ 0 then (.literal, literal)
  else if first.isDigit then (.literal, numberLength (first :: rest))
  else if beginsWord first then (.word, wordLength (first :: rest))
  else if first = '$' && placeholderLength rest ≠ 0 then
    (.placeholder, 1 + placeholderLength rest)
  else (.mark, markLength (first :: rest))

/-- The kind and length of the first piece of a text that has one. -/
def firstLexeme (characters : List Char) : Lexeme.Kind × Nat :=
  match characters with
  | [] => (.blanks, 0)
  | '/' :: '/' :: _ => (.comment, lineCommentLength characters)
  | '/' :: '*' :: rest => (.comment, 2 + blockCommentLength rest)
  | first :: rest =>
      if Text.isBlank first then (.blanks, leadingLength Text.isBlank characters)
      else firstVisible first rest

/-- The pieces of a text. -/
def lexemesOf (characters : List Char) : List Lexeme :=
  match characters with
  | [] => []
  | first :: rest =>
      let (kind, length) := firstLexeme (first :: rest)
      ⟨kind, String.ofList (first :: rest.take (length - 1))⟩ :: lexemesOf (rest.drop (length - 1))
termination_by characters.length
decreasing_by simp only [List.length_drop, List.length_cons]; omega

/-- The length of a line for the system's loader, with its line feed; 0 if none comes first. -/
def loaderLineLength (characters : List Char) : Nat :=
  match characters with
  | '#' :: '!' :: '[' :: _ => 0
  | '#' :: '!' :: _ =>
      let line := leadingLength (· != '\n') characters
      if line < characters.length then line + 1 else 0
  | _ => 0

/-- The length of the blanks and comments that come first and of the loader's line behind them. -/
def preambleLength (characters : List Char) : Nat :=
  match characters with
  | [] => 0
  | first :: rest =>
      let line := loaderLineLength (first :: rest)
      if line ≠ 0 then line
      else
        let (kind, length) := firstLexeme (first :: rest)
        if kind = .blanks || kind = .comment then length + preambleLength (rest.drop (length - 1))
        else 0
termination_by characters.length
decreasing_by simp only [List.length_drop, List.length_cons]; omega

/-- What stands before the pieces of a text, byte order mark included, and their own text. -/
def dropPreamble (characters : List Char) : List Char × List Char :=
  let mark := if characters.head? == some '\ufeff' then 1 else 0
  characters.splitAt (mark + preambleLength (characters.drop mark))

/-- The pieces of a source text behind its preamble. -/
def lexemes (text : String) : List Lexeme :=
  lexemesOf (dropPreamble text.toList).2

end ForwardingProxy.Source
