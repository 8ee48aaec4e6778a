/-!
Contract: comments in source text.

Owns: the lengths of line comments and block comments.

Block comments nest. The openings and closings inside one are found from left to right, and what
stands behind a `/` is never looked at again: `//*` opens nothing. Of the number of a character
only the last eight bits are compared.
-/

namespace ForwardingProxy.Source

/-- The character that the last eight bits of a character's number stand for. -/
def lowCharacter (character : Char) : Char :=
  Char.ofNat (character.toNat % 256)

/-- The mark that the character before began inside a block comment. -/
inductive BlockCommentMark where
  | none
  | slash
  | star
deriving DecidableEq, Repr

/-- The mark that a character begins by itself. -/
def BlockCommentMark.ofCharacter (character : Char) : BlockCommentMark :=
  if lowCharacter character = '/' then .slash
  else if lowCharacter character = '*' then .star
  else .none

/-- The number of characters up to the end of that many open block comments. -/
def openCommentLength : (depth : Nat) → (mark : BlockCommentMark) → List Char → Nat
  | 0, _, _ => 0
  | _ + 1, _, [] => 0
  | depth + 1, .none, character :: rest =>
      1 + openCommentLength (depth + 1) (.ofCharacter character) rest
  | depth + 1, .slash, character :: rest =>
      1 + openCommentLength (if lowCharacter character = '*' then depth + 2 else depth + 1)
        .none rest
  | depth + 1, .star, character :: rest =>
      if lowCharacter character = '*' then 1 + openCommentLength (depth + 1) .star rest
      else
        1 + openCommentLength (if lowCharacter character = '/' then depth else depth + 1)
          .none rest

/-- The mark of documentation behind the opening of a block comment. -/
def blockMark? : List Char → Option Char
  | first :: second :: _ =>
      if lowCharacter first = '!' then some first
      else if lowCharacter first = '*' && second != '*' && second != '/' then some first
      else none
  | _ => none

/-- The number of characters of a block comment behind its opening; its mark closes nothing. -/
def blockCommentLength (characters : List Char) : Nat :=
  if (blockMark? characters).isSome then 1 + openCommentLength 1 .none (characters.drop 1)
  else openCommentLength 1 .none characters

/-- The mark of documentation in a comment. -/
def documentationMark? (comment : List Char) : Option Char :=
  match comment with
  | '/' :: '/' :: '/' :: '/' :: _ => none
  | '/' :: '/' :: '/' :: _ => some '/'
  | '/' :: '/' :: '!' :: _ => some '!'
  | '/' :: '*' :: rest => blockMark? rest
  | _ => none

/-- The number of characters up to the end of the line; a documentation comment includes it. -/
def lineCommentLength (characters : List Char) : Nat :=
  let visible := (characters.takeWhile (· != '\n')).length
  let documents := (documentationMark? characters).isSome
  if documents && visible < characters.length then visible + 1 else visible

end ForwardingProxy.Source
