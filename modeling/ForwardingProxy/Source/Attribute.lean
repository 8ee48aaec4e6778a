import ForwardingProxy.Declaration
import ForwardingProxy.Source.WrittenPath

/-!
Contract: attributes in source text.

Owns: the reading of one attribute, and `Source.Run`, the attributes read so far above an item.

An attribute has its path as written and the text between its brackets. A comment that stands
before the path, on either side of the `[`, takes the place of path and arguments.
-/

namespace ForwardingProxy.Source

/-- The text without a pair of brackets around it and without outer blanks. -/
def stripBrackets (characters : List Char) : List Char :=
  let opens := characters.head?.any ['(', '[', '{'].contains
  let closes := characters.getLast?.any [')', ']', '}'].contains
  Text.dropOuterBlanks
    (if opens && closes && 2 ≤ characters.length then characters.tail.dropLast else characters)

/-- The path that an attribute has when a comment comes first in it. -/
def pathOfComment (comment : String) : String :=
  String.ofList (documentationMark? comment.toList).toList

/-- The attribute that is written between `[` and `]`, with the comments before its path. -/
def readAttribute (comments : List String) (inside : List Token) : Attribute :=
  match comments with
  | comment :: _ => ⟨pathOfComment comment, none⟩
  | [] =>
      let after := (readPath inside).2
      let arguments := (group? after).map fun (_, last) =>
        String.ofList (stripBrackets (textUntil after last).toList)
      ⟨textUntil inside after, arguments⟩

/-- The comments before the first of the tokens. -/
def commentsBefore (tokens : List Token) : List String :=
  (tokens.head?.map Token.comments).getD []

/-- The outer attribute that comes first, and the tokens after it. -/
def attribute? (tokens : List Token) : Option (Attribute × List Token) :=
  match tokens with
  | first :: rest =>
      if first.isMark "#" then (groupOf? "[" rest).map fun (inside, after) =>
        (readAttribute (commentsBefore rest ++ commentsBefore inside) inside, after)
      else none
  | [] => none

/-- The tokens after an inner attribute, if one comes first. -/
def skipInnerAttribute? (tokens : List Token) : Option (List Token) :=
  match tokens with
  | first :: second :: rest =>
      if first.isMark "#" && second.isMark "!" then (groupOf? "[" rest).map Prod.snd else none
  | _ => none

/-- What all items have in common. -/
structure Head where
  attributes : List Attribute
  line : Nat
  visible : Bool
deriving DecidableEq, Repr

/-- Whether the item is compiled under a condition only. -/
def Head.isConditional (head : Head) : Bool :=
  head.attributes.any fun written => written.path == "cfg"

/-- The attributes read so far above an item, and the line of the first of them. -/
structure Run where
  attributes : List Attribute
  line : Option Nat
deriving DecidableEq, Repr

/-- The run before anything is read. -/
def Run.empty : Run := ⟨[], none⟩

/-- The run with a further attribute. -/
def Run.add (run : Run) (written : Attribute) (line : Nat) : Run :=
  ⟨run.attributes ++ [written], some (run.line.getD line)⟩

/-- The head of the item that the run stands above. -/
def Run.head (run : Run) (first : Token) (visible : Bool) : Head :=
  ⟨run.attributes, run.line.getD first.line, visible⟩

end ForwardingProxy.Source
