import ForwardingProxy.Declaration
import ForwardingProxy.Source.BoundList
import ForwardingProxy.Text.Split

/-!
Contract: function headers in source text.

Owns: the reading of parameter lists, of receivers, and of headers as `FunctionSignature`s.

A receiver is judged by its source text: one that does not begin with `&` takes its value away,
and one with a piece between blanks that ends in `mut` is exclusive. A parameter without a pattern
is none.
-/

namespace ForwardingProxy.Source

/-- A parameter list entry. -/
inductive ParameterEntry where
  | receiver (self : SelfParameter)
  | parameter (written : ParameterSyntax)
  /-- An entry without a pattern. -/
  | nothing
deriving DecidableEq, Repr

/-- The receiver that a source text stands for. -/
def receiverOfText (text : String) : SelfParameter :=
  let characters := Text.dropOuterBlanks text.toList
  if characters.head? != some '&' then .owned
  else if (Text.splitAt Text.isBlank characters).any fun piece =>
      ['t', 'u', 'm'].isPrefixOf piece.reverse then .exclusive
  else .shared

/-- The tokens of a pattern or plain entry, and those from the mark on that ends it. -/
def cutEntry : (angles : Nat) → (depth : Depth) → List Token → List Token × List Token
  | _, _, [] => ([], [])
  | angles, depth, token :: rest =>
      if depth = .outside && angles = 0 && (token.isMark ":" || token.isMark ",") then
        ([], token :: rest)
      else
        let nextAngles :=
          if depth = .outside && token.isMark "<" then angles + 1
          else if depth = .outside && token.isMark ">" then angles - 1
          else angles
        let (inside, after) := cutEntry nextAngles (depth.behind token) rest
        (token :: inside, after)

/-- The tokens after the attributes that come first. -/
def skipAttributes : (fuel : Nat) → List Token → List Token
  | 0, tokens => tokens
  | _, [] => []
  | fuel + 1, first :: rest =>
      if first.isMark "#" then
        match groupOf? "[" rest with
        | some (_, after) => skipAttributes fuel after
        | none => first :: rest
      else first :: rest

/-- The words that are no names although they look like one. -/
def unnamingWords : List String :=
  ["_", "true", "false"]

/-- The name that a pattern binds when it is a plain one. -/
def patternName? (pattern : List Token) : Option String :=
  match skipWord ["mut"] pattern with
  | [token] =>
      if token.kind = .word && !unnamingWords.contains token.text then some token.text else none
  | _ => none

/-- Whether a pattern is `self`. -/
def isSelfPattern (pattern : List Token) : Bool :=
  match skipWord ["mut"] pattern with
  | [token] => token.isWord "self"
  | _ => false

/-- The type of a parameter that takes any further arguments. -/
def furtherArguments : ParameterEntry :=
  .parameter ⟨none, .unsupported "..."⟩

/-- Whether an entry without a pattern is a receiver: `self` after `&`, a lifetime and `mut`. -/
def isReceiver (entry : List Token) : Bool :=
  let afterReference := if startsWithMark ["&"] entry then entry.drop 1 else entry
  match skipWord ["mut"] (skipLifetime afterReference) with
  | [token] => token.isWord "self"
  | _ => false

/-- The entry that stands without a type. -/
def plainEntry (entry : List Token) : ParameterEntry :=
  if isReceiver entry then .receiver (receiverOfText (sourceText entry))
  else if startsWithMark ["..."] (skipWord ["mut"] entry) then furtherArguments
  else .nothing

/-- Reads one entry and gives the tokens after it. -/
def readEntry (tokens : List Token) : ParameterEntry × List Token :=
  let (pattern, after) := cutEntry 0 .outside tokens
  if startsWithMark [":"] after then
    let written := after.drop 1
    if startsWithMark ["..."] written then (furtherArguments, written.drop 1)
    else if isSelfPattern pattern then (.receiver .owned, (cutEntry 0 .outside written).2)
    else
      match readType? written with
      | some (type, last) => (.parameter ⟨patternName? pattern, type⟩, last)
      | none =>
          let last := (cutEntry 0 .outside written).2
          (.parameter ⟨patternName? pattern, .unsupported (textUntil written last)⟩, last)
  else (plainEntry pattern, after)

/-- Reads the entries between the parentheses of a parameter list. -/
def readEntries : (fuel : Nat) → List Token → List ParameterEntry
  | 0, _ => []
  | _, [] => []
  | fuel + 1, first :: rest =>
      if first.isMark "," then readEntries fuel rest
      else
        match skipAttributes fuel (first :: rest) with
        | [] => []
        | tokens =>
            let (entry, after) := readEntry tokens
            entry :: readEntries fuel (if after.length < (first :: rest).length then after else [])

/-- The receiver of a parameter list: the last entry that is one. -/
def receiverOf (entries : List ParameterEntry) : Option SelfParameter :=
  (entries.filterMap fun entry =>
    match entry with
    | .receiver self => some self
    | .parameter _ | .nothing => none).getLast?

/-- The parameters of a parameter list. -/
def parametersOf (entries : List ParameterEntry) : List ParameterSyntax :=
  entries.filterMap fun entry =>
    match entry with
    | .parameter written => some written
    | .receiver _ | .nothing => none

/-- Reads the return type that may follow a parameter list. -/
def readReturnType (tokens : List Token) : Option TypeSyntax × List Token :=
  if startsWithMark ["->"] tokens then
    match readType? (tokens.drop 1) with
    | some (type, after) => (some type, after)
    | none => (none, tokens.drop 1)
  else (none, tokens)

/-- Reads a function from its name on, with its body if it has one. -/
def readFunction? : List Token → Option (FunctionSignature × List Token)
  | [] => none
  | name :: rest => do
      let (generic, afterAngles) := skipAngles rest
      let (inside, afterParameters) ← groupOf? "(" afterAngles
      let entries := readEntries inside.length inside
      let (returnType, afterType) := readReturnType afterParameters
      let afterWhere := skipWhere afterType
      let signature (hasBody : Bool) : FunctionSignature :=
        ⟨name.text, receiverOf entries, parametersOf entries, returnType, generic, hasBody⟩
      match groupOf? "\x7b" afterWhere with
      | some (_, after) => some (signature true, after)
      | none => some (signature false, afterWhere.drop 1)

end ForwardingProxy.Source
