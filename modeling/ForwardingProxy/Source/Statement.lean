import ForwardingProxy.Source.TypeGrammar

/-!
Contract: statements and macro calls in source text, which are passed over as a whole.

Owns: `Source.skipBlockExpression?`, which finds the end of an expression that ends with a block,
and `Source.dropOther`, which passes over anything that declares nothing.

A statement that begins with such an expression, or with a macro call, ends there unless an
operator follows that no new statement begins with. Any other statement ends at its `;`. In a
condition the first `{` that stands where an operator could opens the block behind it.
-/

namespace ForwardingProxy.Source

/-- The operators between two operands, each before those it begins with. -/
def operators : List String :=
  ["<<=", ">>=", "&&", "||", "==", "!=", "<=", ">=", "<<", ">>", "+=", "-=", "*=", "/=", "%=",
    "^=", "&=", "|=", "+", "-", "*", "/", "%", "^", "&", "|", "=", "<", ">"]

/-- The text of the mark that comes first and of the marks that are written right behind it. -/
def joinedMarks : List Token → String
  | [] => ""
  | first :: rest =>
      if first.kind = .mark then
        String.join (first.text ::
          (rest.takeWhile fun token => token.kind == .mark && token.isAdjacent).map Token.text)
      else ""

/-- Whether one of the operators comes first; a longer one that comes first is not overlooked. -/
def startsWithOperator (names : List String) (tokens : List Token) : Bool :=
  names.any fun name => name.toList.isPrefixOf (joinedMarks tokens).toList

/-- The tokens after an operator between two operands. -/
def skipOperator? (tokens : List Token) : Option (List Token) :=
  (operators.find? fun name => startsWithOperator [name] tokens).map fun name =>
    tokens.drop name.length

/-- The tokens after the parameters of a function without a name, from behind its first `|` on. -/
def dropClosureParameters (tokens : List Token) : List Token :=
  (dropUntil (fun token => token.isMark "|") .outside tokens).drop 1

/-- The tokens after the keyword, with `move` behind it. -/
def skipMove (tokens : List Token) : List Token :=
  skipWord ["move"] (tokens.drop 1)

/-- The tokens after a group of braces that comes first. -/
def skipBraces? (tokens : List Token) : Option (List Token) :=
  (groupOf? "\x7b" tokens).map Prod.snd

mutual

/-- The tokens after an expression that ends with a block, if one comes first. -/
def skipBlockExpression? : (fuel : Nat) → List Token → Option (List Token)
  | 0, _ => none
  | fuel + 1, tokens =>
      let rest := tokens.drop 1
      if startsWithLifetime tokens && startsWithMark [":"] rest then
        skipBlockExpression? fuel (rest.drop 1)
      else if startsWithMark ["\x7b"] tokens then skipBraces? tokens
      else if startsWithWord ["loop", "unsafe", "try", "const"] tokens then skipBraces? rest
      else if startsWithWord ["async", "gen"] tokens then skipBraces? (skipMove tokens)
      else if startsWithWord ["while", "match"] tokens then do
        let block ← skipOperand? fuel rest
        skipBraces? block
      else if startsWithWord ["for"] tokens then do
        let items := (dropUntil (fun token => token.isWord "in") .outside rest).drop 1
        let block ← skipOperand? fuel items
        skipBraces? block
      else if startsWithWord ["if"] tokens then do
        let block ← skipOperand? fuel rest
        let after ← skipBraces? block
        if startsWithWord ["else"] after then skipBlockExpression? fuel (after.drop 1)
        else some after
      else none

/-- The tokens from the block on that ends a condition, where an operand comes first. -/
def skipOperand? : (fuel : Nat) → List Token → Option (List Token)
  | 0, _ => none
  | _, [] => none
  | fuel + 1, first :: rest =>
      let tokens := first :: rest
      match skipBlockExpression? fuel tokens with
      | some after => skipOperation? fuel after
      | none =>
          match first.kind with
          | .mark =>
              if first.text = "(" || first.text = "[" then do
                let (_, after) ← group? tokens
                skipOperation? fuel after
              else if first.text = "<" then skipOperation? fuel (dropAngles 1 .outside rest)
              else if first.text = "|" then
                let body := dropClosureParameters rest
                if startsWithMark ["->"] body then do
                  let (_, block) ← readTerm? (typeFuel body) (body.drop 1)
                  skipOperation? fuel (← skipBraces? block)
                else skipOperand? fuel body
              else if first.text = ".." then
                if startsWithMark ["\x7b"] rest then some rest else skipOperand? fuel rest
              else if ["-", "*", "!", "&", "::", "..=", "..."].contains first.text then
                skipOperand? fuel rest
              else none
          | .word =>
              if first.text = "let" then
                let value := (dropUntil (fun token => token.isMark "=") .outside rest).drop 1
                skipOperand? fuel value
              else if ["mut", "move", "static", "async", "return", "yield"].contains first.text then
                skipOperand? fuel rest
              else if first.text = "raw" && startsWithWord ["const", "mut"] rest then
                skipOperand? fuel (rest.drop 1)
              else if first.text = "break" then
                let value := skipLifetime rest
                if startsWithMark ["\x7b"] value then some value else skipOperand? fuel value
              else if first.text = "continue" then skipOperation? fuel (skipLifetime rest)
              else skipOperation? fuel rest
          | _ => skipOperation? fuel rest

/-- The tokens from the block on that ends a condition, where an operator comes first. -/
def skipOperation? : (fuel : Nat) → List Token → Option (List Token)
  | 0, _ => none
  | _, [] => none
  | fuel + 1, first :: rest =>
      let tokens := first :: rest
      if first.isMark "\x7b" then some tokens
      else if first.isMark "(" || first.isMark "[" then do
        let (_, after) ← group? tokens
        skipOperation? fuel after
      else if first.isMark "?" then skipOperation? fuel rest
      else if first.isMark "." then skipOperation? fuel (rest.drop 1)
      else if first.isMark "::" then
        skipOperation? fuel
          (if startsWithMark ["<"] rest then dropAngles 1 .outside (rest.drop 1) else rest.drop 1)
      else if first.isMark ".." then
        if startsWithMark ["\x7b"] rest then some rest else skipOperand? fuel rest
      else if first.isMark "..=" || first.isMark "..." then skipOperand? fuel rest
      else if first.isWord "as" then do
        let (_, after) ← readTerm? (typeFuel rest) rest
        skipOperation? fuel after
      else
        match macroGroup? tokens with
        | some (_, after) => skipOperation? fuel after
        | none => do
            let operand ← skipOperator? tokens
            skipOperand? fuel operand

end

/-- Whether a statement goes on behind an expression that ends with a block. -/
def continuesBlock (tokens : List Token) : Bool :=
  startsWithMark [".", "?", "+", "/", "%", "^", "=", ">", "..=", "..."] tokens
    || startsWithOperator ["!=", "&&", "&=", "||", "|=", "<<", "<=", "-=", "*="] tokens
    || startsWithWord ["as"] tokens

/-- Whether a statement goes on behind a macro call. -/
def continuesCall (tokens : List Token) : Bool :=
  continuesBlock tokens || startsWithMark ["(", "[", "-", "*", "&", "|", "<", ".."] tokens

/-- The tokens after the definition of a macro, if one comes first. -/
def skipMacroDefinition? (tokens : List Token) : Option (List Token) :=
  if startsWithWord ["macro_rules"] tokens && startsWithMark ["!"] (tokens.drop 1)
      && startsWithKind .word (tokens.drop 2) then
    (group? (tokens.drop 3)).map Prod.snd
  else none

/-- The tokens after a statement, macro call or anything else that declares nothing. -/
def dropOther (tokens : List Token) : List Token :=
  if startsWithMark [";"] tokens then tokens.drop 1
  else
    match skipMacroDefinition? tokens with
    | some after => after
    | none =>
        match skipBlockExpression? (2 * tokens.length + 2) tokens with
        | some after => if continuesBlock after then dropStatement after else after
        | none =>
            match macroGroup? (readPath tokens).2 with
            | some (_, after) => if continuesCall after then dropStatement after else after
            | none => dropStatement tokens

end ForwardingProxy.Source
