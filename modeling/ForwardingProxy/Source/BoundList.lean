import ForwardingProxy.Source.TypeGrammar

/-!
Contract: lists of bounds and `where` clauses.

Owns: `Source.readBounds`, which reads the bounds between `+`, and `Source.skipWhere`.

A lifetime and a `?` bound are left out. A comment inside the list counts as a bound of its own,
as its text. Captured names, `use<..>`, are no bound by themselves: they are one with the first
bound of the list when they follow it, else with the bound behind them.
-/

namespace ForwardingProxy.Source

/-- What an element of a bound list adds to the list, and the tokens after it. -/
abbrev ReadBound := Option (List TypeSyntax × List Token)

/-- The comments before a token, as bounds. -/
def commentBounds (tokens : List Token) : List TypeSyntax :=
  ((tokens.head?.map Token.comments).getD []).map .unsupported

/-- Reads one element of a bound list. -/
def readBound? (tokens : List Token) : ReadBound :=
  if startsWithLifetime tokens then some ([], tokens.drop 1)
  else
    match skipCaptures? tokens with
    | some afterCaptures => do
        let after ← skipAddend? (typeFuel tokens) afterCaptures
        pure ([.unsupported (textUntil tokens after)], after)
    | none => do
        let (type, after) ← readTerm? (typeFuel tokens) tokens
        pure (if startsWithMark ["?"] tokens then [] else [type], after)

/-- Makes one bound of the first element, which begins with `all`, and the captures behind it. -/
def joinCaptures (all : List Token) :
    (fuel : Nat) → (bound : List TypeSyntax) → List Token → List TypeSyntax × List Token
  | 0, bound, tokens => (bound, tokens)
  | fuel + 1, bound, tokens =>
      if startsWithMark ["+"] tokens then
        match skipCaptures? (tokens.drop 1) with
        | some after => joinCaptures all fuel [.unsupported (textUntil all after)] after
        | none => (bound, tokens)
      else (bound, tokens)

/-- Reads the first element of a bound list. -/
def readFirstBound? (tokens : List Token) : ReadBound := do
  let (bound, after) ← readBound? tokens
  pure (if startsWithWord ["for"] tokens then (bound, after)
    else joinCaptures tokens tokens.length bound after)

/-- Reads the elements behind the first one. -/
def readFurtherBounds : (fuel : Nat) → List Token → List TypeSyntax × List Token
  | 0, tokens => ([], tokens)
  | fuel + 1, tokens =>
      if startsWithMark ["+"] tokens then
        match readBound? (tokens.drop 1) with
        | some (bound, after) =>
            let (others, last) := readFurtherBounds fuel after
            (commentBounds tokens ++ commentBounds (tokens.drop 1) ++ bound ++ others, last)
        | none => ([], tokens)
      else ([], tokens)

/-- Reads the bounds behind a `:`. -/
def readBounds (tokens : List Token) : List TypeSyntax × List Token :=
  match readFirstBound? tokens with
  | some (bound, after) =>
      let (others, last) := readFurtherBounds after.length after
      (commentBounds tokens ++ bound ++ others, last)
  | none => ([], tokens)

/-- The tokens after what a predicate of a `where` clause bounds. -/
def skipBounded? (tokens : List Token) : Option (List Token) :=
  if startsWithLifetime tokens then some (tokens.drop 1)
  else (readTerm? (typeFuel tokens) tokens).map Prod.snd

/-- The tokens after the predicates of a `where` clause. -/
def skipPredicates : (fuel : Nat) → List Token → List Token
  | 0, tokens => tokens
  | fuel + 1, tokens =>
      match skipBounded? tokens with
      | none => tokens
      | some bounds =>
          if startsWithMark [":"] bounds then
            let after := (readBounds (bounds.drop 1)).2
            if startsWithMark [","] after then skipPredicates fuel (after.drop 1) else after
          else tokens

/-- The tokens after a `where` clause, if one comes first. -/
def skipWhere (tokens : List Token) : List Token :=
  if startsWithWord ["where"] tokens then skipPredicates tokens.length (tokens.drop 1) else tokens

end ForwardingProxy.Source
