import ForwardingProxy.Source.WrittenPath
import ForwardingProxy.TypeSyntax

/-!
Contract: types in source text.

Owns: `Source.readType?`, which reads the longest type that comes first, and `Source.readTerm?`,
which reads one operand of the `+` that joins bounds.

Paths, references, trait objects of a plain path and `()` are read apart; any other type is kept
as its source text. A path segment with arguments that is not the last one is kept as text
together with all segments before it.
-/

namespace ForwardingProxy.Source

/-- A type and the tokens after it. -/
abbrev ReadType := Option (TypeSyntax × List Token)

/-- What is known of the arguments between angle brackets. -/
structure TypeArguments where
  arguments : List TypeSyntax
  /-- Whether a lifetime is among them. -/
  hasLifetime : Bool

/-- The tokens after `for` and the lifetimes it binds. -/
def skipFor (tokens : List Token) : List Token :=
  if startsWithWord ["for"] tokens then (skipAngles (tokens.drop 1)).2 else tokens

/-- A type that is kept as its source text. -/
def verbatim (all rest : List Token) : TypeSyntax × List Token :=
  (.unsupported (textUntil all rest), rest)

/-- The tokens after what may stand before `fn`: qualifiers and the name of a calling convention. -/
def skipFunctionQualifiers : List Token → List Token
  | [] => []
  | token :: rest =>
      if token.kind = .word &&
          ["async", "default", "const", "unsafe", "gen"].contains token.text then
        skipFunctionQualifiers rest
      else if token.isWord "extern" then
        match rest with
        | [] => []
        | name :: more =>
            if name.kind = .literal then skipFunctionQualifiers more
            else skipFunctionQualifiers (name :: more)
      else token :: rest

/-- Whether a function type comes first, with its qualifiers. -/
def startsFunctionType (tokens : List Token) : Bool :=
  startsWithWord ["fn"] (skipFunctionQualifiers tokens)

/-- The group that a macro is called with, when `!` comes first, and the tokens after it. -/
def macroGroup? (tokens : List Token) : Option (List Token × List Token) :=
  if startsWithMark ["!"] tokens then group? (tokens.drop 1) else none

/-- Whether the path is one built-in type, which takes no arguments. -/
def isPrimitivePath (segments : List String) : Bool :=
  match segments with
  | [name] => Name.primitiveTypes.contains name
  | _ => false

/-- Whether a type that ends before `after` may stand behind `impl` by itself. -/
def standsBehindImpl (tokens : List Token) (type : TypeSyntax) (after : List Token) : Bool :=
  !(startsWithMark ["&", "*", "[", "!"] tokens || startsWithWord ["dyn", "impl"] tokens
    || (startsWithKind .placeholder tokens && (tokensUntil tokens after).length = 1)
    || (macroGroup? (readPath tokens).2).isSome
    || match type with
      | .unit => true
      | .path segments [] => isPrimitivePath segments
      | _ => false)

/-- Whether the argument that comes first is a literal, and the tokens after it. -/
def skipLiteral? (tokens : List Token) : Option (List Token) :=
  match tokens with
  | first :: rest =>
      if first.kind = .literal then some rest
      else if first.isMark "-" && rest.head?.any (fun token => token.kind == .literal) then
        some (rest.drop 1)
      else if (first.isWord "true" || first.isWord "false") &&
          startsWithMark [",", ">", ":"] rest then
        some rest
      else none
  | [] => none

/-- The tokens after `use` and the names it captures. -/
def skipCaptures? (tokens : List Token) : Option (List Token) :=
  if startsWithWord ["use"] tokens then some (skipAngles (tokens.drop 1)).2 else none

/-- The tokens after an operand of `+` that is no type. -/
def skipPlainOperand? (tokens : List Token) : Option (List Token) :=
  if startsWithLifetime tokens then some (tokens.drop 1) else skipCaptures? tokens

mutual

/-- Reads a type without a `+` of its own. -/
def readTerm? : (fuel : Nat) → (tokens : List Token) → ReadType
  | 0, _ => none
  | _, [] => none
  | fuel + 1, first :: rest =>
      let all := first :: rest
      match first.kind with
      | .mark =>
          if first.text = "&" then do
            let afterLifetime := skipLifetime rest
            let mutable := startsWithWord ["mut"] afterLifetime
            let (inner, after) ← readTerm? fuel (skipWord ["mut"] afterLifetime)
            pure (.reference mutable inner, after)
          else if first.text = "*" then do
            let (_, after) ← readTerm? fuel (skipWord ["mut", "const"] rest)
            pure (verbatim all after)
          else if first.text = "?" then do
            let (_, after) ← readTerm? fuel rest
            pure (verbatim all after)
          else if first.text = "!" then some (verbatim all rest)
          else if first.text = "(" then do
            let (inside, after) ← group? all
            pure (if inside.isEmpty then (.unit, after) else verbatim all after)
          else if first.text = "[" then do
            let (_, after) ← group? all
            pure (verbatim all after)
          else if first.text = "<" then
            let after := dropAngles 1 .outside rest
            readSegments? fuel all [textUntil all after] after
          else if first.text = "::" then readSegments? fuel all [] all
          else none
      | .word =>
          if first.text = "dyn" then do
            let (bound, after) ← readTerm? fuel rest
            pure (match bound with
              | .path segments [] => (.traitObject segments, after)
              | _ => verbatim all after)
          else if first.text = "impl" then do
            let bound := skipFor rest
            let after ←
              match skipPlainOperand? bound with
              | some after => skipAddend? fuel after
              | none => do
                  let (type, after) ← readTerm? fuel bound
                  if standsBehindImpl bound type after then some after else skipAddend? fuel after
            pure (verbatim all after)
          else if first.text = "for" then do
            let (_, after) ← readTerm? fuel (skipFor all)
            pure (verbatim all after)
          else if startsFunctionType all then do
            let (_, after) ← groupOf? "(" ((skipFunctionQualifiers all).drop 1)
            readReturn? fuel all after
          else readSegments? fuel all [first.text] rest
      | .placeholder =>
          if startsWithMark ["::"] rest then readSegments? fuel all [first.text] rest
          else some (verbatim all rest)
      | _ => none

/-- Reads the return type that may follow a list of parameter types; the whole is kept as text. -/
def readReturn? : (fuel : Nat) → (all : List Token) → (tokens : List Token) → ReadType
  | 0, _, _ => none
  | fuel + 1, all, tokens =>
      if startsWithMark ["->"] tokens then do
        let (_, after) ← readTerm? fuel (tokens.drop 1)
        pure (verbatim all after)
      else some (verbatim all tokens)

/-- Reads the rest of a path that begins with `all` and has these segments so far. -/
def readSegments? : (fuel : Nat) → (all : List Token) → (segments : List String) →
    (tokens : List Token) → ReadType
  | 0, _, _, _ => none
  | _, _, segments, [] => some (.path segments [], [])
  | fuel + 1, all, segments, first :: rest =>
      if first.isMark "::" then
        match rest with
        | [] => none
        | next :: more =>
            if next.kind = .word then readSegments? fuel all (segments ++ [next.text]) more
            else if next.isMark "<" then
              let after := dropAngles 1 .outside more
              readSegments? fuel all [textUntil all after] after
            else none
      else if isPrimitivePath segments then some (.path segments [], first :: rest)
      else if first.isMark "<" then do
        let (known, after) ← readArguments? fuel rest
        if startsWithMark ["::"] after then
          readSegments? fuel all [textUntil all after] after
        else if known.hasLifetime then some (verbatim all after)
        else some (.path segments known.arguments, after)
      else if first.isMark "(" then do
        let (_, after) ← group? (first :: rest)
        readReturn? fuel all after
      else
        match macroGroup? (first :: rest) with
        | some (_, after) => some (verbatim all after)
        | none => some (.path segments [], first :: rest)

/-- Reads a type with all bounds that `+` adds to it. -/
def readSum? : (fuel : Nat) → (tokens : List Token) → ReadType
  | 0, _ => none
  | fuel + 1, tokens => do
      let (first, after) ←
        match skipPlainOperand? tokens with
        | some after => if startsWithMark ["+"] after then some (verbatim tokens after) else none
        | none => readTerm? fuel tokens
      if startsWithMark ["+"] after then
        let after ← skipSum? fuel (after.drop 1)
        pure (verbatim tokens after)
      else pure (first, after)

/-- The tokens after `+` and the one operand behind it. -/
def skipAddend? : (fuel : Nat) → (tokens : List Token) → Option (List Token)
  | 0, _ => none
  | fuel + 1, tokens =>
      if startsWithMark ["+"] tokens then
        match skipPlainOperand? (tokens.drop 1) with
        | some after => some after
        | none => (readTerm? fuel (tokens.drop 1)).map Prod.snd
      else none

/-- The tokens after further bounds, from behind a `+` on. -/
def skipSum? : (fuel : Nat) → (tokens : List Token) → Option (List Token)
  | 0, _ => none
  | fuel + 1, tokens => do
      let after ←
        match skipPlainOperand? tokens with
        | some after => some after
        | none => (readTerm? fuel tokens).map Prod.snd
      if startsWithMark ["+"] after then skipSum? fuel (after.drop 1)
      else pure after

/-- Reads arguments up to the closing angle bracket. -/
def readArguments? : (fuel : Nat) → (tokens : List Token) →
    Option (TypeArguments × List Token)
  | 0, _ => none
  | fuel + 1, tokens =>
      if startsWithMark [">"] tokens then some (⟨[], false⟩, tokens.drop 1)
      else do
        let (known, after) ← readArgument? fuel tokens
        if startsWithMark [","] after then
          let (others, last) ← readArguments? fuel (after.drop 1)
          pure
            (⟨known.arguments ++ others.arguments, known.hasLifetime || others.hasLifetime⟩, last)
        else if startsWithMark [">"] after then pure (known, after.drop 1)
        else none

/-- Reads one argument; bounds written behind it count as a further one. -/
def readArgument? : (fuel : Nat) → (tokens : List Token) →
    Option (TypeArguments × List Token)
  | 0, _ => none
  | fuel + 1, tokens => do
      let (known, after) ← readPlainArgument? fuel tokens
      if startsWithMark [":"] after then
        let last ← skipSum? fuel (after.drop 1)
        pure (⟨known.arguments ++ [.unsupported (textUntil after last)], known.hasLifetime⟩, last)
      else pure (known, after)

/-- Reads one argument: a lifetime, a literal, a block, a type, or the type bound to a name. -/
def readPlainArgument? : (fuel : Nat) → (tokens : List Token) →
    Option (TypeArguments × List Token)
  | 0, _ => none
  | fuel + 1, tokens =>
      if startsWithLifetime tokens && !startsWithMark ["+"] (tokens.drop 1) then
        some (⟨[], true⟩, tokens.drop 1)
      else
        match skipLiteral? tokens with
        | some after => some (⟨[.unsupported (textUntil tokens after)], false⟩, after)
        | none =>
            match groupOf? "\x7b" tokens with
            | some (_, after) => some (⟨[.unsupported (textUntil tokens after)], false⟩, after)
            | none => do
                let (type, after) ← readSum? fuel tokens
                if startsWithMark ["="] after then
                  let (_, last) ← readSum? fuel (after.drop 1)
                  pure (⟨[.unsupported (textUntil tokens last)], false⟩, last)
                else pure (⟨[type], false⟩, after)

end

/-- Enough fuel for any type among the tokens. -/
def typeFuel (tokens : List Token) : Nat :=
  4 * tokens.length + 4

/-- Reads the longest type that comes first. -/
def readType? (tokens : List Token) : ReadType :=
  readSum? (typeFuel tokens) tokens

end ForwardingProxy.Source
