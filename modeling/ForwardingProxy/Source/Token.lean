import ForwardingProxy.Source.Lexeme

/-!
Contract: the tokens of source text.

Owns: `Source.Token`, which knows its line and what stands before it, and `Source.tokens`.

Blanks and comments are no tokens. They are kept before the token that follows them, so that the
source text of any run of tokens can be given back. An apostrophe and the word after it are one
token, with what stands between them.
-/

namespace ForwardingProxy.Source

/-- A word, literal, lifetime, placeholder or mark. -/
structure Token where
  kind : Lexeme.Kind
  text : String
  /-- The number of line feeds before the token. -/
  line : Nat
  /-- The blanks and comments between the token and the one before it. -/
  before : List Lexeme
deriving DecidableEq, Repr

namespace Token

/-- Whether the token is that mark. -/
def isMark (token : Token) (text : String) : Bool :=
  token.kind == .mark && token.text == text

/-- Whether the token is that word. -/
def isWord (token : Token) (text : String) : Bool :=
  token.kind == .word && token.text == text

/-- The texts of the comments before the token. -/
def comments (token : Token) : List String :=
  (token.before.filter fun lexeme => lexeme.kind == .comment).map Lexeme.text

/-- Whether nothing separates the token from the one before it. -/
def isAdjacent (token : Token) : Bool :=
  token.before.isEmpty

/-- The text of a token with what stands before it. -/
def textWithBefore (token : Token) : String :=
  String.join (token.before.map Lexeme.text) ++ token.text

end Token

/-- Makes one piece of each apostrophe and the word behind it. -/
def joinLifetimes : List Lexeme → List Lexeme
  | [] => []
  | first :: rest =>
      let joined := joinLifetimes rest
      if first = ⟨.mark, "'"⟩ then
        match joined.span Lexeme.separates with
        | (between, name :: after) =>
            if name.kind = .word then
              ⟨.lifetime, "'" ++ String.join (between.map Lexeme.text) ++ name.text⟩ :: after
            else first :: joined
        | (_, []) => first :: joined
      else first :: joined

/-- The tokens among lexemes, from that line on; `before` is what was passed over. -/
def tokensOf : (line : Nat) → (before : List Lexeme) → List Lexeme → List Token
  | _, _, [] => []
  | line, before, lexeme :: rest =>
      let after := line + lexeme.text.toList.countP (· == '\n')
      if lexeme.separates then tokensOf after (before ++ [lexeme]) rest
      else ⟨lexeme.kind, lexeme.text, line, before⟩ :: tokensOf after [] rest

/-- The tokens of a source text. -/
def tokens (text : String) : List Token :=
  let (preamble, rest) := dropPreamble text.toList
  tokensOf (preamble.countP (· == '\n')) [] (joinLifetimes (lexemesOf rest))

/-- Whether one of the marks comes first. -/
def startsWithMark (marks : List String) (tokens : List Token) : Bool :=
  tokens.head?.any fun token => token.kind == .mark && marks.contains token.text

/-- Whether one of the words comes first. -/
def startsWithWord (words : List String) (tokens : List Token) : Bool :=
  tokens.head?.any fun token => token.kind == .word && words.contains token.text

/-- Whether a token of that kind comes first. -/
def startsWithKind (kind : Lexeme.Kind) (tokens : List Token) : Bool :=
  tokens.head?.any fun token => token.kind == kind

/-- Whether a lifetime comes first. -/
def startsWithLifetime (tokens : List Token) : Bool :=
  startsWithKind .lifetime tokens

/-- The tokens after the lifetime that may come first. -/
def skipLifetime (tokens : List Token) : List Token :=
  if startsWithLifetime tokens then tokens.drop 1 else tokens

/-- The tokens after one of the words, if it comes first. -/
def skipWord (words : List String) (tokens : List Token) : List Token :=
  if startsWithWord words tokens then tokens.drop 1 else tokens

/-- The source text from the first of the tokens to the last. -/
def sourceText : List Token → String
  | [] => ""
  | first :: rest => first.text ++ String.join (rest.map Token.textWithBefore)

/-- The tokens of `all` before its end `rest`. -/
def tokensUntil (all rest : List Token) : List Token :=
  all.take (all.length - rest.length)

/-- The source text of the tokens of `all` before its end `rest`. -/
def textUntil (all rest : List Token) : String :=
  sourceText (tokensUntil all rest)

end ForwardingProxy.Source
