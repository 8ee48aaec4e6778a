import ForwardingProxy.Proofs.Source.TypeSpelling
import ForwardingProxy.Source.Item

/-!
Contract: plain types are read back from their tokens.

Owns: what the readers of types do with the tokens of plain types, and the theorem that a function
whose return type is written as the text of a plain type, with any blanks and comments between its
tokens, has that return type.

A type is read up to a mark that continues no type. Four levels of readers lie between the arguments
of a path and their types, so four times the number of tokens is fuel enough.
-/

namespace ForwardingProxy.Source

open TypeSyntax (IsPath IsIdentifier Plain)

/-! ### The token that comes first -/

/-- The first of tokens is what the first of their lexemes says. -/
theorem exists_cons {tokens : List Token} {kind : Lexeme.Kind} {text : String}
    {lexemes : List Lexeme} (areTokens : tokens.map Token.lexeme = ⟨kind, text⟩ :: lexemes) :
    ∃ line before rest, tokens = ⟨kind, text, line, before⟩ :: rest ∧
      rest.map Token.lexeme = lexemes := by
  obtain ⟨⟨_, _, line, before⟩, rest, rfl, isFirst, areRest⟩ := List.map_eq_cons_iff.mp areTokens
  obtain ⟨rfl, rfl⟩ := Lexeme.mk.inj isFirst
  exact ⟨line, before, rest, rfl, areRest⟩

/-- A mark comes first. -/
def StartsWithMark (tokens : List Token) : Prop :=
  ∃ first rest, tokens = first :: rest ∧ first.kind = .mark

/-- A mark comes first that continues no type. -/
def EndsType (tokens : List Token) : Prop :=
  ∃ first rest, tokens = first :: rest ∧ first.kind = .mark ∧ first.text ∈ [",", ">", "\x7b"]

theorem endsType_cons {first : Token} {text : String} (isFirst : first.lexeme = ⟨.mark, text⟩)
    (isEnd : text ∈ [",", ">", "\x7b"]) (rest : List Token) : EndsType (first :: rest) := by
  obtain ⟨isMark, rfl⟩ := Lexeme.mk.inj isFirst
  exact ⟨first, rest, rfl, isMark, isEnd⟩

theorem EndsType.mark {tokens : List Token} (ends : EndsType tokens) :
    StartsWithMark tokens := by
  obtain ⟨first, rest, isTokens, isMark, _⟩ := ends
  exact ⟨first, rest, isTokens, isMark⟩

theorem EndsType.noMark {tokens : List Token} (ends : EndsType tokens) {mark : String}
    (continues : mark ∉ [",", ">", "\x7b"]) : startsWithMark [mark] tokens = false := by
  obtain ⟨first, rest, rfl, -, isEnd⟩ := ends
  have differs : first.text ≠ mark := by
    rintro rfl
    exact continues isEnd
  simp [startsWithMark, differs]

/-! ### Paths -/

section Paths

variable {all after : List Token} {segments : List String} {fuel : Nat}

theorem readSegments?_end (ends : EndsType after) :
    readSegments? (fuel + 1) all segments after = some (.path segments [], after) := by
  obtain ⟨⟨kind, text, line, before⟩, rest, rfl, rfl, isEnd⟩ := ends
  simp only [List.mem_cons, List.not_mem_nil, or_false] at isEnd
  rcases isEnd with rfl | rfl | rfl <;>
    simp [readSegments?, Token.isMark, macroGroup?, startsWithMark]

/-- The names behind a path's first one are read. -/
theorem readSegments?_names {names : List String} {tokens : List Token}
    (areNames : tokens.map Token.lexeme =
      names.flatMap fun name => [⟨.mark, "::"⟩, ⟨.word, name⟩]) :
    readSegments? (fuel + names.length) all segments (tokens ++ after) =
      readSegments? fuel all (segments ++ names) after := by
  induction names generalizing tokens segments with
  | nil =>
      obtain rfl := List.map_eq_nil_iff.mp areNames
      simp
  | cons name rest inductionHypothesis =>
      obtain ⟨_, _, others, rfl, areOthers⟩ := exists_cons areNames
      obtain ⟨_, _, further, rfl, areFurther⟩ := exists_cons areOthers
      have oneRead := @inductionHypothesis (segments ++ [name]) further areFurther
      rw [List.append_assoc, List.singleton_append] at oneRead
      rw [List.length_cons, ← Nat.add_assoc, ← oneRead]
      simp [readSegments?, Token.isMark]

theorem readSegments?_arguments {opening : Token} {tokens : List Token}
    {arguments : List TypeSyntax} (isOpening : opening.lexeme = ⟨.mark, "<"⟩)
    (noPrimitive : isPrimitivePath segments = false)
    (areRead : readArguments? fuel tokens = some (⟨arguments, false⟩, after))
    (ends : EndsType after) :
    readSegments? (fuel + 1) all segments (opening :: tokens) =
      some (.path segments arguments, after) := by
  obtain ⟨kind, text, line, before⟩ := opening
  simp only [Token.lexeme, Lexeme.mk.injEq] at isOpening
  obtain ⟨rfl, rfl⟩ := isOpening
  have noColons : startsWithMark ["::"] after = false := ends.noMark (by decide)
  simp [readSegments?, Token.isMark, noPrimitive, areRead, noColons]

/-- The words with another meaning where a type or an argument begins. -/
def typeWords : List String :=
  ["dyn", "impl", "for", "fn", "extern", "mut", "use", "true", "false"]

/-- A word is read as the start of a path if it has no other meaning before a mark. -/
theorem readTerm?_word {first : Token} {rest : List Token} (isWord : first.kind = .word)
    (plain : first.text ∉ typeWords) (mark : StartsWithMark rest) :
    readTerm? (fuel + 1) (first :: rest) =
      readSegments? fuel (first :: rest) [first.text] rest := by
  obtain ⟨⟨kind, text, line, before⟩, others, rfl, rfl⟩ := mark
  simp only [typeWords, List.mem_cons, List.not_mem_nil, or_false, not_or] at plain
  have atMark : skipFunctionQualifiers (⟨.mark, text, line, before⟩ :: others) =
      ⟨.mark, text, line, before⟩ :: others := by
    rw [skipFunctionQualifiers.eq_def]
    simp [Token.isWord]
  have noFunction : startsFunctionType (first :: ⟨.mark, text, line, before⟩ :: others) = false := by
    unfold startsFunctionType
    rw [skipFunctionQualifiers.eq_def]
    simp only [atMark]
    by_cases qualifies : first.text ∈ ["async", "default", "const", "unsafe", "gen"]
    · simp [isWord, qualifies, startsWithWord]
    · simp [isWord, qualifies, Token.isWord, startsWithWord, plain]
  simp [readTerm?, isWord, plain, noFunction]

theorem begins_of_isPath (isPath : IsPath segments) :
    ∃ name rest, segments = name :: rest ∧ name ∉ typeWords := by
  have areKeywords : ∀ text ∈ typeWords, text ∈ TypeSyntax.keywords := by decide
  have noRoots : ∀ root ∈ ["crate", "self", "super"], root ∉ typeWords := by decide
  cases isPath with
  | relative isFirst each =>
      exact ⟨_, _, rfl, fun member => isFirst.notKeyword (areKeywords _ member)⟩
  | rooted isRoot each => exact ⟨_, _, rfl, noRoots _ isRoot⟩

/-- The segments of a path are read, one more of them for each step. -/
theorem readTerm?_path (isPath : IsPath segments) {tokens : List Token}
    (areTokens : tokens.map Token.lexeme = (TypeSyntax.pathPieces segments).map Piece.token)
    (mark : StartsWithMark after) :
    readTerm? (fuel + segments.length) (tokens ++ after) =
      readSegments? fuel (tokens ++ after) segments after := by
  obtain ⟨name, rest, rfl, plain⟩ := begins_of_isPath isPath
  obtain ⟨first, others, rfl, isFirst, areOthers⟩ := List.map_eq_cons_iff.mp areTokens
  have isWord : first.kind = .word := congrArg Lexeme.kind isFirst
  obtain rfl : first.text = name := congrArg Lexeme.text isFirst
  rw [List.map_flatMap] at areOthers
  have markBehind : StartsWithMark (others ++ after) := by
    cases rest with
    | nil =>
        obtain rfl := List.map_eq_nil_iff.mp areOthers
        exact mark
    | cons segment further =>
        obtain ⟨colons, _, rfl, areColons, _⟩ := List.map_eq_cons_iff.mp areOthers
        exact ⟨colons, _, rfl, congrArg Lexeme.kind areColons⟩
  rw [List.length_cons, ← Nat.add_assoc, List.cons_append, readTerm?_word isWord plain markBehind]
  exact readSegments?_names areOthers

end Paths

/-! ### Arguments -/

/-- The type is read from its tokens with four steps for each of them. -/
def IsRead (type : TypeSyntax) : Prop :=
  ∀ (tokens after : List Token) (fuel : Nat), tokens.map Token.lexeme = type.tokens →
    EndsType after → 4 * tokens.length ≤ fuel →
      readTerm? fuel (tokens ++ after) = some (type, after)

/-- A token that a plain type begins with. -/
def BeginsType (first : Token) : Prop :=
  (first.kind = .word ∧ first.text ∉ ["mut", "use", "true", "false"]) ∨
    (first.kind = .mark ∧ first.text ∈ ["&", "("])

theorem begins_of_plain {type : TypeSyntax} (plain : type.Plain) {tokens : List Token}
    (areTokens : tokens.map Token.lexeme = type.tokens) :
    ∃ first rest, tokens = first :: rest ∧ BeginsType first := by
  obtain ⟨lexeme, others, isFirst, begins⟩ : ∃ lexeme others, type.tokens = lexeme :: others ∧
      ((lexeme.kind = .word ∧ lexeme.text ∉ ["mut", "use", "true", "false"]) ∨
        (lexeme.kind = .mark ∧ lexeme.text ∈ ["&", "("])) := by
    have notPrimitive : ∀ name ∈ Name.primitiveTypes, name ∉ ["mut", "use", "true", "false"] := by
      decide
    have areTypeWords : ∀ text ∈ ["mut", "use", "true", "false"], text ∈ typeWords := by decide
    unfold TypeSyntax.tokens
    cases plain with
    | primitive isPrimitive =>
        rw [TypeSyntax.pieces]
        exact ⟨_, _, rfl, .inl ⟨rfl, notPrimitive _ isPrimitive⟩⟩
    | path isPath each =>
        obtain ⟨name, rest, rfl, plain⟩ := begins_of_isPath isPath
        rw [TypeSyntax.pieces]
        exact ⟨_, _, rfl, .inl ⟨rfl, fun member => plain (areTypeWords _ member)⟩⟩
    | reference plain =>
        rw [TypeSyntax.pieces]
        exact ⟨_, _, rfl, .inr ⟨rfl, by decide⟩⟩
    | traitObject isPath =>
        rw [TypeSyntax.pieces]
        exact ⟨_, _, rfl, .inl ⟨rfl, by decide⟩⟩
    | unit =>
        rw [TypeSyntax.pieces]
        exact ⟨_, _, rfl, .inr ⟨rfl, by decide⟩⟩
  rw [isFirst] at areTokens
  obtain ⟨first, rest, rfl, rfl, -⟩ := List.map_eq_cons_iff.mp areTokens
  exact ⟨first, rest, rfl, begins⟩

/-- What begins like a type is no lifetime, literal or block, and ends no list of arguments. -/
structure IsTypeAhead (tokens : List Token) : Prop where
  noOperand : skipPlainOperand? tokens = none
  noLifetime : startsWithLifetime tokens = false
  noLiteral : skipLiteral? tokens = none
  noBlock : groupOf? "\x7b" tokens = none
  noEnd : startsWithMark [">"] tokens = false
  noMut : startsWithWord ["mut"] tokens = false

theorem isTypeAhead {type : TypeSyntax} (plain : type.Plain) {tokens : List Token}
    (areTokens : tokens.map Token.lexeme = type.tokens) (after : List Token) :
    IsTypeAhead (tokens ++ after) := by
  obtain ⟨first, rest, rfl, begins⟩ := begins_of_plain plain areTokens
  rw [List.cons_append]
  rcases begins with ⟨isWord, noWord⟩ | ⟨isMark, isType⟩
  · simp only [List.mem_cons, List.not_mem_nil, or_false, not_or] at noWord
    constructor <;>
      simp [skipPlainOperand?, startsWithLifetime, startsWithKind, skipCaptures?, startsWithWord,
        skipLiteral?, groupOf?, startsWithMark, Token.isMark, Token.isWord, isWord, noWord]
  · simp only [List.mem_cons, List.not_mem_nil, or_false] at isType
    rcases isType with isType | isType <;> constructor <;>
      simp [skipPlainOperand?, startsWithLifetime, startsWithKind, skipCaptures?, startsWithWord,
        skipLiteral?, groupOf?, startsWithMark, Token.isMark, Token.isWord, isMark, isType]

section Arguments

variable {tokens after : List Token} {fuel : Nat}

theorem readSum?_type {type : TypeSyntax} (plain : type.Plain) (isRead : IsRead type)
    (areTokens : tokens.map Token.lexeme = type.tokens) (ends : EndsType after)
    (enough : 4 * tokens.length ≤ fuel) :
    readSum? (fuel + 1) (tokens ++ after) = some (type, after) := by
  have ahead := isTypeAhead plain areTokens after
  have noPlus : startsWithMark ["+"] after = false := ends.noMark (by decide)
  rw [readSum?, ahead.noOperand]
  simp [isRead tokens after fuel areTokens ends enough, noPlus]

theorem readArgument?_type {type : TypeSyntax} (plain : type.Plain) (isRead : IsRead type)
    (areTokens : tokens.map Token.lexeme = type.tokens) (ends : EndsType after)
    (enough : 4 * tokens.length ≤ fuel) :
    readArgument? (fuel + 3) (tokens ++ after) = some (⟨[type], false⟩, after) := by
  have ahead := isTypeAhead plain areTokens after
  have noColon : startsWithMark [":"] after = false := ends.noMark (by decide)
  have noEquals : startsWithMark ["="] after = false := ends.noMark (by decide)
  have plainArgument : readPlainArgument? (fuel + 2) (tokens ++ after) =
      some (⟨[type], false⟩, after) := by
    rw [readPlainArgument?, ahead.noLifetime, ahead.noLiteral, ahead.noBlock]
    simp [readSum?_type plain isRead areTokens ends enough, noEquals]
  rw [readArgument?, plainArgument]
  simp [noColon]

theorem readArguments?_types {types : List TypeSyntax} (nonempty : types ≠ [])
    (plain : ∀ type ∈ types, type.Plain) (areRead : ∀ type ∈ types, IsRead type)
    (areTokens : tokens.map Token.lexeme = (TypeSyntax.argumentPieces types).map Piece.token)
    {closing : Token} (isClosing : closing.lexeme = ⟨.mark, ">"⟩)
    (enough : 4 * tokens.length + 4 ≤ fuel) :
    readArguments? fuel (tokens ++ closing :: after) = some (⟨types, false⟩, after) := by
  induction types generalizing tokens fuel with
  | nil => exact absurd rfl nonempty
  | cons type rest inductionHypothesis =>
      have ofType := plain type (List.mem_cons_self ..)
      have readType := areRead type (List.mem_cons_self ..)
      -- the readers of a list, an argument, a plain argument and a sum take one each
      obtain ⟨further, rfl⟩ : ∃ further, fuel = further + 4 := ⟨fuel - 4, by omega⟩
      cases rest with
      | nil =>
          rw [TypeSyntax.argumentPieces] at areTokens
          have ends : EndsType (closing :: after) := endsType_cons isClosing (by decide) after
          obtain ⟨closingKind, closingText⟩ := Lexeme.mk.inj isClosing
          have isEnd : startsWithMark [">"] (closing :: after) = true := by
            simp [startsWithMark, closingKind, closingText]
          have noComma : startsWithMark [","] (closing :: after) = false := by
            simp [startsWithMark, closingText]
          have isRead : readArgument? (further + 3) (tokens ++ closing :: after) =
              some (⟨[type], false⟩, closing :: after) :=
            readArgument?_type ofType readType areTokens ends (by omega)
          rw [readArguments?, (isTypeAhead ofType areTokens _).noEnd]
          simp [isRead, isEnd, noComma]
      | cons next others =>
          rw [TypeSyntax.argumentPieces, List.map_append] at areTokens
          obtain ⟨ofFirst, behind, rfl, areFirst, areBehind⟩ := List.map_eq_append_iff.mp areTokens
          obtain ⟨comma, ofRest, rfl, isComma, areRest⟩ := List.map_eq_cons_iff.mp areBehind
          have ends : EndsType (comma :: (ofRest ++ closing :: after)) :=
            endsType_cons isComma (by decide) _
          obtain ⟨commaKind, commaText⟩ := Lexeme.mk.inj isComma
          have isNext : startsWithMark [","] (comma :: (ofRest ++ closing :: after)) = true := by
            simp [startsWithMark, commaText, commaKind]
          have length : (ofFirst ++ comma :: ofRest).length = ofFirst.length + ofRest.length + 1 := by
            simp [Nat.add_assoc]
          have areOthers := @inductionHypothesis ofRest (further + 3) (List.cons_ne_nil _ _)
            (fun other member => plain other (List.mem_cons_of_mem _ member))
            (fun other member => areRead other (List.mem_cons_of_mem _ member)) areRest (by omega)
          have isRead : readArgument? (further + 3) (ofFirst ++ comma :: (ofRest ++ closing :: after)) =
              some (⟨[type], false⟩, comma :: (ofRest ++ closing :: after)) :=
            readArgument?_type ofType readType areFirst ends (by omega)
          rw [List.append_assoc, List.cons_append, readArguments?,
            (isTypeAhead ofType areFirst _).noEnd]
          simp [isRead, isNext, areOthers]

end Arguments

/-! ### Types -/

theorem length_pathPieces {segments : List String} (isPath : IsPath segments) :
    segments.length ≤ (TypeSyntax.pathPieces segments).length := by
  obtain ⟨name, rest, rfl, -⟩ := begins_of_isPath isPath
  rw [TypeSyntax.pathPieces, List.length_cons, List.length_cons, List.length_flatMap]
  simp
  omega

theorem isPrimitivePath_eq_false {segments : List String} (isPath : IsPath segments) :
    isPrimitivePath segments = false := by
  cases isPath with
  | @relative first rest isFirst each =>
      cases rest with
      | nil => simpa [isPrimitivePath] using isFirst.notPrimitive
      | cons second others => rfl
  | rooted isRoot each => rfl

/-- A path without arguments is read up to the end of the type. -/
theorem readTerm?_barePath {segments : List String} (isPath : IsPath segments)
    {tokens after : List Token} {fuel : Nat}
    (areTokens : tokens.map Token.lexeme = (TypeSyntax.pathPieces segments).map Piece.token)
    (ends : EndsType after) (enough : tokens.length < fuel) :
    readTerm? fuel (tokens ++ after) = some (.path segments [], after) := by
  have length : tokens.length = (TypeSyntax.pathPieces segments).length := by
    simpa using congrArg List.length areTokens
  have short := length_pathPieces isPath
  obtain ⟨further, rfl⟩ : ∃ further, fuel = further + 1 + segments.length :=
    ⟨fuel - segments.length - 1, by omega⟩
  rw [readTerm?_path isPath areTokens ends.mark, readSegments?_end ends]

theorem isRead_reference {mutable : Bool} {inner : TypeSyntax} (plain : inner.Plain)
    (isRead : IsRead inner) : IsRead (.reference mutable inner) := by
  intro tokens after fuel areTokens ends enough
  unfold TypeSyntax.tokens at areTokens
  rw [TypeSyntax.pieces] at areTokens
  obtain ⟨_, _, rest, rfl, areRest⟩ := exists_cons areTokens
  obtain ⟨further, rfl⟩ : ∃ further, fuel = further + 1 :=
    ⟨fuel - 1, by rw [List.length_cons] at enough; omega⟩
  rw [List.map_append] at areRest
  obtain ⟨ofMut, ofInner, rfl, isMut, areInner⟩ := List.map_eq_append_iff.mp areRest
  have readInner : readTerm? further (ofInner ++ after) = some (inner, after) := by
    refine isRead ofInner after further areInner ends ?_
    simp only [List.length_cons, List.length_append] at enough
    omega
  have ahead := isTypeAhead plain areInner after
  cases mutable with
  | false =>
      obtain rfl := List.map_eq_nil_iff.mp isMut
      simp [readTerm?, skipLifetime, skipWord, ahead.noLifetime, ahead.noMut, readInner]
  | true =>
      obtain ⟨_, _, others, rfl, areOthers⟩ := exists_cons isMut
      obtain rfl := List.map_eq_nil_iff.mp areOthers
      simp [readTerm?, skipLifetime, skipWord, startsWithLifetime, startsWithKind, startsWithWord,
        readInner]

theorem isRead_traitObject {segments : List String} (isPath : IsPath segments) :
    IsRead (.traitObject segments) := by
  intro tokens after fuel areTokens ends enough
  unfold TypeSyntax.tokens at areTokens
  rw [TypeSyntax.pieces] at areTokens
  obtain ⟨_, _, rest, rfl, areRest⟩ := exists_cons areTokens
  rw [List.length_cons] at enough
  obtain ⟨further, rfl⟩ : ∃ further, fuel = further + 1 := ⟨fuel - 1, by omega⟩
  simp [readTerm?, readTerm?_barePath isPath areRest ends (show rest.length < further by omega)]

theorem isRead_unit : IsRead .unit := by
  intro tokens after fuel areTokens ends enough
  unfold TypeSyntax.tokens at areTokens
  rw [TypeSyntax.pieces] at areTokens
  obtain ⟨_, _, rest, rfl, areRest⟩ := exists_cons areTokens
  obtain ⟨_, _, others, rfl, areOthers⟩ := exists_cons areRest
  obtain rfl := List.map_eq_nil_iff.mp areOthers
  obtain ⟨further, rfl⟩ : ∃ further, fuel = further + 1 :=
    ⟨fuel - 1, by simp only [List.length_cons] at enough; omega⟩
  simp [readTerm?, group?, closingMark?, cutOutside, Token.isMark]

theorem isRead_path {segments : List String} {arguments : List TypeSyntax}
    (isPath : IsPath segments) (plain : ∀ argument ∈ arguments, argument.Plain)
    (areRead : ∀ argument ∈ arguments, IsRead argument) : IsRead (.path segments arguments) := by
  intro tokens after fuel areTokens ends enough
  unfold TypeSyntax.tokens at areTokens
  rw [TypeSyntax.pieces, List.map_append] at areTokens
  obtain ⟨ofPath, behind, rfl, arePath, areBehind⟩ := List.map_eq_append_iff.mp areTokens
  cases arguments with
  | nil =>
      obtain rfl := List.map_eq_nil_iff.mp areBehind
      rw [List.append_nil] at enough ⊢
      refine readTerm?_barePath isPath arePath ends ?_
      have length : ofPath.length = (TypeSyntax.pathPieces segments).length := by
        simpa using congrArg List.length arePath
      obtain ⟨name, rest, rfl, -⟩ := begins_of_isPath isPath
      rw [TypeSyntax.pathPieces, List.length_cons] at length
      omega
  | cons argument others =>
      rw [if_neg (by simp), List.map_cons, List.map_append] at areBehind
      obtain ⟨opening, inside, rfl, isOpening, areInside⟩ := List.map_eq_cons_iff.mp areBehind
      obtain ⟨ofArguments, last, rfl, areArguments, isLast⟩ := List.map_eq_append_iff.mp areInside
      obtain ⟨closing, nothing, rfl, isClosing, isNothing⟩ := List.map_eq_cons_iff.mp isLast
      obtain rfl := List.map_eq_nil_iff.mp isNothing
      have length : ofPath.length = (TypeSyntax.pathPieces segments).length := by
        simpa using congrArg List.length arePath
      have short := length_pathPieces isPath
      simp only [List.length_append, List.length_cons, List.length_nil] at enough
      obtain ⟨further, rfl⟩ : ∃ further, fuel = further + 1 + segments.length :=
        ⟨fuel - segments.length - 1, by omega⟩
      have areArgumentsRead : readArguments? further (ofArguments ++ closing :: after) =
          some (⟨argument :: others, false⟩, after) :=
        readArguments?_types (List.cons_ne_nil _ _) plain areRead areArguments isClosing (by omega)
      have markBehind : StartsWithMark (opening :: (ofArguments ++ [closing]) ++ after) :=
        ⟨opening, _, rfl, congrArg Lexeme.kind isOpening⟩
      rw [List.append_assoc, readTerm?_path isPath arePath markBehind, List.cons_append,
        List.append_assoc, List.singleton_append]
      exact readSegments?_arguments isOpening (isPrimitivePath_eq_false isPath) areArgumentsRead ends

/-- Plain types are read back from their tokens. -/
theorem isRead_of_plain {type : TypeSyntax} (plain : type.Plain) : IsRead type := by
  induction plain with
  | @primitive name isPrimitive =>
      intro tokens after fuel areTokens ends enough
      have noTypeWord : ∀ name ∈ Name.primitiveTypes, name ∉ typeWords := by decide
      unfold TypeSyntax.tokens at areTokens
      rw [TypeSyntax.pieces] at areTokens
      obtain ⟨first, nothing, rfl, isFirst, isNothing⟩ := List.map_eq_cons_iff.mp areTokens
      obtain rfl := List.map_eq_nil_iff.mp isNothing
      obtain rfl : first.text = name := congrArg Lexeme.text isFirst
      obtain ⟨further, rfl⟩ : ∃ further, fuel = further + 2 :=
        ⟨fuel - 2, by simp only [List.length_cons] at enough; omega⟩
      exact (readTerm?_word (congrArg Lexeme.kind isFirst) (noTypeWord _ isPrimitive) ends.mark).trans
        (readSegments?_end ends)
  | path isPath each inductionHypothesis => exact isRead_path isPath each inductionHypothesis
  | reference plain inductionHypothesis => exact isRead_reference plain inductionHypothesis
  | traitObject isPath => exact isRead_traitObject isPath
  | unit => exact isRead_unit

/-! ### Return types -/

/-- A plain type behind `->` is read as the return type. -/
theorem readReturnType_plain {type : TypeSyntax} (plain : type.Plain) {arrow : Token}
    {tokens after : List Token} (isArrow : arrow.lexeme = ⟨.mark, "->"⟩)
    (areTokens : tokens.map Token.lexeme = type.tokens) (ends : EndsType after) :
    readReturnType (arrow :: (tokens ++ after)) = (some type, after) := by
  have enough : 4 * tokens.length ≤ 4 * (tokens ++ after).length + 3 := by
    rw [List.length_append]
    omega
  have isRead : readType? (tokens ++ after) = some (type, after) :=
    readSum?_type plain (isRead_of_plain plain) areTokens ends enough
  obtain ⟨kind, text, line, before⟩ := arrow
  obtain ⟨rfl, rfl⟩ := Lexeme.mk.inj isArrow
  simp [readReturnType, startsWithMark, isRead]

/-- The tokens of a function without parameters that has this return type. -/
def functionTokens (type : TypeSyntax) : List Lexeme :=
  [⟨.word, "fn"⟩, ⟨.word, "f"⟩, ⟨.mark, "("⟩, ⟨.mark, ")"⟩, ⟨.mark, "->"⟩] ++ type.tokens ++
    [⟨.mark, "\x7b"⟩, ⟨.mark, "\x7d"⟩]

theorem readItemsFrom_function {type : TypeSyntax} (plain : type.Plain) {all : List Token}
    (areTokens : all.map Token.lexeme = functionTokens type) :
    ∃ head, readItemsFrom all.length .empty all =
      [.function head ⟨"f", none, [], some type, false, true⟩] := by
  unfold functionTokens at areTokens
  simp only [List.cons_append, List.nil_append] at areTokens
  obtain ⟨line, _, behindFn, rfl, areBehindFn⟩ := exists_cons areTokens
  obtain ⟨_, _, behindName, rfl, areBehindName⟩ := exists_cons areBehindFn
  obtain ⟨_, _, behindOpening, rfl, areBehindOpening⟩ := exists_cons areBehindName
  obtain ⟨_, _, behindClosing, rfl, areBehindClosing⟩ := exists_cons areBehindOpening
  obtain ⟨arrow, behindArrow, rfl, isArrow, areBehindArrow⟩ :=
    List.map_eq_cons_iff.mp areBehindClosing
  obtain ⟨ofType, body, rfl, areType, areBody⟩ := List.map_eq_append_iff.mp areBehindArrow
  obtain ⟨lineLeft, beforeLeft, behindLeft, rfl, areBehindLeft⟩ := exists_cons areBody
  obtain ⟨lineRight, beforeRight, nothing, rfl, isNothing⟩ := exists_cons areBehindLeft
  obtain rfl := List.map_eq_nil_iff.mp isNothing
  have ends : EndsType [⟨.mark, "\x7b", lineLeft, beforeLeft⟩, ⟨.mark, "\x7d", lineRight, beforeRight⟩] :=
    @endsType_cons _ "\x7b" rfl (by decide) _
  have returnType := readReturnType_plain plain isArrow areType ends
  refine ⟨⟨[], line, false⟩, ?_⟩
  simp [readItemsFrom, attribute?, Token.isMark, skipInnerAttribute?, skipVisibility, Token.isWord,
    readItem?, functionName?, skipFunctionQualifiers, readFunction?, skipAngles, groupOf?, group?,
    closingMark?, cutGroup, cutOutside, readEntries, returnType, skipWhere, startsWithWord,
    receiverOf, parametersOf, Run.head, Run.empty, shrink]

theorem firstReturnType?_eq_some {type : TypeSyntax} (plain : type.Plain) {text : String}
    (areTokens : (tokens text).map Token.lexeme = functionTokens type) :
    firstReturnType? text = some type := by
  obtain ⟨head, areItems⟩ := readItemsFrom_function plain areTokens
  unfold firstReturnType? readItems
  simp only [areItems]
  rfl

theorem spellable_functionTokens {type : TypeSyntax} (plain : type.Plain) :
    ∀ token ∈ functionTokens type, token.Spellable := by
  have fnIsWord : IsWord "fn".toList := isWord_of_isPlainWord (by decide +kernel)
  have nameIsWord : IsWord "f".toList := isWord_of_isPlainWord (by decide +kernel)
  intro token member
  unfold functionTokens at member
  rcases List.mem_append.mp member with member | inBody
  · rcases List.mem_append.mp member with inHeader | inType
    · simp only [List.mem_cons, List.not_mem_nil, or_false] at inHeader
      rcases inHeader with rfl | rfl | rfl | rfl | rfl
      · exact .word fnIsWord
      · exact .word nameIsWord
      · exact .mark (by decide)
      · exact .mark (by decide)
      · exact .mark (by decide)
    · obtain ⟨piece, isPiece, rfl⟩ := List.mem_map.mp inType
      exact (TypeSyntax.isClean_pieces plain piece isPiece).spellable
  · rcases List.mem_pair.mp inBody with rfl | rfl
    · exact .mark (by decide)
    · exact .mark (by decide)

/-- A function that is spelled with any blanks and comments between its tokens has its return type. -/
theorem firstReturnType?_spell {type : TypeSyntax} (plain : type.Plain) {pieces : List Piece}
    (areTokens : pieces.map Piece.token = functionTokens type)
    (separated : ∀ piece ∈ pieces, Separation piece.gap) (apart : pieces.IsChain Piece.Apart) :
    firstReturnType? (String.ofList (spell pieces)) = some type := by
  have spelled : Spelled pieces := by
    refine ⟨fun piece member => ⟨?_, separated piece member⟩, apart⟩
    refine spellable_functionTokens plain _ ?_
    rw [← areTokens]
    exact List.mem_map_of_mem member
  obtain ⟨piece, rest, rfl, isFn, -⟩ := List.map_eq_cons_iff.mp areTokens
  have isStart : piece.token.text.toList.head? = some 'f' := by
    rw [isFn]
    rfl
  exact firstReturnType?_eq_some plain
    ((tokens_spell spelled isStart (by decide) (by decide)).trans areTokens)

/-- The text of a plain type, written as a return type, is read back as that type, and so is any
other text with the same tokens and with blanks and comments between them. -/
theorem firstReturnType?_plain {type : TypeSyntax} (plain : type.Plain) :
    firstReturnType? ("fn f() -> " ++ type.render ++ " \x7b\x7d") = some type ∧
      ∀ pieces : List Piece, pieces.map Piece.token = functionTokens type →
        (∀ piece ∈ pieces, Separation piece.gap) → pieces.IsChain Piece.Apart →
        firstReturnType? (String.ofList (spell pieces)) = some type := by
  refine ⟨?_, fun pieces => firstReturnType?_spell plain⟩
  let header : List Piece := [⟨⟨.word, "fn"⟩, [' ']⟩, ⟨⟨.word, "f"⟩, []⟩, ⟨⟨.mark, "("⟩, []⟩,
    ⟨⟨.mark, ")"⟩, [' ']⟩, ⟨⟨.mark, "->"⟩, [' ']⟩]
  let body : List Piece := [⟨⟨.mark, "\x7b"⟩, []⟩, ⟨⟨.mark, "\x7d"⟩, []⟩]
  let pieces := header ++ (TypeSyntax.closeWith [' '] type.pieces ++ body)
  have oneBlank : Separation [' '] := .blank (by decide +kernel) .nil
  have isText : "fn f() -> " ++ type.render ++ " \x7b\x7d" = String.ofList (spell pieces) := by
    have nonempty : type.pieces ≠ [] := by
      intro isNil
      have noTokens : ([] : List Token).map Token.lexeme = type.tokens := by
        rw [TypeSyntax.tokens, isNil]
        rfl
      obtain ⟨first, rest, isCons, -⟩ := begins_of_plain plain noTokens
      cases isCons
    rw [← String.toList_inj, String.toList_ofList, TypeSyntax.spell_append,
      TypeSyntax.spell_append, TypeSyntax.spell_closeWith _ nonempty,
      TypeSyntax.spell_pieces plain]
    simp [header, body, spell]
  have areTokens : pieces.map Piece.token = functionTokens type := by
    simp [pieces, header, body, TypeSyntax.map_token_closeWith, functionTokens, TypeSyntax.tokens]
  have separated : ∀ piece ∈ pieces, Separation piece.gap := by
    intro piece member
    rcases List.mem_append.mp member with inHeader | member
    · simp only [header, List.mem_cons, List.not_mem_nil, or_false] at inHeader
      rcases inHeader with rfl | rfl | rfl | rfl | rfl
      · exact oneBlank
      · exact .nil
      · exact .nil
      · exact oneBlank
      · exact oneBlank
    · rcases List.mem_append.mp member with inType | inBody
      · exact (TypeSyntax.isClean_closeWith oneBlank (TypeSyntax.isClean_pieces plain) piece
          inType).separated
      · rcases List.mem_pair.mp inBody with rfl | rfl <;> exact .nil
  have apart : pieces.IsChain Piece.Apart := by
    have ofBody : body.IsChain Piece.Apart :=
      TypeSyntax.apart_cons_mark (by decide) _ (List.isChain_singleton _)
    have ofType := TypeSyntax.apart_closeWith [' '] _
      (TypeSyntax.apart_pieces plain (TypeSyntax.beginsWithMark_cons (by decide) _ _) ofBody)
    refine TypeSyntax.apart_cons_gap _ (List.isChain_cons_cons.mpr ⟨?_, ?_⟩)
    · exact TypeSyntax.apart_of_mark (by decide) (.inr rfl)
    · exact TypeSyntax.apart_cons_mark (by decide) _ (TypeSyntax.apart_cons_mark (by decide) _
        (TypeSyntax.apart_cons_mark (by decide) _ ofType))
  rw [isText]
  exact firstReturnType?_spell plain areTokens separated apart

/-- `&mut Map<str, crate::geo::Point>` -/
def mapType : TypeSyntax :=
  .reference true (.path ["Map"] [.path ["str"] [], .path ["crate", "geo", "Point"] []])

/-- The same with comments and blanks between the tokens. -/
def mapText : String :=
  "fn f() -> & /* shared */ mut Map// keyed\n<str,crate ::geo:: Point > \x7b\x7d"

/-- The tokens of that text and what stands between them. -/
def mapPieces : List Piece :=
  [⟨⟨.word, "fn"⟩, [' ']⟩, ⟨⟨.word, "f"⟩, []⟩, ⟨⟨.mark, "("⟩, []⟩, ⟨⟨.mark, ")"⟩, [' ']⟩,
    ⟨⟨.mark, "->"⟩, [' ']⟩, ⟨⟨.mark, "&"⟩, " /* shared */ ".toList⟩, ⟨⟨.word, "mut"⟩, [' ']⟩,
    ⟨⟨.word, "Map"⟩, "// keyed\n".toList⟩, ⟨⟨.mark, "<"⟩, []⟩, ⟨⟨.word, "str"⟩, []⟩,
    ⟨⟨.mark, ","⟩, []⟩, ⟨⟨.word, "crate"⟩, [' ']⟩, ⟨⟨.mark, "::"⟩, []⟩, ⟨⟨.word, "geo"⟩, []⟩,
    ⟨⟨.mark, "::"⟩, [' ']⟩, ⟨⟨.word, "Point"⟩, [' ']⟩, ⟨⟨.mark, ">"⟩, [' ']⟩,
    ⟨⟨.mark, "\x7b"⟩, []⟩, ⟨⟨.mark, "\x7d"⟩, []⟩]

theorem mapType_plain : mapType.Plain := by
  have identifier : ∀ text ∈ ["Map", "geo", "Point"], IsIdentifier text := by
    have areWords : ∀ text ∈ ["Map", "geo", "Point"], isPlainWord text.toList = true := by
      decide +kernel
    have notKeywords : ∀ text ∈ ["Map", "geo", "Point"],
        text ∉ TypeSyntax.keywords ∧ text ∉ Name.primitiveTypes := by
      decide
    exact fun text member => ⟨isWord_of_isPlainWord (areWords text member),
      (notKeywords text member).1, (notKeywords text member).2⟩
  refine .reference (.path (.relative (identifier "Map" (by decide)) nofun) ?_)
  intro argument member
  rcases List.mem_pair.mp member with rfl | rfl
  · exact .primitive (by decide)
  · refine .path (.rooted (by decide) ?_) nofun
    intro segment isSegment
    rcases List.mem_pair.mp isSegment with rfl | rfl
    · exact identifier "geo" (by decide)
    · exact identifier "Point" (by decide)

theorem firstReturnType?_mapText :
    firstReturnType? ("fn f() -> " ++ mapType.render ++ " \x7b\x7d") = some mapType ∧
      firstReturnType? mapText = some mapType := by
  obtain ⟨ofDisplay, ofPieces⟩ := firstReturnType?_plain mapType_plain
  refine ⟨ofDisplay, ?_⟩
  have isText : mapText = String.ofList (spell mapPieces) := rfl
  have areTokens : mapPieces.map Piece.token = functionTokens mapType := by decide +kernel
  have separated : ∀ piece ∈ mapPieces, Separation piece.gap := by
    have areGaps : ∀ piece ∈ mapPieces,
        piece.gap ∈ [[], [' '], " /* shared */ ".toList, "// keyed\n".toList] := by
      decide +kernel
    have isBlank : Text.isBlank ' ' = true := by decide +kernel
    have closes : ClosesComment (" shared ".toList ++ ['*', '/']) :=
      closesComment_plain (List.all_iff_forall_prop.mp (by decide +kernel))
    intro piece member
    have isGap := areGaps piece member
    simp only [List.mem_cons, List.not_mem_nil, or_false] at isGap
    rcases isGap with isGap | isGap | isGap | isGap <;> rw [isGap]
    · exact .nil
    · exact .blank isBlank .nil
    · exact .blank isBlank (.block closes (.blank isBlank .nil))
    · exact @Separation.line " keyed".toList [] (by decide) .nil
  have apart : mapPieces.IsChain Piece.Apart := by decide +kernel
  rw [isText]
  exact ofPieces mapPieces areTokens separated apart

end ForwardingProxy.Source
