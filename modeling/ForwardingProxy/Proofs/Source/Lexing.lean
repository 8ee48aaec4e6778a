import ForwardingProxy.Source.Token
import Mathlib

/-!
Contract: the tokens of a text that is written token by token.

Owns: `Source.Separation`, the blanks and comments that may stand between tokens;
`Source.Lexeme.Spellable`, the words and marks whose texts are cut off as they are; and the theorem
that a text of spelled tokens with separations between them has exactly these tokens.

Lexemes are cut off from the left, so each law about one of them leaves the rest of the text open. A
word is cut off before anything that no word goes on with, a `::` before anything but a colon.
-/

namespace ForwardingProxy.Source

/-! ### Words -/

/-- A word, raw or not. -/
inductive IsWord : List Char → Prop where
  | plain {first : Char} {rest : List Char} (begins : beginsWord first = true)
      (continues : rest.all isWordCharacter = true) : IsWord (first :: rest)
  | raw {first : Char} {rest : List Char} (begins : beginsWord first = true)
      (continues : rest.all isWordCharacter = true) : IsWord ('r' :: '#' :: first :: rest)

/-- Whether the characters are a word that is not raw. -/
def isPlainWord : List Char → Bool
  | [] => false
  | first :: rest => beginsWord first && rest.all isWordCharacter

theorem isWord_of_isPlainWord {characters : List Char} (isPlain : isPlainWord characters = true) :
    IsWord characters := by
  cases characters with
  | nil => cases isPlain
  | cons first rest =>
      obtain ⟨begins, continues⟩ := Bool.and_eq_true_iff.mp isPlain
      exact .plain begins continues

/-- A text that goes on with nothing that belongs to a word or makes a literal of it. -/
def EndsWord (rest : List Char) : Prop :=
  ∀ next, rest.head? = some next →
    isWordCharacter next = false ∧ next ≠ '"' ∧ next ≠ '\'' ∧ next ≠ '#'

theorem isBlank_of_isWordCharacter {character : Char} (isWord : isWordCharacter character = true) :
    Text.isBlank character = false := by
  simp only [isWordCharacter, Char.isAlphanum, Char.isAlpha, Char.isUpper, Char.isLower,
    Char.isDigit, Bool.or_eq_true, Bool.and_eq_true, decide_eq_true_eq, beq_iff_eq,
    UInt32.le_iff_toNat_le, Bool.not_eq_true'] at isWord
  rcases isWord with (((isUpper | isLower) | isDigit) | rfl) | ⟨_, noBlank⟩
  · exact Text.isBlank_of_graphic ⟨Nat.lt_of_lt_of_le (by decide) isUpper.1,
      Nat.lt_of_le_of_lt isUpper.2 (by decide)⟩
  · exact Text.isBlank_of_graphic ⟨Nat.lt_of_lt_of_le (by decide) isLower.1,
      Nat.lt_of_le_of_lt isLower.2 (by decide)⟩
  · exact Text.isBlank_of_graphic ⟨Nat.lt_of_lt_of_le (by decide) isDigit.1,
      Nat.lt_of_le_of_lt isDigit.2 (by decide)⟩
  · rfl
  · exact noBlank

theorem isWordCharacter_of_beginsWord {character : Char} (begins : beginsWord character = true) :
    isWordCharacter character = true :=
  (Bool.and_eq_true_iff.mp begins).1

/-- A word begins with no mark that a comment, a string or a placeholder begins with. -/
theorem beginsWord_ne {character : Char} (begins : beginsWord character = true) :
    character ≠ '/' ∧ character ≠ '"' ∧ character ≠ '\'' ∧ character ≠ '#' := by
  refine ⟨?_, ?_, ?_, ?_⟩ <;>
    · rintro rfl
      exact absurd begins (by decide)

theorem isWordCharacter_ne {character : Char} (isWord : isWordCharacter character = true) :
    character ≠ '"' ∧ character ≠ '\'' ∧ character ≠ '#' := by
  refine ⟨?_, ?_, ?_⟩ <;>
    · rintro rfl
      exact absurd isWord (by decide)

theorem leadingLength_append {test : Char → Bool} {characters rest : List Char}
    (all : characters.all test = true)
    (ends : ∀ next, rest.head? = some next → test next = false) :
    leadingLength test (characters ++ rest) = characters.length := by
  unfold leadingLength
  rw [List.takeWhile_append_of_pos (List.all_eq_true.mp all)]
  cases rest with
  | nil => simp
  | cons next others => simp [ends next rfl]

theorem rawStringLength_eq_zero {characters : List Char}
    (noString : ∀ next, characters.head? = some next → next ≠ '"' ∧ next ≠ '#') :
    rawStringLength characters = 0 := by
  cases characters with
  | nil => rfl
  | cons next others =>
      obtain ⟨noQuote, noHash⟩ := noString next rfl
      simp [rawStringLength, noQuote, noHash]

/-- What follows the first character of a word with its end begins no string and no character. -/
theorem head?_behind_word {rest following : List Char} (continues : rest.all isWordCharacter = true)
    (ends : EndsWord following) {next : Char} (isNext : (rest ++ following).head? = some next) :
    next ≠ '"' ∧ next ≠ '\'' ∧ next ≠ '#' := by
  cases rest with
  | nil => exact (ends next isNext).2
  | cons first others =>
      obtain rfl : first = next := Option.some.inj isNext
      exact isWordCharacter_ne (List.all_eq_true.mp continues first (List.mem_cons_self ..))

theorem textLiteralLength_eq_zero {first : Char} {tail : List Char} (noQuote : first ≠ '"')
    (noApostrophe : first ≠ '\'')
    (behind : ∀ next, tail.head? = some next → next ≠ '"' ∧ next ≠ '\'' ∧ next ≠ '#')
    (furtherBehind : ∀ further, tail = 'r' :: further →
      ∀ next, further.head? = some next → next ≠ '"' ∧ next ≠ '\'' ∧ next ≠ '#') :
    textLiteralLength (first :: tail) = 0 := by
  have noString {characters : List Char}
      (noMark : ∀ next, characters.head? = some next → next ≠ '"' ∧ next ≠ '\'' ∧ next ≠ '#')
      (letters : Nat) : lengthBehind letters (rawStringLength characters) = 0 := by
    rw [rawStringLength_eq_zero fun next isNext => ⟨(noMark next isNext).1, (noMark next isNext).2.2⟩]
    rfl
  unfold textLiteralLength
  split
  case h_1 same => exact absurd (List.cons.inj same).1 noQuote
  case h_2 same => exact absurd (List.cons.inj same).1 noApostrophe
  case h_3 same => exact absurd rfl (behind '\'' (by rw [(List.cons.inj same).2]; rfl)).2.1
  case h_4 same => exact absurd rfl (behind '"' (by rw [(List.cons.inj same).2]; rfl)).1
  case h_5 same => exact absurd rfl (behind '"' (by rw [(List.cons.inj same).2]; rfl)).1
  case h_6 further same => exact noString (furtherBehind further (List.cons.inj same).2) 2
  case h_7 further same => exact noString (furtherBehind further (List.cons.inj same).2) 2
  case h_8 same =>
    rw [← (List.cons.inj same).2]
    exact noString behind 1
  case h_9 => rfl

theorem firstLexeme_plain {first : Char} {rest following : List Char}
    (begins : beginsWord first = true) (continues : rest.all isWordCharacter = true)
    (ends : EndsWord following) :
    firstLexeme (first :: (rest ++ following)) = (.word, rest.length + 1) := by
  obtain ⟨noSlash, noQuote, noApostrophe, _⟩ := beginsWord_ne begins
  have noLiteral : textLiteralLength (first :: (rest ++ following)) = 0 := by
    refine textLiteralLength_eq_zero noQuote noApostrophe
      (fun next => head?_behind_word continues ends) ?_
    intro further isFurther next isNext
    cases rest with
    | nil =>
        rw [List.nil_append] at isFurther
        subst isFurther
        exact absurd (ends 'r' rfl).1 (by decide)
    | cons second others =>
        obtain ⟨rfl, rfl⟩ := List.cons.inj isFurther
        rw [List.all_cons, Bool.and_eq_true_iff] at continues
        exact head?_behind_word continues.2 ends isNext
  have length : wordLength (first :: (rest ++ following)) = rest.length + 1 := by
    unfold wordLength
    split
    case h_1 isRaw =>
      obtain ⟨-, isMark⟩ := List.cons.inj isRaw
      exact absurd rfl (head?_behind_word continues ends (by rw [isMark]; rfl)).2.2
    case h_2 =>
      have all : (first :: rest).all isWordCharacter = true := by
        rw [List.all_cons, isWordCharacter_of_beginsWord begins, continues]
        rfl
      exact leadingLength_append all fun next isNext => (ends next isNext).1
  have noDigit : first.isDigit = false := by
    simpa using (Bool.and_eq_true_iff.mp begins).2
  unfold firstLexeme
  split
  case h_1 same => exact absurd same (List.cons_ne_nil _ _)
  case h_2 same => exact absurd (List.cons.inj same).1 noSlash
  case h_3 same => exact absurd (List.cons.inj same).1 noSlash
  case h_4 same =>
    obtain ⟨rfl, rfl⟩ := List.cons.inj same
    rw [isBlank_of_isWordCharacter (isWordCharacter_of_beginsWord begins)]
    simp [firstVisible, noLiteral, noDigit, begins, length]

/-- A word is cut off before what ends it. -/
theorem firstLexeme_word {word following : List Char} (isWord : IsWord word)
    (ends : EndsWord following) : firstLexeme (word ++ following) = (.word, word.length) := by
  cases isWord with
  | plain begins continues => exact firstLexeme_plain begins continues ends
  | @raw first rest begins continues =>
      obtain ⟨_, noQuote, _, noHash⟩ := beginsWord_ne begins
      have noLiteral : textLiteralLength ('r' :: '#' :: first :: (rest ++ following)) = 0 := by
        simp [textLiteralLength, rawStringLength, noQuote, noHash, lengthBehind]
      have length : wordLength ('r' :: '#' :: first :: (rest ++ following)) = rest.length + 3 := by
        rw [wordLength, if_pos begins,
          leadingLength_append continues fun next isNext => (ends next isNext).1, Nat.add_comm]
      have beginsRaw : beginsWord 'r' = true := rfl
      have noBlank : Text.isBlank 'r' = false := rfl
      simp [firstLexeme, firstVisible, noBlank, noLiteral, length, beginsRaw]

/-! ### Marks -/

/-- The marks that are cut off whatever follows them. -/
def plainMarks : List String :=
  ["(", ")", "<", ">", ",", "&", "->", "\x7b", "\x7d"]

theorem firstLexeme_mark {mark : String} (isMark : mark ∈ plainMarks) (following : List Char) :
    firstLexeme (mark.toList ++ following) = (.mark, mark.toList.length) := by
  have noWord : ∀ first ∈ ['(', ')', '<', '>', ',', '&', '-', '\x7b', '\x7d'],
      Text.isBlank first = false ∧ beginsWord first = false ∧ first.isDigit = false := by
    refine List.forall_iff_forall_mem.mp ?_
    and_intros <;> rfl
  simp only [plainMarks, List.mem_cons, List.not_mem_nil, or_false] at isMark
  rcases isMark with rfl | rfl | rfl | rfl | rfl | rfl | rfl | rfl | rfl <;>
    simp [firstLexeme, firstVisible, noWord, textLiteralLength, markLength]

theorem firstLexeme_colons {following : List Char} (noColon : following.head? ≠ some ':') :
    firstLexeme ("::".toList ++ following) = (.mark, "::".toList.length) := by
  have noWord : Text.isBlank ':' = false ∧ beginsWord ':' = false ∧ ':'.isDigit = false :=
    ⟨rfl, rfl, rfl⟩
  have length : markLength (':' :: ':' :: following) = 2 := by
    unfold markLength
    split
    case h_1 isColon =>
      obtain ⟨-, isColon⟩ := List.cons.inj isColon
      obtain ⟨-, isColon⟩ := List.cons.inj isColon
      rw [isColon] at noColon
      exact absurd rfl noColon
    case h_2 => rfl
    all_goals simp_all
  have isText : "::".toList = [':', ':'] := rfl
  rw [isText]
  simp [firstLexeme, firstVisible, noWord, textLiteralLength, length]

/-! ### The lexemes that tokens are made of -/

/-- The lexemes of a text that separate no others. -/
def visible (characters : List Char) : List Lexeme :=
  (lexemesOf characters).filter fun lexeme => !lexeme.separates

theorem lexemesOf_append {characters rest : List Char} {kind : Lexeme.Kind}
    (nonempty : characters ≠ [])
    (isFirst : firstLexeme (characters ++ rest) = (kind, characters.length)) :
    lexemesOf (characters ++ rest) = ⟨kind, String.ofList characters⟩ :: lexemesOf rest := by
  cases characters with
  | nil => exact absurd rfl nonempty
  | cons first others =>
      rw [List.cons_append] at isFirst ⊢
      rw [lexemesOf, isFirst]
      simp

theorem visible_append {characters rest : List Char} {kind : Lexeme.Kind}
    (nonempty : characters ≠ [])
    (isFirst : firstLexeme (characters ++ rest) = (kind, characters.length)) :
    visible (characters ++ rest) =
      if kind = .blanks ∨ kind = .comment then visible rest
      else ⟨kind, String.ofList characters⟩ :: visible rest := by
  unfold visible
  rw [lexemesOf_append nonempty isFirst]
  cases kind <;> rfl

theorem isBlank_ne_slash {character : Char} (isBlank : Text.isBlank character = true) :
    character ≠ '/' := by
  rintro rfl
  exact absurd isBlank (by decide)

/-- All blanks that come first are one lexeme. -/
theorem lexemesOf_blanks {blanks others : List Char} (nonempty : blanks ≠ [])
    (areBlank : blanks.all Text.isBlank = true)
    (noBlank : ∀ next, others.head? = some next → Text.isBlank next = false) :
    lexemesOf (blanks ++ others) = ⟨.blanks, String.ofList blanks⟩ :: lexemesOf others := by
  refine lexemesOf_append nonempty ?_
  obtain ⟨first, further, rfl⟩ := List.exists_cons_of_ne_nil nonempty
  have firstBlank : Text.isBlank first = true :=
    List.all_eq_true.mp areBlank first (List.mem_cons_self ..)
  have length := leadingLength_append areBlank noBlank
  simp [firstLexeme, isBlank_ne_slash firstBlank, firstBlank] at length ⊢
  exact length

/-- A blank more or less makes no difference. -/
theorem visible_blank {blank : Char} (isBlank : Text.isBlank blank = true) (rest : List Char) :
    visible (blank :: rest) = visible rest := by
  -- the blanks at the start of the rest belong to the same lexeme
  have cut : ∀ others : List Char, (∀ next, others.head? = some next → Text.isBlank next = false) →
      ∀ blanks : List Char, blanks.all Text.isBlank = true →
        visible (blanks ++ others) = visible others := by
    intro others noBlank blanks areBlank
    by_cases nonempty : blanks = []
    · rw [nonempty, List.nil_append]
    · unfold visible
      rw [lexemesOf_blanks nonempty areBlank noBlank]
      rfl
  let blanks := rest.takeWhile Text.isBlank
  let others := rest.dropWhile Text.isBlank
  have isRest : rest = blanks ++ others := List.takeWhile_append_dropWhile.symm
  have areBlank : blanks.all Text.isBlank = true := List.all_takeWhile
  have noBlank : ∀ next, others.head? = some next → Text.isBlank next = false := by
    intro next isNext
    have stopped := List.head?_dropWhile_not Text.isBlank rest
    rw [isNext] at stopped
    simpa using stopped
  rw [isRest, cut others noBlank blanks areBlank]
  exact cut others noBlank (blank :: blanks) (by rw [List.all_cons, isBlank, areBlank]; rfl)

/-! ### Separations -/

/-- What stands behind the opening of a block comment, its closing included. -/
def ClosesComment (body : List Char) : Prop :=
  ∀ following, blockCommentLength (body ++ following) = body.length

/-- Any blanks and comments. -/
inductive Separation : List Char → Prop where
  | nil : Separation []
  | blank {character : Char} {rest : List Char} (isBlank : Text.isBlank character = true)
      (further : Separation rest) : Separation (character :: rest)
  | line {body rest : List Char} (oneLine : '\n' ∉ body) (further : Separation rest) :
      Separation ('/' :: '/' :: (body ++ '\n' :: rest))
  | block {body rest : List Char} (closes : ClosesComment body) (further : Separation rest) :
      Separation ('/' :: '*' :: (body ++ rest))

theorem Separation.append {first second : List Char} (ofFirst : Separation first)
    (ofSecond : Separation second) : Separation (first ++ second) := by
  induction ofFirst with
  | nil => exact ofSecond
  | blank isBlank further inductionHypothesis => exact .blank isBlank inductionHypothesis
  | line oneLine further inductionHypothesis =>
      rw [List.cons_append, List.cons_append, List.append_assoc, List.cons_append]
      exact .line oneLine inductionHypothesis
  | block closes further inductionHypothesis =>
      rw [List.cons_append, List.cons_append, List.append_assoc]
      exact .block closes inductionHypothesis

/-- A comment without stars, slashes and exclamation marks inside. -/
theorem closesComment_plain {text : List Char}
    (noMark : ∀ character ∈ text, lowCharacter character ∉ ['*', '/', '!']) :
    ClosesComment (text ++ ['*', '/']) := by
  intro following
  have opened : ∀ rest : List Char, (∀ character ∈ rest, lowCharacter character ∉ ['*', '/', '!']) →
      openCommentLength 1 .none (rest ++ '*' :: '/' :: following) = rest.length + 2 := by
    intro rest noMark
    induction rest with
    | nil =>
        have isStar : BlockCommentMark.ofCharacter '*' = .star := by decide
        have isSlash : lowCharacter '/' = '/' := by decide
        simp [openCommentLength, isStar, isSlash]
    | cons first others inductionHypothesis =>
        have noFirst := noMark first (List.mem_cons_self ..)
        have unmarked : BlockCommentMark.ofCharacter first = .none := by
          simp_all [BlockCommentMark.ofCharacter]
        rw [List.cons_append, openCommentLength, unmarked,
          inductionHypothesis fun character member => noMark _ (List.mem_cons_of_mem _ member),
          List.length_cons]
        omega
  have undocumented : blockMark? (text ++ '*' :: '/' :: following) = none := by
    cases text with
    | nil =>
        have isStar : lowCharacter '*' = '*' := by decide
        simp [blockMark?, isStar]
    | cons first others =>
        have noFirst := noMark first (List.mem_cons_self ..)
        cases others <;> simp_all [blockMark?]
  simp [blockCommentLength, undocumented, opened text noMark]

/-- A line comment is one lexeme; the line end behind it belongs to the comment or is a blank. -/
theorem lexemesOf_line {body : List Char} (oneLine : '\n' ∉ body) (rest : List Char) :
    ∃ text, lexemesOf ('/' :: '/' :: (body ++ '\n' :: rest)) =
        ⟨.comment, text⟩ :: lexemesOf ('\n' :: rest) ∨
      lexemesOf ('/' :: '/' :: (body ++ '\n' :: rest)) = ⟨.comment, text⟩ :: lexemesOf rest := by
  let comment := '/' :: '/' :: body
  have oneLineComment : comment.all (· != '\n') = true := by
    simpa [comment] using fun character member => by
      rintro rfl
      exact oneLine member
  have visibleLength :
      ((comment ++ '\n' :: rest).takeWhile (· != '\n')).length = comment.length := by
    rw [List.takeWhile_append_of_pos (List.all_eq_true.mp oneLineComment)]
    simp
  by_cases documents : (documentationMark? (comment ++ '\n' :: rest)).isSome = true
  · have isFirst : firstLexeme ((comment ++ ['\n']) ++ rest) =
        (.comment, (comment ++ ['\n']).length) := by
      have length : lineCommentLength (comment ++ '\n' :: rest) = comment.length + 1 := by
        simp only [lineCommentLength, documents, visibleLength]
        simp
      rw [List.append_assoc, List.singleton_append, List.length_append]
      exact congrArg (Prod.mk Lexeme.Kind.comment) length
    have cut := lexemesOf_append (by simp) isFirst
    rw [List.append_assoc, List.singleton_append] at cut
    exact ⟨_, .inr cut⟩
  · have isFirst : firstLexeme (comment ++ '\n' :: rest) = (.comment, comment.length) := by
      have length : lineCommentLength (comment ++ '\n' :: rest) = comment.length := by
        simp only [lineCommentLength, documents, visibleLength]
        simp
      exact congrArg (Prod.mk Lexeme.Kind.comment) length
    exact ⟨_, .inl (lexemesOf_append (List.cons_ne_nil _ _) isFirst)⟩

theorem lexemesOf_block {body : List Char} (closes : ClosesComment body) (rest : List Char) :
    lexemesOf ('/' :: '*' :: (body ++ rest)) =
      ⟨.comment, String.ofList ('/' :: '*' :: body)⟩ :: lexemesOf rest := by
  let comment := '/' :: '*' :: body
  have isFirst : firstLexeme (comment ++ rest) = (.comment, comment.length) := by
    have length : 2 + blockCommentLength (body ++ rest) = comment.length := by
      rw [closes rest]
      exact Nat.add_comm 2 _
    exact congrArg (Prod.mk Lexeme.Kind.comment) length
  exact lexemesOf_append (List.cons_ne_nil _ _) isFirst

theorem visible_line {body : List Char} (oneLine : '\n' ∉ body) (rest : List Char) :
    visible ('/' :: '/' :: (body ++ '\n' :: rest)) = visible rest := by
  have isBlank : Text.isBlank '\n' = true := rfl
  obtain ⟨text, cut | cut⟩ := lexemesOf_line oneLine rest
  · rw [← visible_blank isBlank rest]
    unfold visible
    rw [cut]
    rfl
  · unfold visible
    rw [cut]
    rfl

theorem visible_block {body : List Char} (closes : ClosesComment body) (rest : List Char) :
    visible ('/' :: '*' :: (body ++ rest)) = visible rest := by
  unfold visible
  rw [lexemesOf_block closes]
  rfl

theorem visible_separation {gap : List Char} (separation : Separation gap) (rest : List Char) :
    visible (gap ++ rest) = visible rest := by
  induction separation with
  | nil => rfl
  | blank isBlank further inductionHypothesis =>
      rw [List.cons_append, visible_blank isBlank, inductionHypothesis]
  | line oneLine further inductionHypothesis =>
      rw [List.cons_append, List.cons_append, List.append_assoc, List.cons_append,
        visible_line oneLine, inductionHypothesis]
  | block closes further inductionHypothesis =>
      rw [List.cons_append, List.cons_append, List.append_assoc, visible_block closes,
        inductionHypothesis]

/-! ### Texts written token by token -/

/-- A word, or a mark of those above. -/
inductive Lexeme.Spellable : Lexeme → Prop where
  | word {text : String} (isWord : IsWord text.toList) : Spellable ⟨.word, text⟩
  | mark {text : String} (isMark : text ∈ plainMarks) : Spellable ⟨.mark, text⟩
  | colons : Spellable ⟨.mark, "::"⟩

/-- Whether the two would not be cut off one by one if nothing stood between them. -/
def Lexeme.Merges (first second : Lexeme) : Prop :=
  (first.kind = .word ∧ second.kind = .word) ∨ (first = ⟨.mark, "::"⟩ ∧ second = ⟨.mark, "::"⟩)

instance (first second : Lexeme) : Decidable (first.Merges second) :=
  inferInstanceAs (Decidable (_ ∨ _))

/-- A token and what stands behind it. -/
structure Piece where
  token : Lexeme
  gap : List Char

/-- The first token does not run into the second one. -/
def Piece.Apart (first second : Piece) : Prop :=
  first.token.Merges second.token → first.gap ≠ []

instance : DecidableRel Piece.Apart := fun _ _ => inferInstanceAs (Decidable (_ → _))

/-- The text of pieces. -/
def spell : List Piece → List Char
  | [] => []
  | piece :: rest => piece.token.text.toList ++ (piece.gap ++ spell rest)

/-- The token can be cut off, and nothing but blanks and comments stands behind it. -/
structure Piece.IsClean (piece : Piece) : Prop where
  spellable : piece.token.Spellable
  separated : Separation piece.gap

/-- The tokens can be cut off one by one. -/
structure Spelled (pieces : List Piece) : Prop where
  clean : ∀ piece ∈ pieces, piece.IsClean
  apart : pieces.IsChain Piece.Apart

theorem Spelled.head {piece : Piece} {rest : List Piece} (spelled : Spelled (piece :: rest)) :
    piece.IsClean :=
  spelled.clean piece (List.mem_cons_self ..)

theorem Spelled.tail {piece : Piece} {rest : List Piece} (spelled : Spelled (piece :: rest)) :
    Spelled rest where
  clean := fun other member => spelled.clean other (List.mem_cons_of_mem _ member)
  apart := spelled.apart.tail

theorem head?_separation {gap : List Char} (separation : Separation gap) {start : Char}
    (isStart : gap.head? = some start) : start = '/' ∨ Text.isBlank start = true := by
  cases separation with
  | nil => cases isStart
  | blank isBlank further => exact .inr (Option.some.inj isStart ▸ isBlank)
  | line oneLine further => exact .inl (Option.some.inj isStart).symm
  | block closes further => exact .inl (Option.some.inj isStart).symm

/-- A separation ends a word and is no colon. -/
theorem ends_of_separation {gap : List Char} (separation : Separation gap) (nonempty : gap ≠ [])
    (rest : List Char) : EndsWord (gap ++ rest) ∧ (gap ++ rest).head? ≠ some ':' := by
  have noBlank : ∀ mark ∈ ['"', '\'', '#', ':'], Text.isBlank mark = false := by
    refine List.forall_iff_forall_mem.mp ?_
    and_intros <;> rfl
  have ends : ∀ start : Char, start = '/' ∨ Text.isBlank start = true →
      isWordCharacter start = false ∧ start ∉ ['"', '\'', '#', ':'] := by
    rintro start (rfl | isBlank)
    · exact ⟨rfl, by decide⟩
    · constructor
      · by_contra isWord
        rw [isBlank_of_isWordCharacter (by simpa using isWord)] at isBlank
        cases isBlank
      · intro isMark
        rw [noBlank start isMark] at isBlank
        cases isBlank
  obtain ⟨start, others, rfl⟩ := List.exists_cons_of_ne_nil nonempty
  obtain ⟨noWord, noMark⟩ := ends start (head?_separation separation rfl)
  simp only [List.mem_cons, List.not_mem_nil, or_false, not_or] at noMark
  refine ⟨fun other isOther => ?_, fun isColon => noMark.2.2.2 (Option.some.inj isColon)⟩
  obtain rfl : start = other := Option.some.inj isOther
  exact ⟨noWord, noMark.1, noMark.2.1, noMark.2.2.1⟩

theorem ends_of_mark {mark : String} (isMark : mark ∈ plainMarks) (rest : List Char) :
    EndsWord (mark.toList ++ rest) ∧ (mark.toList ++ rest).head? ≠ some ':' := by
  simp only [plainMarks, List.mem_cons, List.not_mem_nil, or_false] at isMark
  unfold EndsWord
  rcases isMark with rfl | rfl | rfl | rfl | rfl | rfl | rfl | rfl | rfl <;>
    simp [isWordCharacter]

/-- The text behind a token ends it. -/
theorem Spelled.ends {piece : Piece} {rest : List Piece} (spelled : Spelled (piece :: rest)) :
    (piece.token.kind = .word → EndsWord (piece.gap ++ spell rest)) ∧
      (piece.token = ⟨.mark, "::"⟩ → (piece.gap ++ spell rest).head? ≠ some ':') := by
  by_cases nonempty : piece.gap = []
  · rw [nonempty, List.nil_append]
    cases rest with
    | nil => exact ⟨fun _ _ isSome => absurd isSome (by simp [spell]), fun _ => by simp [spell]⟩
    | cons following others =>
        have apart : ¬ piece.token.Merges following.token := fun merges =>
          (List.isChain_cons_cons.mp spelled.apart).1 merges nonempty
        have spellable := spelled.tail.head.spellable
        rw [spell]
        obtain ⟨token, gap⟩ := following
        cases spellable with
        | @word text isWord =>
            refine ⟨fun isWord => absurd (.inl ⟨isWord, rfl⟩) apart, fun _ isColon => ?_⟩
            have noColon : beginsWord ':' = false := rfl
            obtain ⟨characters, isText⟩ : ∃ characters, characters = text.toList := ⟨_, rfl⟩
            rw [← isText] at isWord isColon
            cases isWord with
            | plain begins continues =>
                rw [Option.some.inj isColon, noColon] at begins
                cases begins
            | raw begins continues => exact absurd (Option.some.inj isColon) (by decide)
        | mark isMark => exact ⟨fun _ => (ends_of_mark isMark _).1, fun _ => (ends_of_mark isMark _).2⟩
        | colons =>
            refine ⟨fun _ start isStart => ?_, fun isColons => absurd (.inr ⟨isColons, rfl⟩) apart⟩
            have isColon : ("::".toList ++ (gap ++ spell others)).head? = some ':' := rfl
            obtain rfl := Option.some.inj (isColon.symm.trans isStart)
            exact ⟨rfl, by decide, by decide, by decide⟩
  · have ends := ends_of_separation spelled.head.separated nonempty (spell rest)
    exact ⟨fun _ => ends.1, fun _ => ends.2⟩

/-- The first token is cut off. -/
theorem Spelled.firstLexeme {piece : Piece} {rest : List Piece} (spelled : Spelled (piece :: rest)) :
    piece.token.text.toList ≠ [] ∧ piece.token.kind ≠ .blanks ∧ piece.token.kind ≠ .comment ∧
      Source.firstLexeme (spell (piece :: rest)) =
        (piece.token.kind, piece.token.text.toList.length) := by
  obtain ⟨endsWord, endsColons⟩ := spelled.ends
  have spellable := spelled.head.spellable
  obtain ⟨token, gap⟩ := piece
  rw [spell]
  cases spellable with
  | @word text isWord =>
      refine ⟨fun isNil => ?_, nofun, nofun, firstLexeme_word isWord (endsWord rfl)⟩
      rw [show text.toList = [] from isNil] at isWord
      cases isWord
  | @mark text isMark =>
      refine ⟨fun isNil => ?_, nofun, nofun, firstLexeme_mark isMark _⟩
      obtain rfl := String.toList_eq_nil_iff.mp isNil
      exact absurd isMark (by decide)
  | colons =>
      have nonempty : "::".toList ≠ [] := by decide
      exact ⟨nonempty, nofun, nofun, firstLexeme_colons (endsColons rfl)⟩

/-- The lexemes of such a text that are no blanks and comments are its tokens. -/
theorem visible_spell {pieces : List Piece} (spelled : Spelled pieces) :
    visible (spell pieces) = pieces.map Piece.token := by
  induction pieces with
  | nil => simp [spell, visible, lexemesOf]
  | cons piece rest inductionHypothesis =>
      obtain ⟨nonempty, noBlanks, noComment, isFirst⟩ := spelled.firstLexeme
      rw [spell] at isFirst
      rw [spell, visible_append nonempty isFirst, if_neg (by simp [noBlanks, noComment]),
        visible_separation spelled.head.separated,
        inductionHypothesis spelled.tail, String.ofList_toList, List.map_cons]

/-! ### Tokens -/

/-- What a token is, wherever it stands. -/
def Token.lexeme (token : Token) : Lexeme :=
  ⟨token.kind, token.text⟩

theorem tokensOf_lexemes (line : Nat) (before lexemes : List Lexeme) :
    (tokensOf line before lexemes).map Token.lexeme =
      lexemes.filter fun lexeme => !lexeme.separates := by
  induction lexemes generalizing line before with
  | nil => rfl
  | cons lexeme rest inductionHypothesis =>
      rw [tokensOf]
      by_cases separates : lexeme.separates = true
      · simp only [separates, if_true]
        rw [inductionHypothesis, List.filter_cons_of_neg (by simp [separates])]
      · simp only [separates, Bool.false_eq_true, if_false]
        rw [List.map_cons, inductionHypothesis, List.filter_cons_of_pos (by simpa using separates)]
        rfl

theorem joinLifetimes_eq_self {lexemes : List Lexeme} (noApostrophe : ⟨.mark, "'"⟩ ∉ lexemes) :
    joinLifetimes lexemes = lexemes := by
  induction lexemes with
  | nil => rfl
  | cons first rest inductionHypothesis =>
      rw [List.mem_cons, not_or] at noApostrophe
      rw [joinLifetimes, if_neg (Ne.symm noApostrophe.1), inductionHypothesis noApostrophe.2]

/-- Nothing is dropped before a token. -/
theorem dropPreamble_token {first : Char} {rest : List Char} {kind : Lexeme.Kind} {length : Nat}
    (noLoader : first ≠ '#') (noMark : first ≠ '\ufeff')
    (isFirst : firstLexeme (first :: rest) = (kind, length)) (noBlanks : kind ≠ .blanks)
    (noComment : kind ≠ .comment) : dropPreamble (first :: rest) = ([], first :: rest) := by
  have noLine : loaderLineLength (first :: rest) = 0 := by
    unfold loaderLineLength
    split <;> simp_all
  have nothing : preambleLength (first :: rest) = 0 := by
    rw [preambleLength, noLine, isFirst]
    simp [noBlanks, noComment]
  simp [dropPreamble, noMark, nothing, List.splitAt_eq]

theorem Lexeme.Spellable.ne_apostrophe {token : Lexeme} (spellable : token.Spellable) :
    token ≠ ⟨.mark, "'"⟩ := by
  cases spellable with
  | word isWord => exact fun same => nomatch congrArg Lexeme.kind same
  | mark isMark =>
      intro same
      obtain rfl := congrArg Lexeme.text same
      exact absurd isMark (by decide)
  | colons => decide

/-- A text that is spelled token by token has these tokens, unless it begins with a mark that is
dropped. -/
theorem tokens_spell {piece : Piece} {rest : List Piece} (spelled : Spelled (piece :: rest))
    {first : Char} (isStart : piece.token.text.toList.head? = some first) (noLoader : first ≠ '#')
    (noMark : first ≠ '\ufeff') :
    (tokens (String.ofList (spell (piece :: rest)))).map Token.lexeme =
      (piece :: rest).map Piece.token := by
  obtain ⟨_, noBlanks, noComment, isFirst⟩ := spelled.firstLexeme
  have noPreamble : dropPreamble (spell (piece :: rest)) = ([], spell (piece :: rest)) := by
    rw [spell] at isFirst ⊢
    obtain ⟨others, isText⟩ := List.head?_eq_some_iff.mp isStart
    rw [isText, List.cons_append] at isFirst ⊢
    exact dropPreamble_token noLoader noMark isFirst noBlanks noComment
  have noApostrophe : ⟨.mark, "'"⟩ ∉ lexemesOf (spell (piece :: rest)) := by
    intro member
    have isVisible : ⟨.mark, "'"⟩ ∈ visible (spell (piece :: rest)) :=
      List.mem_filter.mpr ⟨member, rfl⟩
    rw [visible_spell spelled] at isVisible
    obtain ⟨other, isPiece, isApostrophe⟩ := List.mem_map.mp isVisible
    exact (spelled.clean other isPiece).spellable.ne_apostrophe isApostrophe
  unfold tokens
  rw [String.toList_ofList, noPreamble]
  simp only
  rw [tokensOf_lexemes, joinLifetimes_eq_self noApostrophe]
  exact visible_spell spelled

end ForwardingProxy.Source
