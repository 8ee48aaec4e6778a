import ForwardingProxy.Proofs.Source.Cut.Pieces
import ForwardingProxy.Proofs.Source.Versions.Statements

/-!
Contract: the tokens of a text that is cut in several places.

Owns: the tokens of pieces that follow others, with their lines; and the fact that the marks among
the tokens of a text are those that the reading of statements relies on.

A lifetime is made of an apostrophe and the word behind it, so pieces are joined on each side of any
other mark on their own.
-/

namespace ForwardingProxy.Source

/-- The line feeds in a text. -/
def lineFeeds (characters : List Char) : Nat :=
  characters.countP (· == '\n')

/-- The blanks and comments at the end of pieces that stand behind others. -/
def gapBehind : (before : List Lexeme) → List Lexeme → List Lexeme
  | before, [] => before
  | before, lexeme :: rest => gapBehind (if lexeme.separates then before ++ [lexeme] else []) rest

/-! ### Pieces behind others -/

section Tokens

variable (line : Nat) (before : List Lexeme)

theorem tokensOf_cons (lexeme : Lexeme) (rest : List Lexeme) :
    tokensOf line before (lexeme :: rest) =
      if lexeme.separates then
        tokensOf (line + lineFeeds lexeme.text.toList) (before ++ [lexeme]) rest
      else ⟨lexeme.kind, lexeme.text, line, before⟩ ::
        tokensOf (line + lineFeeds lexeme.text.toList) [] rest := by
  rw [tokensOf]
  rfl

theorem lineFeeds_cons (lexeme : Lexeme) (rest : List Lexeme) :
    line + lineFeeds (charactersOf (lexeme :: rest)) =
      line + lineFeeds lexeme.text.toList + lineFeeds (charactersOf rest) := by
  rw [charactersOf_cons, lineFeeds, List.countP_append, ← Nat.add_assoc]
  rfl

theorem tokensOf_append (first second : List Lexeme) :
    tokensOf line before (first ++ second) = tokensOf line before first ++
      tokensOf (line + lineFeeds (charactersOf first)) (gapBehind before first) second := by
  induction first generalizing line before with
  | nil => rfl
  | cons lexeme rest inductionHypothesis =>
      rw [List.cons_append, tokensOf_cons, tokensOf_cons, gapBehind, lineFeeds_cons]
      by_cases separates : lexeme.separates = true
      · simp only [separates, if_true, inductionHypothesis]
      · simp only [separates, Bool.false_eq_true, if_false, inductionHypothesis, List.cons_append]

/-- The token so many lines further down. -/
def Token.further (lines : Nat) (token : Token) : Token :=
  { token with line := token.line + lines }

theorem tokensOf_further (lines : Nat) (lexemes : List Lexeme) :
    tokensOf (line + lines) before lexemes =
      (tokensOf line before lexemes).map (Token.further lines) := by
  induction lexemes generalizing line before with
  | nil => rfl
  | cons lexeme rest inductionHypothesis =>
      rw [tokensOf_cons, tokensOf_cons, Nat.add_right_comm]
      split
      · exact inductionHypothesis _ _
      · rw [inductionHypothesis]
        rfl

theorem line_le_of_mem {lexemes : List Lexeme} {token : Token}
    (isIn : token ∈ tokensOf line before lexemes) :
    token.line ≤ line + lineFeeds (charactersOf lexemes) := by
  induction lexemes generalizing line before with
  | nil => cases isIn
  | cons lexeme rest inductionHypothesis =>
      rw [tokensOf_cons] at isIn
      rw [lineFeeds_cons]
      split at isIn
      · exact inductionHypothesis _ _ isIn
      · rcases List.mem_cons.mp isIn with rfl | isIn
        · exact Nat.le_trans (Nat.le_add_right _ _) (Nat.le_add_right _ _)
        · exact inductionHypothesis _ _ isIn

end Tokens

/-! ### Lifetimes -/

theorem joinLifetimes_plain {first : Lexeme} (noApostrophe : first ≠ ⟨.mark, "'"⟩)
    (rest : List Lexeme) : joinLifetimes (first :: rest) = first :: joinLifetimes rest := by
  rw [joinLifetimes, if_neg noApostrophe]

/-- An apostrophe stays apart unless a word is the first thing behind it. -/
theorem joinLifetimes_apart (rest : List Lexeme)
    (noName : ∀ name ∈ ((joinLifetimes rest).dropWhile Lexeme.separates).head?, name.kind ≠ .word) :
    joinLifetimes (⟨.mark, "'"⟩ :: rest) = ⟨.mark, "'"⟩ :: joinLifetimes rest := by
  rw [joinLifetimes, if_pos rfl]
  simp only [List.span_eq_takeWhile_dropWhile]
  cases isName : (joinLifetimes rest).dropWhile Lexeme.separates with
  | nil => rfl
  | cons name after =>
      rw [isName] at noName
      dsimp only
      rw [if_neg (noName name rfl)]

theorem joinLifetimes_name {rest between after : List Lexeme} {name : Lexeme}
    (isRest : joinLifetimes rest = between ++ name :: after)
    (areBetween : ∀ lexeme ∈ between, lexeme.separates = true) (isName : name.kind = .word) :
    joinLifetimes (⟨.mark, "'"⟩ :: rest) =
      ⟨.lifetime, "'" ++ String.join (between.map Lexeme.text) ++ name.text⟩ :: after := by
  have staysApart : name.separates = false := by rw [Lexeme.separates, isName]; rfl
  rw [joinLifetimes, if_pos rfl]
  simp only [List.span_eq_takeWhile_dropWhile, isRest]
  rw [List.takeWhile_append_of_pos areBetween, List.dropWhile_append_of_pos areBetween,
    List.takeWhile_cons_of_neg (by simp [staysApart]),
    List.dropWhile_cons_of_neg (by simp [staysApart]), List.append_nil]
  dsimp only
  rw [if_pos isName]

/-- The first piece behind an apostrophe that is no separation is a word, or it is not. -/
theorem name_cases (pieces : List Lexeme) :
    (∀ name ∈ (pieces.dropWhile Lexeme.separates).head?, name.kind ≠ .word) ∨
      ∃ between name after, pieces = between ++ name :: after ∧
        (∀ lexeme ∈ between, lexeme.separates = true) ∧ name.kind = .word := by
  by_cases isName : ∀ name ∈ (pieces.dropWhile Lexeme.separates).head?, name.kind ≠ .word
  · exact .inl isName
  · push Not at isName
    obtain ⟨name, isFirst, isWord⟩ := isName
    obtain ⟨after, isBehind⟩ := List.head?_eq_some_iff.mp isFirst
    refine .inr ⟨pieces.takeWhile Lexeme.separates, name, after, ?_,
      fun lexeme isIn => List.mem_takeWhile_imp isIn, isWord⟩
    rw [← isBehind, List.takeWhile_append_dropWhile]

/-- Pieces are joined one by one, or an apostrophe with all up to the word behind it. -/
theorem joinLifetimes_cases (first : Lexeme) (rest : List Lexeme) :
    joinLifetimes (first :: rest) = first :: joinLifetimes rest ∨
      ∃ between name after, first = ⟨.mark, "'"⟩ ∧ joinLifetimes rest = between ++ name :: after ∧
        (∀ lexeme ∈ between, lexeme.separates = true) ∧ name.kind = .word := by
  by_cases isApostrophe : first = ⟨.mark, "'"⟩
  · rcases name_cases (joinLifetimes rest) with noName | ⟨between, name, after, isName⟩
    · exact .inl (isApostrophe ▸ joinLifetimes_apart rest noName)
    · exact .inr ⟨between, name, after, isApostrophe, isName⟩
  · exact .inl (joinLifetimes_plain isApostrophe rest)

/-- Lifetimes are joined on each side of a mark that begins none on their own. -/
theorem joinLifetimes_append {mark : Lexeme} (isMark : mark.kind = .mark)
    (noApostrophe : mark.text ≠ "'") (first second : List Lexeme) :
    joinLifetimes (first ++ mark :: second) =
      joinLifetimes first ++ mark :: joinLifetimes second := by
  have noLifetime : mark ≠ ⟨.mark, "'"⟩ := fun same => noApostrophe (congrArg Lexeme.text same)
  have staysApart : ¬mark.separates = true := by rw [Lexeme.separates, isMark]; decide
  induction first with
  | nil => exact joinLifetimes_plain noLifetime second
  | cons lexeme rest inductionHypothesis =>
      rw [List.cons_append]
      by_cases isApostrophe : lexeme = ⟨.mark, "'"⟩
      · subst isApostrophe
        rcases name_cases (joinLifetimes rest) with noName | ⟨between, name, after, isRest,
          areBetween, isName⟩
        · rw [joinLifetimes_apart rest noName, joinLifetimes_apart, inductionHypothesis,
            List.cons_append]
          rw [inductionHypothesis, List.dropWhile_append]
          split
          · rw [List.dropWhile_cons_of_neg staysApart]
            intro name isFirst
            obtain rfl := Option.some.inj isFirst
            rw [isMark]
            nofun
          next isNonempty =>
            obtain ⟨name, after, isName⟩ := List.exists_cons_of_ne_nil
              (List.isEmpty_eq_false_iff.mp (Bool.eq_false_of_not_eq_true isNonempty))
            rw [isName] at noName ⊢
            exact noName
        · rw [joinLifetimes_name isRest areBetween isName, List.cons_append]
          refine joinLifetimes_name ?_ areBetween isName
          rw [inductionHypothesis, isRest, List.append_assoc, List.cons_append]
      · rw [joinLifetimes_plain isApostrophe, joinLifetimes_plain isApostrophe, inductionHypothesis,
          List.cons_append]

theorem charactersOf_joinLifetimes (pieces : List Lexeme) :
    charactersOf (joinLifetimes pieces) = charactersOf pieces := by
  induction pieces with
  | nil => rfl
  | cons first rest inductionHypothesis =>
      rcases joinLifetimes_cases first rest with isApart | ⟨between, name, after, rfl, isRest,
        areBetween, isName⟩
      · rw [isApart, charactersOf_cons, charactersOf_cons, inductionHypothesis]
      · rw [joinLifetimes_name isRest areBetween isName, charactersOf_cons, charactersOf_cons,
          ← inductionHypothesis, isRest, charactersOf_append, charactersOf_cons]
        simp [charactersOf, String.toList_join, List.flatMap_map]

/-- The tokens on both sides of a mark. -/
theorem tokensOf_around (line : Nat) (before first second : List Lexeme) {mark : String}
    (noApostrophe : mark ≠ "'") (noFeed : lineFeeds mark.toList = 0) :
    tokensOf line before (joinLifetimes (first ++ ⟨.mark, mark⟩ :: second)) =
      tokensOf line before (joinLifetimes first) ++
        ⟨.mark, mark, line + lineFeeds (charactersOf first),
            gapBehind before (joinLifetimes first)⟩ ::
          tokensOf (line + lineFeeds (charactersOf first)) [] (joinLifetimes second) := by
  have staysApart : ¬(⟨.mark, mark⟩ : Lexeme).separates = true := Bool.false_ne_true
  rw [joinLifetimes_append rfl noApostrophe, tokensOf_append, charactersOf_joinLifetimes,
    tokensOf_cons, if_neg staysApart, noFeed, Nat.add_zero]

/-- No mark comes from joining pieces. -/
theorem mem_joinLifetimes {pieces : List Lexeme} {lexeme : Lexeme}
    (isIn : lexeme ∈ joinLifetimes pieces) (noLifetime : lexeme.kind ≠ .lifetime) :
    lexeme ∈ pieces := by
  induction pieces with
  | nil => cases isIn
  | cons first rest inductionHypothesis =>
      rcases joinLifetimes_cases first rest with isApart | ⟨between, name, after, rfl, isRest,
        areBetween, isName⟩
      · rw [isApart, List.mem_cons] at isIn
        exact List.mem_cons.mpr (isIn.imp_right inductionHypothesis)
      · rw [joinLifetimes_name isRest areBetween isName, List.mem_cons] at isIn
        rcases isIn with rfl | isIn
        · exact absurd rfl noLifetime
        · refine List.mem_cons_of_mem _ (inductionHypothesis ?_)
          rw [isRest]
          exact List.mem_append_right _ (List.mem_cons_of_mem _ isIn)

/-! ### Marks -/

theorem length_firstLexeme_mark {first : Char} {rest : List Char}
    (isMark : (firstLexeme (first :: rest)).1 = .mark) :
    (firstLexeme (first :: rest)).2 = markLength (first :: rest) := by
  rw [firstLexeme_eq] at isMark ⊢
  unfold firstVisible at isMark ⊢
  dsimp only at isMark ⊢
  split_ifs at isMark ⊢
  rfl

theorem marksFit_firstLexeme {first : Char} {rest : List Char}
    (isMark : (firstLexeme (first :: rest)).1 = .mark) :
    (String.ofList (first :: rest.take ((firstLexeme (first :: rest)).2 - 1))).toList.length = 1 ∨
      String.ofList (first :: rest.take ((firstLexeme (first :: rest)).2 - 1)) ∈ longMarks := by
  rw [length_firstLexeme_mark isMark, String.toList_ofList]
  have joined {name : List Char} (isLong : String.ofList name ∈ longMarks)
      (isFirst : name <+: first :: rest) :
      String.ofList (first :: rest.take (name.length - 1)) ∈ longMarks := by
    have isTaken := List.prefix_iff_eq_take.mp isFirst
    have nonempty : name ≠ [] := by
      rintro rfl
      exact absurd isLong (by decide)
    obtain ⟨length, isLength⟩ := Nat.exists_eq_succ_of_ne_zero
      (List.length_pos_iff.mpr nonempty).ne'
    rw [isLength, Nat.succ_sub_one]
    rw [isLength, List.take_succ_cons] at isTaken
    rwa [← isTaken]
  rw [markLength_eq]
  split_ifs with threeColons twoMarks threePoints twoPoints
  · exact .inl rfl
  · exact .inr (twoMarks.elim (joined (by decide)) (joined (by decide)))
  · exact .inr (threePoints.elim (joined (by decide)) (joined (by decide)))
  · exact .inr (joined (by decide) twoPoints)
  · exact .inl rfl

theorem marksFit_lexemesOf (characters : List Char) {lexeme : Lexeme}
    (isIn : lexeme ∈ lexemesOf characters) (isMark : lexeme.kind = .mark) :
    lexeme.text.toList.length = 1 ∨ lexeme.text ∈ longMarks := by
  induction isLength : characters.length using Nat.strong_induction_on generalizing characters with
  | _ length inductionHypothesis =>
      subst isLength
      cases characters with
      | nil =>
          rw [lexemesOf] at isIn
          cases isIn
      | cons first rest =>
          rw [lexemesOf_cons, List.mem_cons] at isIn
          rcases isIn with rfl | isIn
          · exact marksFit_firstLexeme isMark
          · refine inductionHypothesis _ ?_ _ isIn rfl
            rw [List.length_drop, List.length_cons]
            omega

/-- Each mark of a text has one character or is one of the longer ones. -/
theorem marksFit_tokensOf (line : Nat) (before : List Lexeme) (characters : List Char) :
    MarksFit (tokensOf line before (joinLifetimes (lexemesOf characters))) := by
  intro token isIn isMark
  have isLexeme : token.lexeme ∈ (joinLifetimes (lexemesOf characters)).filter
      fun lexeme => !lexeme.separates := by
    rw [← tokensOf_lexemes line before]
    exact List.mem_map_of_mem isIn
  have noLifetime : token.lexeme.kind ≠ .lifetime := by
    rw [Token.lexeme, isMark]
    nofun
  exact marksFit_lexemesOf characters
    (mem_joinLifetimes (List.mem_filter.mp isLexeme).1 noLifetime) isMark

end ForwardingProxy.Source
