import ForwardingProxy.Proofs.Source.Cut.Lengths

/-!
Contract: the cut of a text in front of a brace.

Owns: `Source.QuotesEnd`, which rules out that an apostrophe in front of a brace makes a literal of
it, and where that is so; and the fact that the pieces and the preamble in front of a brace are the
same whatever stands behind it.
-/

namespace ForwardingProxy.Source

/-- No character literal that begins in front of the brace takes the brace with it. -/
def QuotesEnd (brace : Char) (own behind : List Char) : Prop :=
  ∀ quoted, quoted <:+ own → characterLength (quoted ++ brace :: behind) ≤ quoted.length

section Pieces

variable {brace : Char} {own following other : List Char} (isBrace : IsBrace brace)

include isBrace

theorem textLiteralLength_brace
    (isInside : textLiteralLength (own ++ brace :: following) ≤ own.length)
    (quotes : QuotesEnd brace own following) (quotesToo : QuotesEnd brace own other) :
    textLiteralLength (own ++ brace :: other) = textLiteralLength (own ++ brace :: following) := by
  have decided (behind : List Char) {name : List Char} (noOpening : '\x7b' ∉ name)
      (noClosing : '\x7d' ∉ name) : name <+: own ++ brace :: behind ↔ name <+: own :=
    prefix_brace own behind (isBrace.not_mem noOpening noClosing)
  rw [textLiteralLength_eq] at isInside ⊢
  rw [textLiteralLength_eq]
  simp (disch := decide) only [decided] at isInside ⊢
  -- The raw and byte strings that begin with either of two letters are handled alike.
  have quoted {letters : List Char} (isFirst : letters <+: own) (isTwo : letters.length = 2)
      (isInside : 2 + quotedLength ((own ++ brace :: following).drop 2) ≤ own.length) :
      2 + quotedLength ((own ++ brace :: other).drop 2) =
        2 + quotedLength ((own ++ brace :: following).drop 2) := by
    have isLonger := isFirst.length_le
    rw [isTwo] at isLonger
    have isBehind : (own.drop 2).length = own.length - 2 := List.length_drop
    rw [drop_brace own _ isLonger] at isInside ⊢
    rw [drop_brace own _ isLonger, quotedLength_brace (own.drop 2) following other (by omega)]
  have raw {letters : List Char} {count : Nat} (isFirst : letters <+: own)
      (isCount : letters.length = count)
      (isInside : lengthBehind count (rawStringLength ((own ++ brace :: following).drop count)) ≤
        own.length) :
      lengthBehind count (rawStringLength ((own ++ brace :: other).drop count)) =
        lengthBehind count (rawStringLength ((own ++ brace :: following).drop count)) := by
    have isLonger := isFirst.length_le
    rw [isCount] at isLonger
    have isBehind : (own.drop count).length = own.length - count := List.length_drop
    rw [drop_brace own _ isLonger] at isInside ⊢
    have isShorter : rawStringLength (own.drop count ++ brace :: following) ≤
        (own.drop count).length :=
      lengthBehind_le (Nat.le_trans isInside (by omega))
    rw [drop_brace own _ isLonger, rawStringLength_brace _ following other isBrace isShorter]
  split_ifs at isInside ⊢ with isString isQuote isByte isBytes isRaw isText
  · obtain ⟨rest, rfl⟩ := isString
    simp only [List.cons_append, List.nil_append, List.drop_one, List.tail_cons,
      List.length_cons] at isInside ⊢
    rw [quotedLength_brace rest following other (by omega)]
  · exact characterLength_brace own following other isBrace (quotes own List.suffix_rfl)
      (quotesToo own List.suffix_rfl)
  · obtain ⟨rest, rfl⟩ := isByte
    have isLast : '\'' :: rest <:+ ['b', '\''] ++ rest := List.suffix_cons 'b' _
    exact congrArg (lengthBehind 1)
      (characterLength_brace ('\'' :: rest) following other isBrace (quotes _ isLast)
        (quotesToo _ isLast))
  · exact isBytes.elim (quoted · rfl isInside) (quoted · rfl isInside)
  · exact isRaw.elim (raw · rfl isInside) (raw · rfl isInside)
  · exact raw isText rfl isInside
  · rfl

theorem firstVisible_brace {first : Char} {rest : List Char} (isAll : own = first :: rest)
    (isInside : (firstVisible first (rest ++ brace :: following)).2 ≤ own.length)
    (quotes : QuotesEnd brace own following) (quotesToo : QuotesEnd brace own other) :
    firstVisible first (rest ++ brace :: other) =
      firstVisible first (rest ++ brace :: following) := by
  subst isAll
  have isLiteral : textLiteralLength (first :: (rest ++ brace :: other)) =
      textLiteralLength (first :: (rest ++ brace :: following)) := by
    refine textLiteralLength_brace isBrace ?_ quotes quotesToo
    by_cases isZero : textLiteralLength (first :: rest ++ brace :: following) = 0
    · omega
    · unfold firstVisible at isInside
      dsimp only at isInside
      rwa [← List.cons_append, if_pos isZero] at isInside
  have isNumber := numberLength_brace (first :: rest) other following isBrace
  have isWord := wordLength_brace (first :: rest) other following isBrace
  have isMark := markLength_brace (first :: rest) other following isBrace
  rw [List.cons_append, List.cons_append] at isNumber isWord isMark
  unfold firstVisible
  dsimp only
  rw [isLiteral, isNumber, isWord, isMark, placeholderLength_brace rest other following isBrace]

/-- A piece that ends in front of the brace is cut off whatever stands behind the brace. -/
theorem firstLexeme_brace (nonempty : own ≠ [])
    (isInside : (firstLexeme (own ++ brace :: following)).2 ≤ own.length)
    (quotes : QuotesEnd brace own following) (quotesToo : QuotesEnd brace own other) :
    firstLexeme (own ++ brace :: other) = firstLexeme (own ++ brace :: following) := by
  have decided (behind : List Char) {name : List Char} (noOpening : '\x7b' ∉ name)
      (noClosing : '\x7d' ∉ name) : name <+: own ++ brace :: behind ↔ name <+: own :=
    prefix_brace own behind (isBrace.not_mem noOpening noClosing)
  obtain ⟨first, rest, rfl⟩ := List.exists_cons_of_ne_nil nonempty
  simp only [List.cons_append] at decided isInside ⊢
  rw [firstLexeme_eq] at isInside ⊢
  rw [firstLexeme_eq]
  simp (disch := decide) only [decided] at isInside ⊢
  split_ifs at isInside ⊢ with isLine isBlock isBlank
  · have isLength := lineCommentLength_brace (first :: rest) following other isBrace isInside
    rw [List.cons_append, List.cons_append] at isLength
    rw [isLength]
  · obtain ⟨behind, isOwn⟩ := isBlock
    obtain ⟨rfl, rfl⟩ : first = '/' ∧ rest = '*' :: behind :=
      ⟨(List.cons.inj isOwn).1.symm, (List.cons.inj isOwn).2.symm⟩
    have isLength := blockCommentLength_brace behind following other isBrace (by
      simp only [List.cons_append, List.drop_succ_cons, List.drop_zero, List.length_cons]
        at isInside
      omega)
    simp only [List.cons_append, List.drop_succ_cons, List.drop_zero, isLength]
  · obtain ⟨noBlank, -⟩ := isBrace.ends
    rw [← List.cons_append, ← List.cons_append, leadingLength_brace _ _ noBlank,
      leadingLength_brace _ _ noBlank]
  · exact firstVisible_brace isBrace rfl isInside quotes quotesToo

theorem firstLexeme_isBrace (behind : List Char) : firstLexeme (brace :: behind) = (.mark, 1) := by
  rcases isBrace with rfl | rfl
  · exact @firstLexeme_mark "\x7b" (by decide) behind
  · exact @firstLexeme_mark "\x7d" (by decide) behind

theorem lexemesOf_isBrace (behind : List Char) :
    lexemesOf (brace :: behind) = ⟨.mark, String.ofList [brace]⟩ :: lexemesOf behind :=
  @lexemesOf_append [brace] behind .mark (List.cons_ne_nil _ _) (firstLexeme_isBrace isBrace behind)

omit isBrace in
theorem lexemesOf_cons (first : Char) (rest : List Char) :
    lexemesOf (first :: rest) =
      ⟨(firstLexeme (first :: rest)).1,
        String.ofList (first :: rest.take ((firstLexeme (first :: rest)).2 - 1))⟩ ::
          lexemesOf (rest.drop ((firstLexeme (first :: rest)).2 - 1)) := by
  rw [lexemesOf]

/-- The text that pieces are cut from. -/
def charactersOf (pieces : List Lexeme) : List Char :=
  pieces.flatMap fun lexeme => lexeme.text.toList

omit isBrace in
theorem charactersOf_cons (lexeme : Lexeme) (rest : List Lexeme) :
    charactersOf (lexeme :: rest) = lexeme.text.toList ++ charactersOf rest :=
  List.flatMap_cons

omit isBrace in
theorem charactersOf_append (first second : List Lexeme) :
    charactersOf (first ++ second) = charactersOf first ++ charactersOf second :=
  List.flatMap_append

omit isBrace in
/-- The texts of the pieces in their order are the whole text. -/
theorem charactersOf_lexemesOf (characters : List Char) :
    charactersOf (lexemesOf characters) = characters := by
  induction isLength : characters.length using Nat.strong_induction_on generalizing characters with
  | _ length inductionHypothesis =>
      subst isLength
      cases characters with
      | nil => rw [lexemesOf]; rfl
      | cons first rest =>
          rw [lexemesOf_cons, charactersOf_cons, String.toList_ofList,
            inductionHypothesis _ _ _ rfl, List.cons_append, List.take_append_drop]
          rw [List.length_drop, List.length_cons]
          omega

omit isBrace in
theorem charactersOf_cut {pieces : List Lexeme}
    (isCut : lexemesOf (own ++ brace :: following) =
      pieces ++ ⟨.mark, String.ofList [brace]⟩ :: lexemesOf following) :
    charactersOf pieces = own := by
  have whole := congrArg charactersOf isCut
  rw [charactersOf_lexemesOf, charactersOf_append, charactersOf_cons, charactersOf_lexemesOf,
    String.toList_ofList] at whole
  exact (List.append_cancel_right whole).symm

/-- The pieces in front of a brace are the same whatever stands behind it. -/
theorem lexemesOf_brace {pieces : List Lexeme}
    (isCut : lexemesOf (own ++ brace :: following) =
      pieces ++ ⟨.mark, String.ofList [brace]⟩ :: lexemesOf following)
    (quotes : QuotesEnd brace own following) (quotesToo : QuotesEnd brace own other) :
    lexemesOf (own ++ brace :: other) =
      pieces ++ ⟨.mark, String.ofList [brace]⟩ :: lexemesOf other := by
  induction isLength : own.length using Nat.strong_induction_on generalizing own pieces with
  | _ length inductionHypothesis =>
      subst isLength
      have areOwn := charactersOf_cut isCut
      cases own with
      | nil =>
          cases pieces with
          | nil => exact lexemesOf_isBrace isBrace other
          | cons piece pieces =>
              have sameCount := congrArg List.length isCut
              rw [List.nil_append, lexemesOf_isBrace isBrace following] at sameCount
              simp only [List.length_cons, List.length_append] at sameCount
              omega
      | cons first rest =>
          cases pieces with
          | nil => cases areOwn
          | cons piece pieces =>
              rw [List.cons_append, lexemesOf_cons, List.cons_append, List.cons.injEq] at isCut
              obtain ⟨rfl, isRest⟩ := isCut
              have isInside : (firstLexeme (first :: rest ++ brace :: following)).2 - 1 ≤
                  rest.length := by
                have isLonger := congrArg List.length areOwn
                simp only [charactersOf_cons, String.toList_ofList, List.length_cons,
                  List.length_take, List.length_append] at isLonger
                rw [List.cons_append]
                omega
              have isFirst := firstLexeme_brace isBrace (List.cons_ne_nil first rest)
                (by rw [List.length_cons]; omega) quotes quotesToo
              have further :
                  rest.drop ((firstLexeme (first :: rest ++ brace :: following)).2 - 1) <:+
                    first :: rest :=
                (List.drop_suffix _ _).trans (List.suffix_cons _ _)
              simp only [List.cons_append] at isFirst isInside further
              rw [List.drop_append_of_le_length isInside] at isRest
              rw [List.cons_append, lexemesOf_cons, isFirst, List.drop_append_of_le_length isInside,
                List.take_append_of_le_length isInside, List.take_append_of_le_length isInside,
                List.cons_append]
              refine congrArg (_ :: ·) (inductionHypothesis _ ?_ isRest
                (fun quoted isLast => quotes quoted (isLast.trans further))
                (fun quoted isLast => quotesToo quoted (isLast.trans further)) rfl)
              rw [List.length_drop, List.length_cons]
              omega

/-! The preamble -/

omit isBrace in
theorem separates_iff (first : Char) (rest : List Char) :
    (firstLexeme (first :: rest)).1 = .blanks ∨ (firstLexeme (first :: rest)).1 = .comment ↔
      ['/', '/'] <+: first :: rest ∨ ['/', '*'] <+: first :: rest ∨ Text.isBlank first = true := by
  have isVisible :
      (firstVisible first rest).1 ≠ .blanks ∧ (firstVisible first rest).1 ≠ .comment := by
    unfold firstVisible
    dsimp only
    split_ifs <;> exact ⟨nofun, nofun⟩
  rw [firstLexeme_eq]
  split_ifs with isLine isBlock isBlank <;> simp [*]

omit isBrace in
theorem length_separator {first : Char} {rest : List Char}
    (separates : (firstLexeme (first :: rest)).1 = .blanks ∨
      (firstLexeme (first :: rest)).1 = .comment) : 0 < (firstLexeme (first :: rest)).2 := by
  rw [separates_iff] at separates
  rw [firstLexeme_eq]
  split_ifs with isLine isBlock isBlank
  · obtain ⟨behind, isAll⟩ := isLine
    rw [← isAll]
    unfold lineCommentLength
    dsimp only
    split <;> simp
  · exact Nat.lt_of_lt_of_le Nat.two_pos (Nat.le_add_right _ _)
  · simp [leadingLength, isBlank]
  · simp_all

theorem separates_brace (first : Char) (rest : List Char) :
    (firstLexeme (first :: rest ++ brace :: following)).1 = .blanks ∨
        (firstLexeme (first :: rest ++ brace :: following)).1 = .comment ↔
      (firstLexeme (first :: rest ++ brace :: other)).1 = .blanks ∨
        (firstLexeme (first :: rest ++ brace :: other)).1 = .comment := by
  have decided (behind : List Char) {name : List Char} (noOpening : '\x7b' ∉ name)
      (noClosing : '\x7d' ∉ name) : name <+: first :: (rest ++ brace :: behind) ↔
        name <+: first :: rest :=
    prefix_brace (first :: rest) behind (isBrace.not_mem noOpening noClosing)
  rw [List.cons_append, List.cons_append, separates_iff, separates_iff]
  simp (disch := decide) only [decided]

theorem loaderLineLength_brace (isFed : '\n' ∈ following)
    (isInside : loaderLineLength (own ++ brace :: following) ≤ own.length) :
    loaderLineLength (own ++ brace :: other) = loaderLineLength (own ++ brace :: following) := by
  have decided (behind : List Char) {name : List Char} (noOpening : '\x7b' ∉ name)
      (noClosing : '\x7d' ∉ name) : name <+: own ++ brace :: behind ↔ name <+: own :=
    prefix_brace own behind (isBrace.not_mem noOpening noClosing)
  have isLine (characters : List Char) : loaderLineLength characters =
      if ['#', '!', '['] <+: characters then 0
      else if ['#', '!'] <+: characters then
        if leadingLength (· != '\n') characters < characters.length then
          leadingLength (· != '\n') characters + 1
        else 0
      else 0 := by
    unfold loaderLineLength
    split <;> simp_all [prefix_iff]
  have isFed : leadingLength (· != '\n') (own ++ brace :: following) <
      (own ++ brace :: following).length := by
    refine Nat.lt_of_le_of_ne (leadingLength_le _ _) fun isAll => ?_
    have isWhole := (List.takeWhile_prefix (· != '\n')).eq_of_length isAll
    have noFeed := List.takeWhile_eq_self_iff.mp isWhole '\n'
      (List.mem_append_right own (List.mem_cons_of_mem brace isFed))
    exact Bool.noConfusion noFeed
  rw [isLine] at isInside ⊢
  rw [isLine]
  simp (disch := decide) only [decided, isFed, if_true] at isInside ⊢
  split_ifs at isInside with isAttribute isLoader
  · rw [if_pos isAttribute, if_pos isAttribute]
  · have ends : (own.takeWhile (· != '\n')).length ≠ own.length := by
      intro isAll
      have noFeed : (brace != '\n') = true := by
        rcases isBrace with rfl | rfl <;> decide
      simp only [leadingLength, List.takeWhile_append, isAll, if_true, List.takeWhile_cons, noFeed,
        List.length_append, List.length_cons] at isInside
      omega
    have isFirstLine (behind : List Char) :
        leadingLength (· != '\n') (own ++ brace :: behind) = leadingLength (· != '\n') own := by
      simp only [leadingLength, List.takeWhile_append, ends, if_false]
    have isShort : leadingLength (· != '\n') own < (own ++ brace :: other).length := by
      have isInOwn := leadingLength_le own (· != '\n')
      rw [List.length_append, List.length_cons]
      omega
    rw [if_neg isAttribute, if_pos isLoader, if_neg isAttribute, if_pos isLoader, isFirstLine,
      isFirstLine, if_pos isShort]
  · rw [if_neg isAttribute, if_neg isLoader, if_neg isAttribute, if_neg isLoader]

theorem preambleLength_brace (isFed : '\n' ∈ following)
    (isInside : preambleLength (own ++ brace :: following) ≤ own.length)
    (quotes : QuotesEnd brace own following) (quotesToo : QuotesEnd brace own other) :
    preambleLength (own ++ brace :: other) = preambleLength (own ++ brace :: following) := by
  induction isLength : own.length using Nat.strong_induction_on generalizing own with
  | _ length inductionHypothesis =>
      subst isLength
      cases own with
      | nil =>
          have isZero (behind : List Char) : preambleLength (brace :: behind) = 0 := by
            have noLine : loaderLineLength (brace :: behind) = 0 := by
              rcases isBrace with rfl | rfl <;> rfl
            rw [preambleLength]
            simp [noLine, firstLexeme_isBrace isBrace]
          rw [List.nil_append, List.nil_append, isZero, isZero]
      | cons first rest =>
          have separates := @separates_brace brace following other isBrace first rest
          have isLine : loaderLineLength (first :: rest ++ brace :: other) =
              loaderLineLength (first :: rest ++ brace :: following) := by
            refine loaderLineLength_brace isBrace isFed ?_
            by_cases isZero : loaderLineLength (first :: rest ++ brace :: following) = 0
            · omega
            · rw [List.cons_append, preambleLength] at isInside
              dsimp only at isInside
              rwa [← List.cons_append, if_pos isZero] at isInside
          simp only [List.cons_append] at separates isLine
          rw [List.cons_append, preambleLength] at isInside ⊢
          rw [List.cons_append, preambleLength]
          dsimp only at isInside ⊢
          rw [isLine]
          simp only [Bool.or_eq_true, decide_eq_true_eq, separates] at isInside ⊢
          split_ifs at isInside ⊢ with noLine isSeparate
          · rfl
          · have isFirst : firstLexeme (first :: rest ++ brace :: other) =
                firstLexeme (first :: rest ++ brace :: following) :=
              firstLexeme_brace isBrace (List.cons_ne_nil first rest)
                (by rw [List.cons_append]; omega) quotes quotesToo
            simp only [List.cons_append] at isFirst
            have isSome := length_separator (separates.mpr isSeparate)
            have isShorter : (firstLexeme (first :: (rest ++ brace :: following))).2 - 1 ≤
                rest.length := by
              rw [List.length_cons] at isInside
              omega
            have further :
                rest.drop ((firstLexeme (first :: (rest ++ brace :: following))).2 - 1) <:+
                  first :: rest :=
              (List.drop_suffix _ _).trans (List.suffix_cons _ _)
            have isLast := List.length_drop (l := rest)
              (i := (firstLexeme (first :: (rest ++ brace :: following))).2 - 1)
            rw [List.drop_append_of_le_length isShorter, List.length_cons] at isInside
            rw [isFirst, List.drop_append_of_le_length isShorter,
              List.drop_append_of_le_length isShorter]
            refine congrArg (_ + ·) (inductionHypothesis _ ?_ ?_
              (fun quoted isQuoted => quotes quoted (isQuoted.trans further))
              (fun quoted isQuoted => quotesToo quoted (isQuoted.trans further)) rfl)
            · rw [isLast, List.length_cons]
              omega
            · omega
          · rfl

/-- The preamble in front of a brace is the same whatever stands behind it, unless a line for the
system's loader is open. -/
theorem dropPreamble_brace {preamble : List Char} (isFed : '\n' ∈ following)
    (isCut : dropPreamble (preamble ++ own ++ brace :: following) =
      (preamble, own ++ brace :: following))
    (quotes : QuotesEnd brace (preamble ++ own) following)
    (quotesToo : QuotesEnd brace (preamble ++ own) other) :
    dropPreamble (preamble ++ own ++ brace :: other) = (preamble, own ++ brace :: other) := by
  have sameMark := @head?_brace brace (preamble ++ own) other following
  unfold dropPreamble at isCut ⊢
  rw [sameMark]
  generalize isMark : (if (preamble ++ own ++ brace :: following).head? == some '\ufeff' then 1
    else 0) = mark at isCut ⊢
  dsimp only at isCut ⊢
  have markInside : mark ≤ (preamble ++ own).length := by
    subst isMark
    cases preamble ++ own with
    | nil => rcases isBrace with rfl | rfl <;> simp
    | cons first rest =>
        rw [List.length_cons]
        split <;> omega
  have isLength : mark + preambleLength ((preamble ++ own ++ brace :: following).drop mark) =
      preamble.length := by
    rw [List.splitAt_eq, Prod.mk.injEq] at isCut
    have isTaken := congrArg List.length isCut.1
    have isLeft := congrArg List.length isCut.2
    simp only [List.length_take, List.length_drop, List.length_append, List.length_cons]
      at isTaken isLeft
    omega
  have quotesEnd {behind : List Char} (quotes : QuotesEnd brace (preamble ++ own) behind) :
      QuotesEnd brace ((preamble ++ own).drop mark) behind :=
    fun quoted isLast => quotes quoted (isLast.trans (List.drop_suffix _ _))
  rw [drop_brace _ following markInside] at isLength
  have isShorter : preambleLength ((preamble ++ own).drop mark ++ brace :: following) ≤
      ((preamble ++ own).drop mark).length := by
    rw [List.length_drop, List.length_append]
    omega
  rw [drop_brace _ other markInside, preambleLength_brace isBrace isFed isShorter
    (quotesEnd quotes) (quotesEnd quotesToo), isLength, List.append_assoc, List.splitAt_eq,
    List.take_left, List.drop_left]

end Pieces

/-! ### Apostrophes -/

section Apostrophes

variable {brace : Char} (isBrace : IsBrace brace)

/-- An escape behind which no apostrophe stands, or which ends well in front of the brace. -/
def EscapeEnds (brace : Char) (escape behind : List Char) : Prop :=
  escapeLength (escape ++ brace :: behind) < escape.length ∨
    ((escape ++ brace :: behind).drop (escapeLength (escape ++ brace :: behind))).head? ≠ some '\''

include isBrace

theorem characterLength_le {first second : Char} {rest behind : List Char}
    (escapeEnds : first = '\'' → second = '\\' → EscapeEnds brace rest behind) :
    characterLength (first :: second :: rest ++ brace :: behind) ≤ rest.length + 2 := by
  have noQuote : brace ≠ '\'' := by rcases isBrace with rfl | rfl <;> decide
  by_cases isQuote : first = '\''
  · subst isQuote
    by_cases isEscape : second = '\\'
    · subst isEscape
      rw [List.cons_append, List.cons_append, characterLength_escape]
      split
      next isSome =>
        have isClosed := (Bool.and_eq_true_iff.mp isSome).2
        have isWithin := (escapeEnds rfl rfl).resolve_right fun noQuote =>
          noQuote (beq_iff_eq.mp isClosed)
        omega
      next => exact Nat.zero_le _
    · by_cases isEmpty : second = '\''
      · simp [characterLength, isEmpty]
      · rw [List.cons_append, List.cons_append, characterLength_plain isEmpty isEscape]
        cases rest with
        | nil => simp [noQuote]
        | cons third rest =>
            rw [List.length_cons]
            split <;> omega
  · simp [characterLength, isQuote]

theorem EscapeEnds.of_head {escape behind : List Char}
    (isInside : escapeLength (escape ++ brace :: behind) ≤ escape.length) :
    EscapeEnds brace escape behind := by
  have noQuote : brace ≠ '\'' := by rcases isBrace with rfl | rfl <;> decide
  rcases Nat.lt_or_eq_of_le isInside with isWithin | isAll
  · exact .inl isWithin
  · refine .inr ?_
    rw [isAll, List.drop_left, List.head?_cons, ne_eq, Option.some.injEq]
    exact noQuote

/-- An escape of one character is not one by its number. -/
theorem EscapeEnds.single {first : Char} {behind : List Char}
    (noCode : first = 'u' → brace = '\x7d') : EscapeEnds brace [first] behind := by
  obtain ⟨-, -, -, -, noHex, -⟩ := isBrace.ends
  have fewer (count : Nat) : (((brace :: behind).take (count + 1)).filter isHexDigit).length ≠
      count + 1 := by
    have isShorter := List.length_filter_le isHexDigit (behind.take count)
    rw [List.length_take] at isShorter
    rw [List.take_succ_cons, List.filter_cons_of_neg (by simp [noHex])]
    omega
  refine .of_head isBrace ?_
  rw [List.cons_append, List.nil_append, List.length_singleton]
  by_cases isUnicode : first = 'u'
  · obtain rfl := noCode isUnicode
    subst isUnicode
    have isShort : escapeLength ('u' :: '\x7d' :: behind) =
        if ((('\x7d' :: behind).take 4).filter isHexDigit).length = 4 then 5 else 0 := by
      simp [escapeLength]
    rw [isShort, if_neg (fewer 3)]
    exact Nat.zero_le _
  · by_cases isByte : first = 'x'
    · subst isByte
      have isShort : escapeLength ('x' :: brace :: behind) =
          if (((brace :: behind).take 2).filter isHexDigit).length = 2 then 3 else 0 := by
        simp [escapeLength]
      rw [isShort, if_neg (fewer 1)]
      exact Nat.zero_le _
    · simp [escapeLength, isUnicode]

/-- Only an apostrophe right in front of the brace and an escape can reach over it. -/
theorem quotesEnd_of {own behind : List Char}
    (plain : ['\''] <:+ own → behind.head? ≠ some '\'')
    (escapes : ∀ escape, '\'' :: '\\' :: escape <:+ own → EscapeEnds brace escape behind) :
    QuotesEnd brace own behind := by
  have noEmpty : brace ≠ '\'' ∧ brace ≠ '\\' := by rcases isBrace with rfl | rfl <;> decide
  intro quoted isLast
  rcases quoted with _ | ⟨first, _ | ⟨second, rest⟩⟩
  · simp [characterLength, noEmpty]
  · by_cases isQuote : first = '\''
    · subst isQuote
      rw [List.cons_append, List.nil_append, characterLength_plain noEmpty.1 noEmpty.2,
        if_neg (plain isLast)]
      exact Nat.zero_le _
    · simp [characterLength, isQuote]
  · refine characterLength_le isBrace ?_
    rintro rfl rfl
    exact escapes rest isLast

omit isBrace in
/-- Nothing in front of a closing brace reaches over it to something that is no apostrophe. -/
theorem quotesEnd_closing (own : List Char) {behind : List Char}
    (noQuote : behind.head? ≠ some '\'') : QuotesEnd '\x7d' own behind := by
  have isBrace : IsBrace '\x7d' := .inr rfl
  refine quotesEnd_of isBrace (fun _ => noQuote) fun escape _ => ?_
  rcases escape with _ | ⟨third, _ | ⟨fourth, rest⟩⟩
  · exact .inr noQuote
  · exact .single isBrace fun _ => rfl
  · have isInside := escapeLength_le isBrace third fourth rest behind
    rcases Nat.lt_or_eq_of_le isInside with isWithin | isAll
    · exact .of_head isBrace (Nat.le_of_lt_succ isWithin)
    · refine .inr ?_
      have isParted : third :: fourth :: rest ++ '\x7d' :: behind =
          (third :: fourth :: rest ++ ['\x7d']) ++ behind := by simp
      rw [isAll, isParted, List.drop_left' (by simp)]
      exact noQuote

omit isBrace in
/-- Nothing in front of an opening brace reaches over it, unless an apostrophe stands there with no
more than the beginning of an escape. -/
theorem quotesEnd_opening {own : List Char}
    (noQuote : ∀ quote ∈ [['\''], ['\'', '\\'], ['\'', '\\', 'u']], ¬quote <:+ own)
    (behind : List Char) : QuotesEnd '\x7b' own behind := by
  have isBrace : IsBrace '\x7b' := .inl rfl
  refine quotesEnd_of isBrace (fun isLast => absurd isLast (noQuote _ (by simp)))
    fun escape isLast => ?_
  rcases escape with _ | ⟨third, _ | ⟨fourth, rest⟩⟩
  · exact absurd isLast (noQuote _ (by simp))
  · refine .single isBrace ?_
    rintro rfl
    exact absurd isLast (noQuote _ (by simp))
  · exact .of_head isBrace (escapeLength_le isBrace third fourth rest behind)

omit isBrace in
/-- Nothing in front of an opening brace reaches over it to the end of its line. -/
theorem quotesEnd_fed (own rest : List Char) : QuotesEnd '\x7b' own ('\n' :: rest) := by
  have isBrace : IsBrace '\x7b' := .inl rfl
  refine quotesEnd_of isBrace (fun _ => by simp) fun escape _ => ?_
  rcases escape with _ | ⟨third, _ | ⟨fourth, further⟩⟩
  · exact .inr (by simp [escapeLength])
  · by_cases isUnicode : third = 'u'
    · have noHex : isHexDigit '\n' = false := by decide
      subst isUnicode
      exact .inl (by simp [escapeLength, noHex])
    · exact .single isBrace fun isCode => absurd isCode isUnicode
  · exact .of_head isBrace (escapeLength_le isBrace third fourth further ('\n' :: rest))

end Apostrophes

end ForwardingProxy.Source
