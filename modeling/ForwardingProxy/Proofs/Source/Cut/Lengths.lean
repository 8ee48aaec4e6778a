import ForwardingProxy.Proofs.Source.Lexing

/-!
Contract: the lengths of pieces in front of a brace.

Owns: the fact that a piece that ends in front of a brace has the same length whatever stands behind
the brace, for every kind of piece: words, numbers, marks, comments and literals.

A piece ends with its last character or in front of one that does not belong to it, and a brace
belongs to no word, number or mark. Only character literals look further; that they end in front of
the brace has to be known of both texts.
-/

namespace ForwardingProxy.Source

/-! ### What comes first -/

section Prefixes

variable (characters : List Char)

theorem prefix_iff {name characters : List Char} :
    name <+: characters ↔ ∃ rest, characters = name ++ rest :=
  exists_congr fun _ => eq_comm

theorem markLength_eq :
    markLength characters =
      if [':', ':', ':'] <+: characters then 1
      else if [':', ':'] <+: characters ∨ ['-', '>'] <+: characters then 2
      else if ['.', '.', '.'] <+: characters ∨ ['.', '.', '='] <+: characters then 3
      else if ['.', '.'] <+: characters then 2
      else 1 := by
  unfold markLength
  split <;> simp_all [prefix_iff]

theorem wholeDigitsLength_eq :
    wholeDigitsLength characters =
      if ['0', 'x'] <+: characters then
        1 + lengthBehind 1 (leadingLength (fun c => isHexDigit c || c == '_') (characters.drop 2))
      else if ['0', 'b'] <+: characters then
        1 + lengthBehind 1 (leadingLength ['0', '1', '_'].contains (characters.drop 2))
      else if ['0', 'o'] <+: characters then
        1 + lengthBehind 1
          (leadingLength (fun c => ('0' ≤ c && c ≤ '7') || c == '_') (characters.drop 2))
      else leadingLength isNumberCharacter characters := by
  unfold wholeDigitsLength
  split <;> simp_all [prefix_iff]

theorem wordLength_eq (noRaw : ¬['r', '#'] <+: characters) :
    wordLength characters = leadingLength isWordCharacter characters := by
  unfold wordLength
  split
  · exact absurd ⟨_, rfl⟩ noRaw
  · rfl

theorem textLiteralLength_eq :
    textLiteralLength characters =
      if ['"'] <+: characters then 1 + quotedLength (characters.drop 1)
      else if ['\''] <+: characters then characterLength characters
      else if ['b', '\''] <+: characters then lengthBehind 1 (characterLength (characters.drop 1))
      else if ['b', '"'] <+: characters ∨ ['c', '"'] <+: characters then
        2 + quotedLength (characters.drop 2)
      else if ['b', 'r'] <+: characters ∨ ['c', 'r'] <+: characters then
        lengthBehind 2 (rawStringLength (characters.drop 2))
      else if ['r'] <+: characters then lengthBehind 1 (rawStringLength (characters.drop 1))
      else 0 := by
  unfold textLiteralLength
  split <;> simp_all [prefix_iff]

theorem documentationMark?_eq :
    documentationMark? characters =
      if ['/', '/', '/', '/'] <+: characters then none
      else if ['/', '/', '/'] <+: characters then some '/'
      else if ['/', '/', '!'] <+: characters then some '!'
      else if ['/', '*'] <+: characters then blockMark? (characters.drop 2)
      else none := by
  unfold documentationMark?
  split <;> simp_all [prefix_iff]

theorem firstLexeme_eq (first : Char) (rest : List Char) :
    firstLexeme (first :: rest) =
      if ['/', '/'] <+: first :: rest then (.comment, lineCommentLength (first :: rest))
      else if ['/', '*'] <+: first :: rest then
        (.comment, 2 + blockCommentLength ((first :: rest).drop 2))
      else if Text.isBlank first then (.blanks, leadingLength Text.isBlank (first :: rest))
      else firstVisible first rest := by
  unfold firstLexeme
  split
  case h_1 same => cases same
  case h_2 same => simp_all
  case h_3 same => simp_all
  case h_4 noLine noBlock same =>
    obtain ⟨rfl, rfl⟩ := List.cons.inj same
    have noLineFirst : ¬['/', '/'] <+: first :: rest := fun isPrefix => by
      obtain ⟨tail, isAll⟩ := prefix_iff.mp isPrefix
      exact noLine tail (List.cons.inj isAll).1 (List.cons.inj isAll).2
    have noBlockFirst : ¬['/', '*'] <+: first :: rest := fun isPrefix => by
      obtain ⟨tail, isAll⟩ := prefix_iff.mp isPrefix
      exact noBlock tail (List.cons.inj isAll).1 (List.cons.inj isAll).2
    rw [if_neg noLineFirst, if_neg noBlockFirst]

end Prefixes

/-! ### Lengths in front of a brace -/

/-- An opening or a closing brace. -/
def IsBrace (brace : Char) : Prop :=
  brace = '\x7b' ∨ brace = '\x7d'

section Lengths

variable {brace : Char} (own following other : List Char)

theorem leadingLength_brace {test : Char → Bool} (ends : test brace = false) :
    leadingLength test (own ++ brace :: following) = leadingLength test own := by
  unfold leadingLength
  induction own with
  | nil => simp [ends]
  | cons first rest inductionHypothesis =>
      by_cases passes : test first = true
      · simp [passes, inductionHypothesis]
      · simp [passes]

theorem head?_brace : (own ++ brace :: following).head? = (own ++ brace :: other).head? := by
  cases own <;> rfl

theorem drop_brace {length : Nat} (isShorter : length ≤ own.length) :
    (own ++ brace :: following).drop length = own.drop length ++ brace :: following :=
  List.drop_append_of_le_length isShorter

theorem leadingLength_le (test : Char → Bool) : leadingLength test own ≤ own.length :=
  (List.takeWhile_sublist test).length_le

theorem prefix_brace {name : List Char} (noBrace : brace ∉ name) :
    name <+: own ++ brace :: following ↔ name <+: own := by
  refine ⟨fun isPrefix => ?_, fun isPrefix => isPrefix.trans (List.prefix_append own _)⟩
  rcases List.prefix_or_prefix_of_prefix isPrefix (List.prefix_append own _) with isName | isOwn
  · exact isName
  · obtain ⟨rest, rfl⟩ := isOwn
    rw [List.prefix_append_right_inj] at isPrefix
    cases rest with
    | nil => rw [List.append_nil]
    | cons first rest =>
        rw [List.cons_prefix_cons] at isPrefix
        exact absurd (isPrefix.1 ▸ List.mem_append_right own List.mem_cons_self) noBrace

theorem IsBrace.ends (isBrace : IsBrace brace) :
    Text.isBlank brace = false ∧ isWordCharacter brace = false ∧ isNumberCharacter brace = false ∧
      brace.isDigit = false ∧ isHexDigit brace = false ∧ beginsWord brace = false := by
  rcases isBrace with rfl | rfl <;> exact ⟨rfl, rfl, rfl, rfl, rfl, rfl⟩

theorem IsBrace.not_mem (isBrace : IsBrace brace) {name : List Char} (noOpening : '\x7b' ∉ name)
    (noClosing : '\x7d' ∉ name) : brace ∉ name := by
  rcases isBrace with rfl | rfl
  · exact noOpening
  · exact noClosing

variable (isBrace : IsBrace brace)

include isBrace

/-! Words, numbers and marks -/

theorem wordLength_brace :
    wordLength (own ++ brace :: following) = wordLength (own ++ brace :: other) := by
  obtain ⟨-, noWord, -, -, -, noBeginning⟩ := isBrace.ends
  by_cases isRaw : ['r', '#'] <+: own
  · obtain ⟨rest, rfl⟩ := isRaw
    cases rest with
    | nil => simp [wordLength, noBeginning]
    | cons first rest => simp [wordLength, leadingLength_brace rest _ noWord]
  · have noBrace : brace ∉ ['r', '#'] := isBrace.not_mem (by decide) (by decide)
    rw [wordLength_eq _ (mt (prefix_brace own _ noBrace).mp isRaw),
      wordLength_eq _ (mt (prefix_brace own _ noBrace).mp isRaw),
      leadingLength_brace _ _ noWord, leadingLength_brace _ _ noWord]

theorem placeholderLength_brace :
    placeholderLength (own ++ brace :: following) = placeholderLength (own ++ brace :: other) := by
  obtain ⟨-, noWord, -⟩ := isBrace.ends
  cases own with
  | nil => rcases isBrace with rfl | rfl <;> simp [placeholderLength]
  | cons first rest => simp [placeholderLength, leadingLength_brace rest _ noWord]

theorem markLength_brace :
    markLength (own ++ brace :: following) = markLength (own ++ brace :: other) := by
  have decided (behind : List Char) {name : List Char} (noOpening : '\x7b' ∉ name)
      (noClosing : '\x7d' ∉ name) : name <+: own ++ brace :: behind ↔ name <+: own :=
    prefix_brace own behind (isBrace.not_mem noOpening noClosing)
  simp [markLength_eq, decided]

theorem widthLength_brace :
    widthLength (own ++ brace :: following) = widthLength (own ++ brace :: other) := by
  obtain ⟨-, -, -, noDigit, -⟩ := isBrace.ends
  cases own with
  | nil => rcases isBrace with rfl | rfl <;> simp [widthLength]
  | cons letter rest => simp [widthLength, leadingLength_brace _ _ noDigit]

theorem exponentLength_brace :
    exponentLength (own ++ brace :: following) = exponentLength (own ++ brace :: other) := by
  obtain ⟨-, -, noNumber, -⟩ := isBrace.ends
  cases own with
  | nil => rcases isBrace with rfl | rfl <;> simp [exponentLength]
  | cons letter rest =>
      simp only [List.cons_append, exponentLength, head?_brace rest following other]
      generalize isSign :
        (if (rest ++ brace :: other).head?.any ['+', '-'].contains then 1 else 0) = sign
      have signInside : sign ≤ rest.length := by
        cases rest with
        | nil => rcases isBrace with rfl | rfl <;> simp_all
        | cons first others =>
            rw [← isSign, List.length_cons]
            split <;> omega
      have digitsInside := leadingLength_le (rest.drop sign) isNumberCharacter
      rw [List.length_drop] at digitsInside
      simp only [drop_brace rest _ signInside, leadingLength_brace _ _ noNumber]
      rw [drop_brace rest following (by omega), drop_brace rest other (by omega),
        widthLength_brace _ following other isBrace]

theorem fractionEndLength_brace :
    fractionEndLength (own ++ brace :: following) = fractionEndLength (own ++ brace :: other) := by
  unfold fractionEndLength
  rw [head?_brace own following other, widthLength_brace own following other isBrace,
    exponentLength_brace own following other isBrace]

theorem pointNumberLength_brace :
    pointNumberLength (own ++ brace :: following) = pointNumberLength (own ++ brace :: other) := by
  obtain ⟨-, -, noNumber, -⟩ := isBrace.ends
  unfold pointNumberLength
  have wholeInside := leadingLength_le own isNumberCharacter
  simp only [leadingLength_brace own _ noNumber, drop_brace own _ wholeInside]
  generalize own.drop (leadingLength isNumberCharacter own) = behind
  cases behind with
  | nil =>
      have isExponent := exponentLength_brace [] following other isBrace
      rcases isBrace with rfl | rfl <;>
        simpa using congrArg (lengthBehind (leadingLength isNumberCharacter own)) isExponent
  | cons first rest =>
      by_cases isPoint : first = '.'
      · subst isPoint
        have fractionInside := leadingLength_le rest isNumberCharacter
        simp only [List.cons_append, head?_brace rest following other,
          leadingLength_brace rest _ noNumber, drop_brace rest _ fractionInside,
          fractionEndLength_brace _ following other isBrace]
      · have isExponent := exponentLength_brace (first :: rest) following other isBrace
        simpa [isPoint] using
          congrArg (lengthBehind (leadingLength isNumberCharacter own)) isExponent

theorem numericTypeLength_brace :
    numericTypeLength (own ++ brace :: following) = numericTypeLength (own ++ brace :: other) := by
  have noBrace : ∀ name ∈ Name.numericTypes, brace ∉ name.toList := by
    rcases isBrace with rfl | rfl <;> simp [Name.numericTypes]
  have sameNames : Name.numericTypes.find? (fun name => name.toList.isPrefixOf
      (own ++ brace :: following)) = Name.numericTypes.find? (fun name => name.toList.isPrefixOf
        (own ++ brace :: other)) :=
    List.find?_congr fun name isName => by
      rw [Bool.eq_iff_iff, List.isPrefixOf_iff_prefix, List.isPrefixOf_iff_prefix,
        prefix_brace own following (noBrace name isName),
        prefix_brace own other (noBrace name isName)]
  unfold numericTypeLength
  rw [sameNames]

theorem wholeDigitsLength_brace (behind : List Char) :
    wholeDigitsLength (own ++ brace :: behind) = wholeDigitsLength own := by
  obtain ⟨-, -, noNumber, -⟩ := isBrace.ends
  have noDigits : (isHexDigit brace || brace == '_') = false ∧
      ['0', '1', '_'].contains brace = false ∧
        (('0' ≤ brace && brace ≤ '7') || brace == '_') = false := by
    rcases isBrace with rfl | rfl <;> exact ⟨rfl, rfl, rfl⟩
  have decided {name : List Char} (noOpening : '\x7b' ∉ name)
      (noClosing : '\x7d' ∉ name) : name <+: own ++ brace :: behind ↔ name <+: own :=
    prefix_brace own behind (isBrace.not_mem noOpening noClosing)
  rw [wholeDigitsLength_eq, wholeDigitsLength_eq, leadingLength_brace own behind noNumber]
  simp (disch := decide) only [decided]
  have digits {letter : Char} {test : Char → Bool} (isBase : ['0', letter] <+: own)
      (ends : test brace = false) : leadingLength test ((own ++ brace :: behind).drop 2) =
        leadingLength test (own.drop 2) := by
    have isLonger : 2 ≤ own.length := isBase.length_le
    rw [drop_brace own behind isLonger, leadingLength_brace _ _ ends]
  split_ifs with isHex isBinary isOctal
  · rw [digits isHex noDigits.1]
  · rw [digits isBinary noDigits.2.1]
  · rw [digits isOctal noDigits.2.2]
  · rfl

omit isBrace in
theorem wholeDigitsLength_le : wholeDigitsLength own ≤ own.length := by
  have behindTwo {letter : Char} (test : Char → Bool) (isBase : ['0', letter] <+: own) :
      1 + lengthBehind 1 (leadingLength test (own.drop 2)) ≤ own.length := by
    have digits := leadingLength_le (own.drop 2) test
    have isLonger := isBase.length_le
    rw [List.length_drop] at digits
    simp only [List.length_cons, List.length_nil] at isLonger
    unfold lengthBehind
    split <;> omega
  rw [wholeDigitsLength_eq]
  split_ifs with isHex isBinary isOctal
  · exact behindTwo _ isHex
  · exact behindTwo _ isBinary
  · exact behindTwo _ isOctal
  · exact leadingLength_le own _

theorem numberLength_brace :
    numberLength (own ++ brace :: following) = numberLength (own ++ brace :: other) := by
  unfold numberLength
  simp only [pointNumberLength_brace own following other isBrace,
    wholeDigitsLength_brace own isBrace, drop_brace own _ (wholeDigitsLength_le own),
    numericTypeLength_brace _ following other isBrace]

/-! Comments and literals -/

omit isBrace in
theorem openCommentLength_brace {depth : Nat} {mark : BlockCommentMark}
    (isInside : openCommentLength depth mark (own ++ brace :: following) ≤ own.length) :
    openCommentLength depth mark (own ++ brace :: other) =
      openCommentLength depth mark (own ++ brace :: following) := by
  induction own generalizing depth mark with
  | nil =>
      cases depth with
      | zero => rfl
      | succ depth =>
          exfalso
          cases mark <;> simp only [List.nil_append, openCommentLength, List.length_nil] at isInside
          · omega
          · omega
          · split at isInside <;> omega
  | cons first rest inductionHypothesis =>
      cases depth with
      | zero => rfl
      | succ depth =>
          cases mark <;>
            simp only [List.cons_append, openCommentLength, List.length_cons] at isInside ⊢
          · rw [inductionHypothesis (by omega)]
          · rw [inductionHypothesis (by omega)]
          · by_cases isStar : lowCharacter first = '*' <;>
              simp only [isStar, if_true, if_false] at isInside ⊢ <;>
              rw [inductionHypothesis (by omega)]

theorem blockMark?_brace :
    blockMark? (own ++ brace :: following) = blockMark? (own ++ brace :: other) := by
  rcases own with _ | ⟨first, _ | ⟨second, rest⟩⟩
  · have noMark : lowCharacter brace ≠ '!' ∧ lowCharacter brace ≠ '*' := by
      rcases isBrace with rfl | rfl <;> decide
    cases following <;> cases other <;> simp [blockMark?, noMark]
  · rfl
  · rfl

theorem blockCommentLength_brace
    (isInside : blockCommentLength (own ++ brace :: following) ≤ own.length) :
    blockCommentLength (own ++ brace :: other) =
      blockCommentLength (own ++ brace :: following) := by
  unfold blockCommentLength at isInside ⊢
  rw [blockMark?_brace own other following isBrace]
  split_ifs at isInside ⊢ with isMarked
  · cases own with
    | nil => simp at isInside
    | cons first rest =>
        simp only [List.cons_append, List.drop_one, List.tail_cons, List.length_cons] at isInside ⊢
        rw [openCommentLength_brace rest following other (by omega)]
  · exact openCommentLength_brace own following other isInside

theorem documentationMark?_brace :
    documentationMark? (own ++ brace :: following) = documentationMark? (own ++ brace :: other) := by
  have decided (behind : List Char) {name : List Char} (noOpening : '\x7b' ∉ name)
      (noClosing : '\x7d' ∉ name) : name <+: own ++ brace :: behind ↔ name <+: own :=
    prefix_brace own behind (isBrace.not_mem noOpening noClosing)
  rw [documentationMark?_eq, documentationMark?_eq]
  simp (disch := decide) only [decided]
  split_ifs with isPlain isOuter isInner isBlock
  · rfl
  · rfl
  · rfl
  · have isLonger : 2 ≤ own.length := isBlock.length_le
    rw [drop_brace own _ isLonger, drop_brace own _ isLonger,
      blockMark?_brace _ following other isBrace]
  · rfl

theorem lineCommentLength_brace
    (isInside : lineCommentLength (own ++ brace :: following) ≤ own.length) :
    lineCommentLength (own ++ brace :: other) = lineCommentLength (own ++ brace :: following) := by
  have noFeed : (brace != '\n') = true := by
    rcases isBrace with rfl | rfl <;> decide
  have ends : (own.takeWhile (· != '\n')).length ≠ own.length := by
    intro isAll
    unfold lineCommentLength at isInside
    simp only [List.takeWhile_append, isAll, if_true, List.takeWhile_cons, noFeed,
      List.length_append, List.length_cons] at isInside
    split at isInside <;> omega
  have isShorter := (List.takeWhile_sublist (· != '\n') (l := own)).length_le
  have visibleInside (behind : List Char) : decide ((own.takeWhile (· != '\n')).length <
      own.length + (behind.length + 1)) = true :=
    decide_eq_true (by omega)
  unfold lineCommentLength
  simp only [List.takeWhile_append, ends, if_false, List.length_append, visibleInside,
    documentationMark?_brace own following other isBrace, List.length_cons]

omit isBrace in
theorem quotedLength_brace (isInside : quotedLength (own ++ brace :: following) ≤ own.length) :
    quotedLength (own ++ brace :: other) = quotedLength (own ++ brace :: following) := by
  have nonempty (first : Char) (rest : List Char) : 0 < quotedLength (first :: rest) := by
    unfold quotedLength
    split
    · cases ‹_ = []›
    · omega
    · split <;> omega
  induction own using quotedLength.induct with
  | case1 => exact absurd (nonempty brace following) (by simpa using isInside)
  | case2 second rest inductionHypothesis =>
      simp only [List.cons_append, quotedLength, List.length_cons] at isInside ⊢
      rw [inductionHypothesis (by omega)]
  | case3 rest noEscape => simp [quotedLength]
  | case4 first rest noEscape noQuote inductionHypothesis =>
      by_cases isEscape : first = '\\'
      · subst isEscape
        cases rest with
        | nil =>
            simp only [List.cons_append, List.nil_append, quotedLength, List.length_cons,
              List.length_nil] at isInside
            omega
        | cons second rest => exact absurd rfl (noEscape second rest rfl)
      · have isFirst (behind : List Char) :
            quotedLength (first :: behind) = 1 + quotedLength behind := by
          simp [quotedLength, isEscape, noQuote]
        rw [List.cons_append, isFirst, List.length_cons] at isInside
        rw [List.cons_append, List.cons_append, isFirst, isFirst, inductionHypothesis (by omega)]

theorem rawQuotedLength_brace {hashes : Nat}
    (isInside : rawQuotedLength hashes (own ++ brace :: following) ≤ own.length) :
    rawQuotedLength hashes (own ++ brace :: other) =
      rawQuotedLength hashes (own ++ brace :: following) := by
  have closes (rest behind : List Char) :
      (((rest ++ brace :: behind).take hashes).length == hashes &&
        ((rest ++ brace :: behind).take hashes).all (· == '#')) =
      ((rest.take hashes).length == hashes && (rest.take hashes).all (· == '#')) := by
    have noHash : (brace == '#') = false := by rcases isBrace with rfl | rfl <;> decide
    by_cases isShorter : hashes ≤ rest.length
    · rw [List.take_append_of_le_length isShorter]
    · have isMore : 0 < hashes - rest.length := by omega
      obtain ⟨more, isMore⟩ := Nat.exists_eq_add_one.mpr isMore
      rw [List.take_append, isMore, List.take_succ_cons, List.all_append, List.all_cons, noHash]
      simp
      omega
  induction own with
  | nil =>
      exfalso
      simp only [List.nil_append, rawQuotedLength, List.length_nil] at isInside
      split at isInside <;> omega
  | cons first rest inductionHypothesis =>
      simp only [List.cons_append, rawQuotedLength, Bool.and_assoc, closes, List.length_cons]
        at isInside ⊢
      split at isInside
      next isClosed => rw [if_pos isClosed, if_pos isClosed]
      next isOpen => rw [if_neg isOpen, if_neg isOpen, inductionHypothesis (by omega)]

theorem rawStringLength_brace
    (isInside : rawStringLength (own ++ brace :: following) ≤ own.length) :
    rawStringLength (own ++ brace :: other) = rawStringLength (own ++ brace :: following) := by
  have noHash : (brace == '#') = false := by rcases isBrace with rfl | rfl <;> decide
  have noQuote : brace ≠ '"' := by rcases isBrace with rfl | rfl <;> decide
  have hashes (behind : List Char) : ((own ++ brace :: behind).takeWhile (· == '#')).length =
      leadingLength (· == '#') own :=
    leadingLength_brace own behind noHash
  have hashesInside := leadingLength_le own (· == '#')
  unfold rawStringLength at isInside ⊢
  simp only [hashes, drop_brace own _ hashesInside] at isInside ⊢
  have isBehind : (own.drop (leadingLength (· == '#') own)).length =
      own.length - leadingLength (· == '#') own := List.length_drop
  generalize own.drop (leadingLength (· == '#') own) = quoted at isInside isBehind ⊢
  cases quoted with
  | nil => simp [noQuote]
  | cons quote rest =>
      by_cases isQuote : quote = '"'
      · subst isQuote
        simp only [List.cons_append, List.length_cons] at isInside isBehind ⊢
        rw [rawQuotedLength_brace rest following other isBrace (by omega)]
      · simp [isQuote]

omit isBrace in
theorem lengthBehind_le {letters length bound : Nat}
    (isInside : lengthBehind letters length ≤ letters + bound) : length ≤ bound := by
  unfold lengthBehind at isInside
  split at isInside <;> omega

/-- So many hexadecimal digits stand in front of a brace only if no fewer characters do. -/
theorem length_hexDigits_brace (count : Nat) (rest behind : List Char) :
    (((rest ++ brace :: behind).take count).filter isHexDigit).length = count ↔
      count ≤ rest.length ∧ ((rest.take count).filter isHexDigit).length = count := by
  obtain ⟨-, -, -, -, noHex, -⟩ := isBrace.ends
  by_cases isShorter : count ≤ rest.length
  · rw [List.take_append_of_le_length isShorter, and_iff_right isShorter]
  · obtain ⟨more, isMore⟩ :=
      Nat.exists_eq_add_one.mpr (Nat.sub_pos_of_lt (Nat.lt_of_not_le isShorter))
    have fewer := List.length_filter_le isHexDigit (rest.take count)
    have fewerBehind := List.length_filter_le isHexDigit (behind.take more)
    rw [List.length_take] at fewer fewerBehind
    rw [List.take_append, isMore, List.take_succ_cons, List.filter_append, List.length_append,
      List.filter_cons_of_neg (by simp [noHex])]
    omega

theorem escapeLength_brace (first second : Char) (rest behind : List Char) :
    escapeLength (first :: second :: rest ++ brace :: behind) =
      if first = 'u' ∧ second = '\x7b' then
        if 0 < leadingLength isHexDigit rest ∧
            (rest.drop (leadingLength isHexDigit rest)).head?.getD brace = '\x7d' then
          leadingLength isHexDigit rest + 3
        else 0
      else if first = 'u' then
        if 4 ≤ (second :: rest).length ∧ (((second :: rest).take 4).filter isHexDigit).length = 4
        then 5
        else 0
      else if first = 'x' then
        if 2 ≤ (second :: rest).length ∧ (((second :: rest).take 2).filter isHexDigit).length = 2
        then 3
        else 0
      else 1 := by
  obtain ⟨-, -, -, -, noHex, -⟩ := isBrace.ends
  have head (characters : List Char) :
      (characters ++ brace :: behind).head? = some (characters.head?.getD brace) := by
    cases characters <;> rfl
  by_cases isCode : first = 'u' ∧ second = '\x7b'
  · obtain ⟨rfl, rfl⟩ := isCode
    have hexDigits : ((rest ++ brace :: behind).takeWhile isHexDigit).length =
        leadingLength isHexDigit rest :=
      leadingLength_brace rest behind noHex
    simp [escapeLength, hexDigits, drop_brace rest _ (leadingLength_le rest isHexDigit), head]
  · rw [if_neg isCode]
    by_cases isUnicode : first = 'u'
    · subst isUnicode
      have noCode : second ≠ '\x7b' := fun isOpening => isCode ⟨rfl, isOpening⟩
      have isShort : escapeLength ('u' :: second :: rest ++ brace :: behind) =
          if (((second :: rest ++ brace :: behind).take 4).filter isHexDigit).length = 4 then 5
          else 0 := by
        simp [escapeLength, noCode]
      rw [isShort, if_pos rfl]
      simp only [length_hexDigits_brace isBrace]
    · rw [if_neg isUnicode]
      by_cases isByte : first = 'x'
      · subst isByte
        have isShort : escapeLength ('x' :: second :: rest ++ brace :: behind) =
            if (((second :: rest ++ brace :: behind).take 2).filter isHexDigit).length = 2 then 3
            else 0 := by
          simp [escapeLength]
        rw [isShort, if_pos rfl]
        simp only [length_hexDigits_brace isBrace]
      · simp [escapeLength, isUnicode, isByte]

/-- An escape in front of a brace takes the brace with it only where it ends with that. -/
theorem escapeLength_le (first second : Char) (rest behind : List Char) :
    escapeLength (first :: second :: rest ++ brace :: behind) ≤
      rest.length + 2 + (if brace = '\x7d' then 1 else 0) := by
  have hexDigits := leadingLength_le rest isHexDigit
  have isWithin (isHex : 0 < leadingLength isHexDigit rest ∧
      (rest.drop (leadingLength isHexDigit rest)).head?.getD brace = '\x7d') :
      leadingLength isHexDigit rest + 3 ≤ rest.length + 2 + (if brace = '\x7d' then 1 else 0) := by
    by_cases isClosing : brace = '\x7d'
    · rw [if_pos isClosing]
      omega
    · have isShorter : leadingLength isHexDigit rest < rest.length := by
        refine Nat.lt_of_le_of_ne hexDigits fun isAll => isClosing ?_
        rw [isAll, List.drop_length] at isHex
        exact isHex.2
      omega
  rw [escapeLength_brace isBrace]
  generalize (if brace = '\x7d' then 1 else 0) = extra at isWithin ⊢
  simp only [List.length_cons]
  split_ifs with isCode isHex
  · exact isWithin isHex
  all_goals omega

omit isBrace in
theorem characterLength_escape (escape : List Char) :
    characterLength ('\'' :: '\\' :: escape) =
      if 0 < escapeLength escape && (escape.drop (escapeLength escape)).head? == some '\'' then
        escapeLength escape + 3
      else 0 := by
  simp [characterLength]

omit isBrace in
theorem characterLength_plain {second : Char} (noEmpty : second ≠ '\'') (noEscape : second ≠ '\\')
    (behind : List Char) : characterLength ('\'' :: second :: behind) =
      if behind.head? = some '\'' then 3 else 0 := by
  cases behind with
  | nil => simp [characterLength, noEmpty, noEscape]
  | cons third behind => by_cases isClosed : third = '\'' <;> simp [characterLength, *]

omit isBrace in
theorem characterLength_ne_one (characters : List Char) : characterLength characters ≠ 1 := by
  unfold characterLength
  split
  · omega
  · dsimp only
    split <;> omega
  · omega
  · omega

theorem characterLength_brace
    (isInside : characterLength (own ++ brace :: following) ≤ own.length)
    (isInsideToo : characterLength (own ++ brace :: other) ≤ own.length) :
    characterLength (own ++ brace :: other) = characterLength (own ++ brace :: following) := by
  have isZero {behind : List Char} (isOne : characterLength behind ≤ 1) :
      characterLength behind = 0 := by
    have noOne := characterLength_ne_one behind
    omega
  rcases own with _ | ⟨first, _ | ⟨second, rest⟩⟩
  · rw [Nat.le_zero.mp isInside, Nat.le_zero.mp isInsideToo]
  · rw [isZero isInside, isZero isInsideToo]
  · by_cases isQuote : first = '\''
    · subst isQuote
      by_cases isEscape : second = '\\'
      · subst isEscape
        simp only [List.cons_append, characterLength_escape, List.length_cons]
          at isInside isInsideToo ⊢
        by_cases isLonger : 2 ≤ rest.length
        · have sameEscape : escapeLength (rest ++ brace :: other) =
              escapeLength (rest ++ brace :: following) := by
            rcases rest with _ | ⟨third, _ | ⟨fourth, rest⟩⟩
            · simp at isLonger
            · simp at isLonger
            · rw [escapeLength_brace isBrace, escapeLength_brace isBrace]
          rw [sameEscape] at isInsideToo ⊢
          generalize escapeLength (rest ++ brace :: following) = escape at isInside isInsideToo ⊢
          by_cases isWithin : escape ≤ rest.length
          · rw [drop_brace rest _ isWithin, drop_brace rest _ isWithin,
              head?_brace _ other following]
          · split_ifs at isInside isInsideToo ⊢ <;> omega
        · have noEscape {length : Nat} {isClosed : Bool} (isInside :
                (if 0 < length && isClosed then length + 3 else 0) ≤ rest.length + 1 + 1) :
              (if 0 < length && isClosed then length + 3 else 0) = 0 := by
            split_ifs at isInside ⊢ with isSome
            · have isPositive := of_decide_eq_true (Bool.and_eq_true_iff.mp isSome).1
              omega
            · rfl
          rw [noEscape isInside, noEscape isInsideToo]
      · by_cases isEmpty : second = '\''
        · simp [characterLength, isEmpty]
        · rw [List.cons_append, List.cons_append, List.cons_append, List.cons_append,
            characterLength_plain isEmpty isEscape, characterLength_plain isEmpty isEscape,
            head?_brace rest other following]
    · simp [characterLength, isQuote]

end Lengths

end ForwardingProxy.Source
