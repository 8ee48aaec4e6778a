import ForwardingProxy.Proofs.Source.Lexing
import ForwardingProxy.Proofs.Text.Trimming
import ForwardingProxy.Source.Signature

/-!
Contract: what a written receiver is taken for.

Owns: `Source.WrittenReceiver`, any receiver without a type as it may be written, with blanks and
comments between its tokens; and the theorem that tells which of them are taken for exclusive ones.

The text is cut at its blanks, and a piece that ends in `mut` decides. So it is not the keyword that
counts, but whether `mut` stands right before a blank anywhere in the text: at the end of a lifetime
or inside a comment as well, while the keyword is overlooked right before a comment.
-/

namespace ForwardingProxy

namespace Text

variable {isSeparator : Char → Bool}

/-- The word stands right before a separator. -/
def StandsBefore (isSeparator : Char → Bool) (word text : List Char) : Prop :=
  ∃ before separator after, isSeparator separator = true ∧
    text = before ++ (word ++ separator :: after)

/-- The first piece of a text ends at the first separator. -/
theorem eq_of_splitAt {text piece : List Char} {pieces : List (List Char)}
    (cut : splitAt isSeparator text = piece :: pieces) :
    text = piece ∨ ∃ separator after, isSeparator separator = true ∧
      text = piece ++ separator :: after := by
  induction text generalizing piece pieces with
  | nil =>
      obtain ⟨rfl, -⟩ := List.cons.inj cut
      exact .inl rfl
  | cons character rest inductionHypothesis =>
      rw [splitAt] at cut
      split at cut
      next separates =>
        obtain ⟨rfl, -⟩ := List.cons.inj cut
        exact .inr ⟨character, rest, separates, rfl⟩
      next =>
        obtain ⟨first, others, isRest⟩ :=
          List.exists_cons_of_ne_nil (splitAt_ne_nil isSeparator rest)
        rw [isRest] at cut
        obtain ⟨rfl, -⟩ := List.cons.inj cut
        obtain isFirst | ⟨separator, after, separates, isFirst⟩ := inductionHypothesis isRest
        · exact .inl (congrArg _ isFirst)
        · exact .inr ⟨separator, after, separates, congrArg _ isFirst⟩

theorem StandsBefore.cons {word text : List Char} (stands : StandsBefore isSeparator word text)
    (first : Char) : StandsBefore isSeparator word (first :: text) := by
  obtain ⟨before, separator, after, separates, rfl⟩ := stands
  exact ⟨first :: before, separator, after, separates, rfl⟩

/-- A piece of a longer text ends in the word if one of the text does. -/
theorem exists_piece_cons {word text : List Char} (first : Char)
    (isPiece : ∃ piece ∈ splitAt isSeparator text, word <:+ piece) :
    ∃ piece ∈ splitAt isSeparator (first :: text), word <:+ piece := by
  obtain ⟨piece, isIn, ends⟩ := isPiece
  rw [splitAt]
  split
  · exact ⟨piece, List.mem_cons_of_mem _ isIn, ends⟩
  · obtain ⟨one, others, cut⟩ := List.exists_cons_of_ne_nil (splitAt_ne_nil isSeparator text)
    rw [cut] at isIn ⊢
    rcases List.mem_cons.mp isIn with rfl | isIn
    · exact ⟨_, List.mem_cons_self, ends.trans (List.suffix_cons first piece)⟩
    · exact ⟨piece, List.mem_cons_of_mem _ isIn, ends⟩

/-- A piece ends in a word just when the word stands before a separator or at the end. -/
theorem exists_piece_iff {word : List Char} (nonempty : word ≠ [])
    (whole : ∀ character ∈ word, isSeparator character = false) (text : List Char) :
    (∃ piece ∈ splitAt isSeparator text, word <:+ piece) ↔
      word <:+ text ∨ StandsBefore isSeparator word text := by
  constructor
  · induction text with
    | nil =>
        rintro ⟨piece, isIn, ends⟩
        rw [splitAt, List.mem_singleton] at isIn
        exact .inl (isIn ▸ ends)
    | cons first rest inductionHypothesis =>
        have further (isRest : ∃ piece ∈ splitAt isSeparator rest, word <:+ piece) :
            word <:+ first :: rest ∨ StandsBefore isSeparator word (first :: rest) :=
          (inductionHypothesis isRest).imp (·.trans (List.suffix_cons first rest)) (·.cons first)
        rintro ⟨piece, isIn, ends⟩
        rw [splitAt] at isIn
        split at isIn
        · rcases List.mem_cons.mp isIn with rfl | isIn
          · exact absurd (List.suffix_nil.mp ends) nonempty
          · exact further ⟨piece, isIn, ends⟩
        · obtain ⟨one, others, cut⟩ := List.exists_cons_of_ne_nil (splitAt_ne_nil isSeparator rest)
          rw [cut] at isIn
          rcases List.mem_cons.mp isIn with rfl | isIn
          · rcases List.suffix_cons_iff.mp ends with rfl | ends
            · -- the word is all of the first piece
              rcases eq_of_splitAt cut with rfl | ⟨separator, after, separates, rfl⟩
              · exact .inl List.suffix_rfl
              · exact .inr ⟨[], separator, after, separates, rfl⟩
            · exact further ⟨one, cut ▸ List.mem_cons_self, ends⟩
          · exact further ⟨piece, cut ▸ List.mem_cons_of_mem _ isIn, ends⟩
  · have widen (before : List Char) {text : List Char}
        (isPiece : ∃ piece ∈ splitAt isSeparator text, word <:+ piece) :
        ∃ piece ∈ splitAt isSeparator (before ++ text), word <:+ piece := by
      induction before with
      | nil => exact isPiece
      | cons first before inductionHypothesis => exact exists_piece_cons first inductionHypothesis
    rintro (⟨before, rfl⟩ | ⟨before, separator, after, separates, rfl⟩)
    · refine widen before ⟨word, ?_, List.suffix_rfl⟩
      rw [splitAt_of_none whole]
      exact List.mem_singleton.mpr rfl
    · refine widen before ⟨word, ?_, List.suffix_rfl⟩
      rw [splitAt_append whole separates]
      exact List.mem_cons_self

/-- Where two texts meet, the word is not cut in two if a character beside the cut is not in it. -/
theorem standsBefore_append {word first second : List Char} (nonempty : word ≠ [])
    (apart : (∀ last ∈ first.getLast?, last ∉ word) ∨ ∀ start ∈ second.head?, start ∉ word) :
    StandsBefore isSeparator word (first ++ second) ↔ StandsBefore isSeparator word first ∨
      (word <:+ first ∧ second.head?.any isSeparator = true) ∨
        StandsBefore isSeparator word second := by
  constructor
  · rintro ⟨before, separator, after, separates, isText⟩
    rcases List.append_eq_append_iff.mp isText with
      ⟨further, rfl, isSecond⟩ | ⟨ending, rfl, isRest⟩
    · exact .inr (.inr ⟨further, separator, after, separates, isSecond⟩)
    · rcases List.append_eq_append_iff.mp isRest with
        ⟨further, rfl, isSecond⟩ | ⟨further, rfl, isSecond⟩
      · cases further with
        | nil =>
            obtain rfl : separator :: after = second := isSecond
            rw [List.append_nil]
            exact .inr (.inl ⟨List.suffix_append before word, separates⟩)
        | cons start further =>
            obtain ⟨rfl, -⟩ := List.cons.inj isSecond
            exact .inl ⟨before, separator, further, separates, rfl⟩
      · by_cases noEnding : ending = []
        · subst noEnding
          exact .inr (.inr ⟨[], separator, after, separates, isSecond⟩)
        cases further with
        | nil =>
            rw [List.append_nil, isSecond]
            exact .inr (.inl ⟨List.suffix_append before ending, separates⟩)
        | cons start further =>
            refine absurd apart (not_or.mpr ⟨fun noLast => ?_, fun noStart => ?_⟩)
            · refine noLast (ending.getLast noEnding) ?_
                (List.mem_append_left _ (List.getLast_mem noEnding))
              rw [List.getLast?_append_of_ne_nil _ noEnding, List.getLast?_eq_some_getLast noEnding]
              rfl
            · exact noStart start (isSecond ▸ rfl) (List.mem_append_right _ List.mem_cons_self)
  · rintro (⟨before, separator, after, separates, rfl⟩ | ⟨⟨before, rfl⟩, isStart⟩ |
      ⟨before, separator, after, separates, rfl⟩)
    · exact ⟨before, separator, after ++ second, separates, by simp⟩
    · cases second with
      | nil => cases isStart
      | cons separator after => exact ⟨before, separator, after, isStart, by simp⟩
    · exact ⟨first ++ before, separator, after, separates, by simp⟩

theorem not_standsBefore {word text : List Char}
    (noSeparator : ∀ character ∈ text, isSeparator character = false) :
    ¬StandsBefore isSeparator word text := by
  rintro ⟨before, separator, after, separates, rfl⟩
  rw [noSeparator separator (by simp)] at separates
  cases separates

end Text

namespace Source

/-! ### Gaps -/

/-- The text `mut` stands right before a blank. -/
def HoldsMut (text : List Char) : Prop :=
  Text.StandsBefore Text.isBlank ['m', 'u', 't'] text

theorem low_getLast_of_openComment (following : Char) {body : List Char} (nonempty : body ≠ [])
    {depth : Nat} {mark : BlockCommentMark}
    (closes : openCommentLength (depth + 1) mark (body ++ [following]) = body.length) :
    ∀ last ∈ body.getLast?, lowCharacter last = '/' := by
  induction body generalizing depth mark with
  | nil => exact absurd rfl nonempty
  | cons first rest inductionHypothesis =>
      -- as long as comments are open, their end is still to come
      have further {deeper : Nat} {next : BlockCommentMark}
          (isRest : 1 + openCommentLength (deeper + 1) next (rest ++ [following]) =
            rest.length + 1) : ∀ last ∈ (first :: rest).getLast?, lowCharacter last = '/' := by
        rw [Nat.add_comm, Nat.add_right_cancel_iff] at isRest
        cases rest with
        | nil =>
            rw [List.nil_append, List.length_nil] at isRest
            cases next with
            | none | slash => simp [openCommentLength] at isRest
            | star =>
                rw [openCommentLength] at isRest
                split at isRest <;> omega
        | cons second rest =>
            rw [List.getLast?_cons_cons]
            exact inductionHypothesis (List.cons_ne_nil _ _) isRest
      rw [List.cons_append, List.length_cons] at closes
      cases mark with
      | none =>
          rw [openCommentLength] at closes
          exact further closes
      | slash =>
          rw [openCommentLength] at closes
          split at closes <;> exact further closes
      | star =>
          rw [openCommentLength] at closes
          split at closes
          · exact further closes
          split at closes
          next isSlash =>
            cases depth with
            | zero =>
                rw [openCommentLength] at closes
                obtain rfl : rest = [] := List.length_eq_zero_iff.mp (by omega)
                rintro last ⟨⟩
                exact isSlash
            | succ depth => exact further closes
          next => exact further closes

theorem low_getLast_of_closesComment {body : List Char} (closes : ClosesComment body) :
    body ≠ [] ∧ ∀ last ∈ body.getLast?, lowCharacter last = '/' := by
  have isLength := closes ['x']
  have nonempty : body ≠ [] := by
    rintro rfl
    simp [blockCommentLength, blockMark?, openCommentLength] at isLength
  refine ⟨nonempty, ?_⟩
  obtain ⟨first, rest, rfl⟩ := List.exists_cons_of_ne_nil nonempty
  rw [blockCommentLength] at isLength
  split at isLength
  · cases rest with
    | nil => simp [openCommentLength] at isLength
    | cons second rest =>
        rw [List.cons_append, List.drop_succ_cons, List.drop_zero, List.length_cons, Nat.add_comm,
          Nat.add_right_cancel_iff] at isLength
        rw [List.getLast?_cons_cons]
        exact low_getLast_of_openComment 'x' (List.cons_ne_nil _ _) isLength
  · exact low_getLast_of_openComment 'x' nonempty isLength

/-- What two texts end with holds of what they end with one behind the other. -/
theorem getLast?_append_of {first second : List Char} {ends : Char → Prop}
    (ofFirst : ∀ last ∈ first.getLast?, ends last)
    (ofSecond : ∀ last ∈ second.getLast?, ends last) :
    ∀ last ∈ (first ++ second).getLast?, ends last := by
  rw [List.getLast?_append]
  cases isLast : second.getLast? with
  | none => rwa [Option.none_or]
  | some last => rwa [Option.some_or, ← isLast]

/-- Blanks and comments end in no letter of `mut`. -/
theorem getLast?_separation {gap : List Char} (separation : Separation gap) :
    ∀ last ∈ gap.getLast?, last ∉ ['m', 'u', 't'] := by
  have noEnd : ∀ letter ∈ ['m', 'u', 't'], Text.isBlank letter = false ∧ letter ≠ '\n' ∧
      lowCharacter letter ≠ '/' :=
    List.all_iff_forall_prop.mp (by decide +kernel)
  induction separation with
  | nil => nofun
  | @blank character rest isBlank further inductionHypothesis =>
      refine @getLast?_append_of [character] rest _ ?_ inductionHypothesis
      intro last isLast isLetter
      obtain rfl : character = last := Option.some.inj isLast
      rw [(noEnd character isLetter).1] at isBlank
      cases isBlank
  | @line body rest oneLine further inductionHypothesis =>
      have isText : '/' :: '/' :: (body ++ '\n' :: rest) = ('/' :: '/' :: body ++ ['\n']) ++ rest := by
        simp
      rw [isText]
      refine getLast?_append_of ?_ inductionHypothesis
      intro last isLast isLetter
      rw [List.getLast?_append, List.getLast?_singleton, Option.some_or] at isLast
      exact (noEnd last isLetter).2.1 (Option.some.inj isLast).symm
  | @block body rest closes further inductionHypothesis =>
      obtain ⟨nonempty, isSlash⟩ := low_getLast_of_closesComment closes
      refine @getLast?_append_of ('/' :: '*' :: body) rest _ ?_ inductionHypothesis
      intro last isLast isLetter
      have isEnd : ('/' :: '*' :: body).getLast? = body.getLast? :=
        List.getLast?_append_of_ne_nil ['/', '*'] nonempty
      exact (noEnd last isLetter).2.2 (isSlash last (isEnd ▸ isLast))

/-! ### Written receivers -/

/-- Any blanks and comments. -/
structure Gap where
  text : List Char
  separates : Separation text

/-- Blanks and comments, at least one of them. -/
structure PartingGap extends Gap where
  parts : text ≠ []

/-- A lifetime by its name without the apostrophe, and what stands behind it. -/
structure WrittenLifetime where
  name : List Char
  isName : IsWord name
  gap : PartingGap

/-- A receiver without a type as it is written. -/
inductive WrittenReceiver where
  /-- `self`, or `mut` with what stands behind it and `self`. -/
  | value (keyword : Option PartingGap)
  /-- `&` with what stands behind it, a lifetime, `mut` with what stands behind it, and `self`. -/
  | reference (gap : Gap) (lifetime : Option WrittenLifetime) (keyword : Option PartingGap)

/-- The keyword `mut` with what stands behind it. -/
def keywordText : Option PartingGap → List Char
  | none => []
  | some gap => ['m', 'u', 't'] ++ gap.text

/-- A lifetime with what stands behind it. -/
def lifetimeText : Option WrittenLifetime → List Char
  | none => []
  | some lifetime => ('\'' :: lifetime.name) ++ lifetime.gap.text

namespace WrittenReceiver

/-- The source text of a receiver. -/
def characters : WrittenReceiver → List Char
  | value keyword => keywordText keyword ++ ['s', 'e', 'l', 'f']
  | reference gap lifetime keyword =>
      ['&'] ++ (gap.text ++ (lifetimeText lifetime ++ (keywordText keyword ++ ['s', 'e', 'l', 'f'])))

/-- What a receiver is. -/
def meaning : WrittenReceiver → SelfParameter
  | value _ => .owned
  | reference _ _ none => .shared
  | reference _ _ (some _) => .exclusive

end WrittenReceiver

/-- The text begins with a blank. -/
def BeginsBlank (text : List Char) : Prop :=
  text.head?.any Text.isBlank = true

/-- Whether `mut` stands right before a blank from the keyword on. -/
def KeywordShowsMut (keyword : Option PartingGap) : Prop :=
  ∃ gap ∈ keyword, BeginsBlank gap.text ∨ HoldsMut gap.text

/-- Whether `mut` stands right before a blank in the lifetime or behind it. -/
def LifetimeShowsMut (lifetime : Option WrittenLifetime) : Prop :=
  ∃ written ∈ lifetime, (['m', 'u', 't'] <:+ written.name ∧ BeginsBlank written.gap.text) ∨
    HoldsMut written.gap.text

theorem holdsMut_gap (gap : Gap) (rest : List Char) :
    HoldsMut (gap.text ++ rest) ↔ HoldsMut gap.text ∨ HoldsMut rest := by
  have noEnd := getLast?_separation gap.separates
  have noSuffix : ¬['m', 'u', 't'] <:+ gap.text := by
    rintro ⟨before, isText⟩
    have isLast : 't' ∈ gap.text.getLast? := by
      rw [← isText, List.getLast?_append]
      rfl
    exact noEnd 't' isLast (by decide)
  rw [HoldsMut, Text.standsBefore_append (List.cons_ne_nil _ _) (.inl noEnd), HoldsMut, HoldsMut]
  simp only [noSuffix, false_and, false_or]

/-- A token shows `mut` only if it ends in it, and then only before a blank. -/
theorem holdsMut_token {token : List Char}
    (noBlank : ∀ character ∈ token, Text.isBlank character = false) (gap : PartingGap)
    (rest : List Char) :
    HoldsMut (token ++ (gap.text ++ rest)) ↔
      ((['m', 'u', 't'] <:+ token ∧ BeginsBlank gap.text) ∨ HoldsMut gap.text) ∨ HoldsMut rest := by
  have isHead : (gap.text ++ rest).head? = gap.text.head? := List.head?_append_of_ne_nil _ gap.parts
  have noStart : ∀ start ∈ gap.text.head?, start ∉ ['m', 'u', 't'] := by
    have noBlank : ∀ letter ∈ ['m', 'u', 't'], Text.isBlank letter = false ∧ letter ≠ '/' :=
      List.all_iff_forall_prop.mp (by decide +kernel)
    intro start isStart isLetter
    rcases head?_separation gap.separates isStart with isSlash | isBlank
    · exact (noBlank start isLetter).2 isSlash
    · rw [(noBlank start isLetter).1] at isBlank
      cases isBlank
  have isNone : ¬HoldsMut token := Text.not_standsBefore noBlank
  rw [HoldsMut, Text.standsBefore_append (List.cons_ne_nil _ _) (.inr (isHead ▸ noStart)), isHead,
    ← HoldsMut, ← HoldsMut, holdsMut_gap gap.toGap, or_assoc]
  simp only [isNone, false_or, BeginsBlank]

theorem not_holdsMut_self : ¬HoldsMut ['s', 'e', 'l', 'f'] :=
  Text.not_standsBefore (List.all_iff_forall_prop.mp (by decide +kernel))

theorem holdsMut_keyword (keyword : Option PartingGap) :
    HoldsMut (keywordText keyword ++ ['s', 'e', 'l', 'f']) ↔ KeywordShowsMut keyword := by
  cases keyword with
  | none => simp [keywordText, KeywordShowsMut, not_holdsMut_self]
  | some gap =>
      have noBlank : ∀ character ∈ ['m', 'u', 't'], Text.isBlank character = false :=
        List.all_iff_forall_prop.mp (by decide +kernel)
      rw [keywordText, List.append_assoc, holdsMut_token noBlank]
      simp [KeywordShowsMut, not_holdsMut_self]

theorem isBlank_of_mem_word {word : List Char} (isWord : IsWord word) :
    ∀ character ∈ word, Text.isBlank character = false := by
  have plain {first : Char} {rest : List Char} (begins : beginsWord first = true)
      (continues : rest.all isWordCharacter = true) :
      ∀ character ∈ first :: rest, Text.isBlank character = false := by
    intro character isIn
    refine isBlank_of_isWordCharacter ?_
    rcases List.mem_cons.mp isIn with rfl | isIn
    · exact isWordCharacter_of_beginsWord begins
    · exact List.all_eq_true.mp continues character isIn
  cases isWord with
  | plain begins continues => exact plain begins continues
  | raw begins continues =>
      have noBlank : Text.isBlank 'r' = false ∧ Text.isBlank '#' = false := by decide +kernel
      exact List.forall_mem_cons.mpr ⟨noBlank.1, List.forall_mem_cons.mpr ⟨noBlank.2,
        plain begins continues⟩⟩

theorem holdsMut_lifetime (lifetime : Option WrittenLifetime) (rest : List Char) :
    HoldsMut (lifetimeText lifetime ++ rest) ↔ LifetimeShowsMut lifetime ∨ HoldsMut rest := by
  cases lifetime with
  | none => simp [lifetimeText, LifetimeShowsMut]
  | some written =>
      have noBlank : ∀ character ∈ '\'' :: written.name, Text.isBlank character = false :=
        List.forall_mem_cons.mpr ⟨by decide +kernel, isBlank_of_mem_word written.isName⟩
      have isSuffix : ['m', 'u', 't'] <:+ '\'' :: written.name ↔ ['m', 'u', 't'] <:+ written.name := by
        rw [List.suffix_cons_iff]
        exact or_iff_right fun same => nomatch (List.cons.inj same).1
      rw [lifetimeText, List.append_assoc, holdsMut_token noBlank, isSuffix]
      simp [LifetimeShowsMut]

namespace WrittenReceiver

/-- Whether `mut` stands right before a blank anywhere in the receiver. -/
def ShowsMut : WrittenReceiver → Prop
  | value keyword => KeywordShowsMut keyword
  | reference gap lifetime keyword =>
      HoldsMut gap.text ∨ LifetimeShowsMut lifetime ∨ KeywordShowsMut keyword

theorem holdsMut_characters (written : WrittenReceiver) :
    HoldsMut written.characters ↔ written.ShowsMut := by
  cases written with
  | value keyword => exact holdsMut_keyword keyword
  | reference gap lifetime keyword =>
      have isAnd : HoldsMut ['&'] ↔ False := by
        rw [iff_false]
        exact Text.not_standsBefore (List.all_iff_forall_prop.mp (by decide +kernel))
      have noSuffix : ¬['m', 'u', 't'] <:+ ['&'] := by decide
      have noLast : ∀ last ∈ ['&'].getLast?, last ∉ ['m', 'u', 't'] := by
        rintro last ⟨⟩
        decide
      rw [characters, HoldsMut, Text.standsBefore_append (List.cons_ne_nil _ _) (.inl noLast),
        ← HoldsMut, ← HoldsMut, isAnd, holdsMut_gap, holdsMut_lifetime, holdsMut_keyword]
      simp only [noSuffix, false_and, false_or, ShowsMut]

theorem exists_characters (written : WrittenReceiver) :
    ∃ front, written.characters = front ++ ['s', 'e', 'l', 'f'] := by
  cases written with
  | value keyword => exact ⟨_, rfl⟩
  | reference gap lifetime keyword =>
      exact ⟨['&'] ++ (gap.text ++ (lifetimeText lifetime ++ keywordText keyword)),
        by simp [characters]⟩

/-- Nothing stands outside the tokens. -/
theorem isTrimmed_characters (written : WrittenReceiver) : Text.IsTrimmed written.characters where
  begins := by
    have noBlank : ∀ start ∈ ['&', 'm', 's'], Text.isBlank start = false :=
      List.all_iff_forall_prop.mp (by decide +kernel)
    intro first isFirst
    refine noBlank first ?_
    cases written with
    | value keyword =>
        cases keyword <;> cases isFirst <;> decide
    | reference gap lifetime keyword =>
        cases isFirst
        decide
  ends := by
    intro last isLast
    obtain ⟨front, isText⟩ := written.exists_characters
    rw [isText, List.getLast?_append] at isLast
    obtain rfl := Option.some.inj isLast
    decide +kernel

theorem receiverOfText_value (keyword : Option PartingGap) :
    receiverOfText (String.ofList (value keyword).characters) = .owned := by
  have noAnd : (value keyword).characters.head? ≠ some '&' := by
    cases keyword <;> (rintro ⟨⟩)
  rw [receiverOfText, String.toList_ofList, (isTrimmed_characters _).dropOuterBlanks_eq,
    if_pos (bne_iff_ne.mpr noAnd)]

/-- A reference is taken for an exclusive one just when `mut` stands right before a blank in it. -/
theorem receiverOfText_reference (gap : Gap) (lifetime : Option WrittenLifetime)
    (keyword : Option PartingGap) :
    receiverOfText (String.ofList (reference gap lifetime keyword).characters) ≠ .owned ∧
      (receiverOfText (String.ofList (reference gap lifetime keyword).characters) = .exclusive ↔
        (reference gap lifetime keyword).ShowsMut) := by
  let written := reference gap lifetime keyword
  have isAnd : ¬(written.characters.head? != some '&') = true := by
    simp [written, characters]
  have noSuffix : ¬['m', 'u', 't'] <:+ written.characters := by
    obtain ⟨front, isText⟩ := written.exists_characters
    rintro ⟨before, isEnd⟩
    have isLast := congrArg List.getLast? (isEnd.trans isText)
    rw [List.getLast?_append, List.getLast?_append] at isLast
    cases isLast
  have noBlank : ∀ character ∈ ['m', 'u', 't'], Text.isBlank character = false :=
    List.all_iff_forall_prop.mp (by decide +kernel)
  have isPiece : (Text.splitAt Text.isBlank written.characters).any
      (fun piece => ['t', 'u', 'm'].isPrefixOf piece.reverse) = true ↔ written.ShowsMut := by
    have isSuffix (piece : List Char) :
        ['t', 'u', 'm'].isPrefixOf piece.reverse = true ↔ ['m', 'u', 't'] <:+ piece := by
      rw [List.isPrefixOf_iff_prefix, ← List.reverse_prefix]
      rfl
    simp only [List.any_eq_true, isSuffix]
    rw [Text.exists_piece_iff (List.cons_ne_nil _ _) noBlank, or_iff_right noSuffix]
    exact holdsMut_characters written
  rw [receiverOfText, String.toList_ofList, (isTrimmed_characters written).dropOuterBlanks_eq,
    if_neg isAnd, ← isPiece]
  split
  next isAny => simp [isAny]
  next noPiece => simp [noPiece]

/-- Only blanks stand between the tokens. -/
def OnlyBlanks : WrittenReceiver → Prop
  | value keyword => ∀ gap ∈ keyword, Text.AllBlank gap.text
  | reference gap lifetime keyword =>
      Text.AllBlank gap.text ∧ (∀ written ∈ lifetime, Text.AllBlank written.gap.text) ∧
        ∀ gap ∈ keyword, Text.AllBlank gap.text

/-- The name of the lifetime ends in `mut`. -/
def NamesMut : WrittenReceiver → Prop
  | value _ => False
  | reference _ lifetime _ => ∃ written ∈ lifetime, ['m', 'u', 't'] <:+ written.name

theorem not_holdsMut_of_allBlank {text : List Char} (areBlank : Text.AllBlank text) :
    ¬HoldsMut text := by
  rintro ⟨before, separator, after, -, rfl⟩
  have isBlank := areBlank 'm' (by simp)
  exact absurd isBlank (by decide +kernel)

theorem beginsBlank_of_allBlank {gap : PartingGap} (areBlank : Text.AllBlank gap.text) :
    BeginsBlank gap.text := by
  obtain ⟨first, rest, isText⟩ := List.exists_cons_of_ne_nil gap.parts
  rw [isText] at areBlank
  rw [BeginsBlank, isText]
  exact areBlank first List.mem_cons_self

/-- Without comments, `mut` is shown by the keyword and by a lifetime of such a name. -/
theorem showsMut_of_onlyBlanks {gap : Gap} {lifetime : Option WrittenLifetime}
    {keyword : Option PartingGap} (onlyBlanks : (reference gap lifetime keyword).OnlyBlanks) :
    (reference gap lifetime keyword).ShowsMut ↔
      (reference gap lifetime keyword).NamesMut ∨ keyword.isSome = true := by
  obtain ⟨ofGap, ofLifetime, ofKeyword⟩ := onlyBlanks
  have isLifetime : LifetimeShowsMut lifetime ↔ (reference gap lifetime keyword).NamesMut := by
    refine exists_congr fun written => and_congr_right fun isWritten => ?_
    have areBlank := ofLifetime written isWritten
    simp [beginsBlank_of_allBlank areBlank, not_holdsMut_of_allBlank areBlank]
  have isKeyword : KeywordShowsMut keyword ↔ keyword.isSome = true := by
    rw [Option.isSome_iff_exists]
    refine exists_congr fun behind => and_iff_left_of_imp fun isBehind => .inl ?_
    exact beginsBlank_of_allBlank (ofKeyword behind isBehind)
  rw [ShowsMut, isLifetime, isKeyword, or_iff_right (not_holdsMut_of_allBlank ofGap)]

/-- A receiver is taken for an owned one just when it is no reference, and for an exclusive one just
when it is one and `mut` stands right before a blank in it. So a reference is taken for what it is
unless `mut` is shown without the keyword or the keyword is not shown; without comments, unless a
lifetime whose name ends in `mut` stands in a shared one. -/
theorem receiverOfText_written (written : WrittenReceiver) :
    (receiverOfText (String.ofList written.characters) = .owned ↔ written.meaning = .owned) ∧
      (receiverOfText (String.ofList written.characters) = .exclusive ↔
        written.meaning ≠ .owned ∧ written.ShowsMut) ∧
      (receiverOfText (String.ofList written.characters) = written.meaning ↔
        written.meaning = .owned ∨ (written.ShowsMut ↔ written.meaning = .exclusive)) ∧
      (written.OnlyBlanks → (receiverOfText (String.ofList written.characters) = written.meaning ↔
        ¬(written.meaning = .shared ∧ written.NamesMut))) := by
  cases written with
  | value keyword => simp [receiverOfText_value, meaning]
  | reference gap lifetime keyword =>
      obtain ⟨noValue, isExclusive⟩ := receiverOfText_reference gap lifetime keyword
      have noOwned : (reference gap lifetime keyword).meaning ≠ .owned := by
        cases keyword <;> nofun
      have isMeant : receiverOfText (String.ofList (reference gap lifetime keyword).characters) =
          (reference gap lifetime keyword).meaning ↔ ((reference gap lifetime keyword).ShowsMut ↔
            (reference gap lifetime keyword).meaning = .exclusive) := by
        rw [← isExclusive]
        generalize receiverOfText _ = taken at noValue ⊢
        generalize (reference gap lifetime keyword).meaning = meant at noOwned ⊢
        cases taken <;> cases meant <;> simp_all
      refine ⟨iff_of_false noValue noOwned, ?_, ?_, fun onlyBlanks => ?_⟩
      · rw [isExclusive, and_iff_right noOwned]
      · rw [isMeant, or_iff_right noOwned]
      · rw [isMeant, showsMut_of_onlyBlanks onlyBlanks]
        cases keyword <;> simp [meaning]

example : receiverOfText "&'light_mut self" = .exclusive := by decide +kernel

end WrittenReceiver

end Source

end ForwardingProxy
