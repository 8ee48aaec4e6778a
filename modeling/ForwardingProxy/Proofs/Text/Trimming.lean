import ForwardingProxy.Text.Blank
import ForwardingProxy.Text.Identifier
import ForwardingProxy.Text.Split
import Mathlib.Data.List.Basic

/-!
Contract: texts with blanks around them and marks between them.

Owns: `AllBlank` and `IsTrimmed`, what trimming takes away, and the fact that the pieces of a text
make up the text again.

Does not own: pieces between `::`; see `Segments`.
-/

namespace ForwardingProxy.Text

/-! ### Tables of characters -/

/-- The code points from the first to the last one of a range, whatever its stride. -/
def CodeRange.span (range : CodeRange) : List Nat :=
  List.range' range.first (range.last + 1 - range.first)

/-- What holds of all code points between the ends of the ranges holds of those in the table. -/
theorem CodeRange.test_of_anyContains (test : Nat → Bool) {ranges : List CodeRange}
    (passes : (ranges.flatMap span).all test = true) {code : Nat}
    (isInside : anyContains ranges code = true) : test code = true := by
  induction ranges with
  | nil => cases isInside
  | cons range rest inductionHypothesis =>
      rw [List.flatMap_cons, List.all_append, Bool.and_eq_true] at passes
      rw [anyContains] at isInside
      split at isInside
      · cases isInside
      rcases Bool.or_eq_true_iff.mp isInside with inFirst | inRest
      · simp only [contains, Bool.and_eq_true, decide_eq_true_eq] at inFirst
        refine List.all_eq_true.mp passes.1 code (List.mem_range'_1.mpr ?_)
        omega
      · exact inductionHypothesis passes.2 inRest

theorem isBlank_of_continuesIdentifier {character : Char}
    (continues : continuesIdentifier character = true) : isBlank character = false := by
  refine Bool.eq_false_iff.mpr fun blank => ?_
  have stops : (!continuesIdentifier (Char.ofNat character.toNat)) = true :=
    CodeRange.test_of_anyContains (fun code => !continuesIdentifier (Char.ofNat code))
      (by decide +kernel) blank
  rw [Char.ofNat_toNat, continues] at stops
  cases stops

/-! ### Blanks -/

/-- Nothing but white space. -/
def AllBlank (text : List Char) : Prop :=
  ∀ character ∈ text, isBlank character = true

instance (text : List Char) : Decidable (AllBlank text) :=
  decidable_of_iff (text.all isBlank = true) List.all_eq_true

/-- The text neither begins nor ends with a blank. -/
structure IsTrimmed (text : List Char) : Prop where
  begins : ∀ first, text.head? = some first → isBlank first = false
  ends : ∀ last, text.getLast? = some last → isBlank last = false

theorem AllBlank.nil : AllBlank [] :=
  List.forall_mem_nil _

theorem AllBlank.append {before after : List Char} (areBefore : AllBlank before)
    (areAfter : AllBlank after) : AllBlank (before ++ after) :=
  List.forall_mem_append.mpr ⟨areBefore, areAfter⟩

theorem isTrimmed_of_noBlanks {text : List Char}
    (noBlanks : ∀ character ∈ text, isBlank character = false) : IsTrimmed text where
  begins := fun first isFirst => noBlanks first (List.mem_of_head? isFirst)
  ends := fun last isLast => noBlanks last (List.mem_of_getLast? isLast)

/-- What is trimmed stands between blanks. -/
theorem exists_blanks (text : List Char) : ∃ before after, AllBlank before ∧ AllBlank after ∧
    text = before ++ dropOuterBlanks text ++ after := by
  let rest := text.dropWhile isBlank
  have isRest : rest = dropOuterBlanks text ++ (rest.reverse.takeWhile isBlank).reverse := by
    rw [dropOuterBlanks, dropEndBlanks, ← List.reverse_append, List.takeWhile_append_dropWhile,
      List.reverse_reverse]
  refine ⟨text.takeWhile isBlank, (rest.reverse.takeWhile isBlank).reverse, ?_, ?_, ?_⟩
  · exact List.all_eq_true.mp List.all_takeWhile
  · intro character member
    exact List.all_eq_true.mp List.all_takeWhile character (List.mem_reverse.mp member)
  · rw [List.append_assoc, ← isRest, List.takeWhile_append_dropWhile]

theorem dropOuterBlanks_blanks_append {blanks : List Char} (areBlank : AllBlank blanks)
    (text : List Char) : dropOuterBlanks (blanks ++ text) = dropOuterBlanks text := by
  rw [dropOuterBlanks, List.dropWhile_append_of_pos areBlank, dropOuterBlanks]

theorem dropEndBlanks_append_blanks {blanks : List Char} (areBlank : AllBlank blanks)
    (text : List Char) : dropEndBlanks (text ++ blanks) = dropEndBlanks text := by
  have areBlankBackwards : ∀ character ∈ blanks.reverse, isBlank character = true :=
    fun character member => areBlank character (List.mem_reverse.mp member)
  rw [dropEndBlanks, List.reverse_append, List.dropWhile_append_of_pos areBlankBackwards,
    dropEndBlanks]

theorem dropOuterBlanks_append_blanks {blanks : List Char} (areBlank : AllBlank blanks)
    (text : List Char) : dropOuterBlanks (text ++ blanks) = dropOuterBlanks text := by
  rw [dropOuterBlanks, dropOuterBlanks, List.dropWhile_append]
  split
  next isEmpty =>
    have dropped : (blanks ++ []).dropWhile isBlank = [] := List.dropWhile_append_of_pos areBlank
    rw [List.append_nil] at dropped
    rw [dropped, List.isEmpty_iff.mp isEmpty]
  next => exact dropEndBlanks_append_blanks areBlank _

theorem IsTrimmed.dropOuterBlanks_eq {text : List Char} (isTrimmed : IsTrimmed text) :
    dropOuterBlanks text = text := by
  have stays : ∀ {characters : List Char},
      (∀ first, characters.head? = some first → isBlank first = false) →
        characters.dropWhile isBlank = characters := by
    intro characters begins
    cases characters with
    | nil => rfl
    | cons first rest => rw [List.dropWhile_cons_of_neg (by simp [begins first rfl])]
  rw [dropOuterBlanks, stays isTrimmed.begins, dropEndBlanks, stays, List.reverse_reverse]
  intro last isLast
  rw [List.head?_reverse] at isLast
  exact isTrimmed.ends last isLast

/-- Trimming finds a trimmed text between blanks. -/
theorem IsTrimmed.dropOuterBlanks_between {before text after : List Char}
    (isTrimmed : IsTrimmed text) (areBefore : AllBlank before) (areAfter : AllBlank after) :
    dropOuterBlanks (before ++ text ++ after) = text := by
  rw [dropOuterBlanks_append_blanks areAfter, dropOuterBlanks_blanks_append areBefore,
    isTrimmed.dropOuterBlanks_eq]

theorem dropOuterBlanks_eq_nil_iff {text : List Char} :
    dropOuterBlanks text = [] ↔ AllBlank text := by
  constructor
  · intro isEmpty
    obtain ⟨before, after, areBefore, areAfter, isText⟩ := exists_blanks text
    rw [isText, isEmpty, List.append_nil]
    exact areBefore.append areAfter
  · intro areBlank
    have dropped := dropOuterBlanks_blanks_append areBlank []
    rw [List.append_nil] at dropped
    exact dropped

/-! ### Pieces -/

theorem splitAt_ne_nil (isSeparator : Char → Bool) (text : List Char) :
    splitAt isSeparator text ≠ [] := by
  cases text with
  | nil => exact List.cons_ne_nil _ _
  | cons character rest =>
      rw [splitAt]
      split
      · exact List.cons_ne_nil _ _
      · split <;> exact List.cons_ne_nil _ _

variable {isSeparator : Char → Bool}

theorem splitAt_of_none {piece : List Char}
    (none : ∀ character ∈ piece, isSeparator character = false) :
    splitAt isSeparator piece = [piece] := by
  induction piece with
  | nil => rfl
  | cons character rest inductionHypothesis =>
      rw [List.forall_mem_cons] at none
      simp [splitAt, none.1, inductionHypothesis none.2]

theorem splitAt_append {piece : List Char}
    (none : ∀ character ∈ piece, isSeparator character = false) {mark : Char}
    (isMark : isSeparator mark = true) (rest : List Char) :
    splitAt isSeparator (piece ++ mark :: rest) = piece :: splitAt isSeparator rest := by
  induction piece with
  | nil => simp [splitAt, isMark]
  | cons character piece inductionHypothesis =>
      rw [List.forall_mem_cons] at none
      simp [splitAt, none.1, inductionHypothesis none.2]

/-- A separator cuts the pieces before it from those behind it. -/
theorem splitAt_append_mark {mark : Char} (isMark : isSeparator mark = true)
    (before after : List Char) :
    splitAt isSeparator (before ++ mark :: after) =
      splitAt isSeparator before ++ splitAt isSeparator after := by
  induction before with
  | nil => simp [splitAt, isMark]
  | cons character rest inductionHypothesis =>
      obtain ⟨piece, pieces, cut⟩ := List.exists_cons_of_ne_nil (splitAt_ne_nil isSeparator rest)
      rw [List.cons_append, splitAt, splitAt, inductionHypothesis, cut]
      by_cases separates : isSeparator character = true
      · simp [separates]
      · simp [separates]

/-- The pieces with the separator between them are the text. -/
theorem intercalate_splitAt (separator : Char) (text : List Char) :
    [separator].intercalate (splitAt (· == separator) text) = text := by
  induction text with
  | nil => rfl
  | cons character rest inductionHypothesis =>
      obtain ⟨piece, pieces, cut⟩ :=
        List.exists_cons_of_ne_nil (splitAt_ne_nil (· == separator) rest)
      rw [cut] at inductionHypothesis
      rw [splitAt, cut]
      by_cases isMark : character = separator
      · rw [if_pos (by simpa using isMark), List.intercalate_cons_cons, inductionHypothesis,
          isMark]
        rfl
      · rw [if_neg (by simpa using isMark)]
        cases pieces with
        | nil => simpa using inductionHypothesis
        | cons next others =>
            rw [List.intercalate_cons_cons] at inductionHypothesis ⊢
            rw [← inductionHypothesis]
            rfl

end ForwardingProxy.Text
