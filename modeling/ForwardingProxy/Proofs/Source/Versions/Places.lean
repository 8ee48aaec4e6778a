import ForwardingProxy.Proofs.Source.Versions.Parameters
import ForwardingProxy.Proofs.Source.Versions.Steps

/-!
Contract: places that both versions of a text share hold the same items in both.

Owns: `Source.DeclaresBoth`, the declaration that both versions read first; and the steps of the
reading of items up to a place where the versions differ, each of which goes to the same place in
both.
-/

namespace ForwardingProxy.Source

variable {slots rest passed before : List Slot} {moves : Nat → Nat → Prop} {run : Version → Run}

/-! ### Places that the versions share -/

theorem Plain.fitting (plain : Plain slots)
    (areMarks : ∀ version, MarksFit (tokensOn version slots)) : Fitting slots where
  marks := areMarks
  blocks areIn :=
    absurd (areIn.subset (List.mem_cons_of_mem _ List.mem_cons_self)) plain.not_body

theorem length_behindFirst (first : Token) (tokens : List Token) :
    (behindFirst (first :: tokens)).length ≤ tokens.length := by
  unfold behindFirst
  cases isAttribute : attribute? (first :: tokens) with
  | some read => exact Nat.le_of_lt_succ (length_attribute? isAttribute)
  | none =>
      cases isInner : skipInnerAttribute? (first :: tokens) with
      | some after => exact Nat.le_of_lt_succ (length_skipInnerAttribute? isInner)
      | none => exact length_shrink first tokens _

/-- Places that both versions have hold the same items, on their lines. -/
theorem behindMoved_plain (plain : Plain slots) (fitting : Fitting slots)
    (onLines : OnLines moves slots) (moved : (run .original).Moved moves (run .changed)) :
    BehindMoved moves run slots := by
  induction isLength : slots.length using Nat.strong_induction_on generalizing slots run with
  | _ length inductionHypothesis =>
      subst isLength
      have plainMoved : PlainMoved moves slots := by
        intro inside areIn isShorter plainInside
        show BehindMoved moves (fun _ => .empty) inside
        exact inductionHypothesis inside.length isShorter plainInside (fitting.of_infix areIn)
          (onLines.of_infix areIn) .empty rfl
      match slots, plain with
      | [], _ => exact .nil
      | .body body :: _, plain => exact absurd List.mem_cons_self plain.not_body
      | .token first :: before, plain =>
          have apart : StartsApart [] := fun _ => nofun
          rw [← List.append_nil before, ← List.cons_append] at fitting onLines plainMoved ⊢
          obtain ⟨passed, last, leads⟩ := exists_leads plain apart fitting onLines plainMoved moved
            (Nat.zero_le _)
          have isLast : last <:+ .token first :: before := by
            rw [← List.append_nil before, ← List.cons_append, leads.isAll]
            exact List.suffix_append passed last
          have isShorter : last.length < (Slot.token first :: before).length := by
            have fewer := length_behindFirst (first.on .original) (tokensOn .original (before ++ []))
            rw [← tokensOn_token, ← List.cons_append, leads.isBehind .original,
              length_tokensOn (plain.of_suffix isLast), List.append_nil,
              length_tokensOn (plain.of_suffix (suffix_cons _ before))] at fewer
            exact Nat.lt_succ_of_le fewer
          have plainPassed : Plain passed := by
            have isAll := leads.isAll
            rw [List.append_nil] at isAll
            exact (isAll ▸ plain : Plain (passed ++ last)).left
          rw [List.append_nil] at fitting onLines
          exact leads.moved (.inl plainPassed) fun run moved =>
            inductionHypothesis last.length isShorter (plain.of_suffix isLast)
              (fitting.of_suffix isLast) (onLines.of_infix isLast.isInfix) moved rfl

theorem itemsMoved_plain (plain : Plain slots) (fitting : Fitting slots)
    (onLines : OnLines moves slots) : ItemsMoved moves slots := by
  show BehindMoved moves (fun _ => .empty) slots
  exact behindMoved_plain plain fitting onLines .empty

/-! ### Where the reading goes on -/

section Tokens

variable {tokens after : List Token}

theorem plain_placesOf (tokens : List Token) : Plain (placesOf tokens) := by
  intro slot isIn
  obtain ⟨token, -, rfl⟩ := List.mem_map.mp isIn
  exact ⟨token.shared, rfl⟩

theorem fitting_placesOf (areMarks : MarksFit tokens) : Fitting (placesOf tokens) :=
  (plain_placesOf tokens).fitting fun version => by rwa [tokensOn_placesOf]

theorem MarksFit.of_suffix (areMarks : MarksFit tokens) (isLast : after <:+ tokens) :
    MarksFit after :=
  fun token isIn => areMarks token (isLast.subset isIn)

theorem suffix_readItem? (areMarks : MarksFit tokens) {head : Head} {item : Item}
    (isItem : readItem? itemsIn head tokens = some (item, after)) : after <:+ tokens := by
  have fitting := fitting_placesOf areMarks
  have onLines : OnLines Eq (placesOf tokens) := by
    intro slot isIn
    obtain ⟨token, -, rfl⟩ := List.mem_map.mp isIn
    rfl
  have plainMoved : PlainMoved Eq (placesOf tokens) := fun inside areIn _ plain =>
    itemsMoved_plain plain (fitting.of_infix areIn) (onLines.of_infix areIn)
  have moved : head.Moved Eq head := ⟨rfl, rfl⟩
  have reads := @reads_readItem? _ Eq (fun _ => head) moved fitting plainMoved
  exact reads.suffix isItem

theorem suffix_dropNoItem (areMarks : MarksFit tokens) : dropNoItem tokens <:+ tokens :=
  Lands.suffix (lands_dropNoItem (fitting_placesOf areMarks))

theorem skipVisibility_mark {text : String} {first : Token} (isMark : first.isMark text = true)
    (rest : List Token) : skipVisibility (first :: rest) = (false, first :: rest) := by
  have isKind : first.kind = .mark := beq_iff_eq.mp (Bool.and_eq_true_iff.mp isMark).1
  simp [skipVisibility, Token.isWord, isKind]

theorem suffix_skipVisibility (tokens : List Token) : (skipVisibility tokens).2 <:+ tokens := by
  have apart : StartsApart [] := fun _ => nofun
  obtain ⟨visible, declared, isLast, isVisible⟩ :=
    exists_skipVisibility (plain_placesOf tokens) apart (Nat.zero_le _)
  have isDeclared := isVisible .original
  rw [List.append_nil, List.append_nil, tokensOn_placesOf] at isDeclared
  obtain ⟨passed, isAll⟩ := isLast
  have whole := congrArg (tokensOn .original) isAll
  rw [tokensOn_append, tokensOn_placesOf] at whole
  rw [isDeclared]
  exact ⟨_, whole⟩

/-- The reading goes on behind the visibility that comes first. -/
theorem length_behindFirst_declared {first : Token} {rest : List Token}
    (areMarks : MarksFit (first :: rest)) :
    (behindFirst (first :: rest)).length ≤ (skipVisibility (first :: rest)).2.length := by
  have shorter := length_behindFirst first rest
  unfold behindFirst at shorter ⊢
  cases isAttribute : attribute? (first :: rest) with
  | some read =>
      simp only [isAttribute] at shorter
      rw [attribute?, Option.ite_none_right_eq_some] at isAttribute
      rw [skipVisibility_mark isAttribute.1]
      exact Nat.le_succ_of_le shorter
  | none =>
      cases isInner : skipInnerAttribute? (first :: rest) with
      | some after =>
          simp only [isAttribute, isInner] at shorter
          cases rest with
          | nil => cases isInner
          | cons second rest =>
              rw [skipInnerAttribute?, Option.ite_none_right_eq_some] at isInner
              rw [skipVisibility_mark (Bool.and_eq_true_iff.mp isInner.1).1]
              exact Nat.le_succ_of_le shorter
      | none =>
          have isDeclared := suffix_skipVisibility (first :: rest)
          generalize (skipVisibility (first :: rest)).2 = declared at isDeclared shorter ⊢
          have isLast : ((readItem? itemsIn noHead declared).map Prod.snd).getD
              (dropNoItem declared) <:+ declared := by
            have areDeclared := areMarks.of_suffix isDeclared
            cases isItem : readItem? itemsIn noHead declared with
            | some read => exact suffix_readItem? areDeclared isItem
            | none => exact suffix_dropNoItem areDeclared
          have isLonger := isLast.length_le
          dsimp only
          unfold shrink
          split <;> simp_all
          omega

end Tokens

theorem fitting_barePlaces (line : Version → Nat) (words : List String) (plain : Plain rest)
    (fitting : Fitting rest) : Fitting (barePlaces line words ++ rest) := by
  refine ((plain_barePlaces line words).append plain).fitting fun version token isIn => ?_
  rw [tokensOn_append, tokensOn_barePlaces] at isIn
  exact (List.mem_append.mp isIn).elim (marksFit_bareHeader _ words token)
    (fitting.marks version token)

/-! ### Declarations -/

/-- A declaration comes first, which goes on like that behind its visibility. -/
structure Declares (tokens declared : List Token) : Prop where
  noAttribute : attribute? tokens = none
  noInner : skipInnerAttribute? tokens = none
  isDeclared : (skipVisibility tokens).2 = declared

/-- Both versions read a declaration first, which goes on at the same place behind its
visibility. -/
structure DeclaresBoth (slots : List Slot) (visible : Bool) (places : List Slot) : Prop where
  isLast : places <:+ slots
  noAttribute (version : Version) : attribute? (tokensOn version slots) = none
  noInner (version : Version) : skipInnerAttribute? (tokensOn version slots) = none
  isVisible (version : Version) :
    skipVisibility (tokensOn version slots) = (visible, tokensOn version places)

theorem DeclaresBoth.declares {places : List Slot} {visible : Bool}
    (declares : DeclaresBoth slots visible places) (version : Version) :
    Declares (tokensOn version slots) (tokensOn version places) where
  noAttribute := declares.noAttribute version
  noInner := declares.noInner version
  isDeclared := by rw [declares.isVisible version]

section Places

variable {ahead : List Slot}

/-- What has no more tokens ends no later. -/
theorem suffix_of_length_le {other : List Slot} (isLast : rest <:+ slots)
    (isLastToo : other <:+ slots)
    (isShorter : (tokensOn .original rest).length ≤ (tokensOn .original other).length) :
    rest <:+ other := by
  rcases List.suffix_or_suffix_of_suffix isLast isLastToo with isFirst | isFirst
  · exact isFirst
  · have isSame : rest.length ≤ other.length := Nat.le_of_not_lt fun isLonger =>
      Nat.not_lt_of_le isShorter (length_tokensOn_lt isFirst isLonger .original)
    exact (isFirst.eq_of_length_le isSame) ▸ List.suffix_rfl

theorem eq_of_suffix {other : List Slot} (isLast : rest <:+ slots) (isLastToo : other <:+ slots)
    (same : tokensOn .original rest = tokensOn .original other) : rest = other :=
  (suffix_of_length_le isLast isLastToo (Nat.le_of_eq (congrArg List.length same))).eq_of_length_le
    (suffix_of_length_le isLastToo isLast
      (Nat.le_of_eq (congrArg List.length same.symm))).length_le

theorem exists_of_tokensOn_append {first second : List Token} (plain : Plain slots)
    (isAll : tokensOn .original slots = first ++ second) :
    ∃ ahead behind, slots = ahead ++ behind ∧ tokensOn .original ahead = first ∧
      tokensOn .original behind = second := by
  induction first generalizing slots with
  | nil => exact ⟨[], slots, rfl, rfl, isAll⟩
  | cons token first inductionHypothesis =>
      cases slots with
      | nil => cases isAll
      | cons slot rest =>
          obtain ⟨shared, rfl⟩ := plain slot List.mem_cons_self
          rw [tokensOn_token, List.cons_append, List.cons.injEq] at isAll
          obtain ⟨ahead, behind, rfl, isFirst, isSecond⟩ :=
            inductionHypothesis (plain.of_suffix (suffix_cons _ rest)) isAll.2
          refine ⟨.token shared :: ahead, behind, rfl, ?_, isSecond⟩
          rw [tokensOn_token, isAll.1, isFirst]

theorem exists_of_tokensOn_cons {token : Token} {tokens : List Token} (plain : Plain slots)
    (isAll : tokensOn .original slots = token :: tokens) :
    ∃ shared behind, slots = .token shared :: behind ∧ shared.on .original = token ∧
      tokensOn .original behind = tokens := by
  cases slots with
  | nil => cases isAll
  | cons slot rest =>
      obtain ⟨shared, rfl⟩ := plain slot List.mem_cons_self
      rw [tokensOn_token, List.cons.injEq] at isAll
      exact ⟨shared, rest, rfl, isAll.1, isAll.2⟩

/-- A declaration that begins before what the versions do not share begins at the same place in
both. -/
theorem exists_declared {declared : List Token} (plain : Plain ahead) (apart : StartsApart rest)
    (declares : Declares (tokensOn .original (ahead ++ rest)) declared)
    (isBefore : (tokensOn .original rest).length ≤ declared.length) :
    ∃ visible places, DeclaresBoth (ahead ++ rest) visible (places ++ rest) ∧
      tokensOn .original (places ++ rest) = declared := by
  rw [← declares.isDeclared] at isBefore ⊢
  obtain ⟨visible, places, ⟨hidden, isHidden⟩, isVisible⟩ :=
    exists_skipVisibility plain apart isBefore
  refine ⟨visible, places, ⟨⟨hidden, by rw [← isHidden, List.append_assoc]⟩, ?_, ?_, isVisible⟩,
    ?_⟩
  · cases reads_attribute? (ahead ++ rest) with
    | fails isNone => exact isNone
    | passes _ isSome => exact nomatch declares.noAttribute.symm.trans (isSome .original)
  · cases mayLand_skipInnerAttribute? (ahead ++ rest) with
    | nowhere isNone => exact isNone
    | lands _ isSome => exact nomatch declares.noInner.symm.trans (isSome .original)
  · rw [isVisible .original]

theorem onLines_any (slots : List Slot) : OnLines (fun _ _ => True) slots :=
  fun _ _ => trivial

variable (plainAhead : Plain ahead) (fitting : Fitting (ahead ++ rest))
  (onLines : OnLines moves (ahead ++ rest)) (moved : (run .original).Moved moves (run .changed))

theorem plainMoved_of (fitting : Fitting slots) (onLines : OnLines moves slots) :
    PlainMoved moves slots :=
  fun _ areIn _ plain => itemsMoved_plain plain (fitting.of_infix areIn) (onLines.of_infix areIn)

include plainAhead fitting onLines moved

theorem exists_leads_ahead (apart : StartsApart rest) (isBehind : ahead ≠ [])
    (isBefore : (tokensOn .original rest).length ≤
      (skipVisibility (tokensOn .original (ahead ++ rest))).2.length) :
    ∃ passed last, Leads moves run (ahead ++ rest) passed last := by
  match ahead, isBehind with
  | .body body :: _, _ => exact absurd List.mem_cons_self plainAhead.not_body
  | .token first :: before, _ =>
      exact exists_leads plainAhead apart fitting onLines (plainMoved_of fitting onLines) moved
        isBefore

/-- A step that the original goes is gone in both versions. -/
theorem exists_leads_behind {first further : List Slot} (isAhead : ahead = first ++ further)
    (apart : StartsApart rest) (isRest : rest ≠ [])
    (isBehind : behindFirst (tokensOn .original (first ++ (further ++ rest))) =
      tokensOn .original (further ++ rest)) :
    Leads moves run (ahead ++ rest) first (further ++ rest) := by
  subst isAhead
  have isLonger : (tokensOn .original rest).length ≤
      (tokensOn .original (further ++ rest)).length := by
    rw [tokensOn_append, List.length_append]
    exact Nat.le_add_left _ _
  have isNonempty : 0 < (tokensOn .original rest).length :=
    Nat.lt_of_lt_of_le (List.length_pos_iff.mpr isRest) (length_le_tokensOn .original rest)
  obtain ⟨start, others, isCons⟩ : ∃ start others,
      tokensOn .original (first ++ (further ++ rest)) = start :: others := by
    refine List.exists_cons_of_length_pos ?_
    rw [tokensOn_append, List.length_append]
    omega
  have isFurther := fitting.marks .original
  rw [List.append_assoc, isCons] at isFurther
  have isDeclared := length_behindFirst_declared isFurther
  rw [← isCons, isBehind] at isDeclared
  have isSome : first ≠ [] := by
    rintro rfl
    have fewer := length_behindFirst start others
    rw [← isCons, isBehind] at fewer
    rw [List.nil_append] at isCons
    rw [isCons, List.length_cons] at fewer
    omega
  obtain ⟨passed, last, leads⟩ := exists_leads_ahead plainAhead fitting onLines moved apart
    (List.append_ne_nil_of_left_ne_nil isSome further)
    (by rw [List.append_assoc]; exact Nat.le_trans isLonger isDeclared)
  have isAll := leads.isAll
  have isLast : last = further ++ rest := by
    refine @eq_of_suffix (first ++ (further ++ rest)) _ _ ⟨passed, ?_⟩ (List.suffix_append _ _) ?_
    · rw [← isAll, List.append_assoc]
    · rw [← leads.isBehind .original, List.append_assoc, isBehind]
  subst isLast
  rw [List.append_assoc, List.append_cancel_right_eq] at isAll
  subst isAll
  exact leads

end Places

end ForwardingProxy.Source
