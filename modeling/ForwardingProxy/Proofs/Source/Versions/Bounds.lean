import ForwardingProxy.Proofs.Source.Versions.Types
import ForwardingProxy.Source.BoundList

/-!
Contract: both versions of a text read the same bounds.

Owns: the readings of bound lists and `where` clauses, each of which goes the same way in both
versions.
-/

namespace ForwardingProxy.Source

variable {slots rest passed all : List Slot} {version : Version}

theorem enough_typeFuel (slots : List Slot) (version : Version) :
    4 * slots.length + 4 ≤ typeFuel (tokensOn version slots) := by
  have isShorter := length_le_tokensOn version slots
  unfold typeFuel
  omega

/-- Both versions read the same operand. -/
theorem reads_readTerm? (slots : List Slot) :
    Reads TypesAgree slots fun version =>
      readTerm? (typeFuel (tokensOn version slots)) (tokensOn version slots) :=
  (typesRead slots).term fun version => Nat.le_trans (by omega) (enough_typeFuel slots version)

/-- Both versions read the same type. -/
theorem reads_readType? (slots : List Slot) :
    Reads Settled slots fun version => readType? (tokensOn version slots) :=
  (typesRead slots).sum fun version => Nat.le_trans (by omega) (enough_typeFuel slots version)

theorem commentBounds_on (version : Version) (slots : List Slot) :
    commentBounds (tokensOn version slots) = commentBounds (faces slots) := by
  cases slots with
  | nil => rfl
  | cons slot rest => cases slot <;> rfl

theorem reads_readBound? (slots : List Slot) :
    Reads Settled slots fun version => readBound? (tokensOn version slots) := by
  simp only [readBound?, startsWithLifetime_on, startsWithMark_on]
  refine .branch (fun starts => ?_) fun _ => ?_
  · obtain ⟨shared, rest, rfl, areBehind⟩ := drop_of_startsWithKind starts (by decide)
    simp only [areBehind]
    have agrees : Settled [.token shared] fun _ => ([] : List TypeSyntax) := fun _ => rfl
    exact .passes List.singleton_append.symm (fun _ => rfl) agrees
  · cases mayLand_skipCaptures? slots with
    | @lands captured isLast isSome =>
        simp only [isSome]
        have lands : MayLand captured fun version =>
            skipAddend? (typeFuel (tokensOn version slots)) (tokensOn version captured) :=
          (typesRead captured).addend fun version => by
            have isEnough := enough_typeFuel slots version
            have isShorter := isLast.length_le
            omega
        refine lands.bindReads fun after isFurther => ?_
        obtain ⟨bound, isAll⟩ := isFurther.trans isLast
        exact .passes isAll.symm (fun _ => rfl) fun plain =>
          congrArg (fun text => [TypeSyntax.unsupported text]) (settled_textUntil isAll.symm plain)
    | nowhere isNone =>
        simp only [isNone]
        refine (reads_readTerm? slots).bind List.suffix_rfl
          fun before passed after type isAll isRest agree => ?_
        refine .passes isRest (fun _ => rfl) fun plain => ?_
        simp only [agree.1 plain]

/-- Where there are no fewer steps than places, none are left only at the end. -/
theorem tokensOn_of_noSteps {steps : Nat} (enough : slots.length ≤ steps) (noSteps : steps = 0) :
    tokensOn version slots = [] := by
  subst noSteps
  obtain rfl := List.length_eq_zero_iff.mp (Nat.le_zero.mp enough)
  rfl

theorem joinCaptures_step (all : List Token) (bound : List TypeSyntax) {tokens : List Token}
    {steps : Nat} (enough : steps = 0 → tokens = []) :
    joinCaptures all steps bound tokens =
      if startsWithMark ["+"] tokens then
        (skipCaptures? (tokens.drop 1)).elim (bound, tokens) fun after =>
          joinCaptures all (steps - 1) [.unsupported (textUntil all after)] after
      else (bound, tokens) := by
  cases steps with
  | zero =>
      rw [enough rfl]
      rfl
  | succ fewer =>
      rw [joinCaptures]
      cases skipCaptures? (tokens.drop 1) <;> rfl

theorem reads_joinCaptures (isAll : all = passed ++ slots) {fuel : Version → Nat}
    (enough : ∀ version, slots.length ≤ fuel version) {bound : Version → List TypeSyntax}
    (settled : Settled passed bound) :
    Reads Settled all fun version =>
      some (joinCaptures (tokensOn version all) (fuel version) (bound version)
        (tokensOn version slots)) := by
  induction isLength : slots.length using Nat.strong_induction_on
    generalizing slots passed fuel bound with
  | _ length inductionHypothesis =>
      subst isLength
      have ends : Reads Settled all fun version => some (bound version, tokensOn version slots) :=
        .passes isAll (fun _ => rfl) settled
      simp only [fun version => joinCaptures_step (tokensOn version all) (bound version)
        (@tokensOn_of_noSteps _ version _ (enough version)), startsWithMark_on, apply_ite some]
      refine .branch (fun starts => ?_) fun _ => ends
      obtain ⟨shared, rest, rfl, areBehind⟩ := drop_of_startsWithMark starts (by decide)
      simp only [areBehind]
      cases mayLand_skipCaptures? rest with
      | nowhere isNone =>
          simp only [isNone, Option.elim_none]
          exact ends
      | @lands after isLast isSome =>
          simp only [isSome, Option.elim_some]
          obtain ⟨captures, rfl⟩ := isLast
          have isAllBehind : all = (passed ++ .token shared :: captures) ++ after := by
            rw [isAll, List.append_assoc]
            rfl
          have isShorter : after.length < (Slot.token shared :: (captures ++ after)).length := by
            simp only [List.length_cons, List.length_append]
            omega
          refine inductionHypothesis after.length isShorter isAllBehind (fun version => ?_)
            (fun plain => congrArg (fun text => [TypeSyntax.unsupported text])
              (settled_textUntil isAllBehind plain)) rfl
          exact Nat.le_sub_one_of_lt (Nat.lt_of_lt_of_le isShorter (enough version))

theorem reads_readFirstBound? (slots : List Slot) :
    Reads Settled slots fun version => readFirstBound? (tokensOn version slots) := by
  refine (reads_readBound? slots).bind List.suffix_rfl
    fun before passed after bound isAll isRest settled => ?_
  simp only [startsWithWord_on]
  refine Reads.congr (@Reads.branch _ _ _ (startsWithWord ["for"] (faces slots) = true) _ _ _
    (fun _ => ?_) fun _ => ?_) fun version => apply_ite some _ _ _
  · exact .passes isRest (fun _ => rfl) settled
  · refine reads_joinCaptures isRest (fun version => ?_) settled
    rw [isRest]
    exact Nat.le_trans (by simp) (length_le_tokensOn version _)

theorem readFurtherBounds_step {tokens : List Token} {steps : Nat}
    (enough : steps = 0 → tokens = []) :
    readFurtherBounds steps tokens =
      if startsWithMark ["+"] tokens then
        (readBound? (tokens.drop 1)).elim ([], tokens) fun read =>
          (commentBounds tokens ++ commentBounds (tokens.drop 1) ++ read.1 ++
              (readFurtherBounds (steps - 1) read.2).1,
            (readFurtherBounds (steps - 1) read.2).2)
      else ([], tokens) := by
  cases steps with
  | zero =>
      rw [enough rfl]
      rfl
  | succ fewer =>
      rw [readFurtherBounds]
      cases readBound? (tokens.drop 1) <;> rfl

theorem reads_readFurtherBounds {fuel : Version → Nat}
    (enough : ∀ version, slots.length ≤ fuel version) :
    Reads Settled slots fun version =>
      some (readFurtherBounds (fuel version) (tokensOn version slots)) := by
  induction isLength : slots.length using Nat.strong_induction_on generalizing slots fuel with
  | _ length inductionHypothesis =>
      subst isLength
      have agrees : Settled [] fun _ => ([] : List TypeSyntax) := fun _ => rfl
      have ends : Reads Settled slots fun version => some ([], tokensOn version slots) :=
        .passes (List.nil_append slots).symm (fun _ => rfl) agrees
      simp only [fun version => readFurtherBounds_step
        (@tokensOn_of_noSteps _ version _ (enough version)), startsWithMark_on, apply_ite some]
      refine .branch (fun starts => ?_) fun _ => ends
      obtain ⟨shared, rest, rfl, areBehind⟩ := drop_of_startsWithMark starts (by decide)
      simp only [areBehind, commentBounds_on]
      cases reads_readBound? rest with
      | fails isNone =>
          simp only [isNone, Option.elim_none]
          exact ends
      | @passes passed after bound isRest isSome settled =>
          subst isRest
          simp only [isSome, Option.elim_some]
          have isShorter : after.length < (Slot.token shared :: (passed ++ after)).length := by
            simp only [List.length_cons, List.length_append]
            omega
          obtain ⟨further, last, others, rfl, areOthers, settledOthers⟩ :=
            (inductionHypothesis after.length isShorter (fun version =>
              Nat.le_sub_one_of_lt (Nat.lt_of_lt_of_le isShorter (enough version)))
              rfl).exists_of_some
          simp only [areOthers]
          have isAll : .token shared :: (passed ++ (further ++ last)) =
              (.token shared :: (passed ++ further)) ++ last := by simp
          refine .passes isAll (fun _ => rfl) fun plain => ?_
          have ofPassed := plain.of_suffix (suffix_cons _ _)
          simp only [settled ofPassed.left, settledOthers ofPassed.right]

theorem reads_readBounds (slots : List Slot) :
    Reads Settled slots fun version => some (readBounds (tokensOn version slots)) := by
  simp only [readBounds, commentBounds_on]
  cases reads_readFirstBound? slots with
  | fails isNone =>
      simp only [isNone]
      have agrees : Settled [] fun _ => ([] : List TypeSyntax) := fun _ => rfl
      exact .passes (List.nil_append slots).symm (fun _ => rfl) agrees
  | @passes passed after bound isAll isSome settled =>
      simp only [isSome]
      obtain ⟨further, last, others, rfl, areOthers, settledOthers⟩ :=
        (@reads_readFurtherBounds after (fun version => (tokensOn version after).length)
          fun version => length_le_tokensOn version after).exists_of_some
      simp only [areOthers]
      rw [← List.append_assoc] at isAll
      refine .passes isAll (fun _ => rfl) fun plain => ?_
      simp only [settled plain.left, settledOthers plain.right]

/-! ### `where` clauses -/

theorem mayLand_skipBounded? (slots : List Slot) :
    MayLand slots fun version => skipBounded? (tokensOn version slots) := by
  simp only [skipBounded?, startsWithLifetime_on]
  refine .branch (fun starts => ?_) fun _ => (reads_readTerm? slots).mayLand
  obtain ⟨shared, rest, rfl, areBehind⟩ := drop_of_startsWithKind starts (by decide)
  simp only [areBehind]
  exact (Lands.of_suffix (suffix_cons _ rest)).mayLand

theorem skipPredicates_step {tokens : List Token} {steps : Nat}
    (enough : steps = 0 → tokens = []) :
    skipPredicates steps tokens =
      (skipBounded? tokens).elim tokens fun bounds =>
        if startsWithMark [":"] bounds then
          let after := (readBounds (bounds.drop 1)).2
          if startsWithMark [","] after then skipPredicates (steps - 1) (after.drop 1) else after
        else tokens := by
  cases steps with
  | zero =>
      rw [enough rfl]
      rfl
  | succ fewer =>
      rw [skipPredicates]
      cases skipBounded? tokens <;> rfl

theorem lands_skipPredicates {fuel : Version → Nat}
    (enough : ∀ version, slots.length ≤ fuel version) :
    Lands slots fun version => skipPredicates (fuel version) (tokensOn version slots) := by
  induction isLength : slots.length using Nat.strong_induction_on generalizing slots fuel with
  | _ length inductionHypothesis =>
      subst isLength
      have stays : Lands slots fun version => tokensOn version slots := .of_suffix List.suffix_rfl
      simp only [fun version => skipPredicates_step
        (@tokensOn_of_noSteps _ version _ (enough version))]
      cases mayLand_skipBounded? slots with
      | nowhere isNone =>
          simp only [isNone, Option.elim_none]
          exact stays
      | lands isLast isSome =>
          simp only [isSome, Option.elim_some, startsWithMark_on]
          refine .branch (fun starts => ?_) fun _ => stays
          obtain ⟨colon, behindColon, rfl, areBehind⟩ := drop_of_startsWithMark starts (by decide)
          obtain ⟨passed, after, bounds, rfl, areRead, -⟩ :=
            (reads_readBounds behindColon).exists_of_some
          simp only [areBehind, areRead, startsWithMark_on]
          have isAfter : after <:+ slots :=
            ((List.suffix_append passed after).trans (suffix_cons _ _)).trans isLast
          refine .branch (fun starts => ?_) fun _ => .of_suffix isAfter
          obtain ⟨comma, rest, rfl, areBehind⟩ := drop_of_startsWithMark starts (by decide)
          simp only [areBehind]
          have isShorter : rest.length < slots.length := isAfter.length_le
          exact (inductionHypothesis rest.length isShorter (fun version =>
            Nat.le_sub_one_of_lt (Nat.lt_of_lt_of_le isShorter (enough version))) rfl).mono
            ((suffix_cons _ rest).trans isAfter)

theorem lands_skipWhere (slots : List Slot) :
    Lands slots fun version => skipWhere (tokensOn version slots) := by
  simp only [skipWhere, startsWithWord_on]
  refine .branch (fun starts => ?_) fun _ => .of_suffix List.suffix_rfl
  obtain ⟨shared, rest, rfl, areBehind⟩ := drop_of_startsWithWord starts
  simp only [areBehind]
  refine (lands_skipPredicates fun version => ?_).mono (suffix_cons _ rest)
  exact (Nat.le_succ _).trans (length_le_tokensOn version (.token shared :: rest))

end ForwardingProxy.Source
