import ForwardingProxy.Proofs.Source.UseReading
import ForwardingProxy.Proofs.Source.Versions.Brackets

/-!
Contract: both versions of a text read the same paths.

Owns: the readings of paths, and of what stands in a type besides paths and other types, each of
which goes the same way in both versions.
-/

namespace ForwardingProxy.Source

variable {slots rest passed all : List Slot} {version : Version}

theorem exists_fewer {fuel : Version → Nat} {least : Nat}
    (enough : ∀ version, least + 1 ≤ fuel version) :
    ∃ fewer : Version → Nat, fuel = (fun version => fewer version + 1) ∧
      ∀ version, least ≤ fewer version := by
  refine ⟨fun version => fuel version - 1, funext fun version => ?_, fun version => ?_⟩
  · exact (Nat.sub_add_cancel (Nat.le_trans (Nat.le_add_left 1 least) (enough version))).symm
  · exact Nat.le_sub_one_of_lt (enough version)

/-! ### Paths -/

/-- Both versions see the end of a path, or both see the same next segment. -/
theorem endsPath_or (slots : List Slot) :
    (∀ version, EndsPath (tokensOn version slots)) ∨
      ∃ colons next rest, slots = .token colons :: .token next :: rest ∧
        (∀ version, (colons.on version).isMark "::" = true) ∧
        (next.kind = .word ∨
          next.kind ≠ .word ∧ ∀ version, (next.on version).isMark "<" = true) := by
  cases slots with
  | nil => exact .inl nofun
  | cons slot rest =>
      cases slot with
      | body body =>
          exact .inl fun version => endsPath_cons ((body.encloses version).noOther _ (by decide)) _
      | token colons =>
          by_cases areColons : (colons.on .original).isMark "::" = true
          · cases rest with
            | nil => exact .inl fun version separator next rest same => nomatch same
            | cons slot rest =>
                cases slot with
                | body body =>
                    refine .inl fun version => ?_
                    exact endsPath_colons _ (body.encloses version).isOpening (by decide) _
                | token next =>
                    by_cases isWord : next.kind = .word
                    · exact .inr ⟨colons, next, rest, rfl, fun _ => areColons, .inl isWord⟩
                    · by_cases isAngle : (next.on .original).isMark "<" = true
                      · exact .inr ⟨colons, next, rest, rfl, fun _ => areColons,
                          .inr ⟨isWord, fun _ => isAngle⟩⟩
                      · refine .inl fun version => ?_
                        rintro _ _ _ ⟨⟩ _
                        exact ⟨isWord, Bool.eq_false_of_not_eq_true isAngle⟩
          · have noColons := Bool.eq_false_of_not_eq_true areColons
            exact .inl fun version => @endsPath_cons (colons.on version) noColons _

theorem reads_furtherSegments (isAll : all = passed ++ slots) {fuel : Version → Nat}
    (enough : ∀ version, slots.length ≤ fuel version) {segments : Version → List String}
    (settled : Settled passed segments) :
    Reads Settled all fun version =>
      some (readFurtherSegments (tokensOn version all) (fuel version) (segments version)
        (tokensOn version slots)) := by
  induction isLength : slots.length using Nat.strong_induction_on
    generalizing slots passed fuel segments with
  | _ length inductionHypothesis =>
      subst isLength
      rcases endsPath_or slots with ends | ⟨colons, next, rest, rfl, areColons, isNext⟩
      · refine .passes isAll (fun version => ?_) settled
        rw [readFurtherSegments_end _ _ _ (ends version)]
      · simp only [List.length_cons] at enough
        obtain ⟨fewer, rfl, isEnough⟩ := exists_fewer enough
        rcases isNext with isWord | ⟨noWord, isAngle⟩
        · have isAllBehind : all = (passed ++ [.token colons, .token next]) ++ rest := by
            rw [isAll, List.append_assoc]
            rfl
          have settledBehind : Settled (passed ++ [.token colons, .token next])
              fun version => segments version ++ [next.text] :=
            fun plain => congrArg (· ++ [next.text]) (settled plain.left)
          refine (inductionHypothesis rest.length (by simp) isAllBehind
            (fun version => Nat.le_of_succ_le (isEnough version)) settledBehind rfl).congr
            fun version => ?_
          simp [readFurtherSegments, areColons, isWord]
        · obtain ⟨after, ⟨angles, rfl⟩, isAfter⟩ := lands_dropAngles 1 .outside rest
          have isAllBehind : all = (passed ++ .token colons :: .token next :: angles) ++ after := by
            rw [isAll, List.append_assoc]
            rfl
          have settledBehind : Settled (passed ++ .token colons :: .token next :: angles)
              fun version => [textUntil (tokensOn version all) (tokensOn version after)] :=
            fun plain => congrArg (fun text => [text]) (settled_textUntil isAllBehind plain)
          have shorter : after.length ≤ (angles ++ after).length := by simp
          have enoughBehind : ∀ version, after.length ≤ fewer version :=
            fun version => shorter.trans (Nat.le_of_succ_le (isEnough version))
          refine (inductionHypothesis after.length (Nat.lt_succ_of_lt (Nat.lt_succ_of_le shorter))
            isAllBehind enoughBehind settledBehind rfl).congr fun version => ?_
          simp [readFurtherSegments, areColons, noWord, isAngle, isAfter]

theorem reads_readPath (slots : List Slot) :
    Reads Settled slots fun version => some (readPath (tokensOn version slots)) := by
  have fromNothing (slots : List Slot) : Reads Settled slots fun version =>
      some (readFurtherSegments (tokensOn version slots) (tokensOn version slots).length []
        (tokensOn version slots)) :=
    reads_furtherSegments (List.nil_append slots).symm
      (fun version => length_le_tokensOn version slots) fun _ => rfl
  cases slots with
  | nil => exact fromNothing []
  | cons slot rest =>
      cases slot with
      | body body =>
          refine (fromNothing (.body body :: rest)).congr fun version => ?_
          have noAngle := (body.encloses version).noOther "<" (by decide)
          simp [readPath, body.kind, noAngle]
      | token shared =>
          have enough : ∀ version, rest.length ≤ (tokensOn version rest).length :=
            fun version => length_le_tokensOn version rest
          simp only [tokensOn_token, readPath, apply_ite some, Bool.or_eq_true, decide_eq_true_eq]
          simp only [Shared.kind_on, Shared.text_on, shared.isMark_on]
          refine .branch (fun _ => ?_) fun _ => .branch (fun _ => ?_) fun _ => ?_
          · exact reads_furtherSegments List.singleton_append.symm enough fun _ => rfl
          · obtain ⟨after, ⟨angles, rfl⟩, isAfter⟩ := lands_dropAngles 1 .outside rest
            have isAll : .token shared :: (angles ++ after) = (.token shared :: angles) ++ after :=
              rfl
            simp only [isAfter]
            refine reads_furtherSegments isAll (fun version => ?_) fun plain => ?_
            · refine Nat.le_trans ?_ (enough version)
              simp
            · exact congrArg (fun text => [text]) (settled_textUntil isAll plain)
          · exact fromNothing (.token shared :: rest)

theorem lands_readPath (slots : List Slot) :
    Lands slots fun version => (readPath (tokensOn version slots)).2 :=
  (reads_readPath slots).lands

/-! ### What stands in a type besides other types -/

/-- What both versions see is followed by the same places. -/
theorem drop_of_startsWithMark {marks : List String}
    (starts : startsWithMark marks (faces slots) = true) (noBrace : "\x7b" ∉ marks) :
    ∃ shared rest, slots = .token shared :: rest ∧
      ∀ version, (tokensOn version slots).drop 1 = tokensOn version rest := by
  obtain ⟨shared, rest, rfl, -⟩ := exists_of_startsWithMark starts noBrace
  exact ⟨shared, rest, rfl, fun _ => rfl⟩

theorem drop_of_startsWithWord {words : List String}
    (starts : startsWithWord words (faces slots) = true) :
    ∃ shared rest, slots = .token shared :: rest ∧
      ∀ version, (tokensOn version slots).drop 1 = tokensOn version rest := by
  obtain ⟨shared, rest, rfl, -⟩ := exists_of_startsWithWord starts
  exact ⟨shared, rest, rfl, fun _ => rfl⟩

theorem drop_of_startsWithKind {kind : Lexeme.Kind}
    (starts : startsWithKind kind (faces slots) = true) (noMark : kind ≠ .mark) :
    ∃ shared rest, slots = .token shared :: rest ∧
      ∀ version, (tokensOn version slots).drop 1 = tokensOn version rest := by
  obtain ⟨shared, rest, rfl, -⟩ := exists_of_startsWithKind starts noMark
  exact ⟨shared, rest, rfl, fun _ => rfl⟩

/-- Both versions see the same behind a token that both have. -/
theorem behindFirst_on {starts : Bool} {test : List Token → Bool}
    (isToken : starts = true → ∃ shared rest, slots = .token shared :: rest)
    (sees : ∀ rest, test (tokensOn version rest) = test (faces rest)) :
    (starts && test ((tokensOn version slots).drop 1)) =
      (starts && test ((faces slots).drop 1)) := by
  cases starts with
  | false => rfl
  | true =>
      obtain ⟨shared, rest, rfl⟩ := isToken rfl
      exact sees rest

theorem lands_skipAngles (slots : List Slot) :
    Lands slots fun version => (skipAngles (tokensOn version slots)).2 := by
  obtain ⟨found, rest, isLast, isRest⟩ := exists_skipAngles slots
  exact ⟨rest, isLast, fun version => congrArg Prod.snd (isRest version)⟩

theorem lands_skipFor (slots : List Slot) :
    Lands slots fun version => skipFor (tokensOn version slots) := by
  simp only [skipFor, startsWithWord_on]
  refine .branch (fun starts => ?_) fun _ => .of_suffix List.suffix_rfl
  obtain ⟨shared, rest, rfl, areBehind⟩ := drop_of_startsWithWord starts
  simp only [areBehind]
  exact (lands_skipAngles rest).mono (suffix_cons _ rest)

theorem skipFunctionQualifiers_cons (token : Token) (rest : List Token) :
    skipFunctionQualifiers (token :: rest) =
      if token.kind = .word &&
          ["async", "default", "const", "unsafe", "gen"].contains token.text then
        skipFunctionQualifiers rest
      else if token.isWord "extern" then
        skipFunctionQualifiers (if startsWithKind .literal rest then rest.drop 1 else rest)
      else token :: rest := by
  rw [skipFunctionQualifiers.eq_def]
  cases rest with
  | nil => simp [startsWithKind, skipFunctionQualifiers]
  | cons name more => simp [startsWithKind, apply_ite skipFunctionQualifiers]

theorem lands_skipFunctionQualifiers (slots : List Slot) :
    Lands slots fun version => skipFunctionQualifiers (tokensOn version slots) := by
  induction isLength : slots.length using Nat.strong_induction_on generalizing slots with
  | _ length inductionHypothesis =>
      subst isLength
      cases slots with
      | nil => exact .of_suffix List.suffix_rfl
      | cons slot rest =>
          have ofRest (further : List Slot) (isLast : further <:+ rest) :
              Lands (slot :: rest) fun version =>
                skipFunctionQualifiers (tokensOn version further) :=
            (inductionHypothesis further.length (Nat.lt_succ_of_le isLast.length_le) further
              rfl).mono (isLast.trans (suffix_cons slot rest))
          cases slot with
          | body body =>
              refine (Lands.of_suffix List.suffix_rfl).congr fun version => ?_
              simp [skipFunctionQualifiers_cons, Token.isWord, body.kind]
          | token shared =>
              simp only [tokensOn_token, skipFunctionQualifiers_cons, Bool.and_eq_true,
                decide_eq_true_eq]
              simp only [Shared.kind_on, Shared.text_on, shared.isWord_on, startsWithKind_on,
                apply_ite skipFunctionQualifiers]
              refine .branch (fun _ => ofRest rest List.suffix_rfl) fun _ => .branch (fun _ => ?_)
                fun _ => .of_suffix List.suffix_rfl
              refine .branch (fun starts => ?_) fun _ => ofRest rest List.suffix_rfl
              obtain ⟨name, behind, rfl, areBehind⟩ := drop_of_startsWithKind starts (by decide)
              simp only [areBehind]
              exact ofRest behind (suffix_cons _ behind)

theorem startsFunctionType_on (version : Version) (slots : List Slot) :
    startsFunctionType (tokensOn version slots) =
      startsFunctionType (tokensOn .original slots) := by
  obtain ⟨rest, -, isRest⟩ := lands_skipFunctionQualifiers slots
  simp only [startsFunctionType, isRest, startsWithWord_on]

theorem reads_macroGroup? (slots : List Slot) :
    Reads Inside slots fun version => macroGroup? (tokensOn version slots) := by
  simp only [macroGroup?, startsWithMark_on]
  refine .branch (fun starts => ?_) fun _ => .fails fun _ => rfl
  obtain ⟨shared, rest, rfl, areBehind⟩ := drop_of_startsWithMark starts (by decide)
  simp only [areBehind]
  refine (reads_group? rest).widen (suffix_cons _ rest) fun before passed value inside plain => ?_
  obtain ⟨places, areIn, arePlaces⟩ := inside plain.right
  exact ⟨places, areIn.trans (List.suffix_append before passed).isInfix, arePlaces⟩

theorem mayLand_skipCaptures? (slots : List Slot) :
    MayLand slots fun version => skipCaptures? (tokensOn version slots) := by
  simp only [skipCaptures?, startsWithWord_on]
  refine .branch (fun starts => ?_) fun _ => .nowhere fun _ => rfl
  obtain ⟨shared, rest, rfl, areBehind⟩ := drop_of_startsWithWord starts
  simp only [areBehind]
  exact ((lands_skipAngles rest).mono (suffix_cons _ rest)).mayLand

theorem mayLand_skipPlainOperand? (slots : List Slot) :
    MayLand slots fun version => skipPlainOperand? (tokensOn version slots) := by
  simp only [skipPlainOperand?, startsWithLifetime_on]
  refine .branch (fun starts => ?_) fun _ => mayLand_skipCaptures? slots
  obtain ⟨shared, rest, rfl, areBehind⟩ := drop_of_startsWithKind starts (by decide)
  simp only [areBehind]
  exact (Lands.of_suffix (suffix_cons _ rest)).mayLand

theorem mayLand_skipLiteral? (slots : List Slot) :
    MayLand slots fun version => skipLiteral? (tokensOn version slots) := by
  cases slots with
  | nil => exact .nowhere fun _ => rfl
  | cons slot rest =>
      cases slot with
      | body body =>
          refine .nowhere fun version => ?_
          have noMinus := (body.encloses version).noOther "-" (by decide)
          simp [skipLiteral?, Token.isWord, body.kind, noMinus]
      | token shared =>
          have isHead (version : Version) :
              ((tokensOn version rest).head?.any fun token => token.kind == .literal) =
                startsWithKind .literal (faces rest) :=
            startsWithKind_on .literal version rest
          simp only [tokensOn_token, skipLiteral?, Bool.and_eq_true, isHead, startsWithMark_on]
          simp only [Shared.kind_on, shared.isMark_on, shared.isWord_on]
          refine .branch (fun _ => .lands (suffix_cons _ rest) fun _ => rfl) fun _ =>
            .branch (fun starts => ?_) fun _ => .branch (fun _ => ?_) fun _ => .nowhere fun _ => rfl
          · obtain ⟨literal, behind, rfl, areBehind⟩ := drop_of_startsWithKind starts.2 (by decide)
            simp only [areBehind]
            exact .lands ((suffix_cons _ behind).trans (suffix_cons _ _)) fun _ => rfl
          · exact .lands (suffix_cons _ rest) fun _ => rfl

end ForwardingProxy.Source
