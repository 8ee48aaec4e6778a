import ForwardingProxy.Proofs.Source.Versions.Slots

/-!
Contract: both versions of a text find the same ends of brackets.

Owns: the scans for the end of a group, of an angle bracket, of a statement and of a parameter, each
of which lands at the same place in both versions.

A group that the versions do not share is passed over by every scan, so no scan ends inside one.
-/

namespace ForwardingProxy.Source

variable {slots rest passed : List Slot}

theorem Shared.isMark_on (shared : Shared) (version : Version) (text : String) :
    (shared.on version).isMark text = (shared.on .original).isMark text := rfl

theorem Shared.isWord_on (shared : Shared) (version : Version) (text : String) :
    (shared.on version).isWord text = (shared.on .original).isWord text := rfl

theorem Depth.behind_on (depth : Depth) (shared : Shared) (version : Version) :
    depth.behind (shared.on version) = depth.behind (shared.on .original) := rfl

theorem Body.noMark (body : Body) (text : String) (differs : text ≠ "\x7b") :
    (body.opening.on .original).isMark text = false :=
  (body.encloses .original).noOther text differs

theorem suffix_cons (slot : Slot) (rest : List Slot) : rest <:+ slot :: rest :=
  List.suffix_cons slot rest

/-- No group of braces that the versions do not share comes first. -/
def StartsShared (slots : List Slot) : Prop :=
  ∀ body, slots.head? ≠ some (.body body)

theorem lands_drop (starts : StartsShared slots) :
    Lands slots fun version => (tokensOn version slots).drop 1 := by
  match slots, starts with
  | [], _ => exact .of_suffix List.suffix_rfl
  | .body body :: _, starts => exact absurd rfl (starts body)
  | .token shared :: rest, _ => exact .of_suffix (suffix_cons _ rest)

/-! ### Optional words -/

theorem lands_skipWord (words : List String) (slots : List Slot) :
    Lands slots fun version => skipWord words (tokensOn version slots) := by
  simp only [skipWord, startsWithWord_on]
  refine .branch (fun starts => ?_) (fun _ => .of_suffix List.suffix_rfl)
  obtain ⟨shared, rest, rfl, -, -⟩ := exists_of_startsWithWord starts
  exact .of_suffix (suffix_cons _ rest)

theorem lands_skipLifetime (slots : List Slot) :
    Lands slots fun version => skipLifetime (tokensOn version slots) := by
  simp only [skipLifetime, startsWithLifetime_on]
  refine .branch (fun starts => ?_) (fun _ => .of_suffix List.suffix_rfl)
  obtain ⟨shared, rest, rfl, -⟩ := exists_of_startsWithKind starts (by decide)
  exact .of_suffix (suffix_cons _ rest)

/-! ### Angle brackets -/

theorem lands_dropAngles (angles : Nat) (depth : Depth) (slots : List Slot) :
    Lands slots fun version => dropAngles angles depth (tokensOn version slots) := by
  induction slots generalizing angles depth with
  | nil => exact .of_suffix List.suffix_rfl
  | cons slot rest inductionHypothesis =>
      have ofRest angles depth := (inductionHypothesis angles depth).mono (suffix_cons slot rest)
      cases slot with
      | body body =>
          exact (ofRest angles depth).congr fun version =>
            (body.encloses version).dropAngles angles depth _
      | token shared =>
          simp only [tokensOn_token, dropAngles, shared.isMark_on, depth.behind_on]
          refine .branch (fun closes => ?_) fun _ =>
            .branch (fun _ => ofRest _ _) fun _ => ofRest _ _
          rcases angles with _ | _ | fewer
          · exact .of_suffix (suffix_cons _ rest)
          · exact .of_suffix (suffix_cons _ rest)
          · exact ofRest _ _

/-- Both versions find a list between angle brackets, or neither does. -/
theorem exists_skipAngles (slots : List Slot) :
    ∃ found rest, rest <:+ slots ∧
      ∀ version, skipAngles (tokensOn version slots) = (found, tokensOn version rest) := by
  by_cases starts : startsWithMark ["<"] (faces slots) = true
  · obtain ⟨shared, behind, rfl, isKind, isText⟩ := exists_of_startsWithMark starts (by decide)
    obtain ⟨rest, isLast, isRest⟩ := lands_dropAngles 1 .outside behind
    refine ⟨true, rest, isLast.trans (suffix_cons _ behind), fun version => ?_⟩
    simp_all [skipAngles, Token.isMark]
  · refine ⟨false, slots, List.suffix_rfl, fun version => ?_⟩
    rw [← startsWithMark_on _ version] at starts
    cases isTokens : tokensOn version slots with
    | nil => rfl
    | cons first rest =>
        rw [isTokens] at starts
        simp_all [skipAngles, startsWithMark, Token.isMark]

/-! ### Statements -/

/-- A test that does not see lines. -/
def Unlined (stops : Token → Bool) : Prop :=
  ∀ (shared : Shared) (version : Version),
    stops (shared.on version) = stops (shared.on .original)

theorem lands_dropPast {stops : Token → Bool} (unlined : Unlined stops)
    (noBrace : ∀ body : Body, stops (body.opening.on .original) = false) (depth : Depth)
    (slots : List Slot) :
    Lands slots fun version => (dropUntil stops depth (tokensOn version slots)).drop 1 := by
  induction slots generalizing depth with
  | nil => exact .of_suffix List.suffix_rfl
  | cons slot rest inductionHypothesis =>
      have ofRest depth := (inductionHypothesis depth).mono (suffix_cons slot rest)
      cases slot with
      | body body =>
          refine (ofRest depth).congr fun version => ?_
          have noStop := (unlined body.opening version).trans (noBrace body)
          exact congrArg (List.drop 1) ((body.encloses version).dropUntil noStop depth _)
      | token shared =>
          simp only [tokensOn_token, dropUntil, unlined shared, depth.behind_on,
            apply_ite (List.drop 1), List.drop_succ_cons, List.drop_zero]
          exact .branch (fun _ => .of_suffix (suffix_cons _ rest)) fun _ => ofRest _

theorem lands_dropPastMark {text : String} (noBrace : text ≠ "\x7b") (slots : List Slot) :
    Lands slots fun version =>
      (dropUntil (fun token => token.isMark text) .outside (tokensOn version slots)).drop 1 :=
  lands_dropPast (fun shared version => shared.isMark_on version text)
    (fun body => body.noMark text noBrace) .outside slots

theorem lands_dropStatement (slots : List Slot) :
    Lands slots fun version => dropStatement (tokensOn version slots) :=
  lands_dropPastMark (by decide) slots

/-! ### Parameters -/

/-- Both versions cut a parameter at the same place. -/
theorem exists_cutEntry (angles : Nat) (depth : Depth) (slots : List Slot) :
    ∃ passed rest, slots = passed ++ rest ∧ ∀ version,
      cutEntry angles depth (tokensOn version slots) =
        (tokensOn version passed, tokensOn version rest) := by
  induction slots generalizing angles depth with
  | nil => exact ⟨[], [], rfl, fun _ => rfl⟩
  | cons slot slots inductionHypothesis =>
      cases slot with
      | body body =>
          obtain ⟨passed, rest, rfl, areCut⟩ := inductionHypothesis angles depth
          refine ⟨.body body :: passed, rest, rfl, fun version => ?_⟩
          rw [tokensOn_body, (body.encloses version).cutEntry angles depth, areCut version]
          rfl
      | token shared =>
          by_cases ends : (depth = .outside ∧ angles = 0) ∧
              ((shared.on .original).isMark ":" = true ∨ (shared.on .original).isMark "," = true)
          · refine ⟨[], .token shared :: slots, rfl, fun version => ?_⟩
            simp [cutEntry, shared.isMark_on version, ends]
          · obtain ⟨passed, rest, rfl, areCut⟩ := inductionHypothesis
              (if depth = .outside && (shared.on .original).isMark "<" then angles + 1
                else if depth = .outside && (shared.on .original).isMark ">" then angles - 1
                else angles) (depth.behind (shared.on .original))
            refine ⟨.token shared :: passed, rest, rfl, fun version => ?_⟩
            rw [tokensOn_token, cutEntry, if_neg (by simpa [shared.isMark_on version] using ends)]
            exact congrArg (fun cut => (shared.on version :: cut.1, cut.2)) (areCut version)

/-! ### Groups -/

theorem length_cutGroup (opening closing : String) (depth : Nat) (tokens : List Token) :
    (cutGroup opening closing depth tokens).1.length +
      (cutGroup opening closing depth tokens).2.length ≤ tokens.length := by
  fun_induction cutGroup opening closing depth tokens <;> simp_all <;> omega

theorem length_cutOutside (opening closing : String) (depth braces : Nat) (tokens : List Token) :
    (cutOutside opening closing depth braces tokens).1.length +
      (cutOutside opening closing depth braces tokens).2.length ≤ tokens.length := by
  fun_induction cutOutside opening closing depth braces tokens <;> simp_all <;> omega

/-- A group has fewer tokens inside and behind it than there are. -/
theorem length_group? {tokens inside after : List Token}
    (isGroup : group? tokens = some (inside, after)) :
    inside.length + after.length < tokens.length := by
  cases tokens with
  | nil => cases isGroup
  | cons first rest =>
      rw [List.length_cons, Nat.lt_succ_iff]
      rw [group?, Option.ite_none_right_eq_some, Option.map_eq_some_iff] at isGroup
      obtain ⟨-, closing, -, isCut⟩ := isGroup
      split at isCut
      · have shorter := length_cutGroup first.text closing 1 rest
        rwa [isCut] at shorter
      · have shorter := length_cutOutside first.text closing 1 0 rest
        rwa [isCut] at shorter

theorem length_groupOf? {opening : String} {tokens inside after : List Token}
    (isGroup : groupOf? opening tokens = some (inside, after)) :
    inside.length + after.length < tokens.length := by
  rw [groupOf?, Option.ite_none_right_eq_some] at isGroup
  exact length_group? isGroup.2

/-- A token that closes nothing is inside. -/
theorem cutGroup_cons {opening closing : String} {token : Token}
    (noClosing : token.isMark closing = false) (depth : Nat) (rest : List Token) :
    cutGroup opening closing depth (token :: rest) =
      (token :: (cutGroup opening closing
          (if token.isMark opening then depth + 1 else depth) rest).1,
        (cutGroup opening closing (if token.isMark opening then depth + 1 else depth) rest).2) := by
  rcases depth with _ | _ | depth <;> simp [cutGroup, noClosing]

theorem cutOutside_cons {opening closing : String} {braces : Nat} {token : Token}
    (noClosing : ¬(braces = 0 && token.isMark closing) = true) (depth : Nat) (rest : List Token) :
    cutOutside opening closing depth braces (token :: rest) =
      (token :: (cutOutside opening closing
          (if braces = 0 && token.isMark opening then depth + 1 else depth)
          (bracesBehind braces token) rest).1,
        (cutOutside opening closing
          (if braces = 0 && token.isMark opening then depth + 1 else depth)
          (bracesBehind braces token) rest).2) := by
  match depth with
  | 0 | 1 => rw [cutOutside, if_neg noClosing]
  | depth + 2 =>
      rw [cutOutside, if_neg noClosing]
      exact Nat.succ_ne_zero depth

theorem cutOutside_closing {opening closing : String} {braces : Nat} {token : Token}
    (closes : (braces = 0 && token.isMark closing) = true) (rest : List Token) :
    cutOutside opening closing 1 braces (token :: rest) = ([], rest) ∧ ∀ depth,
      cutOutside opening closing (depth + 2) braces (token :: rest) =
        (token :: (cutOutside opening closing (depth + 1) 0 rest).1,
          (cutOutside opening closing (depth + 1) 0 rest).2) := by
  constructor
  · rw [cutOutside, if_pos closes]
  · intro depth
    rw [cutOutside, if_pos closes]
    exact Nat.succ_ne_zero depth

theorem exists_cutGroup (depth : Nat) (slots : List Slot) :
    ∃ inside passed rest, slots = passed ++ rest ∧ inside <+: passed ∧ ∀ version,
      cutGroup "\x7b" "\x7d" (depth + 1) (tokensOn version slots) =
        (tokensOn version inside, tokensOn version rest) := by
  induction slots generalizing depth with
  | nil => exact ⟨[], [], [], rfl, List.prefix_rfl, fun _ => rfl⟩
  | cons slot slots inductionHypothesis =>
      cases slot with
      | body body =>
          obtain ⟨inside, passed, rest, rfl, isFirst, areCut⟩ := inductionHypothesis depth
          refine ⟨.body body :: inside, .body body :: passed, rest, rfl,
            (List.prefix_cons_inj _).mpr isFirst, fun version => ?_⟩
          rw [tokensOn_body, (body.encloses version).cutGroup depth, areCut version]
          rfl
      | token shared =>
          by_cases closes : (shared.on .original).isMark "\x7d" = true
          · cases depth with
            | zero =>
                refine ⟨[], [.token shared], slots, rfl, List.nil_prefix, fun version => ?_⟩
                simp [cutGroup, shared.isMark_on version, closes]
            | succ depth =>
                obtain ⟨inside, passed, rest, rfl, isFirst, areCut⟩ := inductionHypothesis depth
                refine ⟨.token shared :: inside, .token shared :: passed, rest, rfl,
                  (List.prefix_cons_inj _).mpr isFirst, fun version => ?_⟩
                simp [cutGroup, shared.isMark_on version, closes, areCut version]
          · obtain ⟨inside, passed, rest, rfl, isFirst, areCut⟩ := inductionHypothesis
              (if (shared.on .original).isMark "\x7b" then depth + 1 else depth)
            refine ⟨.token shared :: inside, .token shared :: passed, rest, rfl,
              (List.prefix_cons_inj _).mpr isFirst, fun version => ?_⟩
            have cut := areCut version
            rw [apply_ite (· + 1)] at cut
            have noClosing : (shared.on version).isMark "\x7d" = false :=
              Bool.eq_false_of_not_eq_true closes
            rw [tokensOn_token, cutGroup_cons noClosing, shared.isMark_on version, cut]
            rfl

theorem bracesBehind_on (braces : Nat) (shared : Shared) (version : Version) :
    bracesBehind braces (shared.on version) = bracesBehind braces (shared.on .original) := rfl

theorem exists_cutOutside {left right : String} (noLeft : left ≠ "\x7b")
    (noRight : right ≠ "\x7b") (depth braces : Nat) (slots : List Slot) :
    ∃ inside passed rest, slots = passed ++ rest ∧ inside <+: passed ∧ ∀ version,
      cutOutside left right depth braces (tokensOn version slots) =
        (tokensOn version inside, tokensOn version rest) := by
  induction slots generalizing depth braces with
  | nil => exact ⟨[], [], [], rfl, List.prefix_rfl, fun _ => rfl⟩
  | cons slot slots inductionHypothesis =>
      cases slot with
      | body body =>
          obtain ⟨inside, passed, rest, rfl, isFirst, areCut⟩ := inductionHypothesis depth braces
          refine ⟨.body body :: inside, .body body :: passed, rest, rfl,
            (List.prefix_cons_inj _).mpr isFirst, fun version => ?_⟩
          rw [tokensOn_body, (body.encloses version).cutOutside noLeft noRight depth braces,
            areCut version]
          rfl
      | token shared =>
          by_cases closes : (braces = 0 && (shared.on .original).isMark right) = true
          · match depth with
            | 0 | 1 =>
                refine ⟨[], [.token shared], slots, rfl, List.nil_prefix, fun version => ?_⟩
                rw [tokensOn_token, cutOutside]
                exact if_pos closes
            | deeper + 2 =>
                obtain ⟨inside, passed, rest, rfl, isFirst, areCut⟩ :=
                  inductionHypothesis (deeper + 1) 0
                refine ⟨.token shared :: inside, .token shared :: passed, rest, rfl,
                  (List.prefix_cons_inj _).mpr isFirst, fun version => ?_⟩
                have isCut := (@cutOutside_closing left right _ (shared.on version) closes
                  (tokensOn version (passed ++ rest))).2 deeper
                rw [areCut version] at isCut
                exact isCut
          · obtain ⟨inside, passed, rest, rfl, isFirst, areCut⟩ := inductionHypothesis
              (if braces = 0 && (shared.on .original).isMark left then depth + 1 else depth)
              (bracesBehind braces (shared.on .original))
            refine ⟨.token shared :: inside, .token shared :: passed, rest, rfl,
              (List.prefix_cons_inj _).mpr isFirst, fun version => ?_⟩
            have isCut := @cutOutside_cons left right _ (shared.on version) closes depth
              (tokensOn version (passed ++ rest))
            rw [shared.isMark_on version, bracesBehind_on, areCut version] at isCut
            exact isCut

theorem closingMark?_eq_some {opening closing : String}
    (isClosing : closingMark? opening = some closing) :
    opening = "\x7b" ∧ closing = "\x7d" ∨ opening ≠ "\x7b" ∧ closing ≠ "\x7b" := by
  unfold closingMark? at isClosing
  split_ifs at isClosing with isRound isSquare isBrace
  · obtain rfl := Option.some.inj isClosing
    exact .inr ⟨by rw [isRound]; decide, by decide⟩
  · obtain rfl := Option.some.inj isClosing
    exact .inr ⟨by rw [isSquare]; decide, by decide⟩
  · exact .inl ⟨isBrace, (Option.some.inj isClosing).symm⟩

/-- A group that both versions open ends at the same place in both. -/
theorem exists_group? {shared : Shared} {closing : String} (isKind : shared.kind = .mark)
    (isClosing : closingMark? shared.text = some closing) (slots : List Slot) :
    ∃ inside passed rest, slots = passed ++ rest ∧ inside <+: passed ∧ ∀ version,
      group? (tokensOn version (.token shared :: slots)) =
        some (tokensOn version inside, tokensOn version rest) := by
  rcases closingMark?_eq_some isClosing with ⟨isBrace, rfl⟩ | ⟨noLeft, noRight⟩
  · obtain ⟨inside, passed, rest, isAll, isFirst, areCut⟩ := exists_cutGroup 0 slots
    refine ⟨inside, passed, rest, isAll, isFirst, fun version => ?_⟩
    rw [← areCut version, tokensOn_token, group?, Shared.kind_on, if_pos isKind, Shared.text_on,
      isClosing, Option.map_some, if_pos isBrace, isBrace]
  · obtain ⟨inside, passed, rest, isAll, isFirst, areCut⟩ :=
      exists_cutOutside noLeft noRight 1 0 slots
    refine ⟨inside, passed, rest, isAll, isFirst, fun version => ?_⟩
    rw [← areCut version, tokensOn_token, group?, Shared.kind_on, if_pos isKind, Shared.text_on,
      isClosing, Option.map_some, if_neg noLeft]

/-- Braces are balanced in both versions or in neither. -/
theorem closesBraces_on (others : Nat) (version : Version) (slots : List Slot) :
    closesBraces others (tokensOn version slots) =
      closesBraces others (tokensOn .original slots) := by
  induction slots generalizing others with
  | nil => rfl
  | cons slot rest inductionHypothesis =>
      cases slot with
      | body body =>
          rw [tokensOn_body, tokensOn_body, (body.encloses version).closesBraces,
            (body.encloses .original).closesBraces, inductionHypothesis]
      | token shared =>
          simp only [tokensOn_token, closesBraces, shared.isMark_on version, inductionHypothesis]

/-- What is inside of a group that the versions share. -/
def Inside (passed : List Slot) (value : Version → List Token) : Prop :=
  Plain passed → ∃ inside, inside <:+: passed ∧ ∀ version, value version = tokensOn version inside

theorem reads_group? (slots : List Slot) :
    Reads Inside slots fun version => group? (tokensOn version slots) := by
  cases slots with
  | nil => exact .fails fun _ => rfl
  | cons slot slots =>
      cases slot with
      | body body =>
          have noPlain : ¬Plain [.body body] := fun plain => plain.not_body List.mem_cons_self
          exact .passes rfl (fun version => (body.encloses version).group? _)
            fun plain => absurd plain noPlain
      | token shared =>
          by_cases isKind : shared.kind = .mark
          · cases isClosing : closingMark? shared.text with
            | none => exact .fails fun version => by simp [group?, isKind, isClosing]
            | some closing =>
                obtain ⟨inside, passed, rest, rfl, isFirst, areCut⟩ :=
                  exists_group? isKind isClosing slots
                refine .passes (List.cons_append ..).symm areCut fun _ => ?_
                exact ⟨inside, isFirst.isInfix.trans (suffix_cons _ passed).isInfix, fun _ => rfl⟩
          · exact .fails fun version => by simp [group?, isKind]

end ForwardingProxy.Source
