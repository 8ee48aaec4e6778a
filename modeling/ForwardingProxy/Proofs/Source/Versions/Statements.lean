import ForwardingProxy.Proofs.Source.Versions.Bounds
import ForwardingProxy.Source.Statement

/-!
Contract: both versions of a text pass over the same statements.

Owns: `Source.Fitting`, what the reading of statements relies on; and the scans for the end of an
expression, of a macro call and of a statement, each of which lands at the same place in both
versions.

An operator is found in the texts of the marks that are joined. None has a brace in it, so none
reaches into a group of braces.
-/

namespace ForwardingProxy.Source

variable {slots rest passed : List Slot}

/-- The marks of several characters. -/
def longMarks : List String :=
  ["::", "->", "...", "..=", ".."]

/-- Whether no block stands behind the token, but a name or a path. -/
def Token.leadsName (token : Token) : Bool :=
  token.kind == .word && ["fn", "trait", "mod", "struct", "enum", "type", "as"].contains token.text
    || token.kind == .mark && [".", "::"].contains token.text

/-- Each mark has one character or is one of the longer ones. -/
def MarksFit (tokens : List Token) : Prop :=
  ∀ token ∈ tokens, token.kind = .mark →
    token.text.toList.length = 1 ∨ token.text ∈ longMarks

/-- The marks of both versions fit, and no group of braces that the versions do not share stands
where a name does. -/
structure Fitting (slots : List Slot) : Prop where
  marks (version : Version) : MarksFit (tokensOn version slots)
  blocks {shared : Shared} {body : Body} (areIn : [.token shared, .body body] <:+: slots) :
    (shared.on .original).leadsName = false

theorem Fitting.of_infix (fitting : Fitting slots) (areIn : rest <:+: slots) : Fitting rest where
  marks version token isIn := by
    obtain ⟨before, after, rfl⟩ := areIn
    refine fitting.marks version token ?_
    rw [tokensOn_append, tokensOn_append]
    exact List.mem_append_left _ (List.mem_append_right _ isIn)
  blocks areNext := fitting.blocks (areNext.trans areIn)

theorem Fitting.of_suffix (fitting : Fitting slots) (isLast : rest <:+ slots) : Fitting rest :=
  fitting.of_infix isLast.isInfix

theorem Fitting.startsShared {first : Shared} (fitting : Fitting (.token first :: rest))
    (leads : (first.on .original).leadsName = true) : StartsShared rest := by
  intro body isBody
  obtain ⟨others, rfl⟩ := List.head?_eq_some_iff.mp isBody
  have areIn : [.token first, .body body] <:+: .token first :: .body body :: others :=
    ⟨[], others, rfl⟩
  exact Bool.noConfusion (leads.symm.trans (fitting.blocks areIn))

/-! ### Operators -/

/-- The characters of the marks that are written right behind another. -/
def joinedBehind (tokens : List Token) : List Char :=
  ((tokens.takeWhile fun token => token.kind == .mark && token.isAdjacent).map
    Token.text).flatMap String.toList

theorem joinedBehind_cons (token : Token) (tokens : List Token) :
    joinedBehind (token :: tokens) =
      if token.kind == .mark && token.isAdjacent then token.text.toList ++ joinedBehind tokens
      else [] := by
  unfold joinedBehind
  rw [List.takeWhile_cons]
  split <;> simp

theorem toList_joinedMarks (first : Token) (tokens : List Token) :
    (joinedMarks (first :: tokens)).toList =
      if first.kind = .mark then first.text.toList ++ joinedBehind tokens else [] := by
  rw [joinedMarks, joinedBehind, apply_ite String.toList, String.toList_join]
  rfl

/-- What stands behind a brace does not matter to a word without one. -/
theorem isPrefixOf_brace {name : List Char} (noBrace : '\x7b' ∉ name)
    (before one other : List Char) :
    name.isPrefixOf (before ++ '\x7b' :: one) = name.isPrefixOf (before ++ '\x7b' :: other) := by
  induction before generalizing name with
  | nil => cases name with
    | nil => rfl
    | cons first name =>
        have differs : (first == '\x7b') = false := by
          simpa using fun same : first = '\x7b' => noBrace (same ▸ List.mem_cons_self)
        simp [List.isPrefixOf, differs]
  | cons character before inductionHypothesis => cases name with
    | nil => rfl
    | cons first name =>
        simp only [List.cons_append, List.isPrefixOf,
          inductionHypothesis fun isIn => noBrace (List.mem_cons_of_mem first isIn)]

theorem joins_on (shared : Shared) (version : Version) :
    ((shared.on version).kind == .mark && (shared.on version).isAdjacent) =
      ((shared.on .original).kind == .mark && (shared.on .original).isAdjacent) := rfl

theorem isPrefixOf_joinedBehind {name : List Char} (noBrace : '\x7b' ∉ name) (before : List Char)
    (slots : List Slot) (version : Version) :
    name.isPrefixOf (before ++ joinedBehind (tokensOn version slots)) =
      name.isPrefixOf (before ++ joinedBehind (tokensOn .original slots)) := by
  induction slots generalizing before with
  | nil => rfl
  | cons slot rest inductionHypothesis =>
      cases slot with
      | token shared =>
          rw [tokensOn_token, tokensOn_token, joinedBehind_cons, joinedBehind_cons,
            joins_on _ version]
          split
          · simp only [← List.append_assoc]
            exact inductionHypothesis _
          · rfl
      | body body =>
          rw [tokensOn_body, tokensOn_body, joinedBehind_cons, joinedBehind_cons,
            joins_on _ version]
          split
          · rw [Shared.text_on, Shared.text_on, body.text]
            exact isPrefixOf_brace noBrace before _ _
          · rfl

theorem isPrefixOf_joinedMarks {name : List Char} (noBrace : '\x7b' ∉ name)
    (slots : List Slot) (version : Version) :
    name.isPrefixOf (joinedMarks (tokensOn version slots)).toList =
      name.isPrefixOf (joinedMarks (tokensOn .original slots)).toList := by
  match slots with
  | [] => rfl
  | .token shared :: rest =>
      rw [tokensOn_token, tokensOn_token, toList_joinedMarks, toList_joinedMarks, Shared.kind_on,
        Shared.kind_on]
      by_cases isKind : shared.kind = .mark
      · rw [if_pos isKind, if_pos isKind]
        exact isPrefixOf_joinedBehind noBrace _ rest version
      · rw [if_neg isKind, if_neg isKind]
  | .body body :: rest =>
      rw [tokensOn_body, tokensOn_body, toList_joinedMarks, toList_joinedMarks, Shared.kind_on,
        Shared.kind_on, if_pos body.kind, if_pos body.kind, Shared.text_on, Shared.text_on,
        body.text]
      exact isPrefixOf_brace noBrace [] _ _

theorem startsWithOperator_on {names : List String}
    (noBraces : ∀ name ∈ names, '\x7b' ∉ name.toList) (version : Version) (slots : List Slot) :
    startsWithOperator names (tokensOn version slots) =
      startsWithOperator names (tokensOn .original slots) := by
  rw [startsWithOperator, startsWithOperator, Bool.eq_iff_iff, List.any_eq_true, List.any_eq_true]
  exact exists_congr fun name => and_congr_right fun isIn => by
    rw [isPrefixOf_joinedMarks (noBraces name isIn)]

/-- The first of characters that are joined is the first of the mark that comes first. -/
theorem head_of_isPrefixOf {character : Char} {name : List Char} {text : String}
    {others : List Char} (isIn : text.toList.length = 1 ∨ text ∈ longMarks)
    (isJoined : (character :: name).isPrefixOf (text.toList ++ others) = true) :
    (text.toList = [character] ∧ name.isPrefixOf others = true) ∨
      (text ∈ longMarks ∧ text.toList.head? = some character) := by
  rcases isIn with isShort | isLong
  · obtain ⟨only, isText⟩ := List.length_eq_one_iff.mp isShort
    rw [isText, List.singleton_append, List.isPrefixOf, Bool.and_eq_true, beq_iff_eq] at isJoined
    exact .inl ⟨by rw [isText, isJoined.1], isJoined.2⟩
  · refine .inr ⟨isLong, ?_⟩
    have noneEmpty : ∀ mark ∈ longMarks, mark.toList ≠ [] := by decide
    obtain ⟨first, more, isText⟩ := List.exists_cons_of_ne_nil (noneEmpty text isLong)
    rw [isText, List.cons_append, List.isPrefixOf, Bool.and_eq_true, beq_iff_eq] at isJoined
    rw [isText, List.head?_cons, isJoined.1]

/-- Characters that no longer mark begins with are marks of their own. -/
theorem lands_dropJoined (fitting : Fitting slots) {name : List Char}
    (areShort : ∀ character ∈ name, character ∉ [':', '-', '.', '\x7b'])
    (isJoined : name.isPrefixOf (joinedBehind (tokensOn .original slots)) = true) :
    Lands slots fun version => (tokensOn version slots).drop name.length := by
  induction name generalizing slots with
  | nil => exact .of_suffix List.suffix_rfl
  | cons character name inductionHypothesis =>
      have isShort := areShort character List.mem_cons_self
      match slots with
      | [] => cases isJoined
      | .body body :: rest =>
          rw [tokensOn_body, joinedBehind_cons] at isJoined
          split at isJoined
          · rw [Shared.text_on, body.text] at isJoined
            simp_all [List.isPrefixOf]
          · cases isJoined
      | .token shared :: rest =>
          rw [tokensOn_token, joinedBehind_cons] at isJoined
          split at isJoined
          · rename_i goesOn
            have isKind : shared.kind = .mark := beq_iff_eq.mp (Bool.and_eq_true_iff.mp goesOn).1
            have isMark := fitting.marks .original _ List.mem_cons_self isKind
            rcases head_of_isPrefixOf isMark isJoined with ⟨-, isBehind⟩ | ⟨isLong, isFirst⟩
            · have ofRest := fitting.of_suffix (suffix_cons _ rest)
              exact (inductionHypothesis ofRest (fun one isIn =>
                areShort one (List.mem_cons_of_mem _ isIn)) isBehind).mono (suffix_cons _ rest)
            · have firsts : ∀ mark ∈ longMarks, ∀ first ∈ mark.toList.head?,
                  first ∈ [':', '-', '.', '\x7b'] := by simp [longMarks]
              exact absurd (firsts _ isLong _ isFirst) isShort
          · cases isJoined

/-- No operator begins like a mark of several characters. -/
theorem spelled_of_operator {name : String} (isOperator : name ∈ operators) :
    ∃ first more, name.toList = first :: more ∧ first ∉ [':', '.', '\x7b'] ∧
      (first = '-' → more.head? ≠ some '>') ∧
        ∀ character ∈ more, character ∉ [':', '-', '.', '\x7b'] := by
  revert name
  simp [operators]

theorem lands_dropOperator (fitting : Fitting slots) {name : String} (isOperator : name ∈ operators)
    (starts : name.toList.isPrefixOf (joinedMarks (tokensOn .original slots)).toList = true) :
    Lands slots fun version => (tokensOn version slots).drop name.length := by
  obtain ⟨first, more, isName, isShort, noArrow, areShort⟩ := spelled_of_operator isOperator
  rw [isName] at starts
  simp only [← String.length_toList, isName, List.length_cons]
  match slots with
  | [] => cases starts
  | .body body :: rest =>
      rw [tokensOn_body, toList_joinedMarks, Shared.kind_on, if_pos body.kind, Shared.text_on,
        body.text] at starts
      simp_all [List.isPrefixOf]
  | .token shared :: rest =>
      rw [tokensOn_token, toList_joinedMarks] at starts
      split at starts
      · rename_i isKind
        rcases head_of_isPrefixOf (fitting.marks .original _ List.mem_cons_self isKind) starts with
          ⟨-, isBehind⟩ | ⟨isLong, isFirst⟩
        · exact (lands_dropJoined (fitting.of_suffix (suffix_cons _ rest)) areShort isBehind).mono
            (suffix_cons _ rest)
        · have isArrow : shared.text = "->" ∧ first = '-' := by
            simp [longMarks] at isLong
            rcases isLong with isText | isText | isText | isText | isText <;> simp_all
          cases more with
          | nil => exact .of_suffix (suffix_cons _ rest)
          | cons second more => simp_all [List.isPrefixOf]
      · cases starts

theorem mayLand_skipOperator? (fitting : Fitting slots) :
    MayLand slots fun version => skipOperator? (tokensOn version slots) := by
  have noBraces : ∀ name ∈ operators, '\x7b' ∉ name.toList := by decide
  have sameFound (version : Version) :
      (operators.find? fun name => startsWithOperator [name] (tokensOn version slots)) =
        operators.find? fun name => startsWithOperator [name] (tokensOn .original slots) := by
    refine List.find?_congr fun name isIn => startsWithOperator_on (fun other isOther => ?_) _ _
    rw [List.mem_singleton.mp isOther]
    exact noBraces name isIn
  simp only [skipOperator?, sameFound]
  cases isFound : operators.find? fun name =>
      startsWithOperator [name] (tokensOn .original slots) with
  | none => exact .nowhere fun _ => rfl
  | some name =>
      have starts := List.find?_some isFound
      simp only [startsWithOperator, List.any_cons, List.any_nil, Bool.or_false] at starts
      exact (lands_dropOperator fitting (List.mem_of_find?_eq_some isFound) starts).mayLand

/-! ### Expressions -/

/-- Both versions find the same ends of expressions from here on, once each has a number of steps
that grows with the number of places. -/
structure ExpressionsLand (slots : List Slot) : Prop where
  block {fuel : Version → Nat} (enough : ∀ version, 2 * slots.length + 1 ≤ fuel version) :
    MayLand slots fun version => skipBlockExpression? (fuel version) (tokensOn version slots)
  operation {fuel : Version → Nat} (enough : ∀ version, 2 * slots.length + 1 ≤ fuel version) :
    MayLand slots fun version => skipOperation? (fuel version) (tokensOn version slots)
  operand {fuel : Version → Nat} (enough : ∀ version, 2 * slots.length + 2 ≤ fuel version) :
    MayLand slots fun version => skipOperand? (fuel version) (tokensOn version slots)

theorem mayLand_skipBraces? (slots : List Slot) :
    MayLand slots fun version => skipBraces? (tokensOn version slots) :=
  (reads_groupOf? "\x7b" slots).mayLand

variable {fuel : Version → Nat}

/-- What both versions do behind the first place. -/
theorem expressions_behind (behind : Behind ExpressionsLand slots)
    (enough : ∀ version, 2 * slots.length ≤ fuel version) (isLast : rest <:+ slots)
    (isShorter : rest.length < slots.length) :
    MayLand rest (fun version => skipBlockExpression? (fuel version) (tokensOn version rest)) ∧
      MayLand rest (fun version => skipOperation? (fuel version) (tokensOn version rest)) ∧
        MayLand rest fun version => skipOperand? (fuel version) (tokensOn version rest) := by
  have isEnough (version : Version) : 2 * rest.length + 2 ≤ fuel version :=
    Nat.le_trans (by omega) (enough version)
  have lands := behind rest isLast isShorter
  exact ⟨lands.block fun version => Nat.le_of_succ_le (isEnough version),
    lands.operation fun version => Nat.le_of_succ_le (isEnough version), lands.operand isEnough⟩

/-- A condition, the block behind it and what follows. -/
theorem conditioned_of_behind (behind : Behind ExpressionsLand slots)
    (enough : ∀ version, 2 * slots.length ≤ fuel version) (isLast : rest <:+ slots)
    (isShorter : rest.length < slots.length) :
    MayLand rest fun version =>
      (skipOperand? (fuel version) (tokensOn version rest)).bind skipBraces? :=
  (expressions_behind behind enough isLast isShorter).2.2.bind fun block _ =>
    mayLand_skipBraces? block

theorem block_of_behind (behind : Behind ExpressionsLand slots)
    (enough : ∀ version, 2 * slots.length + 1 ≤ fuel version) :
    MayLand slots fun version => skipBlockExpression? (fuel version) (tokensOn version slots) := by
  obtain ⟨fewer, rfl, isEnough⟩ := @exists_fewer fuel (2 * slots.length + 0) enough
  have isLabel (version : Version) :
      (startsWithLifetime (tokensOn version slots) &&
        startsWithMark [":"] ((tokensOn version slots).drop 1)) =
      (startsWithLifetime (faces slots) && startsWithMark [":"] ((faces slots).drop 1)) := by
    rw [startsWithLifetime_on]
    exact behindFirst_on (fun starts =>
      let ⟨shared, rest, isSlots, _⟩ := exists_of_startsWithKind starts (by decide)
      ⟨shared, rest, isSlots⟩) (startsWithMark_on [":"] version)
  simp only [skipBlockExpression?, isLabel, startsWithMark_on, startsWithWord_on]
  refine .branch (fun labels => ?_) fun _ => .branch (fun _ => mayLand_skipBraces? slots)
    fun _ => .branch (fun starts => ?_) fun _ => .branch (fun starts => ?_)
      fun _ => .branch (fun starts => ?_) fun _ => .branch (fun starts => ?_)
        fun _ => .branch (fun starts => ?_) fun _ => .nowhere fun _ => rfl
  · obtain ⟨label, rest, rfl, areBehind⟩ :=
      drop_of_startsWithKind (Bool.and_eq_true_iff.mp labels).1 (by decide)
    obtain ⟨colon, further, rfl, areFurther⟩ :=
      drop_of_startsWithMark (Bool.and_eq_true_iff.mp labels).2 (by decide)
    simp only [areBehind, areFurther]
    have isLast := (suffix_cons (.token colon) further).trans (suffix_cons (.token label) _)
    exact (expressions_behind behind isEnough isLast (by simp)).1.mono isLast
  · obtain ⟨keyword, rest, rfl, areBehind⟩ := drop_of_startsWithWord starts
    simp only [areBehind]
    exact (mayLand_skipBraces? rest).mono (suffix_cons _ rest)
  · obtain ⟨keyword, rest, rfl, areBehind⟩ := drop_of_startsWithWord starts
    obtain ⟨block, isLast, isBlock⟩ := lands_skipWord ["move"] rest
    simp only [skipMove, areBehind, isBlock]
    exact (mayLand_skipBraces? block).mono (isLast.trans (suffix_cons _ rest))
  · obtain ⟨keyword, rest, rfl, areBehind⟩ := drop_of_startsWithWord starts
    simp only [areBehind]
    have isLast := suffix_cons (.token keyword) rest
    exact (conditioned_of_behind behind isEnough isLast (by simp)).mono isLast
  · obtain ⟨keyword, rest, rfl, areBehind⟩ := drop_of_startsWithWord starts
    obtain ⟨items, isFurther, isItems⟩ := @lands_dropPast (fun token => token.isWord "in")
      (fun shared version => shared.isWord_on version "in")
      (fun body => by simp [Token.isWord, body.kind]) .outside rest
    simp only [areBehind, isItems]
    have isLast := isFurther.trans (suffix_cons (.token keyword) rest)
    exact (conditioned_of_behind behind isEnough isLast
      (Nat.lt_succ_of_le isFurther.length_le)).mono isLast
  · obtain ⟨keyword, rest, rfl, areBehind⟩ := drop_of_startsWithWord starts
    simp only [areBehind]
    have isLast := suffix_cons (.token keyword) rest
    refine MayLand.mono ?_ isLast
    refine (expressions_behind behind isEnough isLast (by simp)).2.2.bind
      fun block isBlock => (mayLand_skipBraces? block).bind fun after isAfter => ?_
    simp only [startsWithWord_on]
    refine .branch (fun starts => ?_) fun _ => .lands List.suffix_rfl fun _ => rfl
    obtain ⟨other, last, rfl, areLast⟩ := drop_of_startsWithWord starts
    simp only [areLast]
    have isFurther := ((suffix_cons (.token other) last).trans isAfter).trans isBlock
    exact (expressions_behind behind isEnough (isFurther.trans isLast)
      (Nat.lt_succ_of_le isFurther.length_le)).1.mono (suffix_cons _ last)

theorem suffix_of_shorter {slot : Slot} (isLast : rest <:+ slot :: slots)
    (isShorter : rest.length < (slot :: slots).length) : rest <:+ slots :=
  (List.suffix_cons_iff.mp isLast).elim (fun same => absurd isShorter (same ▸ Nat.lt_irrefl _)) id

theorem shorter_of_tokensOn (isLast : rest <:+ slots) {version : Version}
    (isShorter : (tokensOn version rest).length < (tokensOn version slots).length) :
    rest.length < slots.length := by
  obtain ⟨passed, rfl⟩ := isLast
  cases passed with
  | nil => exact absurd isShorter (Nat.lt_irrefl _)
  | cons slot passed => simp

theorem length_skipOperator? {tokens operand : List Token}
    (isOperator : skipOperator? tokens = some operand) (isSome : tokens ≠ []) :
    operand.length < tokens.length := by
  have noneEmpty : ∀ name ∈ operators, 0 < name.length := by decide
  obtain ⟨name, isFound, rfl⟩ := Option.map_eq_some_iff.mp isOperator
  have isLonger := noneEmpty name (List.mem_of_find?_eq_some isFound)
  have isShorter := List.length_pos_iff.mpr isSome
  rw [List.length_drop]
  omega

theorem length_macroGroup? {tokens inside after : List Token}
    (isGroup : macroGroup? tokens = some (inside, after)) : after.length < tokens.length := by
  rw [macroGroup?, Option.ite_none_right_eq_some] at isGroup
  have isShorter := length_group? isGroup.2
  rw [List.length_drop] at isShorter
  omega

/-- An operation behind a group in brackets. -/
theorem grouped_of_behind (behind : Behind ExpressionsLand slots)
    (enough : ∀ version, 2 * slots.length ≤ fuel version) :
    MayLand slots fun version =>
      (group? (tokensOn version slots)).bind fun cut => skipOperation? (fuel version) cut.2 := by
  cases reads_group? slots with
  | fails isNone => exact .nowhere fun version => by rw [isNone version]; rfl
  | @passes passed after inside isAll isSome _ =>
      have isAfter : after <:+ slots := ⟨passed, isAll.symm⟩
      have isShorter := shorter_of_tokensOn isAfter
        (Nat.lt_of_le_of_lt (Nat.le_add_left _ _) (length_group? (isSome .original)))
      simp only [isSome, Option.bind_some]
      exact (expressions_behind behind enough isAfter isShorter).2.1.mono isAfter

/-- What stands behind a name in a path, with the arguments in angle brackets that it may have. -/
theorem lands_dropSegment (isShared : StartsShared rest) :
    Lands rest fun version =>
      if startsWithMark ["<"] (faces rest) then
        dropAngles 1 .outside ((tokensOn version rest).drop 1)
      else (tokensOn version rest).drop 1 := by
  obtain ⟨name, isName, areBehind⟩ := lands_drop isShared
  simp only [areBehind]
  exact .branch (fun _ => (lands_dropAngles 1 .outside name).mono isName) fun _ =>
    .of_suffix isName

/-- An operation behind the group of a macro, or else behind an operator with its operand. -/
theorem operator_of_behind {first : Shared} (fitting : Fitting (.token first :: rest))
    (behind : Behind ExpressionsLand (.token first :: rest))
    (enough : ∀ version, 2 * (Slot.token first :: rest).length ≤ fuel version) :
    MayLand (.token first :: rest) fun version =>
      match macroGroup? (tokensOn version (.token first :: rest)) with
      | some (_, after) => skipOperation? (fuel version) after
      | none =>
          (skipOperator? (tokensOn version (.token first :: rest))).bind
            (skipOperand? (fuel version)) := by
  have further {after : List Slot} (isAfter : after <:+ .token first :: rest)
      (isShorter : (tokensOn .original after).length <
        (tokensOn .original (.token first :: rest)).length) :=
    expressions_behind behind enough isAfter (shorter_of_tokensOn isAfter isShorter)
  cases reads_macroGroup? (.token first :: rest) with
  | fails isNone =>
      simp only [isNone]
      cases mayLand_skipOperator? fitting with
      | nowhere isNone => exact .nowhere fun version => by rw [isNone version]; rfl
      | lands isOperand isSome =>
          simp only [isSome, Option.bind_some]
          exact (further isOperand
            (length_skipOperator? (isSome .original) (List.cons_ne_nil _ _))).2.2.mono isOperand
  | @passes passed after inside isAll isSome _ =>
      have isBehind : after <:+ .token first :: rest := ⟨passed, isAll.symm⟩
      simp only [isSome]
      exact (further isBehind (length_macroGroup? (isSome .original))).2.1.mono isBehind

theorem operation_of_behind (fitting : Fitting slots) (behind : Behind ExpressionsLand slots)
    (enough : ∀ version, 2 * slots.length + 1 ≤ fuel version) :
    MayLand slots fun version => skipOperation? (fuel version) (tokensOn version slots) := by
  obtain ⟨fewer, rfl, isEnough⟩ := @exists_fewer fuel (2 * slots.length + 0) enough
  cases slots with
  | nil => exact .nowhere fun _ => rfl
  | cons slot rest =>
      cases slot with
      | body body =>
          refine .lands List.suffix_rfl fun version => ?_
          rw [tokensOn_body, skipOperation?, if_pos (body.encloses version).isOpening]
      | token first =>
          have isLast := suffix_cons (.token first) rest
          have further {after : List Slot} (isAfter : after <:+ rest) :=
            expressions_behind behind isEnough (isAfter.trans isLast)
              (Nat.lt_succ_of_le isAfter.length_le)
          simp only [tokensOn_token, skipOperation?, first.isMark_on, first.isWord_on,
            startsWithMark_on]
          refine .branch (fun _ => .lands List.suffix_rfl fun _ => rfl) fun _ =>
            .branch (fun _ => grouped_of_behind behind isEnough) fun _ =>
              .branch (fun _ => (further List.suffix_rfl).2.1.mono isLast) fun _ =>
                .branch (fun isDot => ?_) fun _ => .branch (fun isPath => ?_) fun _ =>
                  .branch (fun _ => ?_) fun _ =>
                    .branch (fun _ => (further List.suffix_rfl).2.2.mono isLast) fun _ =>
                      .branch (fun _ => ?_) fun _ => ?_
          · have leads : (first.on .original).leadsName = true := by
              simp_all [Token.leadsName, Token.isMark]
            obtain ⟨name, isName, areBehind⟩ := lands_drop (fitting.startsShared leads)
            simp only [areBehind]
            exact (further isName).2.1.mono (isName.trans isLast)
          · have leads : (first.on .original).leadsName = true := by
              simp_all [Token.leadsName, Token.isMark]
            obtain ⟨after, isAfter, areAfter⟩ := lands_dropSegment (fitting.startsShared leads)
            simp only [areAfter]
            exact (further isAfter).2.1.mono (isAfter.trans isLast)
          · exact .branch (fun _ => .lands isLast fun _ => rfl) fun _ =>
              (further List.suffix_rfl).2.2.mono isLast
          · refine MayLand.mono ?_ isLast
            exact (reads_readTerm? rest).bindLands fun after isAfter => (further isAfter).2.1
          · exact operator_of_behind fitting behind isEnough

theorem skipOperand?_block (slot : Slot) {fuel : Nat} {version : Version} {after : List Token}
    (isBlock : skipBlockExpression? fuel (tokensOn version (slot :: slots)) = some after) :
    skipOperand? (fuel + 1) (tokensOn version (slot :: slots)) = skipOperation? fuel after := by
  cases slot <;>
  · simp only [tokensOn_token, tokensOn_body] at isBlock
    simp only [tokensOn_token, tokensOn_body, skipOperand?, isBlock]

section Operand

variable {first : Shared} (behind : Behind ExpressionsLand (.token first :: rest))
  (enough : ∀ version, 2 * (Slot.token first :: rest).length ≤ fuel version)

include behind enough

/-- What both versions do behind the first token. -/
theorem expressions_further {after : List Slot} (isAfter : after <:+ rest) :
    MayLand (.token first :: rest)
        (fun version => skipOperation? (fuel version) (tokensOn version after)) ∧
      MayLand (.token first :: rest) fun version =>
        skipOperand? (fuel version) (tokensOn version after) := by
  have isLast := isAfter.trans (suffix_cons (.token first) rest)
  have lands := expressions_behind behind enough isLast (Nat.lt_succ_of_le isAfter.length_le)
  exact ⟨lands.2.1.mono isLast, lands.2.2.mono isLast⟩

/-- A function without a name, from behind its first `|` on. -/
theorem closure_of_behind :
    MayLand (.token first :: rest) fun version =>
      if startsWithMark ["->"] (dropClosureParameters (tokensOn version rest)) then
        (readTerm? (typeFuel (dropClosureParameters (tokensOn version rest)))
          ((dropClosureParameters (tokensOn version rest)).drop 1)).bind fun found =>
            (skipBraces? found.2).bind (skipOperation? (fuel version))
      else skipOperand? (fuel version) (dropClosureParameters (tokensOn version rest)) := by
  obtain ⟨closure, isClosure, areClosure⟩ := @lands_dropPastMark "|" (by decide) rest
  simp only [dropClosureParameters, areClosure, startsWithMark_on]
  refine .branch (fun starts => ?_) fun _ => (expressions_further behind enough isClosure).2
  obtain ⟨arrow, type, rfl, areBehind⟩ := drop_of_startsWithMark starts (by decide)
  simp only [areBehind]
  have isType := (suffix_cons (.token arrow) type).trans isClosure
  have isLast := isType.trans (suffix_cons (.token first) rest)
  have read : Reads TypesAgree type fun version =>
      readTerm? (typeFuel (tokensOn version (.token arrow :: type))) (tokensOn version type) :=
    (typesRead type).term fun version => by
      have isEnough := enough_typeFuel (.token arrow :: type) version
      rw [List.length_cons] at isEnough
      omega
  let next (version : Version) (block : List Token) : Option (List Token) :=
    (skipBraces? block).bind (skipOperation? (fuel version))
  have goesOn (block : List Slot) (isBlock : block <:+ type) :
      MayLand block fun version => next version (tokensOn version block) := by
    refine (mayLand_skipBraces? block).bind fun after isAfter => ?_
    have isFurther := (isAfter.trans isBlock).trans isType
    exact (expressions_behind behind enough (isFurther.trans (suffix_cons _ rest))
      (Nat.lt_succ_of_le isFurther.length_le)).2.1
  exact (read.bindLands goesOn).mono isLast

theorem markedOperand_of_behind (isKind : first.kind = .mark)
    (noBlock : ∀ version,
      skipBlockExpression? (fuel version) (tokensOn version (.token first :: rest)) = none) :
    MayLand (.token first :: rest) fun version =>
      skipOperand? (fuel version + 1) (tokensOn version (.token first :: rest)) := by
  have isLast := suffix_cons (.token first) rest
  have further {after : List Slot} (isAfter : after <:+ rest) :=
    expressions_further behind enough isAfter
  simp only [tokensOn_token] at noBlock
  simp only [tokensOn_token, skipOperand?, noBlock, Bool.or_eq_true, decide_eq_true_eq]
  simp only [Shared.kind_on, isKind, Shared.text_on, startsWithMark_on]
  refine .branch (fun _ => ?_) fun _ => .branch (fun _ => ?_) fun _ => .branch (fun _ => ?_)
    fun _ => .branch (fun _ => ?_) fun _ => .branch (fun _ => ?_) fun _ => .nowhere fun _ => rfl
  · exact grouped_of_behind behind enough
  · obtain ⟨after, isAfter, areAfter⟩ := lands_dropAngles 1 .outside rest
    simp only [areAfter]
    exact (further isAfter).1
  · exact closure_of_behind behind enough
  · exact .branch (fun _ => .lands isLast fun _ => rfl) fun _ => (further List.suffix_rfl).2
  · exact (further List.suffix_rfl).2

theorem wordedOperand_of_behind (isKind : first.kind = .word)
    (noBlock : ∀ version,
      skipBlockExpression? (fuel version) (tokensOn version (.token first :: rest)) = none) :
    MayLand (.token first :: rest) fun version =>
      skipOperand? (fuel version + 1) (tokensOn version (.token first :: rest)) := by
  have isLast := suffix_cons (.token first) rest
  have further {after : List Slot} (isAfter : after <:+ rest) :=
    expressions_further behind enough isAfter
  obtain ⟨value, isValue, areValue⟩ := @lands_dropPastMark "=" (by decide) rest
  obtain ⟨unlabelled, isUnlabelled, areUnlabelled⟩ := lands_skipLifetime rest
  simp only [tokensOn_token] at noBlock
  simp only [tokensOn_token, skipOperand?, noBlock, Bool.and_eq_true, decide_eq_true_eq]
  simp only [Shared.kind_on, isKind, Shared.text_on, startsWithWord_on, areValue, areUnlabelled,
    startsWithMark_on]
  refine .branch (fun _ => ?_) fun _ => .branch (fun _ => ?_) fun _ => .branch (fun isRaw => ?_)
    fun _ => .branch (fun _ => ?_) fun _ => .branch (fun _ => ?_) fun _ => ?_
  · exact (further isValue).2
  · exact (further List.suffix_rfl).2
  · obtain ⟨qualifier, place, rfl, areBehind⟩ :=
      drop_of_startsWithWord isRaw.2
    simp only [areBehind]
    exact (further (suffix_cons _ place)).2
  · exact .branch (fun _ => .lands (isUnlabelled.trans isLast) fun _ => rfl) fun _ =>
      (further isUnlabelled).2
  · exact (further isUnlabelled).1
  · exact (further List.suffix_rfl).1

end Operand

theorem operand_of_behind (behind : Behind ExpressionsLand slots)
    (block : ∀ {fuel : Version → Nat}, (∀ version, 2 * slots.length + 1 ≤ fuel version) →
      MayLand slots fun version => skipBlockExpression? (fuel version) (tokensOn version slots))
    (operation : ∀ {fuel : Version → Nat}, (∀ version, 2 * slots.length + 1 ≤ fuel version) →
      MayLand slots fun version => skipOperation? (fuel version) (tokensOn version slots))
    (enough : ∀ version, 2 * slots.length + 2 ≤ fuel version) :
    MayLand slots fun version => skipOperand? (fuel version) (tokensOn version slots) := by
  obtain ⟨fewer, rfl, isEnough⟩ := @exists_fewer fuel (2 * slots.length + 1) enough
  have enoughBehind (version : Version) : 2 * slots.length ≤ fewer version :=
    Nat.le_of_succ_le (isEnough version)
  cases slots with
  | nil => exact .nowhere fun _ => rfl
  | cons slot rest =>
      cases block isEnough with
      | @lands after isAfter isSome =>
          refine (MayLand.mono ?_ isAfter).congr fun version =>
            skipOperand?_block slot (isSome version)
          by_cases isShorter : after.length < (slot :: rest).length
          · exact (expressions_behind behind enoughBehind isAfter isShorter).2.1
          · obtain rfl := isAfter.eq_of_length_le (Nat.le_of_not_lt isShorter)
            exact operation isEnough
      | nowhere isNone =>
          cases slot with
          | body body =>
              refine .nowhere fun version => ?_
              simp only [tokensOn_body] at isNone
              simp [skipOperand?, isNone version, body.kind, body.text]
          | token first =>
              cases isKind : first.kind with
              | mark => exact markedOperand_of_behind behind enoughBehind isKind isNone
              | word => exact wordedOperand_of_behind behind enoughBehind isKind isNone
              | _ =>
                  simp only [tokensOn_token] at isNone
                  simp only [tokensOn_token, skipOperand?, isNone, Shared.kind_on, isKind]
                  exact (expressions_further behind enoughBehind List.suffix_rfl).1

/-- Both versions find the same ends of expressions. -/
theorem expressionsLand (fitting : Fitting slots) : ExpressionsLand slots := by
  induction isLength : slots.length using Nat.strong_induction_on generalizing slots with
  | _ length inductionHypothesis =>
      subst isLength
      have behind : Behind ExpressionsLand slots := fun rest isLast isShorter =>
        inductionHypothesis rest.length isShorter (fitting.of_suffix isLast) rfl
      exact {
        block := block_of_behind behind
        operation := operation_of_behind fitting behind
        operand := operand_of_behind behind (block_of_behind behind)
          (operation_of_behind fitting behind) }

/-! ### Statements -/

theorem continuesBlock_on (version : Version) (slots : List Slot) :
    continuesBlock (tokensOn version slots) = continuesBlock (tokensOn .original slots) := by
  have noBraces : ∀ name ∈ ["!=", "&&", "&=", "||", "|=", "<<", "<=", "-=", "*="],
      '\x7b' ∉ name.toList := by decide
  simp only [continuesBlock, startsWithMark_on, startsWithWord_on,
    startsWithOperator_on noBraces version]

theorem continuesCall_on (version : Version) (slots : List Slot) :
    continuesCall (tokensOn version slots) = continuesCall (tokensOn .original slots) := by
  simp only [continuesCall, continuesBlock_on version, startsWithMark_on]

theorem mayLand_skipMacroDefinition? (slots : List Slot) :
    MayLand slots fun version => skipMacroDefinition? (tokensOn version slots) := by
  have stepwise (tokens : List Token) :
      skipMacroDefinition? tokens =
        if startsWithWord ["macro_rules"] tokens then
          if startsWithMark ["!"] (tokens.drop 1) then
            if startsWithKind .word ((tokens.drop 1).drop 1) then
              (group? (((tokens.drop 1).drop 1).drop 1)).map Prod.snd
            else none
          else none
        else none := by
    unfold skipMacroDefinition?
    split_ifs <;> simp_all [List.drop_drop]
  simp only [stepwise, startsWithWord_on]
  refine .branch (fun isWord => ?_) fun _ => .nowhere fun _ => rfl
  obtain ⟨word, behindWord, rfl, areBehindWord⟩ := drop_of_startsWithWord isWord
  simp only [areBehindWord, startsWithMark_on]
  refine MayLand.mono (.branch (fun isMark => ?_) fun _ => .nowhere fun _ => rfl)
    (suffix_cons _ behindWord)
  obtain ⟨mark, behindMark, rfl, areBehindMark⟩ := drop_of_startsWithMark isMark (by decide)
  simp only [areBehindMark, startsWithKind_on]
  refine MayLand.mono (.branch (fun isName => ?_) fun _ => .nowhere fun _ => rfl)
    (suffix_cons _ behindMark)
  obtain ⟨name, group, rfl, areBehindName⟩ := drop_of_startsWithKind isName (by decide)
  simp only [areBehindName]
  exact (reads_group? group).mayLand.mono (suffix_cons _ group)

/-- Behind an expression or a macro call, where a statement may go on. -/
theorem lands_goesOn {goesOn : List Token → Bool}
    (same : ∀ version slots, goesOn (tokensOn version slots) = goesOn (tokensOn .original slots))
    (slots : List Slot) :
    Lands slots fun version =>
      if goesOn (tokensOn version slots) then dropStatement (tokensOn version slots)
      else tokensOn version slots := by
  simp only [same _ slots]
  exact .branch (fun _ => lands_dropStatement slots) fun _ => .of_suffix List.suffix_rfl

theorem lands_dropOther (fitting : Fitting slots) :
    Lands slots fun version => dropOther (tokensOn version slots) := by
  simp only [dropOther, startsWithMark_on]
  refine .branch (fun starts => ?_) fun _ => ?_
  · obtain ⟨semicolon, rest, rfl, areBehind⟩ := drop_of_startsWithMark starts (by decide)
    simp only [areBehind]
    exact .of_suffix (suffix_cons _ rest)
  cases mayLand_skipMacroDefinition? slots with
  | lands isLast isSome =>
      simp only [isSome]
      exact .of_suffix isLast
  | nowhere isNone =>
      simp only [isNone]
      have block : MayLand slots fun version =>
          skipBlockExpression? (2 * (tokensOn version slots).length + 2) (tokensOn version slots) :=
        (expressionsLand fitting).block fun version => by
          have isLonger := length_le_tokensOn version slots
          omega
      cases block with
      | @lands after isLast isSome =>
          simp only [isSome]
          exact (lands_goesOn continuesBlock_on after).mono isLast
      | nowhere isNone =>
          simp only [isNone]
          obtain ⟨path, isPath, arePath⟩ := lands_readPath slots
          simp only [arePath]
          cases reads_macroGroup? path with
          | fails isNone =>
              simp only [isNone]
              exact lands_dropStatement slots
          | @passes passed after inside isAll isSome _ =>
              simp only [isSome]
              exact (lands_goesOn continuesCall_on after).mono
                (List.IsSuffix.trans ⟨passed, isAll.symm⟩ isPath)

end ForwardingProxy.Source
