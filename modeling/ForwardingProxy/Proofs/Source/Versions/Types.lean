import ForwardingProxy.Proofs.Source.Versions.Paths

/-!
Contract: both versions of a text read the same types.

Owns: the readings of types, each of which goes the same way in both versions.

Most types are kept as their source text, so they are the same where both versions have all their
tokens. How reading goes on depends on a type behind `impl` only, and there on what both versions
see.
-/

namespace ForwardingProxy.Source

variable {slots rest passed all : List Slot}

/-! ### Types behind `impl` -/

/-- Whether a type behind `impl` ends there for what it is. -/
def standsAlone : TypeSyntax → Bool
  | .unit => true
  | .path segments [] => isPrimitivePath segments
  | _ => false

/-- Both versions read the same type, or at least types that end alike behind `impl`. -/
def TypesAgree (passed : List Slot) (type : Version → TypeSyntax) : Prop :=
  Settled passed type ∧ standsAlone (type .original) = standsAlone (type .changed)

/-- Both versions read the same segments, or at least no built-in type. -/
def SegmentsAgree (passed : List Slot) (segments : Version → List String) : Prop :=
  Settled passed segments ∧ (segments .original = segments .changed ∨
    ∀ version, segments version ≠ [] ∧ isPrimitivePath (segments version) = false)

theorem SegmentsAgree.same (segments : List String) : SegmentsAgree passed fun _ => segments :=
  ⟨fun _ => rfl, .inl rfl⟩

theorem SegmentsAgree.isPrimitivePath {segments : Version → List String}
    (agree : SegmentsAgree passed segments) (version : Version) :
    isPrimitivePath (segments version) = isPrimitivePath (segments .original) := by
  rcases agree.2 with same | noPrimitive
  · cases version with
    | original => rfl
    | changed => rw [same]
  · rw [(noPrimitive version).2, (noPrimitive .original).2]

theorem SegmentsAgree.further {segments : Version → List String}
    (agree : SegmentsAgree passed segments) (more : List Slot) (name : String) :
    SegmentsAgree (passed ++ more) fun version => segments version ++ [name] := by
  refine ⟨fun plain => congrArg (· ++ [name]) (agree.1 plain.left), ?_⟩
  rcases agree.2 with same | noPrimitive
  · exact .inl (congrArg (· ++ [name]) same)
  · refine .inr fun version => ⟨by simp, ?_⟩
    obtain ⟨first, others, isCons⟩ := List.exists_cons_of_ne_nil (noPrimitive version).1
    dsimp only
    rw [isCons]
    cases others <;> rfl

theorem mem_sourceText {character : Char} {token : Token} {tokens : List Token}
    (member : token ∈ tokens) (isIn : character ∈ token.text.toList) :
    character ∈ (sourceText tokens).toList := by
  cases tokens with
  | nil => cases member
  | cons first rest =>
      rw [sourceText, String.toList_append, List.mem_append]
      rcases List.mem_cons.mp member with rfl | member
      · exact .inl isIn
      · refine .inr ?_
        rw [String.toList_join, List.mem_flatMap]
        refine ⟨token.textWithBefore, List.mem_map_of_mem member, ?_⟩
        rw [Token.textWithBefore, String.toList_append]
        exact List.mem_append_right _ isIn

theorem on_mem_tokensOn {shared : Shared} (member : .token shared ∈ slots) (version : Version) :
    shared.on version ∈ tokensOn version slots := by
  obtain ⟨before, after, rfl⟩ := List.append_of_mem member
  rw [tokensOn_append]
  exact List.mem_append_right _ List.mem_cons_self

/-- A text with an angle bracket in it is no built-in type. -/
theorem SegmentsAgree.text {shared : Shared} (isAll : all = passed ++ rest)
    (member : .token shared ∈ passed) (isAngle : (shared.on .original).isMark "<" = true) :
    SegmentsAgree passed fun version =>
      [textUntil (tokensOn version all) (tokensOn version rest)] := by
  have noAngle : ∀ name ∈ Name.primitiveTypes, '<' ∉ name.toList := by decide +kernel
  refine ⟨fun plain => congrArg (fun text => [text]) (settled_textUntil isAll plain), ?_⟩
  refine .inr fun version => ⟨List.cons_ne_nil _ _, ?_⟩
  dsimp only
  rw [isAll, textUntil_on, Source.isPrimitivePath, ← Bool.not_eq_true, List.contains_iff_mem]
  intro isPrimitive
  have isText : shared.text = "<" := (Token.isMark_eq_true.mp isAngle).2
  refine noAngle _ isPrimitive (mem_sourceText (on_mem_tokensOn member version) ?_)
  rw [Shared.text_on, isText]
  exact List.mem_singleton.mpr rfl

theorem TypesAgree.same (type : TypeSyntax) : TypesAgree passed fun _ => type :=
  ⟨fun _ => rfl, rfl⟩

/-- A type that is kept as its text. -/
theorem reads_verbatim (isAll : all = passed ++ rest) :
    Reads TypesAgree all fun version =>
      some (verbatim (tokensOn version all) (tokensOn version rest)) :=
  .passes isAll (fun _ => rfl)
    ⟨fun plain => congrArg TypeSyntax.unsupported (settled_textUntil isAll plain), rfl⟩

theorem TypesAgree.path {segments : Version → List String} (agree : SegmentsAgree passed segments) :
    TypesAgree passed fun version => .path (segments version) [] :=
  ⟨fun plain => congrArg (TypeSyntax.path · []) (agree.1 plain),
    agree.isPrimitivePath .original |>.trans (agree.isPrimitivePath .changed).symm⟩

theorem standsBehindImpl_on {type : Version → TypeSyntax} (isAll : slots = passed ++ rest)
    (agree : TypesAgree passed type) (version : Version) :
    standsBehindImpl (tokensOn version slots) (type version) (tokensOn version rest) =
      standsBehindImpl (tokensOn .original slots) (type .original) (tokensOn .original rest) := by
  have sameAlone : standsAlone (type version) = standsAlone (type .original) := by
    cases version with
    | original => rfl
    | changed => exact agree.2.symm
  have sameMacro : (macroGroup? (readPath (tokensOn version slots)).2).isSome =
      (macroGroup? (readPath (tokensOn .original slots)).2).isSome := by
    obtain ⟨after, -, isAfter⟩ := lands_readPath slots
    simp only [isAfter]
    exact (reads_macroGroup? after).isSome version
  have sameLength : (startsWithKind .placeholder (faces slots) &&
        (tokensUntil (tokensOn version slots) (tokensOn version rest)).length = 1) =
      (startsWithKind .placeholder (faces slots) &&
        (tokensUntil (tokensOn .original slots) (tokensOn .original rest)).length = 1) := by
    subst isAll
    simp only [tokensUntil_on]
    cases passed with
    | nil => rfl
    | cons slot more =>
        cases slot with
        | body body => simp [startsWithKind, body.kind]
        | token shared => cases more with
          | nil => rfl
          | cons slot further => cases slot <;> simp
  have behind (version : Version) :
      standsBehindImpl (tokensOn version slots) (type version) (tokensOn version rest) =
        !(startsWithMark ["&", "*", "[", "!"] (faces slots) ||
          startsWithWord ["dyn", "impl"] (faces slots) ||
          (startsWithKind .placeholder (faces slots) &&
            (tokensUntil (tokensOn version slots) (tokensOn version rest)).length = 1) ||
          (macroGroup? (readPath (tokensOn version slots)).2).isSome ||
          standsAlone (type version)) := by
    rw [← startsWithMark_on _ version, ← startsWithWord_on _ version, ← startsWithKind_on _ version]
    rfl
  rw [behind version, behind .original, sameAlone, sameMacro, sameLength]

/-! ### Types -/

/-- Both versions read the same types from here on, once each has a number of steps that grows with
the number of places. -/
structure TypesRead (slots : List Slot) : Prop where
  term {fuel : Version → Nat} (enough : ∀ version, 4 * slots.length + 1 ≤ fuel version) :
    Reads TypesAgree slots fun version => readTerm? (fuel version) (tokensOn version slots)
  segments {all passed : List Slot} {segments : Version → List String} {fuel : Version → Nat}
    (isAll : all = passed ++ slots) (agree : SegmentsAgree passed segments)
    (enough : ∀ version, 4 * slots.length + 2 ≤ fuel version) :
    Reads TypesAgree all fun version =>
      readSegments? (fuel version) (tokensOn version all) (segments version)
        (tokensOn version slots)
  returned {all passed : List Slot} {fuel : Version → Nat} (isAll : all = passed ++ slots)
    (enough : ∀ version, 4 * slots.length + 1 ≤ fuel version) :
    Reads TypesAgree all fun version =>
      readReturn? (fuel version) (tokensOn version all) (tokensOn version slots)
  sum {fuel : Version → Nat} (enough : ∀ version, 4 * slots.length + 2 ≤ fuel version) :
    Reads Settled slots fun version => readSum? (fuel version) (tokensOn version slots)
  addend {fuel : Version → Nat} (enough : ∀ version, 4 * slots.length + 1 ≤ fuel version) :
    MayLand slots fun version => skipAddend? (fuel version) (tokensOn version slots)
  furtherSum {fuel : Version → Nat} (enough : ∀ version, 4 * slots.length + 2 ≤ fuel version) :
    MayLand slots fun version => skipSum? (fuel version) (tokensOn version slots)
  arguments {fuel : Version → Nat} (enough : ∀ version, 4 * slots.length + 5 ≤ fuel version) :
    Reads Settled slots fun version => readArguments? (fuel version) (tokensOn version slots)

/-- What holds of all places behind the first of these. -/
def Behind (holds : List Slot → Prop) (slots : List Slot) : Prop :=
  ∀ rest, rest <:+ slots → rest.length < slots.length → holds rest

theorem behind_cons {holds : List Slot → Prop} {slot : Slot} {further : List Slot}
    (behind : Behind holds (slot :: rest)) (isLast : further <:+ rest) : holds further :=
  behind further (isLast.trans (suffix_cons slot rest)) (Nat.lt_succ_of_le isLast.length_le)

variable {fuel : Version → Nat}

theorem enough_behind {slot : Slot} {further : List Slot} {least need : Nat}
    (enough : ∀ version, 4 * (slot :: rest).length + least ≤ fuel version)
    (isLast : further <:+ rest) (affords : need ≤ least + 4) (version : Version) :
    4 * further.length + need ≤ fuel version := by
  have isShorter := isLast.length_le
  have isEnough := enough version
  rw [List.length_cons] at isEnough
  omega

theorem enough_shorter {least need : Nat}
    (enough : ∀ version, 4 * slots.length + least ≤ fuel version)
    (isShorter : rest.length < slots.length) (affords : need ≤ least + 4) (version : Version) :
    4 * rest.length + need ≤ fuel version := by
  have isEnough := enough version
  omega

theorem returned_of_behind (behind : Behind TypesRead slots) (isAll : all = passed ++ slots)
    (enough : ∀ version, 4 * slots.length + 1 ≤ fuel version) :
    Reads TypesAgree all fun version =>
      readReturn? (fuel version) (tokensOn version all) (tokensOn version slots) := by
  obtain ⟨fewer, rfl, isEnough⟩ := @exists_fewer fuel (4 * slots.length + 0) enough
  simp only [readReturn?, startsWithMark_on]
  refine .branch (fun starts => ?_) fun _ => reads_verbatim isAll
  obtain ⟨shared, rest, rfl, areBehind⟩ := drop_of_startsWithMark starts (by decide)
  simp only [areBehind]
  have isLast : rest <:+ all := (suffix_cons _ rest).trans ⟨_, isAll.symm⟩
  have ofRest := (behind_cons behind List.suffix_rfl).term
    (enough_behind isEnough List.suffix_rfl (Nat.le_add_left 1 _))
  refine ofRest.bind isLast fun before passed after type isAll _ _ => ?_
  rw [← List.append_assoc] at isAll
  exact reads_verbatim isAll

theorem addend_of_behind (behind : Behind TypesRead slots)
    (enough : ∀ version, 4 * slots.length + 1 ≤ fuel version) :
    MayLand slots fun version => skipAddend? (fuel version) (tokensOn version slots) := by
  obtain ⟨fewer, rfl, isEnough⟩ := @exists_fewer fuel (4 * slots.length + 0) enough
  simp only [skipAddend?, startsWithMark_on]
  refine .branch (fun starts => ?_) fun _ => .nowhere fun _ => rfl
  obtain ⟨shared, rest, rfl, areBehind⟩ := drop_of_startsWithMark starts (by decide)
  simp only [areBehind]
  refine MayLand.mono ?_ (suffix_cons _ rest)
  cases mayLand_skipPlainOperand? rest with
  | lands isLast isSome =>
      simp only [isSome]
      exact .lands isLast fun _ => rfl
  | nowhere isNone =>
      simp only [isNone]
      exact ((behind_cons behind List.suffix_rfl).term
        (enough_behind isEnough List.suffix_rfl (Nat.le_add_left 1 _))).mayLand

/-- What follows a `::` in a path. -/
theorem colons_of_behind (behind : Behind TypesRead slots) {segments : Version → List String}
    (isAll : all = passed ++ slots) (agree : SegmentsAgree passed segments)
    (starts : startsWithMark ["::"] (faces slots) = true)
    (enough : ∀ version, 4 * slots.length ≤ fuel version) :
    Reads TypesAgree all fun version =>
      readSegments? (fuel version) (tokensOn version all) (segments version)
        (tokensOn version slots) := by
  obtain ⟨colons, rest, rfl, isKind, isText⟩ := exists_of_startsWithMark starts (by decide)
  have isColons (version : Version) : (colons.on version).isMark "::" = true :=
    Token.isMark_eq_true.mpr ⟨isKind, List.mem_singleton.mp isText⟩
  obtain ⟨fewer, rfl, isEnough⟩ :=
    @exists_fewer fuel (4 * rest.length + 3) fun version => enough version
  simp only [tokensOn_token, readSegments?, isColons, if_true]
  cases rest with
  | nil => exact .fails fun _ => rfl
  | cons slot rest =>
      cases slot with
      | body body =>
          refine .fails fun version => ?_
          have noAngle := (body.encloses version).noOther "<" (by decide)
          simp [body.kind, noAngle]
      | token next =>
          simp only [tokensOn_token]
          simp only [Shared.kind_on, Shared.text_on, next.isMark_on]
          have isAllBehind : all = (passed ++ [.token colons, .token next]) ++ rest := by
            rw [isAll, List.append_assoc]
            rfl
          have ofRest (after : List Slot) (isLast : after <:+ rest) : TypesRead after :=
            behind_cons behind (isLast.trans (suffix_cons _ rest))
          refine .branch (fun _ => ?_) fun _ => .branch (fun isAngle => ?_) fun _ =>
            .fails fun _ => rfl
          · exact (ofRest rest List.suffix_rfl).segments isAllBehind (agree.further _ next.text)
              (enough_behind isEnough List.suffix_rfl (by omega))
          · obtain ⟨after, ⟨angles, rfl⟩, isAfter⟩ := lands_dropAngles 1 .outside rest
            rw [← List.append_assoc, List.append_assoc passed] at isAllBehind
            simp only [isAfter]
            exact (ofRest after (List.suffix_append angles after)).segments isAllBehind
              (.text isAllBehind (by simp) isAngle)
              (enough_behind isEnough (List.suffix_append angles after) (by omega))

/-- What follows an angle bracket in a path. -/
theorem arguments_of_behind {first : Shared}
    (ofRest : ∀ after, after <:+ rest → TypesRead after) {segments : Version → List String}
    (isAll : all = passed ++ .token first :: rest) (agree : SegmentsAgree passed segments)
    (noPrimitive : ∀ version, isPrimitivePath (segments version) = false)
    (isAngle : (first.on .original).isMark "<" = true)
    (enough : ∀ version, 4 * (Slot.token first :: rest).length + 1 ≤ fuel version) :
    Reads TypesAgree all fun version =>
      (readArguments? (fuel version) (tokensOn version rest)).bind fun (known, after) =>
        if startsWithMark ["::"] after then
          readSegments? (fuel version) (tokensOn version all)
            [textUntil (tokensOn version all) after] after
        else if known.hasLifetime then some (verbatim (tokensOn version all) after)
        else some (.path (segments version) known.arguments, after) := by
  have isLast : rest <:+ all := (suffix_cons _ rest).trans ⟨_, isAll.symm⟩
  have areRead := (ofRest rest List.suffix_rfl).arguments
    (enough_behind enough List.suffix_rfl (Nat.le_refl 5))
  refine areRead.bind isLast fun before inside after known isAllBehind isRest settled => ?_
  -- what stands before the arguments ends with the angle bracket
  obtain rfl : before = passed ++ [.token first] := by
    rw [isAll, ← isRest, List.append_cons] at isAllBehind
    exact (List.append_cancel_right isAllBehind).symm
  rw [← List.append_assoc] at isAllBehind
  simp only [startsWithMark_on]
  refine .branch (fun _ => ?_) fun _ => ?_
  · have isShorter : after <:+ rest := ⟨inside, isRest.symm⟩
    exact (ofRest after isShorter).segments isAllBehind (.text isAllBehind (by simp) isAngle)
      (enough_behind enough isShorter (by omega))
  · let type (version : Version) : TypeSyntax :=
      if (known version).hasLifetime then
        .unsupported (textUntil (tokensOn version all) (tokensOn version after))
      else .path (segments version) (known version).arguments
    have noneAlone (version : Version) : standsAlone (type version) = false := by
      simp only [type]
      split
      · rfl
      · cases (known version).arguments with
        | nil => exact noPrimitive version
        | cons first others => rfl
    have agrees : TypesAgree (passed ++ [.token first] ++ inside) type := by
      refine ⟨fun plain => ?_, ?_⟩
      · simp only [type, settled plain.right, agree.1 plain.left.left,
          settled_textUntil isAllBehind plain]
      · rw [noneAlone, noneAlone]
    refine .passes isAllBehind (fun version => ?_) agrees
    simp only [type]
    split <;> rfl

/-- What follows the parameters in a path such as `Fn(u8) -> u8`. -/
theorem parameters_of_behind {first : Shared}
    (ofRest : ∀ after, after <:+ rest → TypesRead after)
    (isAll : all = passed ++ .token first :: rest)
    (isRound : (first.on .original).isMark "(" = true)
    (enough : ∀ version, 4 * (Slot.token first :: rest).length + 1 ≤ fuel version) :
    Reads TypesAgree all fun version =>
      (group? (tokensOn version (.token first :: rest))).bind fun cut =>
        readReturn? (fuel version) (tokensOn version all) cut.2 := by
  obtain ⟨isKind, isText⟩ := Token.isMark_eq_true.mp isRound
  have isClosing : closingMark? first.text = some ")" := by
    rw [show first.text = "(" from isText]
    rfl
  obtain ⟨inside, group, after, rfl, -, areCut⟩ := exists_group? isKind isClosing rest
  simp only [areCut]
  have isAllBehind : all = (passed ++ .token first :: group) ++ after := by
    rw [isAll, List.append_assoc]
    rfl
  have isLast := List.suffix_append group after
  exact (ofRest after isLast).returned isAllBehind (enough_behind enough isLast (by omega))

/-- A path ends in front of these, unless they are the group of a macro. -/
theorem macroType_of_ends {first : Shared} {type : Version → TypeSyntax}
    (isAll : all = passed ++ .token first :: rest)
    (ends : Reads TypesAgree all fun version =>
      some (type version, tokensOn version (.token first :: rest))) :
    Reads TypesAgree all fun version =>
      match macroGroup? (tokensOn version (.token first :: rest)) with
      | some (_, after) => some (verbatim (tokensOn version all) after)
      | none => some (type version, tokensOn version (.token first :: rest)) := by
  obtain isNone | ⟨isGroup, isSome, -⟩ := reads_macroGroup? (.token first :: rest)
  · simp only [isNone]
    exact ends
  · simp only [isSome]
    rw [isGroup, ← List.append_assoc] at isAll
    exact reads_verbatim isAll

theorem segments_of_behind (behind : Behind TypesRead slots) {segments : Version → List String}
    (isAll : all = passed ++ slots) (agree : SegmentsAgree passed segments)
    (enough : ∀ version, 4 * slots.length + 2 ≤ fuel version) :
    Reads TypesAgree all fun version =>
      readSegments? (fuel version) (tokensOn version all) (segments version)
        (tokensOn version slots) := by
  have ends : Reads TypesAgree all fun version =>
      some (TypeSyntax.path (segments version) [], tokensOn version slots) :=
    .passes isAll (fun _ => rfl) (.path agree)
  by_cases starts : startsWithMark ["::"] (faces slots) = true
  · exact colons_of_behind behind isAll agree starts fun version =>
      Nat.le_trans (Nat.le_add_right _ 2) (enough version)
  · obtain ⟨fewer, rfl, isEnough⟩ := exists_fewer enough
    cases slots with
    | nil => exact ends
    | cons slot rest =>
        cases slot with
        | body body =>
            refine ends.congr fun version => ?_
            have noOther := (body.encloses version).noOther
            simp [readSegments?, noOther, macroGroup?, startsWithMark, body.text]
        | token first =>
            have noColons (version : Version) : (first.on version).isMark "::" = false := by
              simpa [startsWithMark, Token.isMark] using starts
            have ofRest (after : List Slot) (isLast : after <:+ rest) : TypesRead after :=
              behind_cons behind isLast
            simp only [tokensOn_token, readSegments?, noColons, Bool.false_eq_true, if_false]
            simp only [first.isMark_on]
            have samePrimitive := agree.isPrimitivePath
            cases isPrimitive : isPrimitivePath (segments .original) with
            | true =>
                simp only [fun version => (samePrimitive version).trans isPrimitive, if_true]
                exact ends
            | false =>
                have noPrimitive (version : Version) : isPrimitivePath (segments version) = false :=
                  (samePrimitive version).trans isPrimitive
                simp only [noPrimitive, Bool.false_eq_true, if_false]
                refine .branch (fun isAngle => ?_) fun _ => .branch (fun isRound => ?_) fun _ => ?_
                · exact arguments_of_behind ofRest isAll agree noPrimitive isAngle isEnough
                · exact parameters_of_behind ofRest isAll isRound isEnough
                · exact macroType_of_ends isAll ends

/-! ### Whole types -/

/-- A type that is kept as the text up to the end of what is read. -/
theorem Reads.verbatim {Value : Type} {agree : List Slot → (Version → Value) → Prop}
    {read : Version → Option (Value × List Token)} (reads : Reads agree rest read)
    (isLast : rest <:+ all) :
    Reads TypesAgree all fun version =>
      read version >>= fun found => pure (Source.verbatim (tokensOn version all) found.2) := by
  refine reads.bind isLast fun before passed after value isAll _ _ => ?_
  rw [← List.append_assoc] at isAll
  exact reads_verbatim isAll

theorem MayLand.verbatim {read : Version → Option (List Token)} (lands : MayLand rest read)
    (isLast : rest <:+ all) :
    Reads TypesAgree all fun version =>
      read version >>= fun after => pure (Source.verbatim (tokensOn version all) after) := by
  refine lands.bindReads fun after isFurther => ?_
  obtain ⟨passed, isAll⟩ := isFurther.trans isLast
  exact reads_verbatim isAll.symm

theorem reads_groupOf? (opening : String) (slots : List Slot) :
    Reads Inside slots fun version => groupOf? opening (tokensOn version slots) := by
  have sameFirst (version : Version) :
      ((tokensOn version slots).head?.any fun token => token.isMark opening) =
        startsWithMark [opening] (faces slots) := by
    rw [← startsWithMark_on _ version, startsWithMark]
    cases tokensOn version slots <;> simp [Token.isMark, Bool.beq_eq_decide_eq]
  simp only [groupOf?, sameFirst]
  exact .branch (fun _ => reads_group? slots) fun _ => .fails fun _ => rfl

theorem startsShared_of_groupOf?
    (isNone : ∀ version, groupOf? "\x7b" (tokensOn version slots) = none) : StartsShared slots := by
  intro body isBody
  obtain ⟨others, rfl⟩ := List.head?_eq_some_iff.mp isBody
  have isGroup := (body.encloses .original).groupOf? (tokensOn .original others)
  exact nomatch (isNone .original).symm.trans isGroup

/-- The type that a bound behind `dyn` makes of a type with that text. -/
def objectOr (bound : TypeSyntax) (text : String) : TypeSyntax :=
  match bound with
  | .path segments [] => .traitObject segments
  | _ => .unsupported text

theorem match_objectOr (bound : TypeSyntax) (all after : List Token) :
    (match bound with
      | .path segments [] => (.traitObject segments, after)
      | _ => verbatim all after) = (objectOr bound (textUntil all after), after) := by
  cases bound with
  | path segments arguments => cases arguments <;> rfl
  | _ => rfl

section Term

variable {first : Shared}

/-- What follows a mark that a type begins with. -/
theorem marked_of_behind (behind : Behind TypesRead (.token first :: rest))
    (isKind : first.kind = .mark)
    (enough : ∀ version, 4 * (Slot.token first :: rest).length + 1 ≤ fuel version) :
    Reads TypesAgree (.token first :: rest) fun version =>
      readTerm? (fuel version) (tokensOn version (.token first :: rest)) := by
  obtain ⟨fewer, rfl, isEnough⟩ :=
    @exists_fewer fuel (4 * (Slot.token first :: rest).length + 0) enough
  have ofRest {further : List Slot} (isLast : further <:+ rest) :
      Reads TypesAgree further fun version =>
        readTerm? (fewer version) (tokensOn version further) :=
    (behind_cons behind isLast).term (enough_behind isEnough isLast (by omega))
  have isBehind := suffix_cons (.token first) rest
  have verbatimAt {after : Version → List Token} (lands : Lands rest after) :
      Reads TypesAgree (.token first :: rest) fun version =>
        readTerm? (fewer version) (after version) >>= fun found =>
          pure (verbatim (tokensOn version (.token first :: rest)) found.2) := by
    obtain ⟨further, isLast, isAfter⟩ := lands
    simp only [isAfter]
    exact (ofRest isLast).verbatim (isLast.trans isBehind)
  have grouped := reads_group? (.token first :: rest)
  simp only [tokensOn_token, readTerm?, Shared.kind_on, Shared.text_on, isKind]
  refine .branch (fun _ => ?_) fun _ => .branch (fun _ => ?_) fun _ => .branch (fun _ => ?_)
    fun _ => .branch (fun _ => ?_) fun _ => .branch (fun isRound => ?_) fun _ =>
    .branch (fun _ => ?_) fun _ => .branch (fun isAngle => ?_) fun _ =>
    .branch (fun isColons => ?_) fun _ => .fails fun _ => rfl
  · obtain ⟨behindLifetime, isLast, isAfter⟩ := lands_skipLifetime rest
    obtain ⟨inner, isFurther, isInner⟩ := lands_skipWord ["mut"] behindLifetime
    simp only [isAfter, isInner, startsWithWord_on]
    have isAfterMark := isFurther.trans isLast
    refine (ofRest isAfterMark).bind (isAfterMark.trans isBehind)
      fun before passed after type isAll _ agree => ?_
    rw [← List.append_assoc] at isAll
    refine .passes isAll (fun _ => rfl) ⟨fun plain => ?_, rfl⟩
    exact congrArg (TypeSyntax.reference _) (agree.1 plain.right)
  · exact verbatimAt (lands_skipWord ["mut", "const"] rest)
  · exact verbatimAt (.of_suffix List.suffix_rfl)
  · exact reads_verbatim List.singleton_append.symm
  · obtain ⟨inside, passed, after, rfl, -, areCut⟩ :=
      exists_group? isKind (by rw [isRound]; rfl) rest
    simp only [tokensOn_token] at areCut
    simp only [areCut]
    cases inside with
    | nil => exact .passes (List.cons_append ..).symm (fun _ => rfl) (.same .unit)
    | cons slot inside =>
        refine (reads_verbatim (List.cons_append ..).symm).congr fun version => ?_
        cases slot <;> rfl
  · exact grouped.verbatim List.suffix_rfl
  · obtain ⟨after, ⟨angles, rfl⟩, isAfter⟩ := lands_dropAngles 1 .outside rest
    have isLast := List.suffix_append angles after
    have isAll : .token first :: (angles ++ after) = (.token first :: angles) ++ after := rfl
    have isMark : (first.on .original).isMark "<" = true :=
      Token.isMark_eq_true.mpr ⟨isKind, isAngle⟩
    simp only [isAfter]
    exact (behind_cons behind isLast).segments isAll (.text isAll List.mem_cons_self isMark)
      (enough_behind isEnough isLast (by omega))
  · have starts : startsWithMark ["::"] (faces (.token first :: rest)) = true := by
      simp [startsWithMark, isKind, isColons]
    exact colons_of_behind behind (List.nil_append _).symm (.same []) starts isEnough

/-- What follows `impl`. -/
theorem behindImpl_of_behind (behind : Behind TypesRead (.token first :: rest))
    (enough : ∀ version, 4 * (Slot.token first :: rest).length ≤ fuel version) :
    MayLand rest fun version =>
      match skipPlainOperand? (skipFor (tokensOn version rest)) with
      | some after => skipAddend? (fuel version) after
      | none =>
          (readTerm? (fuel version) (skipFor (tokensOn version rest))).bind fun found =>
            if standsBehindImpl (skipFor (tokensOn version rest)) found.1 found.2 then some found.2
            else skipAddend? (fuel version) found.2 := by
  have ofRest {further : List Slot} (isLast : further <:+ rest) :
      TypesRead further ∧ ∀ version, 4 * further.length + 1 ≤ fuel version :=
    ⟨behind_cons behind isLast, @enough_behind _ fuel (.token first) _ 0 1 enough isLast (by omega)⟩
  obtain ⟨bound, isLast, isBound⟩ := lands_skipFor rest
  simp only [isBound]
  cases mayLand_skipPlainOperand? bound with
  | lands isFurther isSome =>
      simp only [isSome]
      have isBehind := isFurther.trans isLast
      exact ((ofRest isBehind).1.addend (ofRest isBehind).2).mono isBehind
  | nowhere isNone =>
      simp only [isNone]
      cases (ofRest isLast).1.term (ofRest isLast).2 with
      | fails isNone => exact .nowhere fun version => by rw [isNone version]; rfl
      | @passes passed after type isAll isSome agree =>
          have isFurther : after <:+ bound := ⟨passed, isAll.symm⟩
          have isBehind := isFurther.trans isLast
          simp only [isSome, Option.bind_some, standsBehindImpl_on isAll agree]
          exact .branch (fun _ => .lands isBehind fun _ => rfl) fun _ =>
            ((ofRest isBehind).1.addend (ofRest isBehind).2).mono isBehind

/-- What follows `dyn`. -/
theorem object_of_behind (behind : Behind TypesRead (.token first :: rest))
    (enough : ∀ version, 4 * (Slot.token first :: rest).length ≤ fuel version) :
    Reads TypesAgree (.token first :: rest) fun version =>
      readTerm? (fuel version) (tokensOn version rest) >>= fun found =>
        pure (match found.1 with
          | .path segments [] => (.traitObject segments, found.2)
          | _ => verbatim (tokensOn version (.token first :: rest)) found.2) := by
  have ofRest := (behind_cons behind List.suffix_rfl).term
    (@enough_behind _ fuel (.token first) _ 0 1 enough List.suffix_rfl (by omega))
  refine ofRest.bind (suffix_cons _ rest) fun before passed after bound isAll _ agree => ?_
  rw [← List.append_assoc] at isAll
  have noneAlone (version : Version) (text : String) :
      standsAlone (objectOr (bound version) text) = false := by
    cases bound version with
    | path segments arguments => cases arguments <;> rfl
    | _ => rfl
  have agrees : TypesAgree (before ++ passed) fun version =>
      objectOr (bound version)
        (textUntil (tokensOn version (.token first :: rest)) (tokensOn version after)) := by
    refine ⟨fun plain => ?_, by rw [noneAlone, noneAlone]⟩
    simp only [agree.1 plain.right]
    exact congrArg (objectOr _) (settled_textUntil isAll plain)
  exact .passes isAll (fun version => congrArg some (match_objectOr (bound version) _ _)) agrees

/-- What follows the qualifiers of a function type. -/
theorem functionType_of_behind (behind : Behind TypesRead (.token first :: rest))
    (starts : startsFunctionType (tokensOn .original (.token first :: rest)) = true)
    (enough : ∀ version, 4 * (Slot.token first :: rest).length ≤ fuel version) :
    Reads TypesAgree (.token first :: rest) fun version =>
      groupOf? "(" ((skipFunctionQualifiers (tokensOn version (.token first :: rest))).drop 1) >>=
        fun found =>
          readReturn? (fuel version) (tokensOn version (.token first :: rest)) found.2 := by
  obtain ⟨function, isLast, isFunction⟩ := lands_skipFunctionQualifiers (.token first :: rest)
  have isKeyword : startsWithWord ["fn"] (faces function) = true := by
    rw [← startsWithWord_on _ .original, ← isFunction .original]
    exact starts
  obtain ⟨keyword, parameters, rfl, areBehind⟩ := drop_of_startsWithWord isKeyword
  have isShorter : parameters <:+ rest :=
    (List.suffix_cons_iff.mp isLast).elim (fun same => (List.cons.inj same).2 ▸ List.suffix_rfl)
      (suffix_cons _ parameters).trans
  simp only [isFunction, areBehind]
  refine (reads_groupOf? "(" parameters).bind (isShorter.trans (suffix_cons _ rest))
    fun before passed after _ isAll isParameters _ => ?_
  have isBehindGroup : after <:+ rest := .trans ⟨passed, isParameters.symm⟩ isShorter
  rw [← List.append_assoc] at isAll
  exact (behind_cons behind isBehindGroup).returned isAll
    (@enough_behind _ fuel (.token first) _ 0 1 enough isBehindGroup (by omega))

/-- What follows a word that a type begins with. -/
theorem worded_of_behind (behind : Behind TypesRead (.token first :: rest))
    (isKind : first.kind = .word)
    (enough : ∀ version, 4 * (Slot.token first :: rest).length + 1 ≤ fuel version) :
    Reads TypesAgree (.token first :: rest) fun version =>
      readTerm? (fuel version) (tokensOn version (.token first :: rest)) := by
  obtain ⟨fewer, rfl, isEnough⟩ :=
    @exists_fewer fuel (4 * (Slot.token first :: rest).length + 0) enough
  have ofRest {further : List Slot} (isLast : further <:+ rest) :
      Reads TypesAgree further fun version =>
        readTerm? (fewer version) (tokensOn version further) :=
    (behind_cons behind isLast).term (enough_behind isEnough isLast (by omega))
  have isBehind := suffix_cons (.token first) rest
  have sameFunction (version : Version) := startsFunctionType_on version (.token first :: rest)
  simp only [tokensOn_token, readTerm?, Shared.kind_on, Shared.text_on, isKind]
  simp only [tokensOn_token] at sameFunction
  simp only [sameFunction]
  refine .branch (fun _ => ?_) fun _ => .branch (fun _ => ?_) fun _ => .branch (fun isFor => ?_)
    fun _ => .branch (fun starts => ?_) fun _ => ?_
  · exact object_of_behind behind isEnough
  · have lands := behindImpl_of_behind behind isEnough
    refine (lands.verbatim isBehind).congr fun version => ?_
    cases skipPlainOperand? (skipFor (tokensOn version rest)) with
    | some after => rfl
    | none =>
        cases readTerm? (fewer version) (skipFor (tokensOn version rest)) with
        | none => rfl
        | some found =>
            by_cases alone :
                standsBehindImpl (skipFor (tokensOn version rest)) found.1 found.2 = true <;>
              simp [alone]
  · have isWord (version : Version) : (skipFor (first.on version :: tokensOn version rest)) =
        (skipAngles (tokensOn version rest)).2 := by
      simp [skipFor, startsWithWord, isKind, isFor]
    obtain ⟨further, isLast, isAfter⟩ := lands_skipAngles rest
    simp only [isWord, isAfter]
    exact (ofRest isLast).verbatim (isLast.trans isBehind)
  · exact functionType_of_behind behind starts isEnough
  · exact (behind_cons behind List.suffix_rfl).segments List.singleton_append.symm
      (.same [first.text]) (enough_behind isEnough List.suffix_rfl (by omega))

end Term

theorem term_of_behind (behind : Behind TypesRead slots)
    (enough : ∀ version, 4 * slots.length + 1 ≤ fuel version) :
    Reads TypesAgree slots fun version => readTerm? (fuel version) (tokensOn version slots) := by
  cases slots with
  | nil =>
      obtain ⟨fewer, rfl, -⟩ := @exists_fewer fuel 0 enough
      exact .fails fun _ => rfl
  | cons slot rest =>
      cases slot with
      | body body =>
          obtain ⟨fewer, rfl, -⟩ := exists_fewer enough
          exact .fails fun version => by simp [readTerm?, body.kind, body.text]
      | token first =>
          cases isKind : first.kind with
          | mark => exact marked_of_behind behind isKind enough
          | word => exact worded_of_behind behind isKind enough
          | placeholder =>
              obtain ⟨fewer, rfl, isEnough⟩ :=
                @exists_fewer fuel (4 * (Slot.token first :: rest).length + 0) enough
              simp only [tokensOn_token, readTerm?, Shared.kind_on, Shared.text_on, isKind,
                startsWithMark_on]
              refine .branch (fun _ => ?_) fun _ => reads_verbatim List.singleton_append.symm
              exact (behind_cons behind List.suffix_rfl).segments List.singleton_append.symm
                (.same [first.text]) (enough_behind isEnough List.suffix_rfl (by omega))
          | _ =>
              obtain ⟨fewer, rfl, -⟩ := exists_fewer enough
              exact .fails fun version => by simp [readTerm?, isKind]

/-! ### Sums -/

theorem furtherSum_of_behind (behind : Behind TypesRead slots)
    (enough : ∀ version, 4 * slots.length + 2 ≤ fuel version) :
    MayLand slots fun version => skipSum? (fuel version) (tokensOn version slots) := by
  obtain ⟨fewer, rfl, isEnough⟩ := exists_fewer enough
  have operand : MayLand slots fun version =>
      match skipPlainOperand? (tokensOn version slots) with
      | some after => some after
      | none => (readTerm? (fewer version) (tokensOn version slots)).map Prod.snd := by
    cases mayLand_skipPlainOperand? slots with
    | lands isLast isSome =>
        simp only [isSome]
        exact .lands isLast fun _ => rfl
    | nowhere isNone =>
        simp only [isNone]
        exact (term_of_behind behind isEnough).mayLand
  let next (version : Version) (after : List Token) : Option (List Token) :=
    if startsWithMark ["+"] after then skipSum? (fewer version) (after.drop 1) else some after
  have goesOn (after : List Slot) (isLast : after <:+ slots) :
      MayLand after fun version => next version (tokensOn version after) := by
    simp only [next, startsWithMark_on]
    refine .branch (fun starts => ?_) fun _ => .lands List.suffix_rfl fun _ => rfl
    obtain ⟨shared, rest, rfl, areBehind⟩ := drop_of_startsWithMark starts (by decide)
    simp only [areBehind]
    have isShorter : rest.length < slots.length := isLast.length_le
    have isBehind := (suffix_cons _ rest).trans isLast
    exact ((behind rest isBehind isShorter).furtherSum
      (enough_shorter isEnough isShorter (by omega))).mono (suffix_cons _ rest)
  refine (@MayLand.bind _ _ next operand goesOn).congr fun version => ?_
  simp only [skipSum?]
  cases skipPlainOperand? (tokensOn version slots) <;> rfl

theorem sum_of_behind (behind : Behind TypesRead slots)
    (enough : ∀ version, 4 * slots.length + 2 ≤ fuel version) :
    Reads Settled slots fun version => readSum? (fuel version) (tokensOn version slots) := by
  obtain ⟨fewer, rfl, isEnough⟩ := exists_fewer enough
  have operand : Reads TypesAgree slots fun version =>
      match skipPlainOperand? (tokensOn version slots) with
      | some after =>
          if startsWithMark ["+"] after then some (verbatim (tokensOn version slots) after)
          else none
      | none => readTerm? (fewer version) (tokensOn version slots) := by
    cases mayLand_skipPlainOperand? slots with
    | lands isLast isSome =>
        simp only [isSome, startsWithMark_on]
        obtain ⟨passed, isAll⟩ := isLast
        exact .branch (fun _ => reads_verbatim isAll.symm) fun _ => .fails fun _ => rfl
    | nowhere isNone =>
        simp only [isNone]
        exact term_of_behind behind isEnough
  let next (version : Version) (found : TypeSyntax × List Token) : ReadType :=
    if startsWithMark ["+"] found.2 then
      skipSum? (fewer version) (found.2.drop 1) >>= fun last =>
        pure (verbatim (tokensOn version slots) last)
    else some found
  have goesOn (passed after : List Slot) (type : Version → TypeSyntax)
      (isAll : slots = passed ++ after) (agree : TypesAgree passed type) :
      Reads Settled slots fun version => next version (type version, tokensOn version after) := by
    simp only [next, startsWithMark_on]
    refine .branch (fun starts => ?_) fun _ => .passes isAll (fun _ => rfl) agree.1
    obtain ⟨shared, rest, rfl, areBehind⟩ := drop_of_startsWithMark starts (by decide)
    simp only [areBehind]
    have isLast : .token shared :: rest <:+ slots := ⟨passed, isAll.symm⟩
    have isShorter : rest.length < slots.length := isLast.length_le
    have isBehind := (suffix_cons _ rest).trans isLast
    have lands := (behind rest isBehind isShorter).furtherSum
      (enough_shorter isEnough isShorter (by omega))
    exact (lands.verbatim isBehind).widen List.suffix_rfl fun before passed value agree plain =>
      agree.1 plain.right
  refine (@Reads.bind _ _ _ _ _ _ _ next operand List.suffix_rfl
    fun before passed after type isAll isRest agree =>
      goesOn passed after type isRest agree).congr fun version => ?_
  simp only [readSum?]
  cases skipPlainOperand? (tokensOn version slots) with
  | none => rfl
  | some after =>
      dsimp only
      split <;> rfl

/-! ### Arguments -/

/-- An argument that is kept as its text. -/
theorem reads_argumentText (isLast : rest <:+ slots) :
    Reads Settled slots fun version =>
      some (TypeArguments.mk
        [.unsupported (textUntil (tokensOn version slots) (tokensOn version rest))] false,
        tokensOn version rest) := by
  obtain ⟨passed, isAll⟩ := isLast
  exact .passes isAll.symm (fun _ => rfl) fun plain =>
    congrArg (fun written => TypeArguments.mk [.unsupported written] false)
      (settled_textUntil isAll.symm plain)

/-- An argument that begins with a type. -/
theorem typedArgument_of_behind (behind : Behind TypesRead slots)
    (enough : ∀ version, 4 * slots.length + 2 ≤ fuel version) :
    Reads Settled slots fun version =>
      readSum? (fuel version) (tokensOn version slots) >>= fun found =>
        if startsWithMark ["="] found.2 then
          readSum? (fuel version) (found.2.drop 1) >>= fun bound =>
            some (TypeArguments.mk
              [.unsupported (textUntil (tokensOn version slots) bound.2)] false, bound.2)
        else some (TypeArguments.mk [found.1] false, found.2) := by
  refine (sum_of_behind behind enough).bind List.suffix_rfl
    fun before passed after type isAll isRest settled => ?_
  simp only [startsWithMark_on]
  refine .branch (fun starts => ?_) fun _ => .passes isRest (fun _ => rfl) fun plain =>
    congrArg (fun type => TypeArguments.mk [type] false) (settled plain)
  obtain ⟨shared, rest, rfl, areBehind⟩ := drop_of_startsWithMark starts (by decide)
  simp only [areBehind]
  have isLast : .token shared :: rest <:+ slots := ⟨passed, isRest.symm⟩
  have isShorter : rest.length < slots.length := isLast.length_le
  have isBehind := (suffix_cons _ rest).trans isLast
  have bound := (behind rest isBehind isShorter).sum
    (enough_shorter enough isShorter (by omega))
  refine bound.bind isBehind fun before passed after _ isAll _ _ => ?_
  exact reads_argumentText ⟨before ++ passed, (List.append_assoc ..).trans isAll.symm⟩

theorem plainArgument_of_behind (behind : Behind TypesRead slots)
    (enough : ∀ version, 4 * slots.length + 3 ≤ fuel version) :
    Reads Settled slots fun version =>
      readPlainArgument? (fuel version) (tokensOn version slots) := by
  obtain ⟨fewer, rfl, isEnough⟩ := exists_fewer enough
  have isAlone (version : Version) :
      (startsWithLifetime (faces slots) &&
        !startsWithMark ["+"] ((tokensOn version slots).drop 1)) =
      (startsWithLifetime (faces slots) &&
        !startsWithMark ["+"] ((faces slots).drop 1)) :=
    @behindFirst_on slots version _ (fun tokens => !startsWithMark ["+"] tokens)
      (fun starts =>
        let ⟨shared, rest, isSlots, _⟩ := exists_of_startsWithKind starts (by decide)
        ⟨shared, rest, isSlots⟩)
      fun rest => congrArg not (startsWithMark_on ["+"] version rest)
  simp only [readPlainArgument?, startsWithLifetime_on, isAlone]
  refine .branch (fun isLifetime => ?_) fun _ => ?_
  · obtain ⟨shared, rest, rfl, areBehind⟩ :=
      drop_of_startsWithKind (Bool.and_eq_true_iff.mp isLifetime).1 (by decide)
    simp only [areBehind]
    have agrees : Settled [.token shared] fun _ => TypeArguments.mk [] true := fun _ => rfl
    exact .passes List.singleton_append.symm (fun _ => rfl) agrees
  · cases mayLand_skipLiteral? slots with
    | lands isLast isSome =>
        simp only [isSome]
        exact reads_argumentText isLast
    | nowhere isNone =>
        simp only [isNone]
        cases reads_groupOf? "\x7b" slots with
        | passes isAll isSome =>
            simp only [isSome]
            exact reads_argumentText ⟨_, isAll.symm⟩
        | fails isNone =>
            simp only [isNone]
            exact typedArgument_of_behind behind isEnough

theorem argument_of_behind (behind : Behind TypesRead slots)
    (enough : ∀ version, 4 * slots.length + 4 ≤ fuel version) :
    Reads Settled slots fun version =>
      readArgument? (fuel version) (tokensOn version slots) := by
  obtain ⟨fewer, rfl, isEnough⟩ := exists_fewer enough
  simp only [readArgument?]
  refine (plainArgument_of_behind behind isEnough).bind List.suffix_rfl
    fun before passed after known isAll isRest settled => ?_
  simp only [startsWithMark_on]
  refine .branch (fun starts => ?_) fun _ => .passes isRest (fun _ => rfl) settled
  obtain ⟨shared, rest, rfl, areBehind⟩ := drop_of_startsWithMark starts (by decide)
  simp only [areBehind]
  have isLast : .token shared :: rest <:+ slots := ⟨passed, isRest.symm⟩
  have isShorter : rest.length < slots.length := isLast.length_le
  have lands := (behind rest ((suffix_cons _ rest).trans isLast) isShorter).furtherSum
    (enough_shorter isEnough isShorter (by omega))
  refine lands.bindReads fun last isFurther => ?_
  obtain ⟨bounds, isBounds⟩ := isFurther.trans (suffix_cons (.token shared) rest)
  rw [← isBounds, ← List.append_assoc] at isRest
  rw [← isBounds]
  refine .passes isRest (fun _ => rfl) fun plain => ?_
  simp only [settled plain.left, settled_textUntil rfl plain.right]

theorem arguments_of_here (behind : Behind TypesRead slots)
    (enough : ∀ version, 4 * slots.length + 5 ≤ fuel version) :
    Reads Settled slots fun version =>
      readArguments? (fuel version) (tokensOn version slots) := by
  obtain ⟨fewer, rfl, isEnough⟩ := exists_fewer enough
  simp only [readArguments?, startsWithMark_on]
  refine .branch (fun starts => ?_) fun _ => ?_
  · obtain ⟨shared, rest, rfl, areBehind⟩ := drop_of_startsWithMark starts (by decide)
    simp only [areBehind]
    have agrees : Settled [.token shared] fun _ => TypeArguments.mk [] false := fun _ => rfl
    exact .passes List.singleton_append.symm (fun _ => rfl) agrees
  · refine (argument_of_behind behind isEnough).bind List.suffix_rfl
      fun before passed after known isAll isRest settled => ?_
    simp only [startsWithMark_on]
    refine .branch (fun starts => ?_) fun _ => .branch (fun starts => ?_) fun _ =>
      .fails fun _ => rfl
    · obtain ⟨shared, rest, rfl, areBehind⟩ := drop_of_startsWithMark starts (by decide)
      simp only [areBehind]
      have isLast : .token shared :: rest <:+ slots := ⟨passed, isRest.symm⟩
      have isShorter : rest.length < slots.length := isLast.length_le
      have isBehind := (suffix_cons _ rest).trans isLast
      have others := (behind rest isBehind isShorter).arguments
        (enough_shorter isEnough isShorter (by omega))
      refine others.bind isBehind fun before further last value isAll isFurther settledToo => ?_
      rw [isFurther, List.append_cons, ← List.append_assoc] at isRest
      refine .passes isRest (fun _ => rfl) fun plain => ?_
      simp only [settled plain.left.left, settledToo plain.right]
    · obtain ⟨shared, rest, rfl, areBehind⟩ := drop_of_startsWithMark starts (by decide)
      simp only [areBehind]
      rw [List.append_cons] at isRest
      exact .passes isRest (fun _ => rfl) fun plain => settled plain.left

/-- Both versions read the same types. -/
theorem typesRead (slots : List Slot) : TypesRead slots := by
  induction isLength : slots.length using Nat.strong_induction_on generalizing slots with
  | _ length inductionHypothesis =>
      subst isLength
      have behind : Behind TypesRead slots := fun rest _ isShorter =>
        inductionHypothesis rest.length isShorter rest rfl
      exact {
        term := term_of_behind behind
        segments := segments_of_behind behind
        returned := returned_of_behind behind
        sum := sum_of_behind behind
        addend := addend_of_behind behind
        furtherSum := furtherSum_of_behind behind
        arguments := arguments_of_here behind }

end ForwardingProxy.Source
