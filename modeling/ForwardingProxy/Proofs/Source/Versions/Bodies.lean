import ForwardingProxy.Proofs.Source.Versions.Places

/-!
Contract: both versions of a text read the same item around a body that is passed over.

Owns: `Source.PassedOver`, which tells how the reading of items comes to a group of braces that
nothing is kept of; and the readings of the items that such a group may stand in, which go the same
way in both versions.

Such a group is found from the outside in. On the way to it stand whole declarations, and the
headers of the modules, traits and `impl` blocks that it is inside of.
-/

namespace ForwardingProxy.Source

variable {slots rest passed : List Slot}

/-! ### Blocks that are passed over -/

/-- The tokens of the group in a version. -/
def Body.tokens (body : Body) (version : Version) : List Token :=
  body.opening.on version :: (body.inside version ++ [body.closing version])

/-- A block that is passed over and that nothing is kept of, by the tokens before and behind it. -/
inductive PassedOver (block : List Token) : (before after : List Token) → Prop where
  /-- The block stands behind what comes first. -/
  | behind {first before after : List Token}
      (isBehind : behindFirst (first ++ (before ++ (block ++ after))) = before ++ (block ++ after))
      (further : PassedOver block before after) : PassedOver block (first ++ before) after
  /-- The block is the body of the function that comes first, or stands in that or in the `where`
  clause. -/
  | function {before between after declared last : List Token}
      {header : Bool → FunctionSignature} {item : Item}
      (declares : Declares (before ++ (block ++ after)) declared)
      (isStart : functionStart? declared = some (header, between ++ (block ++ after)))
      (isItem : readItem? itemsIn noHead declared = some (item, last)) (isPassed : last <:+ after) :
      PassedOver block before after
  /-- The block stands in the `where` clause of the trait or the `impl` block that comes first. -/
  | clause {before between after declared inside last : List Token} {make : Head → List Item → Item}
      (declares : Declares (before ++ (block ++ after)) declared)
      (isStart : memberStart? declared = some (make, between ++ (block ++ after)))
      (isPassed : skipWhere (between ++ (block ++ after)) <:+ after)
      (isBody : groupOf? "\x7b" (skipWhere (between ++ (block ++ after))) = some (inside, last)) :
      PassedOver block before after
  /-- The block stands among the parameters, between angle brackets, of the function, the trait or
  the `impl` block that comes first. -/
  | parameters {before between after rest last : List Token} {words : List String} {item : Item}
      (declares : Declares (before ++ (block ++ after)) (between ++ (block ++ after)))
      (areOpen : parametersOpen? (between ++ (block ++ after)) = some (words, rest))
      (isPassed : rest <:+ after)
      (isItem : readItem? itemsIn noHead (between ++ (block ++ after)) = some (item, last))
      (isEnd : last <:+ rest) : PassedOver block before after
  /-- The block stands between the braces of the trait, the `impl` block or the module that comes
  first. -/
  | member {header before after rest declared : List Token} {make : Head → List Item → Item}
      {opening closing : Token}
      (declares : Declares
        (header ++ opening :: (before ++ (block ++ (after ++ closing :: rest)))) declared)
      (isHeader : memberHeader? declared =
        some (make, opening :: (before ++ (block ++ (after ++ closing :: rest)))))
      (encloses : Encloses opening (before ++ (block ++ after)) closing)
      (further : PassedOver block before after) :
      PassedOver block (header ++ opening :: before) (after ++ closing :: rest)
  /-- The block stands in what comes first, and nothing is kept of that that braces may stand in. -/
  | unkept {before after declared : List Token} (isBehind : before ≠ [])
      (outlined : Outlined (before ++ (block ++ after)))
      (isVisible : (skipVisibility (before ++ (block ++ after))).2 = declared ++ (block ++ after))
      (isPassed : behindFirst (before ++ (block ++ after)) <:+ after) :
      PassedOver block before after

theorem tokensOn_body_eq (version : Version) (body : Body) (rest : List Slot) :
    tokensOn version (.body body :: rest) = body.tokens version ++ tokensOn version rest := by
  simp [Body.tokens]

/-! ### What stands before a block -/

/-- Both versions read an item first, which ends at the same place behind the block. -/
structure ReadsBoth (ahead : List Slot) (body : Body) (behind : List Slot) (visible : Bool)
    (places last : List Slot) (make : Version → Head → Item) : Prop
    extends DeclaresBoth (ahead ++ .body body :: behind) visible places where
  isItem (version : Version) (head : Head) :
    readItem? itemsIn head (tokensOn version places) =
      some (make version head, tokensOn version last)
  isEnd : last <:+ behind

/-- Both versions read an item with members first, that the block stands in the `where` clause
of. -/
structure ReadsClause (body : Body) (behind places inner braces group last : List Slot)
    (make : Head → List Item → Item) : Prop where
  isStart (version : Version) : memberStart? (tokensOn version places) =
    some (make, tokensOn version (inner ++ .body body :: behind))
  isClause (version : Version) :
    skipWhere (tokensOn version (inner ++ .body body :: behind)) = tokensOn version braces
  isBody (version : Version) : groupOf? "\x7b" (tokensOn version braces) =
    some (tokensOn version group, tokensOn version last)
  areBraces : braces <:+ behind
  areMembers : group <:+: behind

/-- Both versions have parameters behind the same words, which end behind the block. -/
structure ReadsParameters (behind places opened last : List Slot) (words : List String) : Prop where
  isOpen (version : Version) :
    parametersOpen? (tokensOn version places) = some (words, tokensOn version opened)
  areOpen : opened <:+ behind
  isEnd : last <:+ opened

section Ahead

variable {ahead behind : List Slot} {body : Body} {declared between : List Token}

theorem startsApart_body (body : Body) (behind : List Slot) : StartsApart (.body body :: behind) :=
  fun _ => nofun

theorem suffix_behindBody (ahead : List Slot) (body : Body) (behind : List Slot) :
    behind <:+ ahead ++ .body body :: behind :=
  (suffix_cons _ behind).trans (List.suffix_append ahead _)

variable (plainAhead : Plain ahead) (fitting : Fitting (ahead ++ .body body :: behind))
  (declares : Declares (tokensOn .original (ahead ++ .body body :: behind)) declared)

include plainAhead fitting declares

/-- What the original reads of a declaration before it comes to the block is read in both
versions. -/
theorem exists_readsAhead {Value : Type} {read : List Token → Option (Value × List Token)}
    {value : Value}
    (reads : ∀ {places : List Slot}, Fitting places →
      Reads Settled places fun version => read (tokensOn version places))
    (isRead : read declared = some (value, between ++ tokensOn .original (.body body :: behind))) :
    ∃ visible places inner, DeclaresBoth (ahead ++ .body body :: behind) visible places ∧
      tokensOn .original places = declared ∧ tokensOn .original inner = between ∧
      inner ++ .body body :: behind <:+ ahead ++ .body body :: behind ∧
      ∀ version, read (tokensOn version places) =
        some (value, tokensOn version (inner ++ .body body :: behind)) := by
  have isBefore : (tokensOn .original (.body body :: behind)).length ≤ declared.length := by
    have marks : MarksFit declared :=
      (fitting.marks .original).of_suffix (declares.isDeclared ▸ suffix_skipVisibility _)
    have isLonger := ((reads (fitting_placesOf marks)).suffix isRead).length_le
    rw [List.length_append] at isLonger
    omega
  obtain ⟨visible, places, declaresBoth, rfl⟩ :=
    exists_declared plainAhead (startsApart_body body behind) declares isBefore
  have isLast := declaresBoth.isLast
  cases reads (fitting.of_suffix isLast) with
  | fails isNone => exact nomatch isRead.symm.trans (isNone .original)
  | @passes passed after found isAll isSome settled =>
      have isPair := Option.some.inj ((isSome .original).symm.trans isRead)
      have isRest : tokensOn .original after =
          between ++ tokensOn .original (.body body :: behind) := congrArg Prod.snd isPair
      have isBlock : .body body :: behind <:+ after := by
        refine suffix_of_length_le (List.suffix_append ahead _)
          (List.IsSuffix.trans ⟨passed, isAll.symm⟩ isLast) ?_
        rw [isRest, List.length_append]
        exact Nat.le_add_left _ _
      obtain ⟨inner, rfl⟩ := isBlock
      rw [tokensOn_append, List.append_cancel_right_eq] at isRest
      rw [← List.append_assoc, List.append_cancel_right_eq] at isAll
      obtain ⟨hidden, isHidden⟩ := isLast
      rw [← List.append_assoc, List.append_cancel_right_eq, isAll] at isHidden
      have isWithin : passed ++ inner <:+ ahead := ⟨hidden, isHidden⟩
      obtain ⟨same, areSame⟩ := exists_of_settled settled (plainAhead.of_suffix isWithin).left
      have isValue : same = value := (areSame .original).symm.trans (congrArg Prod.fst isPair)
      refine ⟨visible, _, inner, declaresBoth, rfl, isRest,
        List.suffix_append_self_iff.mpr ((List.suffix_append passed inner).trans isWithin),
        fun version => ?_⟩
      rw [isSome version, areSame version, isValue]

/-! ### Items that a block is passed over in -/

/-- A function is read in both versions, whose body the block is or is inside of, or whose `where`
clause. -/
theorem exists_readsFunction {header : Bool → FunctionSignature} {item : Item} {last : List Token}
    (isStart : functionStart? declared =
      some (header, between ++ tokensOn .original (.body body :: behind)))
    (isItem : readItem? itemsIn noHead declared = some (item, last))
    (isPassed : last <:+ tokensOn .original behind) :
    ∃ visible places inner after hasBody,
      ReadsBoth ahead body behind visible places after
        (fun _ head => .function head (header hasBody)) ∧
      ∀ version, functionStart? (tokensOn version places) =
        some (header, tokensOn version (inner ++ .body body :: behind)) := by
  obtain ⟨visible, places, inner, declaresBoth, rfl, -, isInner, areStarts⟩ :=
    exists_readsAhead plainAhead fitting declares reads_functionStart? isStart
  obtain ⟨hasBody, after, isAfter, areItems⟩ :=
    exists_readItem?_function (fitting.of_suffix declaresBoth.isLast) areStarts
  have isEnd : tokensOn .original after = last :=
    congrArg Prod.snd (Option.some.inj ((areItems .original itemsIn noHead).symm.trans isItem))
  have isBehind : after <:+ behind :=
    suffix_of_length_le (isAfter.trans isInner) (suffix_behindBody ahead body behind)
      (isEnd ▸ isPassed).length_le
  exact ⟨visible, places, inner, after, hasBody,
    ⟨declaresBoth, fun version head => areItems version itemsIn head, isBehind⟩, areStarts⟩

/-- A trait or an `impl` block is read in both versions, in whose `where` clause the block is. -/
theorem exists_readsClause {make : Head → List Item → Item} {inside last : List Token}
    (plainBehind : Plain behind) (isStart : memberStart? declared =
      some (make, between ++ tokensOn .original (.body body :: behind)))
    (isPassed : skipWhere (between ++ tokensOn .original (.body body :: behind)) <:+
      tokensOn .original behind)
    (isBody : groupOf? "\x7b" (skipWhere (between ++ tokensOn .original (.body body :: behind))) =
      some (inside, last)) :
    ∃ visible places inner braces group after,
      ReadsBoth ahead body behind visible places after
        (fun version head => make head (itemsIn (tokensOn version group))) ∧
      ReadsClause body behind places inner braces group after make := by
  obtain ⟨visible, places, inner, declaresBoth, rfl, rfl, isInner, areStarts⟩ :=
    exists_readsAhead plainAhead fitting declares reads_memberStart? isStart
  rw [← tokensOn_append] at isPassed isBody
  obtain ⟨braces, isClause, areBehind⟩ := lands_skipWhere (inner ++ .body body :: behind)
  simp only [areBehind] at isPassed isBody
  have areBraces : braces <:+ behind :=
    suffix_of_length_le (isClause.trans isInner) (suffix_behindBody ahead body behind)
      isPassed.length_le
  cases reads_groupOf? "\x7b" braces with
  | fails isNone => exact nomatch isBody.symm.trans (isNone .original)
  | @passes passed after value isAll areGroups isInside =>
      subst isAll
      obtain ⟨group, isGroup, areInside⟩ := isInside (plainBehind.of_suffix areBraces).left
      have reads : ReadsClause body behind places inner (passed ++ after) group after make :=
        { isStart := areStarts
          isClause := areBehind
          isBody := fun version => by rw [areGroups version, areInside version]
          areBraces := areBraces
          areMembers := (isGroup.trans (List.prefix_append passed after).isInfix).trans
            areBraces.isInfix }
      refine ⟨visible, places, inner, passed ++ after, group, after, ⟨declaresBoth,
        fun version head => (readItem?_start (areStarts version)).2 itemsIn head ?_,
        (List.suffix_append passed after).trans areBraces⟩, reads⟩
      rw [reads.isClause version, reads.isBody version]

/-- A function, a trait or an `impl` block is read in both versions, among whose parameters the
block is. -/
theorem exists_readsParameters {words : List String} {item : Item} {opened last : List Token}
    (plainBehind : Plain behind)
    (isBefore : (tokensOn .original (.body body :: behind)).length ≤ declared.length)
    (isOpen : parametersOpen? declared = some (words, opened))
    (isPassed : opened <:+ tokensOn .original behind)
    (isItem : readItem? itemsIn noHead declared = some (item, last)) (isEnd : last <:+ opened) :
    ∃ visible places more after make,
      ReadsBoth ahead body behind visible (places ++ .body body :: behind) after make ∧
      ReadsParameters behind (places ++ .body body :: behind) more after words := by
  obtain ⟨visible, places, declaresBoth, rfl⟩ :=
    exists_declared plainAhead (startsApart_body body behind) declares isBefore
  cases reads_parametersOpen? (fitting.of_suffix declaresBoth.isLast) with
  | fails isNone => exact nomatch isOpen.symm.trans (isNone .original)
  | @passes passed more found isAll areOpen same =>
      have isPair := Option.some.inj ((areOpen .original).symm.trans isOpen)
      have isMore : tokensOn .original more = opened := congrArg Prod.snd isPair
      have areWords (version : Version) : found version = words := by
        cases version with
        | original => exact congrArg Prod.fst isPair
        | changed => exact same.symm.trans (congrArg Prod.fst isPair)
      simp only [areWords] at areOpen
      have isMoreLast := List.IsSuffix.trans ⟨passed, isAll.symm⟩ declaresBoth.isLast
      have isBehind : more <:+ behind := suffix_of_length_le isMoreLast
        (suffix_behindBody ahead body behind) (isMore ▸ isPassed).length_le
      have plainBare := (plain_barePlaces body.opening.line words).append
        (plainBehind.of_suffix isBehind)
      have fittingBare := fitting_barePlaces body.opening.line words
        (plainBehind.of_suffix isBehind) (fitting.of_suffix isMoreLast)
      have isBare (version : Version) : readItem? itemsIn noHead
          (tokensOn version (places ++ .body body :: behind)) = readItem? itemsIn noHead
            (tokensOn version (barePlaces body.opening.line words ++ more)) := by
        rw [tokensOn_append _ (barePlaces _ _), tokensOn_barePlaces]
        exact readItem?_parameters itemsIn noHead _ (areOpen version)
      have sameHead : noHead.Moved (fun _ _ => True) noHead := ⟨rfl, trivial⟩
      cases @reads_readItem? _ (fun _ _ => True) (fun _ => noHead) sameHead fittingBare
          (plainMoved_of fittingBare (onLines_any _)) with
      | fails isNone =>
          exact nomatch isItem.symm.trans ((isBare .original).trans (isNone .original))
      | @passes _ after bare isAll areItems _ =>
          have isAfter : tokensOn .original after = last := congrArg Prod.snd (Option.some.inj
            ((areItems .original).symm.trans ((isBare .original).symm.trans isItem)))
          have isAfterLast : after <:+ more := by
            refine suffix_of_length_le ⟨_, isAll.symm⟩ (List.suffix_append _ more) ?_
            rw [isAfter, isMore]
            exact isEnd.length_le
          refine ⟨visible, places, more, after, fun version head => (bare version).withHead head,
            ⟨declaresBoth, fun version head => ?_, isAfterLast.trans isBehind⟩,
            ⟨areOpen, isBehind, isAfterLast⟩⟩
          rw [readItem?_rehead, isBare version, areItems version]
          rfl

end Ahead

/-- Braces that enclose places enclose them in both versions. -/
theorem encloses_on {opening closing : Shared} {inside : List Slot}
    (encloses : Encloses (opening.on .original) (tokensOn .original inside) (closing.on .original))
    (version : Version) :
    Encloses (opening.on version) (tokensOn version inside) (closing.on version) where
  isOpening := encloses.isOpening
  closes := (closesBraces_on 0 version inside).trans encloses.closes
  isClosing := encloses.isClosing

section Members

variable {header inner others : List Slot} {body : Body} {opening closing : Shared}
  {declared : List Token} {make : Head → List Item → Item}
  (plainAhead : Plain (header ++ .token opening :: inner))
  (fitting : Fitting
    ((header ++ .token opening :: inner) ++ .body body :: (others ++ .token closing :: rest)))

include plainAhead fitting

/-- A trait, an `impl` block or a module is read in both versions, between whose braces the block
is. -/
theorem exists_readsMember
    (declares : Declares (tokensOn .original
      ((header ++ .token opening :: inner) ++ .body body :: (others ++ .token closing :: rest)))
      declared)
    (isHeader : memberHeader? declared = some (make, tokensOn .original
      ((.token opening :: inner) ++ .body body :: (others ++ .token closing :: rest))))
    (encloses : Encloses (opening.on .original) (tokensOn .original (inner ++ .body body :: others))
      (closing.on .original)) :
    ∃ visible places,
      ReadsBoth (header ++ .token opening :: inner) body (others ++ .token closing :: rest)
        visible places rest (fun version head =>
          make head (itemsIn (tokensOn version (inner ++ .body body :: others)))) ∧
      Carries make ∧ ∀ version, memberHeader? (tokensOn version places) = some (make,
        tokensOn version
          ((.token opening :: inner) ++ .body body :: (others ++ .token closing :: rest))) := by
  rw [tokensOn_append] at isHeader
  obtain ⟨visible, places, start, declaresBoth, -, isStart, isLast, areHeaders⟩ :=
    exists_readsAhead plainAhead fitting declares reads_memberHeader? isHeader
  have isInner : (.token opening :: inner) ++ .body body :: (others ++ .token closing :: rest) <:+
      (header ++ .token opening :: inner) ++ .body body :: (others ++ .token closing :: rest) :=
    List.suffix_append_self_iff.mpr (List.suffix_append header _)
  have isSame := eq_of_suffix isLast isInner (by rw [tokensOn_append, isStart, tokensOn_append])
  rw [isSame] at areHeaders
  refine ⟨visible, places, ⟨declaresBoth, fun version head => ?_, ?_⟩,
    (readItem?_members (areHeaders .original)).1, areHeaders⟩
  · refine (readItem?_members (areHeaders version)).2 itemsIn head ?_
    have isBlock : (.token opening :: inner) ++ .body body :: (others ++ .token closing :: rest) =
        .token opening :: ((inner ++ .body body :: others) ++ .token closing :: rest) := by simp
    rw [isBlock, tokensOn_token, tokensOn_append, tokensOn_token]
    exact (encloses_on encloses version).groupOf? _
  · exact (suffix_cons _ rest).trans (List.suffix_append others _)

end Members

end ForwardingProxy.Source
