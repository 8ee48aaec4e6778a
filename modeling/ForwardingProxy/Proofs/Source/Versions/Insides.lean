import ForwardingProxy.Proofs.Source.Versions.Bodies

/-!
Contract: what stands in a body that is passed over does not matter to the items of a text.

Owns: `Source.Immaterial`, which tells of two versions of a text that differ in a block that they
pass over it alike and have the same items, but for the lines; and the fact that it holds of every
block that is passed over.
-/

namespace ForwardingProxy.Source

variable {slots rest : List Slot} {moves : Nat → Nat → Prop} {run : Version → Run}

/-- Where lines become others, the head is the same one on the line that its own one becomes. -/
theorem Head.Moved.eq {change : Nat → Nat} {head other : Head}
    (moved : head.Moved (fun number moved => moved = change number) other) :
    other = { head with line := change head.line } := by
  rw [moved.1, moved.2]

theorem Item.Moved.head {item other : Item} (moved : Item.Moved moves item other) :
    item.head.Moved moves other.head := by
  cases moved with
  | alone noMembers moved => cases item <;> exact moved
  | trait moved areMoved => exact moved
  | implementation moved areMoved => exact moved
  | module moved areMoved => exact moved

theorem Item.Moved.isOutline {item other : Item} (moved : Item.Moved moves item other) :
    other.isOutline = item.isOutline := by
  cases moved with
  | alone noMembers moved => exact Item.isOutline_withHead _ item
  | trait moved areMoved => rfl
  | implementation moved areMoved => rfl
  | module moved areMoved => rfl

theorem suffix_tokensOn (isLast : rest <:+ slots) (version : Version) :
    tokensOn version rest <:+ tokensOn version slots := by
  obtain ⟨passed, rfl⟩ := isLast
  rw [tokensOn_append]
  exact List.suffix_append _ _

theorem Outlined.changed {ahead : List Slot} (plainAhead : Plain ahead) (apart : StartsApart rest)
    (fitting : Fitting (ahead ++ rest)) (outlined : Outlined (tokensOn .original (ahead ++ rest)))
    (isBefore : (tokensOn .original rest).length ≤
      (skipVisibility (tokensOn .original (ahead ++ rest))).2.length) :
    Outlined (tokensOn .changed (ahead ++ rest)) := by
  have declares : Declares (tokensOn .original (ahead ++ rest))
      (skipVisibility (tokensOn .original (ahead ++ rest))).2 :=
    ⟨outlined.noAttribute, outlined.noInner, rfl⟩
  obtain ⟨visible, places, ⟨isLast, noAttribute, noInner, isVisible⟩, -⟩ :=
    exists_declared plainAhead apart declares isBefore
  refine ⟨noAttribute .changed, noInner .changed, fun {item after} isItem => ?_⟩
  rw [isVisible .changed] at isItem
  have plainMoved := (plainMoved_of fitting (onLines_any (ahead ++ rest))).mono isLast
  have sameHead : noHead.Moved (fun _ _ => True) noHead := ⟨rfl, trivial⟩
  cases @reads_readItem? _ (fun _ _ => True) (fun _ => noHead) sameHead (fitting.of_suffix isLast)
      plainMoved with
  | fails isNone => exact nomatch isItem.symm.trans (isNone .changed)
  | @passes passed last read isAll isSome agrees =>
      have isRead := congrArg Prod.fst (Option.some.inj (isItem.symm.trans (isSome .changed)))
      have isFirst : (read .original).isOutline = true := by
        refine @Outlined.isOutline _ outlined _ (tokensOn .original last) ?_
        rw [isVisible .original]
        exact isSome .original
      dsimp only at isRead
      rw [isRead, (agrees (.inr isFirst)).isOutline, isFirst]

/-- What stands in the block makes no difference: how the reading comes to the block is the same in
both versions, and so are the items, on their lines. -/
structure Immaterial (ahead : List Slot) (body : Body) (behind : List Slot) : Prop where
  passedOver :
    PassedOver (body.tokens .changed) (tokensOn .changed ahead) (tokensOn .changed behind)
  behindMoved {moves : Nat → Nat → Prop} {run : Version → Run}
    (onLines : OnLines moves (ahead ++ .body body :: behind))
    (moved : (run .original).Moved moves (run .changed)) :
    BehindMoved moves run (ahead ++ .body body :: behind)

theorem tokensOn_around (version : Version) (ahead : List Slot) (body : Body)
    (behind : List Slot) : tokensOn version (ahead ++ .body body :: behind) =
      tokensOn version ahead ++ (body.tokens version ++ tokensOn version behind) := by
  rw [tokensOn_append, tokensOn_body_eq]

section Blocks

variable {ahead behind : List Slot} {body : Body} {declared between last : List Token}
  (plainAhead : Plain ahead) (plainBehind : Plain behind)
  (fitting : Fitting (ahead ++ .body body :: behind))

/-! ### Items that a block is passed over in -/

section Lines

variable (onLines : OnLines moves (ahead ++ .body body :: behind))
  (moved : (run .original).Moved moves (run .changed))

include plainBehind fitting onLines

/-- Among the parameters the block makes no difference to the item. -/
theorem itemMoved_parameters {visible : Bool} {places opened last : List Slot}
    {words : List String} {make : Version → Head → Item}
    (readsBoth : ReadsBoth ahead body behind visible places last make)
    (reads : ReadsParameters behind places opened last words) {head other : Head}
    (headMoved : head.Moved moves other) :
    Item.Moved moves (make .original head) (make .changed other) := by
  have isOpened : opened <:+ ahead ++ .body body :: behind :=
    reads.areOpen.trans (suffix_behindBody ahead body behind)
  have plainOpened := plainBehind.of_suffix reads.areOpen
  have fittingBare := fitting_barePlaces body.opening.line words plainOpened
    (fitting.of_suffix isOpened)
  have onLinesBare : OnLines moves (barePlaces body.opening.line words ++ opened) := by
    intro slot isIn
    rcases List.mem_append.mp isIn with areBare | areOpened
    · obtain ⟨token, -, rfl⟩ := List.mem_map.mp areBare
      exact onLines (.body body) (List.mem_append_right ahead List.mem_cons_self)
    · exact onLines slot (isOpened.subset areOpened)
  have isBare (version : Version) (head : Head) : readItem? itemsIn head
      (tokensOn version (barePlaces body.opening.line words ++ opened)) =
        some (make version head, tokensOn version last) := by
    rw [tokensOn_append, tokensOn_barePlaces, ← readsBoth.isItem version head]
    exact (readItem?_parameters itemsIn head _ (reads.isOpen version)).symm
  cases @reads_readItem? _ moves (Version.rec head other) headMoved fittingBare
      (plainMoved_of fittingBare onLinesBare) with
  | fails isNone => exact nomatch (isBare .original head).symm.trans (isNone .original)
  | @passes passed _ item isAll areItems agrees =>
      have isFirst : make .original head = item .original := congrArg Prod.fst
        (Option.some.inj ((isBare .original head).symm.trans (areItems .original)))
      have isSecond : make .changed other = item .changed := congrArg Prod.fst
        (Option.some.inj ((isBare .changed other).symm.trans (areItems .changed)))
      have plainBare := (plain_barePlaces body.opening.line words).append plainOpened
      rw [isFirst, isSecond]
      exact agrees (.inl (isAll ▸ plainBare).left)

include moved in
/-- Both versions have the same items where they read the same one first, up to behind the block. -/
theorem ReadsBoth.behindMoved {visible : Bool} {places last : List Slot}
    {make : Version → Head → Item} (reads : ReadsBoth ahead body behind visible places last make)
    (itemMoved : ∀ {head other : Head}, head.Moved moves other →
      Item.Moved moves (make .original head) (make .changed other)) :
    BehindMoved moves run (ahead ++ .body body :: behind) := by
  have isEnd := reads.isEnd.trans (suffix_behindBody ahead body behind)
  have isShorter : last.length < (ahead ++ .body body :: behind).length := by
    have isLonger := reads.isEnd.length_le
    rw [List.length_append, List.length_cons]
    omega
  obtain ⟨first, rest, isFirst⟩ : ∃ first rest, ahead ++ .body body :: behind = first :: rest :=
    List.exists_cons_of_ne_nil (List.append_ne_nil_of_right_ne_nil ahead (List.cons_ne_nil _ _))
  obtain ⟨tail, isCons⟩ : ∃ tail : Version → List Token, ∀ version,
      tokensOn version (first :: rest) = first.first.on version :: tail version := by
    cases first <;> exact ⟨_, fun _ => rfl⟩
  rw [← isFirst] at isCons
  have onFirst := onLines first (isFirst ▸ List.mem_cons_self)
  refine behindMoved_item isCons reads.noAttribute reads.noInner reads.isVisible
    (fun version => if_pos (length_tokensOn_lt isEnd isShorter version))
    (fun version => reads.isItem version _) (itemMoved (moved.head onFirst visible)) ?_
  exact itemsMoved_plain (plainBehind.of_suffix reads.isEnd) (fitting.of_suffix isEnd)
    (onLines.of_infix isEnd.isInfix)

end Lines

section Declared

variable (declares : Declares (tokensOn .original (ahead ++ .body body :: behind)) declared)

include plainAhead plainBehind fitting declares

theorem immaterial_function {header : Bool → FunctionSignature} {item : Item}
    (isStart : functionStart? declared =
      some (header, between ++ tokensOn .original (.body body :: behind)))
    (isItem : readItem? itemsIn noHead declared = some (item, last))
    (isPassed : last <:+ tokensOn .original behind) : Immaterial ahead body behind := by
  obtain ⟨_, _, inner, _, _, reads, areStarts⟩ :=
    exists_readsFunction plainAhead fitting declares isStart isItem isPassed
  have declaresToo := reads.declares .changed
  have isStartToo := areStarts .changed
  rw [tokensOn_around] at declaresToo isStartToo
  refine ⟨.function declaresToo isStartToo (reads.isItem .changed noHead)
    (suffix_tokensOn reads.isEnd .changed), fun onLines moved => ?_⟩
  exact reads.behindMoved plainBehind fitting onLines moved fun headMoved => .alone rfl headMoved

theorem immaterial_clause {make : Head → List Item → Item} {inside : List Token}
    (isStart : memberStart? declared =
      some (make, between ++ tokensOn .original (.body body :: behind)))
    (isPassed : skipWhere (between ++ tokensOn .original (.body body :: behind)) <:+
      tokensOn .original behind)
    (isBody : groupOf? "\x7b" (skipWhere (between ++ tokensOn .original (.body body :: behind))) =
      some (inside, last)) : Immaterial ahead body behind := by
  obtain ⟨_, _, inner, braces, group, _, reads, clause⟩ :=
    exists_readsClause plainAhead fitting declares plainBehind isStart isPassed isBody
  have declaresToo := reads.declares .changed
  have isStartToo := clause.isStart .changed
  have isClauseToo := clause.isClause .changed
  rw [tokensOn_around] at declaresToo isStartToo isClauseToo
  refine ⟨.clause declaresToo isStartToo ?_ (isClauseToo ▸ clause.isBody .changed),
    fun onLines moved => ?_⟩
  · rw [isClauseToo]
    exact suffix_tokensOn clause.areBraces .changed
  · have areIn := clause.areMembers.trans (suffix_behindBody ahead body behind).isInfix
    have areMoved := itemsMoved_plain (plainBehind.of_infix clause.areMembers)
      (fitting.of_infix areIn) (onLines.of_infix areIn)
    exact reads.behindMoved plainBehind fitting onLines moved fun headMoved =>
      (readItem?_start (clause.isStart .original)).1 headMoved areMoved

theorem immaterial_parameters {words : List String} {item : Item} {opened : List Token}
    (isBefore : (tokensOn .original (.body body :: behind)).length ≤ declared.length)
    (isOpen : parametersOpen? declared = some (words, opened))
    (isPassed : opened <:+ tokensOn .original behind)
    (isItem : readItem? itemsIn noHead declared = some (item, last)) (isEnd : last <:+ opened) :
    Immaterial ahead body behind := by
  obtain ⟨_, places, more, _, _, readsBoth, reads⟩ := exists_readsParameters plainAhead fitting
    declares plainBehind isBefore isOpen isPassed isItem isEnd
  have declaresToo := readsBoth.declares .changed
  have isOpenToo := reads.isOpen .changed
  have isItemToo := readsBoth.isItem .changed noHead
  rw [tokensOn_around _ places] at declaresToo isOpenToo isItemToo
  rw [tokensOn_around] at declaresToo
  refine ⟨.parameters declaresToo isOpenToo (suffix_tokensOn reads.areOpen .changed) isItemToo
    (suffix_tokensOn reads.isEnd .changed), fun onLines moved => ?_⟩
  exact readsBoth.behindMoved plainBehind fitting onLines moved
    (itemMoved_parameters plainBehind fitting onLines readsBoth reads)

end Declared

include plainAhead plainBehind fitting

omit plainBehind in
/-- What comes first and ends before the block is read in both versions. -/
theorem immaterial_behind {first further : List Slot} (isAhead : ahead = first ++ further)
    (isBehind : behindFirst (tokensOn .original (first ++ (further ++ .body body :: behind))) =
      tokensOn .original (further ++ .body body :: behind))
    (immaterial : Immaterial further body behind) : Immaterial ahead body behind := by
  subst isAhead
  have leads {moves : Nat → Nat → Prop} {run : Version → Run}
      (onLines : OnLines moves ((first ++ further) ++ .body body :: behind))
      (moved : (run .original).Moved moves (run .changed)) :=
    exists_leads_behind plainAhead fitting onLines moved rfl (startsApart_body body behind)
      (List.cons_ne_nil _ _) isBehind
  have goesOn :=
    (@leads (fun _ _ => True) (fun _ => .empty) (onLines_any _) .empty).isBehind .changed
  rw [List.append_assoc, tokensOn_append, tokensOn_around] at goesOn
  refine ⟨?_, fun onLines moved => (leads onLines moved).moved (.inl plainAhead.left) ?_⟩
  · rw [tokensOn_append]
    exact .behind goesOn immaterial.passedOver
  · have isLast : further ++ .body body :: behind <:+
        (first ++ further) ++ .body body :: behind := by
      rw [List.append_assoc]
      exact List.suffix_append first _
    exact fun run moved => immaterial.behindMoved (onLines.of_infix isLast.isInfix) moved

/-- What comes first and nothing is kept of is passed over in both versions. -/
theorem immaterial_unkept (isBehind : ahead ≠ [])
    (outlined : Outlined (tokensOn .original (ahead ++ .body body :: behind)))
    (isVisible : (skipVisibility (tokensOn .original (ahead ++ .body body :: behind))).2 =
      declared ++ tokensOn .original (.body body :: behind))
    (isPassed : behindFirst (tokensOn .original (ahead ++ .body body :: behind)) <:+
      tokensOn .original behind) : Immaterial ahead body behind := by
  have apart := startsApart_body body behind
  have isBefore : (tokensOn .original (.body body :: behind)).length ≤
      (skipVisibility (tokensOn .original (ahead ++ .body body :: behind))).2.length := by
    rw [isVisible]
    exact (List.suffix_append declared _).length_le
  have exists_leads {moves : Nat → Nat → Prop} {run : Version → Run}
      (onLines : OnLines moves (ahead ++ .body body :: behind))
      (moved : (run .original).Moved moves (run .changed)) :
      ∃ passed last, Leads moves run (ahead ++ .body body :: behind) passed last ∧
        last <:+ behind := by
    obtain ⟨passed, last, leads⟩ :=
      exists_leads_ahead plainAhead fitting onLines moved apart isBehind isBefore
    rw [leads.isBehind .original] at isPassed
    exact ⟨passed, last, leads, suffix_of_length_le ⟨passed, leads.isAll.symm⟩
      (suffix_behindBody ahead body behind) isPassed.length_le⟩
  constructor
  · obtain ⟨visible, places, -, areVisible⟩ := exists_skipVisibility plainAhead apart isBefore
    obtain ⟨passed, last, leads, isLast⟩ :=
      @exists_leads (fun _ _ => True) (fun _ => .empty) (onLines_any _) .empty
    have outlinedToo := outlined.changed plainAhead apart fitting isBefore
    have goesOn := leads.isBehind .changed
    have isVisibleToo := congrArg Prod.snd (areVisible .changed)
    rw [tokensOn_around] at outlinedToo goesOn isVisibleToo
    refine .unkept ?_ outlinedToo (isVisibleToo.trans (tokensOn_around ..)) ?_
    · refine fun isEmpty => isBehind (List.eq_nil_of_length_eq_zero ?_)
      rw [← length_tokensOn plainAhead .changed, isEmpty]
      rfl
    · rw [goesOn]
      exact suffix_tokensOn isLast .changed
  · intro moves run onLines moved
    obtain ⟨passed, last, leads, isLast⟩ := exists_leads onLines moved
    have isEnd := isLast.trans (suffix_behindBody ahead body behind)
    exact leads.moved (.inr outlined) fun run moved =>
      behindMoved_plain (plainBehind.of_suffix isLast) (fitting.of_suffix isEnd)
        (onLines.of_infix isEnd.isInfix) moved

end Blocks

/-- Between the braces of an item that both versions read alike the block makes no difference to the
item. -/
theorem immaterial_member {header inner others : List Slot} {body : Body} {opening closing : Shared}
    {declared : List Token} {make : Head → List Item → Item}
    (plainAhead : Plain (header ++ .token opening :: inner))
    (plainBehind : Plain (others ++ .token closing :: rest))
    (fitting : Fitting
      ((header ++ .token opening :: inner) ++ .body body :: (others ++ .token closing :: rest)))
    (declares : Declares (tokensOn .original
      ((header ++ .token opening :: inner) ++ .body body :: (others ++ .token closing :: rest)))
      declared)
    (isHeader : memberHeader? declared = some (make, tokensOn .original
      ((.token opening :: inner) ++ .body body :: (others ++ .token closing :: rest))))
    (encloses : Encloses (opening.on .original) (tokensOn .original (inner ++ .body body :: others))
      (closing.on .original)) (immaterial : Immaterial inner body others) :
    Immaterial (header ++ .token opening :: inner) body (others ++ .token closing :: rest) := by
  obtain ⟨_, _, reads, carries, areHeaders⟩ :=
    exists_readsMember plainAhead fitting declares isHeader encloses
  constructor
  · have declaresToo := reads.declares .changed
    have isHeaderToo := areHeaders .changed
    have enclosesToo := encloses_on encloses .changed
    simp only [tokensOn_append, tokensOn_token, tokensOn_body_eq, List.append_assoc,
      List.cons_append] at declaresToo isHeaderToo enclosesToo ⊢
    exact .member declaresToo isHeaderToo enclosesToo immaterial.passedOver
  · intro moves run onLines moved
    have areIn : inner ++ .body body :: others <:+:
        (header ++ .token opening :: inner) ++ .body body :: (others ++ .token closing :: rest) :=
      ⟨header ++ [.token opening], .token closing :: rest, by simp⟩
    have areMembers : ItemsMoved moves (inner ++ .body body :: others) :=
      @Immaterial.behindMoved _ _ _ immaterial moves (fun _ => .empty) (onLines.of_infix areIn)
        .empty
    exact reads.behindMoved plainBehind fitting onLines moved fun headMoved =>
      carries headMoved areMembers

/-! ### Whole texts -/

/-- What stands in a block that is passed over makes no difference. -/
theorem PassedOver.immaterial {ahead behind : List Slot} {body : Body}
    {tokensBefore tokensAfter : List Token}
    (passedOver : PassedOver (body.tokens .original) tokensBefore tokensAfter)
    (isBefore : tokensOn .original ahead = tokensBefore)
    (isAfter : tokensOn .original behind = tokensAfter) (plainAhead : Plain ahead)
    (plainBehind : Plain behind) (fitting : Fitting (ahead ++ .body body :: behind)) :
    Immaterial ahead body behind := by
  induction passedOver generalizing ahead behind with
  | behind isBehind further inductionHypothesis =>
      obtain ⟨start, inner, rfl, rfl, rfl⟩ := exists_of_tokensOn_append plainAhead isBefore
      subst isAfter
      rw [← tokensOn_around, ← tokensOn_append] at isBehind
      have isLast : inner ++ .body body :: behind <:+ (start ++ inner) ++ .body body :: behind := by
        rw [List.append_assoc]
        exact List.suffix_append start _
      exact immaterial_behind plainAhead fitting rfl isBehind
        (inductionHypothesis rfl rfl plainAhead.right plainBehind (fitting.of_suffix isLast))
  | function declares isStart isItem isPassed =>
      subst isBefore isAfter
      rw [← tokensOn_around] at declares
      rw [← tokensOn_body_eq] at isStart
      exact immaterial_function plainAhead plainBehind fitting declares isStart isItem isPassed
  | clause declares isStart isPassed isBody =>
      subst isBefore isAfter
      rw [← tokensOn_around] at declares
      rw [← tokensOn_body_eq] at isStart isPassed isBody
      exact immaterial_clause plainAhead plainBehind fitting declares isStart isPassed isBody
  | @parameters before between after rest last words item declares isOpen isPassed isItem isEnd =>
      subst isBefore isAfter
      have isLonger :=
        (List.suffix_append between (tokensOn .original (.body body :: behind))).length_le
      rw [← tokensOn_around, ← tokensOn_body_eq] at declares
      rw [← tokensOn_body_eq] at isOpen isItem
      exact immaterial_parameters plainAhead plainBehind fitting declares isLonger isOpen isPassed
        isItem isEnd
  | @member header before after rest declared make opening closing declares isHeader encloses
      further inductionHypothesis =>
      obtain ⟨start, others, rfl, rfl, isInner⟩ := exists_of_tokensOn_append plainAhead isBefore
      obtain ⟨brace, inner, rfl, rfl, rfl⟩ := exists_of_tokensOn_cons plainAhead.right isInner
      obtain ⟨innerBehind, last, rfl, rfl, isLast⟩ := exists_of_tokensOn_append plainBehind isAfter
      obtain ⟨closed, more, rfl, rfl, rfl⟩ := exists_of_tokensOn_cons plainBehind.right isLast
      have isInside : inner ++ .body body :: innerBehind <:+:
          (start ++ .token brace :: inner) ++
            .body body :: (innerBehind ++ .token closed :: more) :=
        ⟨start ++ [.token brace], .token closed :: more, by simp⟩
      have members := inductionHypothesis rfl rfl
        (plainAhead.right.of_suffix (suffix_cons _ inner)) plainBehind.left
        (fitting.of_infix isInside)
      have declaresThere : Declares (tokensOn .original ((start ++ .token brace :: inner) ++
          .body body :: (innerBehind ++ .token closed :: more))) declared := by
        simpa [tokensOn_append, Body.tokens] using declares
      have isHeaderThere : memberHeader? declared = some (make, tokensOn .original
          ((.token brace :: inner) ++ .body body :: (innerBehind ++ .token closed :: more))) := by
        simpa [tokensOn_append, Body.tokens] using isHeader
      have enclosesThere : Encloses (brace.on .original)
          (tokensOn .original (inner ++ .body body :: innerBehind)) (closed.on .original) := by
        simpa [tokensOn_append, Body.tokens] using encloses
      exact immaterial_member plainAhead plainBehind fitting declaresThere isHeaderThere
        enclosesThere members
  | unkept isBehind outlined isVisible isPassed =>
      subst isBefore isAfter
      rw [← tokensOn_around] at outlined isVisible isPassed
      rw [← tokensOn_body_eq] at isVisible
      exact immaterial_unkept plainAhead plainBehind fitting
        (fun isEmpty => isBehind (isEmpty ▸ rfl)) outlined isVisible isPassed

end ForwardingProxy.Source
