import ForwardingProxy.Proofs.Source.Versions.Items

/-!
Contract: both versions of a text are read in the same steps.

Owns: `Source.behindFirst`, where the reading of items goes on behind what comes first; and one step
of that reading, which leads to the same place in both versions.

A visibility ends at the parenthesis that closes it, and braces between its parentheses do not count.
So a step is known to go the same way only if what the versions do not share begins behind it.
-/

namespace ForwardingProxy.Source

variable {slots rest passed before : List Slot}

/-! ### Attributes -/

theorem commentsBefore_on (version : Version) (slots : List Slot) :
    commentsBefore (tokensOn version slots) = commentsBefore (faces slots) := by
  cases slots with
  | nil => rfl
  | cons slot rest => cases slot <;> rfl

theorem exists_readAttribute (plain : Plain slots) (comments : List String) :
    ∃ written, ∀ version, readAttribute comments (tokensOn version slots) = written := by
  cases comments with
  | cons comment others => exact ⟨_, fun _ => rfl⟩
  | nil =>
      obtain ⟨path, after, segments, rfl, arePath, -⟩ := (reads_readPath slots).exists_of_some
      obtain ⟨text, isText⟩ := exists_of_settled
        (@settled_textUntil (path ++ after) path after rfl) plain.left
      simp only [readAttribute, arePath, isText]
      cases reads_group? after with
      | fails isNone => exact ⟨_, fun version => by rw [isNone version, Option.map_none]⟩
      | @passes group last inside isAll isSome _ =>
          obtain ⟨arguments, areArguments⟩ := exists_of_settled (settled_textUntil isAll)
            ((isAll ▸ plain.right : Plain (group ++ last)).left)
          exact ⟨_, fun version => by rw [isSome version, Option.map_some, areArguments version]⟩

theorem reads_attribute? (slots : List Slot) :
    Reads Settled slots fun version => attribute? (tokensOn version slots) := by
  match slots with
  | [] => exact .fails fun _ => rfl
  | .body body :: rest =>
      refine .fails fun version => ?_
      simp [attribute?, (body.encloses version).noOther "#" (by decide)]
  | .token first :: rest =>
      simp only [tokensOn_token, attribute?, first.isMark_on]
      refine .branch (fun _ => ?_) fun _ => .fails fun _ => rfl
      cases reads_groupOf? "[" rest with
      | fails isNone => exact .fails fun version => by rw [isNone version, Option.map_none]
      | @passes group after inside isAll isSome isInside =>
          subst isAll
          simp only [isSome, Option.map_some, commentsBefore_on _ (group ++ after)]
          refine .passes (List.cons_append ..).symm (fun _ => rfl) fun plain => ?_
          have plainGroup := plain.of_suffix (suffix_cons _ group)
          obtain ⟨places, areIn, arePlaces⟩ := isInside plainGroup
          obtain ⟨written, isWritten⟩ := exists_readAttribute (plainGroup.of_infix areIn)
            (commentsBefore (faces (group ++ after)) ++ commentsBefore (faces places))
          simp only [arePlaces, commentsBefore_on, isWritten]

theorem mayLand_skipInnerAttribute? (slots : List Slot) :
    MayLand slots fun version => skipInnerAttribute? (tokensOn version slots) := by
  match slots with
  | [] | [.token _] => exact .nowhere fun _ => rfl
  | .body body :: rest =>
      refine .nowhere fun version => ?_
      have noHash := (body.encloses version).noOther "#" (by decide)
      rw [tokensOn_body]
      cases body.inside version <;> simp [skipInnerAttribute?, noHash]
  | .token first :: .body body :: rest =>
      refine .nowhere fun version => ?_
      have noBang := (body.encloses version).noOther "!" (by decide)
      simp [skipInnerAttribute?, noBang]
  | .token first :: .token second :: rest =>
      simp only [tokensOn_token, skipInnerAttribute?, first.isMark_on, second.isMark_on]
      refine .branch (fun _ => ?_) fun _ => .nowhere fun _ => rfl
      exact (reads_groupOf? "[" rest).mayLand.mono
        ((suffix_cons _ rest).trans (suffix_cons _ _))

/-! ### Visibilities -/

/-- No token that the versions share comes first. -/
def StartsApart (slots : List Slot) : Prop :=
  ∀ shared, slots.head? ≠ some (.token shared)

theorem length_cutGroup_cons (opening closing : String) (depth : Nat) (token : Token)
    (tokens : List Token) :
    (cutGroup opening closing depth (token :: tokens)).2.length ≤ tokens.length := by
  have shorter (deeper : Nat) : (cutGroup opening closing deeper tokens).2.length ≤ tokens.length :=
    Nat.le_trans (Nat.le_add_left _ _) (length_cutGroup opening closing deeper tokens)
  by_cases closes : token.isMark closing = true
  · match depth with
    | 0 | 1 => simp [cutGroup, closes]
    | deeper + 2 => simpa [cutGroup, closes] using shorter (deeper + 1)
  · rw [cutGroup_cons (Bool.eq_false_of_not_eq_true closes)]
    exact shorter _

/-- Parentheses are closed among places that the versions share, or so many are still open there. -/
theorem cutParentheses_cases (plain : Plain before) (depth : Nat) :
    (∃ rest, rest <:+ before ∧ ∀ version tokens,
      (cutGroup "(" ")" (depth + 1) (tokensOn version before ++ tokens)).2 =
        tokensOn version rest ++ tokens) ∨
    ∃ deeper, ∀ version tokens,
      (cutGroup "(" ")" (depth + 1) (tokensOn version before ++ tokens)).2 =
        (cutGroup "(" ")" (deeper + 1) tokens).2 := by
  induction before generalizing depth with
  | nil => exact .inr ⟨depth, fun _ _ => rfl⟩
  | cons slot before inductionHypothesis =>
      obtain ⟨shared, rfl⟩ := plain slot List.mem_cons_self
      have plainRest := plain.of_suffix (suffix_cons _ before)
      by_cases closes : (shared.on .original).isMark ")" = true
      · cases depth with
        | zero =>
            refine .inl ⟨before, suffix_cons _ before, fun version tokens => ?_⟩
            simp [cutGroup, shared.isMark_on version, closes]
        | succ fewer =>
            have isCut (version : Version) (tokens : List Token) :
                (cutGroup "(" ")" (fewer + 2)
                  (tokensOn version (.token shared :: before) ++ tokens)).2 =
                (cutGroup "(" ")" (fewer + 1) (tokensOn version before ++ tokens)).2 := by
              simp [cutGroup, shared.isMark_on version, closes]
            simp only [isCut]
            refine (inductionHypothesis plainRest fewer).imp_left ?_
            rintro ⟨rest, isLast, isRest⟩
            exact ⟨rest, isLast.trans (suffix_cons _ before), isRest⟩
      · have isCut (version : Version) (tokens : List Token) :
            (cutGroup "(" ")" (depth + 1)
              (tokensOn version (.token shared :: before) ++ tokens)).2 =
            (cutGroup "(" ")" ((if (shared.on .original).isMark "(" then depth + 1 else depth) + 1)
              (tokensOn version before ++ tokens)).2 := by
          have noClosing : (shared.on version).isMark ")" = false :=
            Bool.eq_false_of_not_eq_true closes
          rw [tokensOn_token, List.cons_append, cutGroup_cons noClosing,
            shared.isMark_on version, apply_ite (· + 1)]
        simp only [isCut]
        refine (inductionHypothesis plainRest _).imp_left ?_
        rintro ⟨rest, isLast, isRest⟩
        exact ⟨rest, isLast.trans (suffix_cons _ before), isRest⟩

/-- Parentheses that are closed before what the versions do not share are closed at the same place
in both. -/
theorem lands_cutParentheses (plain : Plain before)
    (isBefore : (tokensOn .original rest).length ≤
      (cutGroup "(" ")" 1 (tokensOn .original (before ++ rest))).2.length) :
    ∃ declared, declared <:+ before ∧ ∀ version,
      (cutGroup "(" ")" 1 (tokensOn version (before ++ rest))).2 =
        tokensOn version (declared ++ rest) := by
  simp only [tokensOn_append] at isBefore ⊢
  rcases cutParentheses_cases plain 0 with ⟨declared, isLast, isDeclared⟩ | ⟨deeper, isCut⟩
  · exact ⟨declared, isLast, fun version => isDeclared version _⟩
  · refine ⟨[], List.nil_suffix, fun version => ?_⟩
    have isEmpty : rest = [] := by
      rw [isCut .original] at isBefore
      cases rest with
      | nil => rfl
      | cons slot rest =>
          obtain ⟨first, others, isCons⟩ : ∃ first others,
              tokensOn .original (slot :: rest) = first :: others := by
            cases slot <;> exact ⟨_, _, rfl⟩
          rw [isCons, List.length_cons] at isBefore
          have isShorter := length_cutGroup_cons "(" ")" (deeper + 1) first others
          omega
    subst isEmpty
    rw [isCut version]
    rfl

theorem skipVisibility_pub {first : Token} (isPub : first.isWord "pub" = true)
    (tokens : List Token) :
    skipVisibility (first :: tokens) =
      (true, if startsWithMark ["("] tokens then (cutGroup "(" ")" 1 (tokens.drop 1)).2
        else tokens) := by
  rw [skipVisibility, if_pos isPub]

/-- A visibility that ends before what the versions do not share is the same in both. -/
theorem exists_skipVisibility (plain : Plain before) (apart : StartsApart rest)
    (isBefore : (tokensOn .original rest).length ≤
      (skipVisibility (tokensOn .original (before ++ rest))).2.length) :
    ∃ visible declared, declared <:+ before ∧ ∀ version,
      skipVisibility (tokensOn version (before ++ rest)) =
        (visible, tokensOn version (declared ++ rest)) := by
  rcases before with _ | ⟨first | body, before⟩
  · refine ⟨false, [], List.suffix_rfl, fun version => ?_⟩
    rcases rest with _ | ⟨shared | body, others⟩
    · rfl
    · exact absurd rfl (apart shared)
    · simp [skipVisibility, Token.isWord, body.kind]
  · have isLast := suffix_cons (.token first) before
    simp only [List.cons_append, tokensOn_token] at isBefore ⊢
    by_cases isPub : (first.on .original).isWord "pub" = true
    · have isPubOn (version : Version) : (first.on version).isWord "pub" = true := isPub
      simp only [skipVisibility_pub (isPubOn _), startsWithMark_on] at isBefore ⊢
      by_cases opens : startsWithMark ["("] (faces (before ++ rest)) = true
      · simp only [opens, if_true] at isBefore ⊢
        rcases before with _ | ⟨parenthesis | body, inside⟩
        · obtain ⟨shared, more, rfl, -⟩ := exists_of_startsWithMark opens (by decide)
          exact absurd rfl (apart shared)
        · have plainInside := plain.of_suffix ((suffix_cons _ inside).trans isLast)
          obtain ⟨declared, isFurther, isDeclared⟩ := lands_cutParentheses plainInside isBefore
          exact ⟨true, declared, (isFurther.trans (suffix_cons _ inside)).trans isLast,
            fun version => congrArg (Prod.mk true) (isDeclared version)⟩
        · exact absurd (List.mem_cons_of_mem _ List.mem_cons_self) plain.not_body
      · simp only [opens] at isBefore ⊢
        exact ⟨true, before, isLast, fun _ => rfl⟩
    · have noPub (version : Version) : (first.on version).isWord "pub" = false :=
        Bool.eq_false_of_not_eq_true isPub
      simp only [skipVisibility, noPub, startsWithKind_on, startsWithWord_on, first.isWord_on]
      by_cases isCrate : ((first.on .original).isWord "crate" &&
          startsWithKind .word (faces (before ++ rest)) &&
            !startsWithWord ["as"] (faces (before ++ rest))) = true
      · simp only [isCrate]
        exact ⟨true, before, isLast, fun _ => rfl⟩
      · simp only [isCrate]
        exact ⟨false, .token first :: before, List.suffix_rfl, fun _ => rfl⟩
  · exact absurd List.mem_cons_self plain.not_body

/-! ### Steps -/

theorem lands_dropNoItem (fitting : Fitting slots) :
    Lands slots fun version => dropNoItem (tokensOn version slots) := by
  obtain ⟨behindUnsafe, -, areBehind⟩ := lands_skipWord ["unsafe"] slots
  obtain ⟨braces, isLast, areBraces⟩ := lands_skipFunctionQualifiers slots
  simp only [dropNoItem, areBehind, areBraces, startsWithWord_on]
  refine .branch (fun _ => ?_) fun _ => .branch (fun _ => lands_dropStatement slots) fun _ =>
    lands_dropOther fitting
  cases reads_groupOf? "\x7b" braces with
  | fails isNone =>
      simp only [isNone]
      exact lands_dropStatement slots
  | passes isAll isSome =>
      simp only [isSome]
      exact .of_suffix (List.IsSuffix.trans ⟨_, isAll.symm⟩ isLast)

theorem length_tokensOn_lt (isLast : rest <:+ slots) (isShorter : rest.length < slots.length)
    (version : Version) : (tokensOn version rest).length < (tokensOn version slots).length := by
  obtain ⟨passed, rfl⟩ := isLast
  rw [List.length_append] at isShorter
  have isLonger := length_le_tokensOn version passed
  rw [tokensOn_append, List.length_append]
  omega

/-- Something is passed over in every step. -/
theorem exists_shrink {first : Shared} {after : List Slot}
    (isLast : after <:+ .token first :: rest) :
    ∃ last, (last = after ∨ after = .token first :: rest ∧ last = rest) ∧ ∀ version,
      shrink (tokensOn version (.token first :: rest)) (tokensOn version after) =
        tokensOn version last := by
  by_cases isShorter : after.length < (Slot.token first :: rest).length
  · exact ⟨after, .inl rfl, fun version => if_pos (length_tokensOn_lt isLast isShorter version)⟩
  · obtain rfl := isLast.eq_of_length_le (Nat.le_of_not_lt isShorter)
    exact ⟨rest, .inr ⟨rfl, rfl⟩, fun version => if_neg (Nat.lt_irrefl _)⟩

/-- The head of no item. -/
def noHead : Head :=
  ⟨[], 0, false⟩

/-- Where the reading of items goes on behind what comes first. -/
def behindFirst (tokens : List Token) : List Token :=
  match attribute? tokens with
  | some (_, after) => after
  | none =>
      match skipInnerAttribute? tokens with
      | some after => after
      | none =>
          let declared := (skipVisibility tokens).2
          shrink tokens (((readItem? itemsIn noHead declared).map Prod.snd).getD
            (dropNoItem declared))

/-- An item and what follows it, with another head. -/
def rehead (head : Head) (read : ReadItem) : ReadItem :=
  read.map fun (item, after) => (item.withHead head, after)

/-- Nothing depends on the head that an item is read with but the item's head. -/
theorem readItem?_rehead (readBody : List Token → List Item) (head : Head) (tokens : List Token) :
    readItem? readBody head tokens = rehead head (readItem? readBody noHead tokens) := by
  have ofStruct (tokens : List Token) :
      readStruct? head tokens = rehead head (readStruct? noHead tokens) := by
    cases tokens with
    | nil => rfl
    | cons name rest =>
        unfold readStruct?
        dsimp only
        cases groupOf? "(" (skipAngles rest).2 with
        | some cut => rfl
        | none => cases groupOf? "\x7b" (skipWhere (skipAngles rest).2) <;> rfl
  have ofModule (tokens : List Token) :
      readModule? readBody head tokens = rehead head (readModule? readBody noHead tokens) := by
    cases tokens with
    | nil => rfl
    | cons name rest =>
        rw [readModule?_cons, readModule?_cons]
        cases groupOf? "\x7b" rest <;> rfl
  have ofTrait (tokens : List Token) :
      readTrait? readBody head tokens = rehead head (readTrait? readBody noHead tokens) := by
    cases tokens with
    | nil => rfl
    | cons name rest =>
        rw [readTrait?_cons, readTrait?_cons, rehead, Option.map_map]
        rfl
  have ofImplementation (tokens : List Token) :
      readImplementation? readBody head tokens =
        rehead head (readImplementation? readBody noHead tokens) := by
    rw [readImplementation?_eq, readImplementation?_eq, rehead, Option.map_bind]
    refine congrArg (Option.bind _) (funext fun read => ?_)
    obtain ⟨header, body⟩ := read
    dsimp only [Function.comp]
    cases groupOf? "\x7b" body <;> rfl
  have ofConst (tokens : List Token) :
      readConst? head tokens = rehead head (readConst? noHead tokens) := by
    cases tokens <;> rfl
  have ofType (tokens : List Token) :
      readTypeItem? head tokens = rehead head (readTypeItem? noHead tokens) := by
    cases tokens with
    | nil => rfl
    | cons name rest =>
        unfold readTypeItem? rehead
        dsimp only
        split <;> rfl
  unfold readItem?
  cases functionName? tokens with
  | some function => simp only [rehead, Option.map_map, Function.comp_def, Item.withHead]
  | none =>
      simp only [apply_ite (rehead head), ofStruct, ofModule, ofTrait, ofImplementation,
        ofConst, ofType]
      simp only [rehead, readImports?, Option.map_map, Function.comp_def, Item.withHead,
        Option.map_none]

theorem exists_bareItem {readBody : List Token → List Item} {head : Head} {tokens after : List Token}
    {item : Item} (isItem : readItem? readBody head tokens = some (item, after)) :
    ∃ bare, readItem? readBody noHead tokens = some (bare, after) ∧ bare.withHead head = item := by
  rw [readItem?_rehead, rehead, Option.map_eq_some_iff] at isItem
  obtain ⟨⟨bare, last⟩, isBare, isPair⟩ := isItem
  obtain ⟨isItem, rfl⟩ := Prod.mk.injEq _ _ _ _ ▸ isPair
  exact ⟨bare, isBare, isItem⟩

theorem noBareItem {readBody : List Token → List Item} {head : Head} {tokens : List Token}
    (noItem : readItem? readBody head tokens = none) :
    readItem? readBody noHead tokens = none := by
  rwa [readItem?_rehead, rehead, Option.map_eq_none_iff] at noItem

theorem Item.isOutline_withHead (head : Head) (item : Item) :
    (item.withHead head).isOutline = item.isOutline := by
  cases item <;> rfl

/-- The lines of the places are so related. -/
def OnLines (moves : Nat → Nat → Prop) (slots : List Slot) : Prop :=
  ∀ slot ∈ slots, moves (slot.first.line .original) (slot.first.line .changed)

theorem OnLines.of_infix {moves : Nat → Nat → Prop} (onLines : OnLines moves slots)
    (areIn : rest <:+: slots) : OnLines moves rest :=
  fun slot isIn => onLines slot (areIn.subset isIn)

/-- The runs have the same attributes and begin on lines that are so related. -/
def Run.Moved (moves : Nat → Nat → Prop) (run other : Run) : Prop :=
  other.attributes = run.attributes ∧ Option.Rel moves run.line other.line

/-- Both versions have the same items behind a run of attributes, on their lines. -/
def BehindMoved (moves : Nat → Nat → Prop) (run : Version → Run) (slots : List Slot) : Prop :=
  List.Forall₂ (Item.Moved moves) (itemsBehind (run .original) (tokensOn .original slots))
    (itemsBehind (run .changed) (tokensOn .changed slots))

/-- What comes first is no attribute, and nothing is kept of it that braces may stand in. -/
structure Outlined (tokens : List Token) : Prop where
  noAttribute : attribute? tokens = none
  noInner : skipInnerAttribute? tokens = none
  isOutline {item : Item} {after : List Token}
    (isItem : readItem? itemsIn noHead (skipVisibility tokens).2 = some (item, after)) :
    item.isOutline = true

section Step

variable {moves : Nat → Nat → Prop} {run : Version → Run}

theorem Run.Moved.empty : Run.Moved moves .empty .empty :=
  ⟨rfl, .none⟩

theorem Run.Moved.add {one other : Run} {written : Attribute} {line otherLine : Nat}
    (moved : one.Moved moves other) (onLine : moves line otherLine) :
    (one.add written line).Moved moves (other.add written otherLine) := by
  obtain ⟨attributes, oneLine⟩ := one
  obtain ⟨_, otherFirst⟩ := other
  obtain ⟨rfl, lines⟩ := moved
  refine ⟨rfl, ?_⟩
  cases lines with
  | none => exact .some onLine
  | some onFirst => exact .some onFirst

theorem Run.Moved.head {one other : Run} {first : Shared} (moved : one.Moved moves other)
    (onLine : moves (first.line .original) (first.line .changed)) (visible : Bool) :
    (one.head (first.on .original) visible).Moved moves
      (other.head (first.on .changed) visible) := by
  obtain ⟨attributes, oneLine⟩ := one
  obtain ⟨_, otherFirst⟩ := other
  obtain ⟨rfl, lines⟩ := moved
  refine ⟨rfl, ?_⟩
  cases lines with
  | none => exact onLine
  | some onFirst => exact onFirst

/-- A step that passes over `passed` leads to `last` in both versions. -/
structure Leads (moves : Nat → Nat → Prop) (run : Version → Run) (slots passed last : List Slot) :
    Prop where
  isAll : slots = passed ++ last
  isBehind (version : Version) : behindFirst (tokensOn version slots) = tokensOn version last
  moved (unseen : Plain passed ∨ Outlined (tokensOn .original slots))
    (further : ∀ run : Version → Run, (run .original).Moved moves (run .changed) →
      BehindMoved moves run last) : BehindMoved moves run slots

theorem leads_attribute {first : Shared} {tail : Version → List Token} {last : List Slot}
    {written : Version → Attribute} (isAll : slots = passed ++ last)
    (isCons : ∀ version, tokensOn version slots = first.on version :: tail version)
    (onFirst : moves (first.line .original) (first.line .changed))
    (isSome : ∀ version, attribute? (tokensOn version slots) =
      some (written version, tokensOn version last)) (settled : Settled passed written)
    (moved : (run .original).Moved moves (run .changed)) : Leads moves run slots passed last where
  isAll := isAll
  isBehind version := by rw [behindFirst, isSome version]
  moved unseen further := by
    have plainPassed : Plain passed := unseen.elim id fun outlined =>
      nomatch outlined.noAttribute.symm.trans (isSome .original)
    have isRead (version : Version) :
        itemsBehind (run version) (tokensOn version slots) =
          itemsBehind ((run version).add (written version) (first.line version))
            (tokensOn version last) := by
      have isAttribute := isSome version
      rw [isCons version] at isAttribute ⊢
      exact itemsBehind_attribute isAttribute
    rw [BehindMoved, isRead, isRead]
    refine further (fun version => (run version).add (written version) (first.line version)) ?_
    rw [settled plainPassed]
    exact moved.add onFirst

theorem leads_inner {first : Shared} {tail : Version → List Token} {last : List Slot}
    (isAll : slots = passed ++ last)
    (isCons : ∀ version, tokensOn version slots = first.on version :: tail version)
    (noAttribute : ∀ version, attribute? (tokensOn version slots) = none)
    (isSome : ∀ version, skipInnerAttribute? (tokensOn version slots) =
      some (tokensOn version last)) : Leads moves run slots passed last where
  isAll := isAll
  isBehind version := by rw [behindFirst, noAttribute version, isSome version]
  moved _ further := by
    have isRead (version : Version) :
        itemsBehind (run version) (tokensOn version slots) = itemsIn (tokensOn version last) := by
      have isInner := isSome version
      have isNone := noAttribute version
      rw [isCons version] at isInner isNone ⊢
      exact itemsBehind_inner isNone isInner
    rw [BehindMoved, isRead, isRead]
    exact further (fun _ => .empty) .empty

section Declared

variable {first : Shared} {tail : Version → List Token} {declared after last : List Slot}
  {visible : Bool} (isCons : ∀ version, tokensOn version slots = first.on version :: tail version)
  (noAttribute : ∀ version, attribute? (tokensOn version slots) = none)
  (noInner : ∀ version, skipInnerAttribute? (tokensOn version slots) = none)
  (isVisible : ∀ version, skipVisibility (tokensOn version slots) =
    (visible, tokensOn version declared))
  (isAll : slots = passed ++ last)
  (isShrunk : ∀ version, shrink (tokensOn version slots) (tokensOn version after) =
    tokensOn version last)

include isCons noAttribute noInner isVisible isAll isShrunk

omit isAll in
theorem behindMoved_item {item : Version → Item}
    (isSome : ∀ version, readItem? itemsIn ((run version).head (first.on version) visible)
      (tokensOn version declared) = some (item version, tokensOn version after))
    (itemMoved : Item.Moved moves (item .original) (item .changed))
    (further : ItemsMoved moves last) : BehindMoved moves run slots := by
  have isRead (version : Version) :
      itemsBehind (run version) (tokensOn version slots) =
        item version :: itemsIn (tokensOn version last) := by
    have isVisible := isVisible version
    have isNone := noAttribute version
    have isNoInner := noInner version
    have isShrunk := isShrunk version
    rw [isCons version] at isVisible isNone isNoInner isShrunk ⊢
    rw [itemsBehind_item isNone isNoInner isVisible (isSome version), isShrunk]
  rw [BehindMoved, isRead, isRead]
  exact .cons itemMoved further

theorem leads_item {item : Version → Item}
    (isSome : ∀ version, readItem? itemsIn ((run version).head (first.on version) visible)
      (tokensOn version declared) = some (item version, tokensOn version after))
    (agrees : Plain passed ∨ (item .original).isOutline = true →
      Item.Moved moves (item .original) (item .changed)) : Leads moves run slots passed last where
  isAll := isAll
  isBehind version := by
    obtain ⟨bare, isBare, -⟩ := exists_bareItem (isSome version)
    rw [behindFirst, noAttribute version, noInner version]
    dsimp only
    rw [isVisible version, isBare]
    exact isShrunk version
  moved unseen further := by
    refine behindMoved_item isCons noAttribute noInner isVisible isShrunk isSome
      (agrees (unseen.imp_right fun outlined => ?_)) (further (fun _ => .empty) .empty)
    obtain ⟨bare, isBare, isItem⟩ := exists_bareItem (isSome .original)
    rw [← isItem, Item.isOutline_withHead]
    refine @Outlined.isOutline _ outlined _ (tokensOn .original after) ?_
    rwa [isVisible .original]

theorem leads_other
    (isNone : ∀ version, readItem? itemsIn ((run version).head (first.on version) visible)
      (tokensOn version declared) = none)
    (isEnd : ∀ version, dropNoItem (tokensOn version declared) = tokensOn version after) :
    Leads moves run slots passed last where
  isAll := isAll
  isBehind version := by
    rw [behindFirst, noAttribute version, noInner version]
    dsimp only
    rw [isVisible version, noBareItem (isNone version), Option.map_none, Option.getD_none,
      isEnd version]
    exact isShrunk version
  moved _ further := by
    have isRead (version : Version) :
        itemsBehind (run version) (tokensOn version slots) = itemsIn (tokensOn version last) := by
      have isVisible := isVisible version
      have noAttribute := noAttribute version
      have isNoInner := noInner version
      have isShrunk := isShrunk version
      rw [isCons version] at isVisible noAttribute isNoInner isShrunk ⊢
      rw [itemsBehind_other noAttribute isNoInner isVisible (isNone version), isEnd, isShrunk]
    rw [BehindMoved, isRead, isRead]
    exact further (fun _ => .empty) .empty

end Declared

/-- A step from an item. -/
theorem exists_leads_item {first : Shared} {further hidden declared passed after : List Slot}
    {visible : Bool} {item : Version → Item}
    (noAttribute : ∀ version, attribute? (tokensOn version (.token first :: further)) = none)
    (noInner : ∀ version, skipInnerAttribute? (tokensOn version (.token first :: further)) = none)
    (isVisible : ∀ version, skipVisibility (tokensOn version (.token first :: further)) =
      (visible, tokensOn version declared))
    (isParted : .token first :: further = hidden ++ declared) (isItem : declared = passed ++ after)
    (isSome : ∀ version, readItem? itemsIn ((run version).head (first.on version) visible)
      (tokensOn version declared) = some (item version, tokensOn version after))
    (agrees : Plain passed ∨ (item .original).isOutline = true →
      Item.Moved moves (item .original) (item .changed)) :
    ∃ passed last, Leads moves run (.token first :: further) passed last := by
  have isCons (version : Version) : tokensOn version (.token first :: further) =
      first.on version :: tokensOn version further := rfl
  have isDeclared : declared <:+ .token first :: further := ⟨hidden, isParted.symm⟩
  obtain ⟨last, isBehind, isShrunk⟩ :=
    exists_shrink (List.IsSuffix.trans ⟨passed, isItem.symm⟩ isDeclared)
  rcases isBehind with rfl | ⟨rfl, rfl⟩
  · have isAll : .token first :: further = (hidden ++ passed) ++ last := by
      rw [isParted, isItem, List.append_assoc]
    exact ⟨hidden ++ passed, last, leads_item isCons noAttribute noInner isVisible isAll isShrunk
      isSome fun unseen => agrees (unseen.imp_left Plain.right)⟩
  · -- nothing is passed over but what comes first
    have isEmpty : passed = [] := by
      have lengths : declared.length = passed.length + (Slot.token first :: last).length :=
        (congrArg List.length isItem).trans (List.length_append ..)
      have isShorter := isDeclared.length_le
      exact List.length_eq_zero_iff.mp (by omega)
    have noBody : Plain passed := isEmpty ▸ fun _ isIn => nomatch isIn
    exact ⟨[.token first], last, leads_item isCons noAttribute noInner isVisible rfl isShrunk
      isSome fun _ => agrees (.inl noBody)⟩

/-- A step from what begins no item. -/
theorem exists_leads_other {first : Shared} {further declared after : List Slot} {visible : Bool}
    (noAttribute : ∀ version, attribute? (tokensOn version (.token first :: further)) = none)
    (noInner : ∀ version, skipInnerAttribute? (tokensOn version (.token first :: further)) = none)
    (isVisible : ∀ version, skipVisibility (tokensOn version (.token first :: further)) =
      (visible, tokensOn version declared))
    (isLast : after <:+ .token first :: further)
    (isNone : ∀ version, readItem? itemsIn ((run version).head (first.on version) visible)
      (tokensOn version declared) = none)
    (isEnd : ∀ version, dropNoItem (tokensOn version declared) = tokensOn version after) :
    ∃ passed last, Leads moves run (.token first :: further) passed last := by
  obtain ⟨last, isBehind, isShrunk⟩ := exists_shrink isLast
  have isBehind : last <:+ .token first :: further := by
    rcases isBehind with rfl | ⟨-, rfl⟩
    · exact isLast
    · exact suffix_cons _ _
  obtain ⟨passed, isAll⟩ := isBehind
  exact ⟨passed, last, leads_other (fun _ => rfl) noAttribute noInner isVisible isAll.symm isShrunk
    isNone isEnd⟩

/-- A step from a token that the versions share. -/
theorem exists_leads {first : Shared} (plain : Plain (.token first :: before))
    (apart : StartsApart rest) (fitting : Fitting (.token first :: before ++ rest))
    (onLines : OnLines moves (.token first :: before ++ rest))
    (plainMoved : PlainMoved moves (.token first :: before ++ rest))
    (moved : (run .original).Moved moves (run .changed))
    (isBefore : (tokensOn .original rest).length ≤
      (skipVisibility (tokensOn .original (.token first :: before ++ rest))).2.length) :
    ∃ passed last, Leads moves run (.token first :: before ++ rest) passed last := by
  have onFirst : moves (first.line .original) (first.line .changed) :=
    onLines (.token first) List.mem_cons_self
  have isCons (version : Version) : tokensOn version (.token first :: before ++ rest) =
      first.on version :: tokensOn version (before ++ rest) := rfl
  cases reads_attribute? (.token first :: before ++ rest) with
  | @passes passed last written isAll isSome settled =>
      exact ⟨passed, last, leads_attribute isAll isCons onFirst isSome settled moved⟩
  | fails noAttribute =>
      cases mayLand_skipInnerAttribute? (.token first :: before ++ rest) with
      | @lands last isLast isSome =>
          obtain ⟨passed, isAll⟩ := isLast
          exact ⟨passed, last, leads_inner isAll.symm isCons noAttribute isSome⟩
      | nowhere noInner =>
          obtain ⟨visible, declared, isLast, isVisible⟩ := exists_skipVisibility plain apart isBefore
          obtain ⟨hidden, isHidden⟩ := isLast
          have isParted : .token first :: before ++ rest = hidden ++ (declared ++ rest) := by
            rw [← isHidden, List.append_assoc]
          have isDeclared : declared ++ rest <:+ .token first :: before ++ rest :=
            ⟨hidden, isParted.symm⟩
          have fits := fitting.of_suffix isDeclared
          have read := @reads_readItem? _ moves (fun version => (run version).head (first.on version)
            visible) (moved.head onFirst visible) fits (plainMoved.mono isDeclared)
          cases read with
          | passes isItem isSome agrees =>
              exact exists_leads_item noAttribute noInner isVisible isParted isItem isSome agrees
          | fails isNone =>
              obtain ⟨after, isFurther, isEnd⟩ := lands_dropNoItem fits
              exact exists_leads_other noAttribute noInner isVisible (isFurther.trans isDeclared)
                isNone isEnd

end Step

end ForwardingProxy.Source
