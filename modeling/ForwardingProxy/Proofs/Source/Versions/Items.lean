import ForwardingProxy.Proofs.Source.ItemReading
import ForwardingProxy.Proofs.Source.Versions.Imports
import ForwardingProxy.Proofs.Source.Versions.Signatures

/-!
Contract: both versions of a text read the same items.

Owns: `Item.Moved`, which tells that items are the same but for their lines; and the reading of one
item, which goes the same way in both versions.

Of some items nothing is kept that a group of braces may stand in. They are the same wherever the
versions differ; the others are where both versions have all their tokens.
-/

namespace ForwardingProxy.Source

variable {slots rest passed all : List Slot} {version : Version}

/-! ### Items on other lines -/

/-- The heads are the same but for the lines, which are so related. -/
def Head.Moved (moves : Nat → Nat → Prop) (head other : Head) : Prop :=
  other = { head with line := other.line } ∧ moves head.line other.line

/-- The item with another head. -/
def Item.withHead (head : Head) : Item → Item
  | .function _ signature => .function head signature
  | .trait _ name generic bounds members => .trait head name generic bounds members
  | .struct _ name generic hasBody => .struct head name generic hasBody
  | .enum _ name => .enum head name
  | .union _ name => .union head name
  | .typeAlias _ name => .typeAlias head name
  | .associatedType _ name => .associatedType head name
  | .const _ name hasValue => .const head name hasValue
  | .implementation _ header members => .implementation head header members
  | .module _ name items => .module head name items
  | .imports _ tree => .imports head tree

/-- The items are the same but for the lines of their heads and of all heads in them, which are so
related. -/
inductive Item.Moved (moves : Nat → Nat → Prop) : Item → Item → Prop where
  | alone {item : Item} {head : Head} (noMembers : item.members? = none)
      (moved : item.head.Moved moves head) : Item.Moved moves item (item.withHead head)
  | trait {head other : Head} {name : String} {generic : Bool} {bounds : List TypeSyntax}
      {members others : List Item} (moved : head.Moved moves other)
      (areMoved : List.Forall₂ (Item.Moved moves) members others) :
      Item.Moved moves (.trait head name generic bounds members)
        (.trait other name generic bounds others)
  | implementation {head other : Head} {header : ImplHeader} {members others : List Item}
      (moved : head.Moved moves other)
      (areMoved : List.Forall₂ (Item.Moved moves) members others) :
      Item.Moved moves (.implementation head header members) (.implementation other header others)
  | module {head other : Head} {name : String} {items others : List Item}
      (moved : head.Moved moves other) (areMoved : List.Forall₂ (Item.Moved moves) items others) :
      Item.Moved moves (.module head name (some items)) (.module other name (some others))

/-- Whether nothing is kept of the item that a group of braces may stand in. -/
def Item.isOutline : Item → Bool
  | .struct _ _ _ _ | .enum _ _ | .union _ _ | .typeAlias _ _ | .associatedType _ _
  | .const _ _ _ => true
  | _ => false

/-- Both versions read the same item, on its line, unless they differ in what is kept of it. -/
def ItemsAgree (moves : Nat → Nat → Prop) (passed : List Slot) (item : Version → Item) : Prop :=
  Plain passed ∨ (item .original).isOutline = true →
    Item.Moved moves (item .original) (item .changed)

/-- Both versions have the same items at the places, on their lines. -/
def ItemsMoved (moves : Nat → Nat → Prop) (places : List Slot) : Prop :=
  List.Forall₂ (Item.Moved moves) (itemsIn (tokensOn .original places))
    (itemsIn (tokensOn .changed places))

section Items

variable {moves : Nat → Nat → Prop} {head : Version → Head}

theorem ItemsAgree.ofPlain {item : Version → Item} (kept : (item .original).isOutline = false)
    (agrees : Plain passed → Item.Moved moves (item .original) (item .changed)) :
    ItemsAgree moves passed item :=
  fun unseen => unseen.elim agrees fun isOutline => Bool.noConfusion (kept.symm.trans isOutline)

variable (moved : (head .original).Moved moves (head .changed))

include moved

/-- An item of which only the head differs. -/
theorem ItemsAgree.alone {item : Version → Item} (isHead : (item .original).head = head .original)
    (noMembers : (item .original).members? = none)
    (same : (item .original).withHead (head .changed) = item .changed) :
    ItemsAgree moves passed item := by
  intro _
  rw [← same]
  rw [← isHead] at moved
  exact .alone noMembers moved

/-! ### Items without members -/

theorem reads_readConst? (starts : StartsShared slots) :
    Reads (ItemsAgree moves) slots fun version =>
      readConst? (head version) (tokensOn version slots) := by
  match slots, starts with
  | [], _ => exact .fails fun _ => rfl
  | .body body :: _, starts => exact absurd rfl (starts body)
  | .token name :: rest, _ =>
      obtain ⟨value, -, isValue⟩ : Lands rest fun version =>
          if startsWithMark [":"] (tokensOn version rest) then
            ((readType? ((tokensOn version rest).drop 1)).map Prod.snd).getD (tokensOn version rest)
          else tokensOn version rest := by
        have stays : Lands rest fun version => tokensOn version rest := .of_suffix List.suffix_rfl
        simp only [startsWithMark_on]
        refine .branch (fun isTyped => ?_) fun _ => stays
        obtain ⟨colon, type, rfl, areBehind⟩ := drop_of_startsWithMark isTyped (by decide)
        simp only [areBehind]
        cases (reads_readType? type).mayLand with
        | nowhere isNone =>
            simp only [isNone]
            exact stays
        | lands isLast isSome =>
            simp only [isSome]
            exact .of_suffix (isLast.trans (suffix_cons _ type))
      obtain ⟨last, ⟨more, rfl⟩, isEnd⟩ := lands_dropStatement rest
      simp only [tokensOn_token, readConst?, isValue, isEnd, Shared.text_on]
      simp only [startsWithMark_on]
      exact .passes (List.cons_append ..).symm (fun _ => rfl) (.alone moved rfl rfl rfl)

theorem reads_readTypeItem? (starts : StartsShared slots) :
    Reads (ItemsAgree moves) slots fun version =>
      readTypeItem? (head version) (tokensOn version slots) := by
  match slots, starts with
  | [], _ => exact .fails fun _ => rfl
  | .body body :: _, starts => exact absurd rfl (starts body)
  | .token name :: rest, _ =>
      obtain ⟨afterAngles, -, areAngles⟩ := lands_skipAngles rest
      obtain ⟨value, -, isValue⟩ := lands_skipWhere afterAngles
      obtain ⟨last, ⟨more, rfl⟩, isEnd⟩ := lands_dropStatement rest
      simp only [tokensOn_token, readTypeItem?, areAngles, isValue, isEnd, startsWithMark_on,
        Shared.text_on]
      by_cases hasValue : startsWithMark ["="] (faces value) = true
      · simp only [hasValue, if_true]
        exact .passes (List.cons_append ..).symm (fun _ => rfl) (.alone moved rfl rfl rfl)
      · simp only [hasValue]
        exact .passes (List.cons_append ..).symm (fun _ => rfl) (.alone moved rfl rfl rfl)

theorem reads_readStruct? (starts : StartsShared slots) :
    Reads (ItemsAgree moves) slots fun version =>
      readStruct? (head version) (tokensOn version slots) := by
  match slots, starts with
  | [], _ => exact .fails fun _ => rfl
  | .body body :: _, starts => exact absurd rfl (starts body)
  | .token name :: rest, _ =>
      obtain ⟨generic, afterAngles, isLast, areAngles⟩ := exists_skipAngles rest
      have ends {places : List Slot} (isFurther : places <:+ rest) (hasBody : Bool) :
          Reads (ItemsAgree moves) (.token name :: rest) fun version =>
            some (.struct (head version) name.text generic hasBody,
              dropStatement (tokensOn version places)) := by
        obtain ⟨last, isEnd, areEnd⟩ := lands_dropStatement places
        obtain ⟨before, isAll⟩ := (isEnd.trans isFurther).trans (suffix_cons (.token name) rest)
        simp only [areEnd]
        exact .passes isAll.symm (fun _ => rfl) (.alone moved rfl rfl rfl)
      simp only [tokensOn_token, readStruct?, areAngles, Shared.text_on]
      cases reads_groupOf? "(" afterAngles with
      | passes isAll isSome =>
          simp only [isSome]
          exact ends (List.IsSuffix.trans ⟨_, isAll.symm⟩ isLast) true
      | fails isNone =>
          obtain ⟨block, isBlock, areBlock⟩ := lands_skipWhere afterAngles
          simp only [isNone, areBlock]
          cases reads_groupOf? "\x7b" block with
          | fails isNone =>
              simp only [isNone]
              exact ends isLast false
          | @passes group after inside isAll isSome _ =>
              simp only [isSome]
              obtain ⟨before, isParted⟩ := (((List.IsSuffix.trans ⟨group, isAll.symm⟩ isBlock).trans
                isLast).trans (suffix_cons (.token name) rest))
              exact .passes isParted.symm (fun _ => rfl) (.alone moved rfl rfl rfl)

omit moved in
theorem reads_readBraced? (starts : StartsShared slots) :
    Reads Same slots fun version => readBraced? (tokensOn version slots) := by
  match slots, starts with
  | [], _ => exact .fails fun _ => rfl
  | .body body :: _, starts => exact absurd rfl (starts body)
  | .token name :: rest, _ =>
      obtain ⟨afterAngles, isAngles, areAngles⟩ := lands_skipAngles rest
      obtain ⟨block, isBlock, areBlock⟩ := lands_skipWhere afterAngles
      simp only [tokensOn_token, readBraced?, areAngles, areBlock, Shared.text_on]
      cases reads_groupOf? "\x7b" block with
      | fails isNone => exact .fails fun version => by rw [isNone version]; rfl
      | @passes group after inside isAll isSome _ =>
          simp only [isSome, Option.map_some]
          obtain ⟨before, isParted⟩ := ((List.IsSuffix.trans ⟨group, isAll.symm⟩ isBlock).trans
            isAngles).trans (suffix_cons (.token name) rest)
          have same : Same before fun _ => name.text := rfl
          exact .passes isParted.symm (fun _ => rfl) same

/-- An item of which the name and the braces behind it are read. -/
theorem reads_braced {make : Head → String → Item} (starts : StartsShared slots)
    (isHead : ∀ head name, (make head name).head = head)
    (noMembers : ∀ head name, (make head name).members? = none)
    (sameItem : ∀ head other name, (make head name).withHead other = make other name) :
    Reads (ItemsAgree moves) slots fun version =>
      (readBraced? (tokensOn version slots)).map fun (name, after) =>
        (make (head version) name, after) := by
  cases reads_readBraced? starts with
  | fails isNone => exact .fails fun version => by rw [isNone version]; rfl
  | passes isAll isSome same =>
      refine .passes isAll (fun version => by rw [isSome version, Option.map_some]) ?_
      refine .alone moved (isHead _ _) (noMembers _ _) ((sameItem _ _ _).trans ?_)
      exact congrArg (make (head .changed)) same

theorem reads_readImports? (fitting : Fitting slots) :
    Reads (ItemsAgree moves) slots fun version =>
      readImports? (head version) (tokensOn version slots) := by
  have read : Reads Settled slots fun version =>
      readUseTree? (2 * (tokensOn version slots).length + 1) (tokensOn version slots) :=
    (treesRead fitting).tree fun version => by
      have isLonger := length_le_tokensOn version slots
      omega
  refine read.mapLands lands_dropStatement fun passed more tree settled => ?_
  refine .ofPlain rfl fun plain => ?_
  rw [settled plain.left]
  exact @Item.Moved.alone moves (.imports (head .original) (tree .changed)) _ rfl moved

omit moved in
/-- Behind the same header both versions have a body, or neither has one. -/
theorem exists_readFunction? {header : Version → Bool → FunctionSignature}
    (isHeader : ∀ version, functionHeader? (tokensOn version slots) =
      some (header version, tokensOn version rest)) :
    ∃ hasBody last, last <:+ rest ∧ ∀ version,
      readFunction? (tokensOn version slots) =
        some (header version hasBody, tokensOn version last) := by
  obtain ⟨braces, isClause, areBraces⟩ := lands_skipWhere rest
  simp only [readFunction?_eq, isHeader, Option.map_some, areBraces]
  cases reads_groupOf? "\x7b" braces with
  | @passes group after inside isBody isSome _ =>
      simp only [isSome]
      exact ⟨true, after, List.IsSuffix.trans ⟨group, isBody.symm⟩ isClause, fun _ => rfl⟩
  | fails isNone =>
      obtain ⟨after, isLast, isAfter⟩ := lands_drop (startsShared_of_groupOf? isNone)
      simp only [isNone, isAfter]
      exact ⟨false, after, isLast.trans isClause, fun _ => rfl⟩

omit moved in
theorem reads_readFunction? (starts : StartsShared slots) :
    Reads Settled slots fun version => readFunction? (tokensOn version slots) := by
  cases reads_functionHeader? starts with
  | fails isNone => exact .fails fun version => by rw [readFunction?_eq, isNone version]; rfl
  | @passes header body signature isAll isSome settled =>
      obtain ⟨hasBody, after, ⟨passed, rfl⟩, isRead⟩ := exists_readFunction? isSome
      rw [← List.append_assoc] at isAll
      exact .passes isAll isRead fun plain => congrArg (· hasBody) (settled plain.left)

theorem reads_function (starts : StartsShared slots) :
    Reads (ItemsAgree moves) slots fun version =>
      (readFunction? (tokensOn version slots)).map fun (signature, after) =>
        (.function (head version) signature, after) := by
  cases reads_readFunction? starts with
  | fails isNone => exact .fails fun version => by rw [isNone version]; rfl
  | @passes passed after signature isAll isSome settled =>
      refine .passes isAll (fun version => by rw [isSome version, Option.map_some]) ?_
      refine .ofPlain rfl fun plain => ?_
      rw [settled plain]
      exact @Item.Moved.alone moves (.function (head .original) (signature .changed)) _ rfl moved

/-! ### Items with members -/

/-- Both versions have the same items at any fewer places that they share. -/
def PlainMoved (moves : Nat → Nat → Prop) (slots : List Slot) : Prop :=
  ∀ inside, inside <:+: slots → inside.length < slots.length → Plain inside →
    ItemsMoved moves inside

omit moved in
theorem PlainMoved.mono (plainMoved : PlainMoved moves slots) (isLast : rest <:+ slots) :
    PlainMoved moves rest :=
  fun inside areIn isShorter plain => plainMoved inside (areIn.trans isLast.isInfix)
    (Nat.lt_of_lt_of_le isShorter isLast.length_le) plain

omit moved in
/-- The items in braces that the versions share. -/
theorem PlainMoved.members (plainMoved : PlainMoved moves slots) (isAll : slots = passed ++ rest)
    {inside : Version → List Token} (isGroup : ∀ version, groupOf? "\x7b" (tokensOn version slots) =
      some (inside version, tokensOn version rest)) (isInside : Inside passed inside)
    (plain : Plain passed) :
    List.Forall₂ (Item.Moved moves) (itemsIn (inside .original)) (itemsIn (inside .changed)) := by
  obtain ⟨places, areIn, arePlaces⟩ := isInside plain
  have group := isGroup .original
  rw [arePlaces] at group
  rw [arePlaces, arePlaces]
  exact plainMoved places (isAll ▸ areIn.trans (List.prefix_append passed rest).isInfix)
    (shorter_inside plain isAll group) (plain.of_infix areIn)

theorem reads_readModule? (plainMoved : PlainMoved moves slots) (starts : StartsShared slots) :
    Reads (ItemsAgree moves) slots fun version =>
      readModule? itemsIn (head version) (tokensOn version slots) := by
  match slots, starts with
  | [], _ => exact .fails fun _ => rfl
  | .body body :: _, starts => exact absurd rfl (starts body)
  | .token name :: rest, _ =>
      simp only [tokensOn_token, readModule?_cons, Shared.text_on]
      cases reads_groupOf? "\x7b" rest with
      | @passes group after inside isAll isSome isInside =>
          simp only [isSome, Option.map_some, Option.getD_some]
          have isParted : .token name :: rest = (.token name :: group) ++ after :=
            congrArg (.token name :: ·) isAll
          refine .passes isParted (fun _ => rfl) (.ofPlain rfl fun plain => ?_)
          have plainGroup := plain.of_suffix (suffix_cons _ group)
          exact .module moved ((plainMoved.mono (suffix_cons _ rest)).members isAll isSome isInside
            plainGroup)
      | fails isNone =>
          obtain ⟨after, ⟨last, rfl⟩, isAfter⟩ := lands_drop (startsShared_of_groupOf? isNone)
          simp only [isNone, Option.map_none, Option.getD_none, isAfter]
          exact .passes (List.cons_append ..).symm (fun _ => rfl) (.alone moved rfl rfl rfl)

theorem reads_readTrait? (plainMoved : PlainMoved moves slots) (starts : StartsShared slots) :
    Reads (ItemsAgree moves) slots fun version =>
      readTrait? itemsIn (head version) (tokensOn version slots) := by
  match slots, starts with
  | [], _ => exact .fails fun _ => rfl
  | .body body :: _, starts => exact absurd rfl (starts body)
  | .token name :: rest, _ =>
      obtain ⟨passed, braces, header, rfl, isHeader, settled⟩ :=
        (reads_traitHeader rest).exists_of_some
      simp only [tokensOn_token, readTrait?_cons, isHeader, Shared.text_on]
      cases reads_groupOf? "\x7b" braces with
      | fails isNone => exact .fails fun version => by rw [isNone version]; rfl
      | @passes group after inside isAll isSome isInside =>
          subst isAll
          simp only [isSome, Option.map_some]
          have isParted : .token name :: (passed ++ (group ++ after)) =
              (.token name :: passed ++ group) ++ after := by simp
          have isLast : group ++ after <:+ .token name :: (passed ++ (group ++ after)) :=
            (List.suffix_append passed _).trans (suffix_cons _ _)
          refine .passes isParted (fun _ => rfl) (.ofPlain rfl fun plain => ?_)
          have plainHeader := plain.left.of_suffix (suffix_cons _ passed)
          rw [settled plainHeader]
          exact .trait moved ((plainMoved.mono isLast).members rfl isSome isInside plain.right)

theorem reads_readImplementation? (plainMoved : PlainMoved moves slots) :
    Reads (ItemsAgree moves) slots fun version =>
      readImplementation? itemsIn (head version) (tokensOn version slots) := by
  simp only [readImplementation?_eq]
  cases reads_readImplHeader? slots with
  | fails isNone => exact .fails fun version => by rw [isNone version]; rfl
  | @passes passed braces header isAll isSome settled =>
      subst isAll
      simp only [isSome, Option.bind_some]
      cases reads_groupOf? "\x7b" braces with
      | @passes group after inside isAll isSome isInside =>
          subst isAll
          simp only [isSome, Option.map_some, Option.getD_some]
          refine .passes (List.append_assoc ..).symm (fun _ => rfl) (.ofPlain rfl fun plain => ?_)
          rw [settled plain.left]
          exact .implementation moved ((plainMoved.mono (List.suffix_append passed _)).members rfl
            isSome isInside plain.right)
      | fails isNone =>
          obtain ⟨after, ⟨last, rfl⟩, isEnd⟩ := lands_dropStatement braces
          simp only [isNone, Option.map_none, Option.getD_none, isEnd]
          refine .passes (List.append_assoc ..).symm (fun _ => rfl) (.ofPlain rfl fun plain => ?_)
          rw [settled plain.left]
          exact .implementation moved .nil

/-! ### Items -/

omit moved in
/-- Both versions find the same name of a function, or neither finds one. -/
theorem functionName?_cases (fitting : Fitting slots) :
    (∀ version, functionName? (tokensOn version slots) = none) ∨
      ∃ rest, rest <:+ slots ∧ StartsShared rest ∧
        ∀ version, functionName? (tokensOn version slots) = some (tokensOn version rest) := by
  obtain ⟨keyword, isLast, areKeyword⟩ := lands_skipFunctionQualifiers slots
  simp only [functionName?, areKeyword]
  rcases keyword with _ | ⟨first | body, rest⟩
  · exact .inl fun _ => rfl
  · by_cases isFunction : (first.on .original).isWord "fn" = true
    · have leads : (first.on .original).leadsName = true := by
        simp_all [Token.leadsName, Token.isWord]
      refine .inr ⟨rest, (suffix_cons _ rest).trans isLast,
        (fitting.of_suffix isLast).startsShared leads, fun version => ?_⟩
      rw [tokensOn_token]
      exact if_pos isFunction
    · exact .inl fun version => if_neg isFunction
  · refine .inl fun version => ?_
    simp [Token.isWord, body.kind]

omit moved in
/-- What stands behind a word that a name has to follow. -/
theorem behindWord (fitting : Fitting slots) {word : String}
    (starts : startsWithWord [word] (faces slots) = true)
    (leads : ["fn", "trait", "mod", "struct", "enum", "type", "as"].contains word = true) :
    ∃ rest, rest <:+ slots ∧ StartsShared rest ∧
      ∀ version, (tokensOn version slots).drop 1 = tokensOn version rest := by
  obtain ⟨keyword, rest, rfl, isKind, isText⟩ := exists_of_startsWithWord starts
  have isLeading : (keyword.on .original).leadsName = true := by
    rw [Token.leadsName, Shared.text_on, List.mem_singleton.mp isText, leads, Shared.kind_on, isKind]
    rfl
  exact ⟨rest, suffix_cons _ rest, fitting.startsShared isLeading, fun _ => rfl⟩

omit moved in
theorem startsWithWord_isToken {words : List String}
    (starts : startsWithWord words (faces slots) = true) :
    ∃ shared rest, slots = .token shared :: rest :=
  let ⟨shared, rest, isSlots, _⟩ := exists_of_startsWithWord starts
  ⟨shared, rest, isSlots⟩

omit moved in
theorem startsConst_on (version : Version) (slots : List Slot) :
    startsConst (tokensOn version slots) =
      (startsWithWord ["const"] (faces slots) &&
        !startsWithMark ["\x7b"] ((faces slots).drop 1)) := by
  rw [startsConst, startsWithWord_on]
  exact @behindFirst_on slots version _ (fun tokens => !startsWithMark ["\x7b"] tokens)
    startsWithWord_isToken fun rest => congrArg not (startsWithMark_on ["\x7b"] version rest)

omit moved in
theorem startsUnion_on (version : Version) (slots : List Slot) :
    startsUnion (tokensOn version slots) =
      (startsWithWord ["union"] (faces slots) && (startsWithKind .word ((faces slots).drop 1) &&
        !startsWithWord ["as"] ((faces slots).drop 1))) := by
  rw [startsUnion, startsWithWord_on, Bool.and_assoc]
  refine @behindFirst_on slots version _
    (fun tokens => startsWithKind .word tokens && !startsWithWord ["as"] tokens)
    startsWithWord_isToken fun rest => ?_
  simp only [startsWithKind_on, startsWithWord_on]

omit moved in
theorem startsShared_of_noBrace (noBrace : startsWithMark ["\x7b"] (faces slots) = false) :
    StartsShared slots := by
  intro body isBody
  obtain ⟨others, rfl⟩ := List.head?_eq_some_iff.mp isBody
  simp [startsWithMark, body.kind, body.text] at noBrace

omit moved in
theorem ItemsAgree.behind {item : Version → Item} (agrees : ItemsAgree moves passed item)
    (before : List Slot) : ItemsAgree moves (before ++ passed) item :=
  fun unseen => agrees (unseen.imp_left Plain.right)

/-- Both versions read the same item. -/
theorem reads_readItem? (fitting : Fitting slots) (plainMoved : PlainMoved moves slots) :
    Reads (ItemsAgree moves) slots fun version =>
      readItem? itemsIn (head version) (tokensOn version slots) := by
  have behind {places : List Slot} {read : Version → ReadItem} (isLast : places <:+ slots)
      (reads : Reads (ItemsAgree moves) places read) : Reads (ItemsAgree moves) slots read :=
    reads.widen isLast fun before _ _ agrees => agrees.behind before
  unfold readItem?
  rcases functionName?_cases fitting with isNone | ⟨rest, isLast, starts, isSome⟩
  · obtain ⟨afterUnsafe, isUnsafe, areUnsafe⟩ := lands_skipWord ["unsafe"] slots
    simp only [isNone, areUnsafe, startsConst_on, startsUnion_on, startsWithWord_on]
    refine .branch (fun starts => ?_) fun _ => .branch (fun starts => ?_) fun _ =>
      .branch (fun starts => ?_) fun _ => .branch (fun starts => ?_) fun _ =>
        .branch (fun starts => ?_) fun _ => .branch (fun starts => ?_) fun _ =>
          .branch (fun starts => ?_) fun _ => .branch (fun starts => ?_) fun _ =>
            .branch (fun starts => ?_) fun _ => .fails fun _ => rfl
    · obtain ⟨rest, isLast, startsRest, areBehind⟩ :=
        behindWord (fitting.of_suffix isUnsafe) starts (by decide)
      simp only [areBehind]
      have isFurther := isLast.trans isUnsafe
      exact behind isFurther (reads_readTrait? moved (plainMoved.mono isFurther) startsRest)
    · obtain ⟨keyword, rest, rfl, areBehind⟩ := drop_of_startsWithWord starts
      simp only [areBehind]
      have isFurther := (suffix_cons (.token keyword) rest).trans isUnsafe
      exact behind isFurther (reads_readImplementation? moved (plainMoved.mono isFurther))
    · obtain ⟨rest, isLast, startsRest, areBehind⟩ := behindWord fitting starts (by decide)
      simp only [areBehind]
      exact behind isLast (reads_readModule? moved (plainMoved.mono isLast) startsRest)
    · obtain ⟨rest, isLast, startsRest, areBehind⟩ := behindWord fitting starts (by decide)
      simp only [areBehind]
      exact behind isLast (reads_readStruct? moved startsRest)
    · obtain ⟨rest, isLast, startsRest, areBehind⟩ := behindWord fitting starts (by decide)
      simp only [areBehind]
      exact behind isLast (reads_braced moved startsRest (fun _ _ => rfl) (fun _ _ => rfl)
        fun _ _ _ => rfl)
    · obtain ⟨keyword, rest, rfl, areBehind⟩ :=
        drop_of_startsWithWord (Bool.and_eq_true_iff.mp starts).1
      have isName : startsWithKind .word (faces rest) = true :=
        (Bool.and_eq_true_iff.mp (Bool.and_eq_true_iff.mp starts).2).1
      have startsRest : StartsShared rest := by
        obtain ⟨name, more, rfl, -⟩ := exists_of_startsWithKind isName (by decide)
        exact fun body => nofun
      simp only [areBehind]
      exact behind (suffix_cons _ rest) (reads_braced moved startsRest (fun _ _ => rfl)
        (fun _ _ => rfl) fun _ _ _ => rfl)
    · obtain ⟨rest, isLast, startsRest, areBehind⟩ := behindWord fitting starts (by decide)
      simp only [areBehind]
      exact behind isLast (reads_readTypeItem? moved startsRest)
    · obtain ⟨keyword, rest, rfl, areBehind⟩ :=
        drop_of_startsWithWord (Bool.and_eq_true_iff.mp starts).1
      have startsRest : StartsShared rest := startsShared_of_noBrace
        (Bool.eq_false_of_not_eq_true' (Bool.and_eq_true_iff.mp starts).2)
      simp only [areBehind]
      exact behind (suffix_cons _ rest) (reads_readConst? moved startsRest)
    · obtain ⟨keyword, rest, rfl, areBehind⟩ := drop_of_startsWithWord starts
      simp only [areBehind]
      have isLast := suffix_cons (.token keyword) rest
      exact behind isLast (reads_readImports? moved (fitting.of_suffix isLast))
  · simp only [isSome]
    exact behind isLast (reads_function moved starts)

end Items

end ForwardingProxy.Source
