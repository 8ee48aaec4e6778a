import ForwardingProxy.Proofs.Source.Versions.Headers

/-!
Contract: items are read without a limit.

Owns: `Source.itemsBehind` and `Source.itemsIn`, the items among tokens behind a run of attributes
and behind none; how the reading of items goes on behind what comes first; and where the items in an
item are read from.

Every body is shorter than what it stands in and every step leaves fewer tokens, so the number of
steps that a reader is given never ends the reading.
-/

namespace ForwardingProxy.Source

/-! ### Lengths -/

/-- A token on a line of its own, in both versions of a text. -/
def Token.shared (token : Token) : Shared :=
  ⟨token.kind, token.text, token.before, fun _ => token.line⟩

/-- The places of tokens that no version changes. -/
def placesOf (tokens : List Token) : List Slot :=
  tokens.map fun token => .token token.shared

theorem tokensOn_placesOf (version : Version) (tokens : List Token) :
    tokensOn version (placesOf tokens) = tokens := by
  induction tokens with
  | nil => rfl
  | cons token rest inductionHypothesis =>
      rw [placesOf, List.map_cons, tokensOn_token]
      exact congrArg (token :: ·) inductionHypothesis

variable {tokens after : List Token}

/-- What goes on among tokens goes on at their end. -/
theorem Lands.suffix {goesOn : List Token → List Token}
    (lands : Lands (placesOf tokens) fun version => goesOn (tokensOn version (placesOf tokens))) :
    goesOn tokens <:+ tokens := by
  obtain ⟨rest, ⟨passed, isAll⟩, isRest⟩ := lands
  have same : goesOn tokens = tokensOn .original rest := by
    have isSame := isRest .original
    dsimp only at isSame
    rwa [tokensOn_placesOf] at isSame
  have whole := congrArg (tokensOn .original) isAll
  rw [tokensOn_append, tokensOn_placesOf, ← same] at whole
  exact ⟨_, whole⟩

theorem Reads.suffix {Value : Type} {agree : List Slot → (Version → Value) → Prop}
    {read : List Token → Option (Value × List Token)}
    (reads : Reads agree (placesOf tokens) fun version => read (tokensOn version (placesOf tokens)))
    {value : Value} (isRead : read tokens = some (value, after)) : after <:+ tokens := by
  cases reads with
  | fails isNone =>
      have none := isNone .original
      rw [tokensOn_placesOf, isRead] at none
      cases none
  | @passes passed rest _ isAll isSome _ =>
      have some := isSome .original
      rw [tokensOn_placesOf, isRead, Option.some.injEq, Prod.mk.injEq] at some
      have whole := congrArg (tokensOn .original) isAll
      rw [tokensOn_append, tokensOn_placesOf, ← some.2] at whole
      exact ⟨_, whole.symm⟩

theorem length_attribute? {written : Attribute}
    (isAttribute : attribute? tokens = some (written, after)) : after.length < tokens.length := by
  cases tokens with
  | nil => cases isAttribute
  | cons first rest =>
      rw [attribute?, Option.ite_none_right_eq_some, Option.map_eq_some_iff] at isAttribute
      obtain ⟨-, ⟨inside, behind⟩, isGroup, isPair⟩ := isAttribute
      obtain rfl := (Prod.mk.injEq _ _ _ _ ▸ isPair).2
      have shorter := length_groupOf? isGroup
      rw [List.length_cons]
      omega

theorem length_skipInnerAttribute? (isInner : skipInnerAttribute? tokens = some after) :
    after.length < tokens.length := by
  match tokens with
  | [] | [_] => cases isInner
  | first :: second :: rest =>
      rw [skipInnerAttribute?, Option.ite_none_right_eq_some, Option.map_eq_some_iff] at isInner
      obtain ⟨-, ⟨inside, behind⟩, isGroup, rfl⟩ := isInner
      have shorter := length_groupOf? isGroup
      simp only [List.length_cons]
      omega

theorem length_skipWord (words : List String) (tokens : List Token) :
    (skipWord words tokens).length ≤ tokens.length :=
  (Lands.suffix (lands_skipWord words _)).length_le

theorem length_traitHeader (tokens : List Token) :
    (traitHeader tokens).2.length ≤ tokens.length :=
  (@Lands.suffix tokens (fun tokens => (traitHeader tokens).2)
    (reads_traitHeader _).lands).length_le

theorem length_readImplHeader? {header : ImplHeader}
    (isHeader : readImplHeader? tokens = some (header, after)) : after.length ≤ tokens.length :=
  (Reads.suffix (reads_readImplHeader? _) isHeader).length_le

/-! ### Bodies -/

section Bodies

variable {readBody other : List Token → List Item} {head : Head}

/-- A reader of what is inside of a group is asked for tokens of that group only. -/
theorem mapGroup_congr {Value : Type} {make makeOther : List Token × List Token → Value}
    {opening : String} (same : ∀ inside after, inside.length < tokens.length →
      make (inside, after) = makeOther (inside, after)) :
    (groupOf? opening tokens).map make = (groupOf? opening tokens).map makeOther := by
  cases isGroup : groupOf? opening tokens with
  | none => rfl
  | some cut =>
      have shorter := length_groupOf? isGroup
      exact congrArg some (same cut.1 cut.2 (by omega))

theorem readModule?_cons (readBody : List Token → List Item) (head : Head) (name : Token)
    (rest : List Token) :
    readModule? readBody head (name :: rest) =
      some (((groupOf? "\x7b" rest).map fun (inside, after) =>
        (.module head name.text (some (readBody inside)), after)).getD
          (.module head name.text none, rest.drop 1)) := by
  rw [readModule?]
  cases groupOf? "\x7b" rest <;> rfl

theorem readImplementation?_eq (readBody : List Token → List Item) (head : Head)
    (tokens : List Token) :
    readImplementation? readBody head tokens =
      (readImplHeader? tokens).bind fun (header, body) =>
        some (((groupOf? "\x7b" body).map fun (inside, after) =>
          (.implementation head header (readBody inside), after)).getD
            (.implementation head header [], dropStatement body)) := by
  unfold readImplementation?
  refine bind_congr fun read => ?_
  obtain ⟨header, body⟩ := read
  dsimp only
  cases groupOf? "\x7b" body <;> rfl

variable (same : ∀ inside, inside.length < tokens.length → readBody inside = other inside)

include same

theorem readModule?_congr : readModule? readBody head tokens = readModule? other head tokens := by
  cases tokens with
  | nil => rfl
  | cons name rest =>
      rw [readModule?_cons, readModule?_cons, mapGroup_congr]
      intro inside after shorter
      dsimp only
      rw [same inside (Nat.lt_succ_of_lt shorter)]

theorem readTrait?_congr : readTrait? readBody head tokens = readTrait? other head tokens := by
  cases tokens with
  | nil => rfl
  | cons name rest =>
      rw [readTrait?_cons, readTrait?_cons]
      refine mapGroup_congr fun inside after shorter => ?_
      dsimp only
      rw [same inside (Nat.lt_succ_of_lt (Nat.lt_of_lt_of_le shorter (length_traitHeader rest)))]

theorem readImplementation?_congr :
    readImplementation? readBody head tokens = readImplementation? other head tokens := by
  rw [readImplementation?_eq, readImplementation?_eq]
  refine Option.bind_congr fun (header, body) isHeader => ?_
  dsimp only
  rw [mapGroup_congr]
  intro inside after shorter
  dsimp only
  rw [same inside (Nat.lt_of_lt_of_le shorter (length_readImplHeader? isHeader))]

/-- An item is read alike by readers that read all shorter bodies alike. -/
theorem readItem?_congr : readItem? readBody head tokens = readItem? other head tokens := by
  have fewer (dropped : Nat) (inside : List Token)
      (shorter : inside.length < (tokens.drop dropped).length) :
      readBody inside = other inside :=
    same inside (by rw [List.length_drop] at shorter; omega)
  have fewerBehind (inside : List Token)
      (shorter : inside.length < ((skipWord ["unsafe"] tokens).drop 1).length) :
      readBody inside = other inside := by
    have isShorter := length_skipWord ["unsafe"] tokens
    rw [List.length_drop] at shorter
    exact same inside (by omega)
  unfold readItem?
  cases functionName? tokens with
  | some function => rfl
  | none =>
      dsimp only
      rw [readTrait?_congr fewerBehind, readImplementation?_congr fewerBehind,
        readModule?_congr (fewer 1)]

end Bodies

/-! ### Items -/

theorem length_skipVisibility (tokens : List Token) :
    (skipVisibility tokens).2.length ≤ tokens.length := by
  cases tokens with
  | nil => exact Nat.le_refl 0
  | cons first rest =>
      have shorter := length_cutGroup "(" ")" 1 (rest.drop 1)
      rw [List.length_drop] at shorter
      unfold skipVisibility
      dsimp only
      rw [List.length_cons]
      split_ifs <;> simp only [List.length_cons] <;> omega

theorem length_shrink (first : Token) (rest after : List Token) :
    (shrink (first :: rest) after).length ≤ rest.length := by
  unfold shrink
  split
  next shorter => exact Nat.le_of_lt_succ shorter
  next => exact Nat.le_refl _

/-- The items from a token on, by what comes first: an attribute, an attribute of what is around, an
item, or something that is none of these. The items of a body and those behind are given. -/
def itemsWith (behind : Run → List Token → List Item) (run : Run) (first : Token)
    (rest : List Token) : List Item :=
  match attribute? (first :: rest) with
  | some (written, after) => behind (run.add written first.line) after
  | none =>
      match skipInnerAttribute? (first :: rest) with
      | some after => behind .empty after
      | none =>
          let (visible, declared) := skipVisibility (first :: rest)
          match readItem? (behind .empty) (run.head first visible) declared with
          | some (item, after) => item :: behind .empty (shrink (first :: rest) after)
          | none => behind .empty (shrink (first :: rest) (dropNoItem declared))

theorem itemsWith_congr {behind other : Run → List Token → List Item} (run : Run) {first : Token}
    {rest : List Token}
    (same : ∀ run after, after.length ≤ rest.length → behind run after = other run after) :
    itemsWith behind run first rest = itemsWith other run first rest := by
  unfold itemsWith
  cases isAttribute : attribute? (first :: rest) with
  | some read => exact same _ _ (Nat.le_of_lt_succ (length_attribute? isAttribute))
  | none =>
      cases isInner : skipInnerAttribute? (first :: rest) with
      | some after => exact same _ _ (Nat.le_of_lt_succ (length_skipInnerAttribute? isInner))
      | none =>
          have shorter := length_skipVisibility (first :: rest)
          rw [List.length_cons] at shorter
          dsimp only
          rw [@readItem?_congr _ (behind .empty) (other .empty) _
            fun inside fewer => same _ _ (by omega)]
          cases readItem? (other .empty) (run.head first (skipVisibility (first :: rest)).1)
              (skipVisibility (first :: rest)).2 with
          | some read => exact congrArg (read.1 :: ·) (same _ _ (length_shrink first rest _))
          | none => exact same _ _ (length_shrink first rest _)

theorem readItemsFrom_succ (fuel : Nat) (run : Run) (first : Token) (rest : List Token) :
    readItemsFrom (fuel + 1) run (first :: rest) =
      itemsWith (readItemsFrom fuel) run first rest :=
  rfl

/-- Any two numbers of steps that cover the tokens read the same items. -/
theorem readItemsFrom_enough {fuel more : Nat} (run : Run) (enough : tokens.length ≤ fuel)
    (enoughToo : tokens.length ≤ more) :
    readItemsFrom fuel run tokens = readItemsFrom more run tokens := by
  induction fuel generalizing tokens more run with
  | zero =>
      obtain rfl := List.length_eq_zero_iff.mp (Nat.le_zero.mp enough)
      cases more <;> rfl
  | succ fuel inductionHypothesis =>
      cases tokens with
      | nil => cases more <;> rfl
      | cons first rest =>
          obtain ⟨more, rfl⟩ := Nat.exists_eq_add_one.mpr (Nat.zero_lt_of_lt enoughToo)
          rw [List.length_cons, Nat.add_le_add_iff_right] at enough enoughToo
          rw [readItemsFrom_succ, readItemsFrom_succ]
          exact itemsWith_congr run fun run after shorter =>
            inductionHypothesis run (shorter.trans enough) (shorter.trans enoughToo)

/-- The items among the tokens behind a run of attributes. -/
def itemsBehind (run : Run) (tokens : List Token) : List Item :=
  readItemsFrom tokens.length run tokens

/-- The items among the tokens. -/
def itemsIn (tokens : List Token) : List Item :=
  itemsBehind .empty tokens

theorem itemsBehind_cons (run : Run) (first : Token) (rest : List Token) :
    itemsBehind run (first :: rest) = itemsWith itemsBehind run first rest := by
  rw [itemsBehind, List.length_cons, readItemsFrom_succ]
  exact itemsWith_congr run fun run after shorter =>
    readItemsFrom_enough run shorter (Nat.le_refl _)

theorem readItems_eq (text : String) : readItems text = itemsIn (Source.tokens text) := rfl

section Steps

variable {run : Run} {first : Token} {rest : List Token}

theorem itemsBehind_attribute {written : Attribute}
    (isAttribute : attribute? (first :: rest) = some (written, after)) :
    itemsBehind run (first :: rest) = itemsBehind (run.add written first.line) after := by
  rw [itemsBehind_cons, itemsWith, isAttribute]

theorem itemsBehind_inner (noAttribute : attribute? (first :: rest) = none)
    (isInner : skipInnerAttribute? (first :: rest) = some after) :
    itemsBehind run (first :: rest) = itemsIn after := by
  rw [itemsBehind_cons, itemsWith, noAttribute, isInner]
  rfl

variable (noAttribute : attribute? (first :: rest) = none)
  (noInner : skipInnerAttribute? (first :: rest) = none) {visible : Bool} {declared : List Token}
  (isDeclared : skipVisibility (first :: rest) = (visible, declared))

include noAttribute noInner isDeclared

theorem itemsBehind_item {item : Item}
    (isItem : readItem? itemsIn (run.head first visible) declared = some (item, after)) :
    itemsBehind run (first :: rest) = item :: itemsIn (shrink (first :: rest) after) := by
  rw [itemsBehind_cons, itemsWith, noAttribute, noInner, isDeclared]
  unfold itemsIn at isItem ⊢
  simp only [isItem]

theorem itemsBehind_other (noItem : readItem? itemsIn (run.head first visible) declared = none) :
    itemsBehind run (first :: rest) = itemsIn (shrink (first :: rest) (dropNoItem declared)) := by
  rw [itemsBehind_cons, itemsWith, noAttribute, noInner, isDeclared]
  unfold itemsIn at noItem ⊢
  simp only [noItem]

end Steps

/-! ### Members -/

/-- The items that stand in an item. -/
def Item.members? : Item → Option (List Item)
  | .trait _ _ _ _ members | .implementation _ _ members => some members
  | .module _ _ items => items
  | _ => none

theorem cutGroup_isPrefix (opening closing : String) (depth : Nat) (tokens : List Token) :
    (cutGroup opening closing depth tokens).1 <+: tokens := by
  fun_induction cutGroup opening closing depth tokens <;> simp_all

theorem cutOutside_isPrefix (opening closing : String) (depth braces : Nat) (tokens : List Token) :
    (cutOutside opening closing depth braces tokens).1 <+: tokens := by
  fun_induction cutOutside opening closing depth braces tokens <;> simp_all

theorem group?_isInfix {inside : List Token} (isGroup : group? tokens = some (inside, after)) :
    inside <:+: tokens := by
  cases tokens with
  | nil => cases isGroup
  | cons first rest =>
      rw [group?, Option.ite_none_right_eq_some, Option.map_eq_some_iff] at isGroup
      obtain ⟨-, closing, -, isCut⟩ := isGroup
      have isFirst : inside <+: rest := by
        split at isCut
        · have isFirst := cutGroup_isPrefix first.text closing 1 rest
          rwa [isCut] at isFirst
        · have isFirst := cutOutside_isPrefix first.text closing 1 0 rest
          rwa [isCut] at isFirst
      exact isFirst.isInfix.trans (List.suffix_cons first rest).isInfix

theorem groupOf?_isInfix {opening : String} {inside : List Token}
    (isGroup : groupOf? opening tokens = some (inside, after)) : inside <:+: tokens := by
  rw [groupOf?, Option.ite_none_right_eq_some] at isGroup
  exact group?_isInfix isGroup.2

/-- The item has that head, and the items in it are read from tokens among these. -/
def StandsIn (readBody : List Token → List Item) (head : Head) (tokens : List Token)
    (item : Item) : Prop :=
  item.head = head ∧ ∀ members, item.members? = some members →
    ∃ inside, inside <:+: tokens ∧ members = readBody inside

section StandsIn

variable {readBody : List Token → List Item} {head : Head} {item : Item}

theorem StandsIn.mono {others : List Token} (stands : StandsIn readBody head tokens item)
    (areAmong : tokens <:+: others) : StandsIn readBody head others item := by
  refine ⟨stands.1, fun members areMembers => ?_⟩
  obtain ⟨inside, isInside, isRead⟩ := stands.2 members areMembers
  exact ⟨inside, isInside.trans areAmong, isRead⟩

theorem standsIn_alone (isHead : item.head = head) (noMembers : item.members? = none) :
    StandsIn readBody head tokens item :=
  ⟨isHead, fun _ areMembers => nomatch noMembers.symm.trans areMembers⟩

theorem standsIn_trait (isItem : readTrait? readBody head tokens = some (item, after)) :
    StandsIn readBody head tokens item := by
  cases tokens with
  | nil => cases isItem
  | cons name rest =>
      rw [readTrait?_cons, Option.map_eq_some_iff] at isItem
      obtain ⟨⟨inside, behind⟩, isGroup, isPair⟩ := isItem
      cases isPair
      have isLast : (traitHeader rest).2 <:+ rest :=
        @Lands.suffix rest (fun tokens => (traitHeader tokens).2) (reads_traitHeader _).lands
      have isInside := ((groupOf?_isInfix isGroup).trans isLast.isInfix).trans
        (List.suffix_cons name rest).isInfix
      refine ⟨rfl, fun members areMembers => ⟨inside, isInside, ?_⟩⟩
      exact (Option.some.inj areMembers).symm

theorem standsIn_implementation (ofNone : readBody [] = [])
    (isItem : readImplementation? readBody head tokens = some (item, after)) :
    StandsIn readBody head tokens item := by
  rw [readImplementation?_eq, Option.bind_eq_some_iff] at isItem
  obtain ⟨⟨header, body⟩, isHeader, isBlock⟩ := isItem
  have isLast := Reads.suffix (reads_readImplHeader? _) isHeader
  cases isGroup : groupOf? "\x7b" body with
  | none =>
      simp only [isGroup, Option.map_none, Option.getD_none, Option.some.injEq,
        Prod.mk.injEq] at isBlock
      obtain ⟨rfl, -⟩ := isBlock
      refine ⟨rfl, fun members areMembers => ⟨[], List.nil_infix, ?_⟩⟩
      exact (Option.some.inj areMembers).symm.trans ofNone.symm
  | some cut =>
      simp only [isGroup, Option.map_some, Option.getD_some, Option.some.injEq,
        Prod.mk.injEq] at isBlock
      obtain ⟨rfl, -⟩ := isBlock
      refine ⟨rfl, fun members areMembers => ⟨cut.1, ?_, (Option.some.inj areMembers).symm⟩⟩
      exact (groupOf?_isInfix isGroup).trans isLast.isInfix

theorem standsIn_module (isItem : readModule? readBody head tokens = some (item, after)) :
    StandsIn readBody head tokens item := by
  cases tokens with
  | nil => cases isItem
  | cons name rest =>
      rw [readModule?_cons] at isItem
      cases isGroup : groupOf? "\x7b" rest with
      | none =>
          simp only [isGroup, Option.map_none, Option.getD_none, Option.some.injEq,
            Prod.mk.injEq] at isItem
          obtain ⟨rfl, -⟩ := isItem
          exact standsIn_alone rfl rfl
      | some cut =>
          simp only [isGroup, Option.map_some, Option.getD_some, Option.some.injEq,
            Prod.mk.injEq] at isItem
          obtain ⟨rfl, -⟩ := isItem
          refine ⟨rfl, fun members areMembers => ⟨cut.1, ?_, (Option.some.inj areMembers).symm⟩⟩
          exact (groupOf?_isInfix isGroup).trans (List.suffix_cons name rest).isInfix

theorem standsIn_struct (isItem : readStruct? head tokens = some (item, after)) :
    StandsIn readBody head tokens item := by
  cases tokens with
  | nil => cases isItem
  | cons name rest =>
      unfold readStruct? at isItem
      dsimp only at isItem
      split at isItem
      · cases isItem
        exact standsIn_alone rfl rfl
      · split at isItem <;>
        · cases isItem
          exact standsIn_alone rfl rfl

theorem standsIn_type (isItem : readTypeItem? head tokens = some (item, after)) :
    StandsIn readBody head tokens item := by
  cases tokens with
  | nil => cases isItem
  | cons name rest =>
      cases isItem
      split <;> exact standsIn_alone rfl rfl

theorem standsIn_const (isItem : readConst? head tokens = some (item, after)) :
    StandsIn readBody head tokens item := by
  cases tokens with
  | nil => cases isItem
  | cons name rest =>
      cases isItem
      exact standsIn_alone rfl rfl

/-- An item has the head that it is read with, and the items in it are read like those around it. -/
theorem standsIn_readItem? (ofNone : readBody [] = [])
    (isItem : readItem? readBody head tokens = some (item, after)) :
    StandsIn readBody head tokens item := by
  have behindUnsafe : (skipWord ["unsafe"] tokens).drop 1 <:+: tokens :=
    ((List.drop_suffix 1 _).trans (Lands.suffix (lands_skipWord ["unsafe"] _))).isInfix
  have behindFirst : tokens.drop 1 <:+: tokens := (List.drop_suffix 1 tokens).isInfix
  unfold readItem? at isItem
  split at isItem
  · obtain ⟨read, -, isPair⟩ := Option.map_eq_some_iff.mp isItem
    cases isPair
    exact standsIn_alone rfl rfl
  · dsimp only at isItem
    split_ifs at isItem
    · exact (standsIn_trait isItem).mono behindUnsafe
    · exact (standsIn_implementation ofNone isItem).mono behindUnsafe
    · exact (standsIn_module isItem).mono behindFirst
    · exact (standsIn_struct isItem).mono behindFirst
    · obtain ⟨read, -, isPair⟩ := Option.map_eq_some_iff.mp isItem
      cases isPair
      exact standsIn_alone rfl rfl
    · obtain ⟨read, -, isPair⟩ := Option.map_eq_some_iff.mp isItem
      cases isPair
      exact standsIn_alone rfl rfl
    · exact (standsIn_type isItem).mono behindFirst
    · exact (standsIn_const isItem).mono behindFirst
    · obtain ⟨read, -, isPair⟩ := Option.map_eq_some_iff.mp isItem
      cases isPair
      exact standsIn_alone rfl rfl

end StandsIn
end ForwardingProxy.Source
