import ForwardingProxy.Proofs.Source.Versions.Items

/-!
Contract: both versions of a text read the same items up to their bodies.

Owns: `Source.functionStart?`, `Source.memberStart?` and `Source.memberHeader?`, the readings of a
function up to its `where` clause, of a trait or an `impl` block up to there, and of any item with
members up to its braces; each of them ends at the same place in both versions.
-/

namespace ForwardingProxy.Source

variable {slots rest : List Slot} {tokens after : List Token}

/-! ### Functions -/

/-- The header of the function that comes first behind its visibility, and the tokens after it, with
a `where` clause. -/
def functionStart? (tokens : List Token) : Option ((Bool → FunctionSignature) × List Token) :=
  (functionName? tokens).bind functionHeader?

theorem reads_functionStart? (fitting : Fitting slots) :
    Reads Settled slots fun version => functionStart? (tokensOn version slots) := by
  unfold functionStart?
  rcases functionName?_cases fitting with isNone | ⟨named, isLast, starts, isSome⟩
  · exact .fails fun version => by rw [isNone version]; rfl
  · simp only [isSome, Option.bind_some]
    exact (reads_functionHeader? starts).widen isLast fun _ _ _ settled plain =>
      settled (Plain.right plain)

/-- Behind the same header both versions have a body, or neither has one. -/
theorem exists_readItem?_function {header : Bool → FunctionSignature} (fitting : Fitting slots)
    (isStart : ∀ version, functionStart? (tokensOn version slots) =
      some (header, tokensOn version rest)) :
    ∃ hasBody last, last <:+ rest ∧ ∀ version readBody head,
      readItem? readBody head (tokensOn version slots) =
        some (.function head (header hasBody), tokensOn version last) := by
  rcases functionName?_cases fitting with isNone | ⟨named, -, -, isSome⟩
  · have noStart := isStart .original
    rw [functionStart?, isNone .original] at noStart
    cases noStart
  · have isHeader (version : Version) : functionHeader? (tokensOn version named) =
        some (header, tokensOn version rest) := by
      have isRead := isStart version
      rwa [functionStart?, isSome version, Option.bind_some] at isRead
    obtain ⟨hasBody, last, isLast, isRead⟩ := exists_readFunction? isHeader
    refine ⟨hasBody, last, isLast, fun version readBody head => ?_⟩
    simp only [readItem?, isSome version, isRead version, Option.map_some]

/-! ### Items with members -/

/-- A trait with members, from its name on: what it is with them, and the tokens after its header,
with a `where` clause. -/
def traitMembers? : List Token → Option ((Head → List Item → Item) × List Token)
  | [] => none
  | name :: rest =>
      some (fun head => .trait head name.text (traitStart rest).1.1 (traitStart rest).1.2,
        (traitStart rest).2)

/-- A module with items, from its name on: what it is with them, and where their braces are. -/
def moduleMembers? : List Token → Option ((Head → List Item → Item) × List Token)
  | [] => none
  | name :: braces => some (fun head items => .module head name.text (some items), braces)

/-- The trait or `impl` block that comes first behind its visibility: what it is with its members,
and the tokens after its header, with a `where` clause. -/
def memberStart? (tokens : List Token) : Option ((Head → List Item → Item) × List Token) :=
  match functionName? tokens with
  | some _ => none
  | none =>
      let afterUnsafe := skipWord ["unsafe"] tokens
      if startsWithWord ["trait"] afterUnsafe then traitMembers? (afterUnsafe.drop 1)
      else if startsWithWord ["impl"] afterUnsafe then
        (implStart? (afterUnsafe.drop 1)).map fun (header, rest) =>
          (fun head => .implementation head header, rest)
      else none

/-- The trait, `impl` block or module that comes first behind its visibility: what it is with its
members, and where their braces are. -/
def memberHeader? (tokens : List Token) : Option ((Head → List Item → Item) × List Token) :=
  if startsWithWord ["mod"] tokens then moduleMembers? (tokens.drop 1)
  else (memberStart? tokens).map fun found => (found.1, skipWhere found.2)

/-- Members on other lines make the item on other lines. -/
def Carries (make : Head → List Item → Item) : Prop :=
  ∀ ⦃moves : Nat → Nat → Prop⦄ ⦃head other : Head⦄ ⦃members others : List Item⦄,
    head.Moved moves other → List.Forall₂ (Item.Moved moves) members others →
      Item.Moved moves (make head members) (make other others)

section Members

variable {braces : List Token} {make : Head → List Item → Item}

theorem readItem?_start (isStart : memberStart? tokens = some (make, after)) :
    Carries make ∧ ∀ {inside last : List Token} (readBody : List Token → List Item)
      (head : Head), groupOf? "\x7b" (skipWhere after) = some (inside, last) →
        readItem? readBody head tokens = some (make head (readBody inside), last) := by
  unfold memberStart? at isStart
  unfold readItem?
  cases isName : functionName? tokens with
  | some name =>
      rw [isName] at isStart
      cases isStart
  | none =>
      simp only [isName] at isStart ⊢
      split_ifs at isStart ⊢
      · cases isTrait : (skipWord ["unsafe"] tokens).drop 1 with
        | nil =>
            rw [isTrait] at isStart
            cases isStart
        | cons name rest =>
            rw [isTrait, traitMembers?, Option.some.injEq, Prod.mk.injEq] at isStart
            obtain ⟨rfl, rfl⟩ := isStart
            refine ⟨fun _ _ _ _ _ moved areMoved => .trait moved areMoved, ?_⟩
            intro inside last readBody head isGroup
            rw [readTrait?_cons, traitHeader, isGroup, Option.map_some]
      · obtain ⟨⟨header, block⟩, isRead, isPair⟩ := Option.map_eq_some_iff.mp isStart
        rw [Prod.mk.injEq] at isPair
        obtain ⟨rfl, rfl⟩ := isPair
        refine ⟨fun _ _ _ _ _ moved areMoved => .implementation moved areMoved, ?_⟩
        intro inside last readBody head isGroup
        rw [readImplementation?_eq, readImplHeader?_eq, isRead, Option.map_some, Option.bind_some]
        dsimp only at isGroup ⊢
        rw [isGroup, Option.map_some, Option.getD_some]

theorem readItem?_module (isModule : startsWithWord ["mod"] tokens = true)
    (readBody : List Token → List Item) (head : Head) :
    readItem? readBody head tokens = readModule? readBody head (tokens.drop 1) := by
  cases tokens with
  | nil => cases isModule
  | cons first rest =>
      have isName : first.kind = .word ∧ first.text = "mod" := by
        simpa [startsWithWord] using isModule
      have noQualifier : skipFunctionQualifiers (first :: rest) = first :: rest := by
        rw [skipFunctionQualifiers.eq_def]
        simp [Token.isWord, isName]
      simp [readItem?, functionName?, noQualifier, skipWord, startsWithWord, Token.isWord, isName]

/-- An item with members has those that are read between its braces. -/
theorem readItem?_members (isHeader : memberHeader? tokens = some (make, braces)) :
    Carries make ∧ ∀ {inside last : List Token} (readBody : List Token → List Item)
      (head : Head), groupOf? "\x7b" braces = some (inside, last) →
        readItem? readBody head tokens = some (make head (readBody inside), last) := by
  unfold memberHeader? at isHeader
  split_ifs at isHeader with isModule
  · cases isNamed : tokens.drop 1 with
    | nil =>
        rw [isNamed] at isHeader
        cases isHeader
    | cons name rest =>
        rw [isNamed, moduleMembers?, Option.some.injEq, Prod.mk.injEq] at isHeader
        obtain ⟨rfl, rfl⟩ := isHeader
        refine ⟨fun _ _ _ _ _ moved areMoved => .module moved areMoved, ?_⟩
        intro inside last readBody head isGroup
        rw [readItem?_module isModule, isNamed, readModule?_cons, isGroup]
        rfl
  · obtain ⟨⟨made, rest⟩, isStart, isPair⟩ := Option.map_eq_some_iff.mp isHeader
    obtain ⟨rfl, rfl⟩ := Prod.mk.injEq _ _ _ _ ▸ isPair
    exact readItem?_start isStart

theorem reads_traitMembers? (starts : StartsShared slots) :
    Reads Settled slots fun version => traitMembers? (tokensOn version slots) := by
  match slots, starts with
  | [], _ => exact .fails fun _ => rfl
  | .body body :: _, starts => exact absurd rfl (starts body)
  | .token name :: rest, _ =>
      obtain ⟨passed, clause, header, rfl, isHeader, settled⟩ :=
        (reads_traitStart rest).exists_of_some
      simp only [tokensOn_token, traitMembers?, isHeader, Shared.text_on]
      refine .passes (List.cons_append ..).symm (fun _ => rfl) fun plain => ?_
      simp only [settled (plain.of_suffix (suffix_cons _ passed))]

theorem reads_moduleMembers? (starts : StartsShared slots) :
    Reads Settled slots fun version => moduleMembers? (tokensOn version slots) := by
  match slots, starts with
  | [], _ => exact .fails fun _ => rfl
  | .body body :: _, starts => exact absurd rfl (starts body)
  | .token name :: rest, _ => exact .passes List.singleton_append.symm (fun _ => rfl) fun _ => rfl

/-- Both versions read the same item without its members. -/
theorem reads_memberStart? (fitting : Fitting slots) :
    Reads Settled slots fun version => memberStart? (tokensOn version slots) := by
  have behind {places : List Slot}
      {read : Version → Option ((Head → List Item → Item) × List Token)}
      (isLast : places <:+ slots) (reads : Reads Settled places read) : Reads Settled slots read :=
    reads.widen isLast fun _ _ _ settled plain => settled (Plain.right plain)
  unfold memberStart?
  rcases functionName?_cases fitting with isNone | ⟨rest, -, -, isSome⟩
  · obtain ⟨afterUnsafe, isUnsafe, areUnsafe⟩ := lands_skipWord ["unsafe"] slots
    simp only [isNone, areUnsafe, startsWithWord_on]
    refine .branch (fun starts => ?_) fun _ => .branch (fun starts => ?_) fun _ =>
      .fails fun _ => rfl
    · obtain ⟨rest, isLast, startsRest, areBehind⟩ :=
        behindWord (fitting.of_suffix isUnsafe) starts (by decide)
      simp only [areBehind]
      exact behind (isLast.trans isUnsafe) (reads_traitMembers? startsRest)
    · obtain ⟨keyword, rest, rfl, areBehind⟩ := drop_of_startsWithWord starts
      simp only [areBehind]
      refine behind ((suffix_cons _ rest).trans isUnsafe) ?_
      cases reads_implStart? rest with
      | fails isNone => exact .fails fun version => by rw [isNone version]; rfl
      | passes isAll isSome settled =>
          refine .passes isAll (fun version => by rw [isSome version]; rfl) fun plain => ?_
          simp only [settled plain]
  · exact .fails fun version => by rw [isSome version]

theorem reads_memberHeader? (fitting : Fitting slots) :
    Reads Settled slots fun version => memberHeader? (tokensOn version slots) := by
  unfold memberHeader?
  simp only [startsWithWord_on]
  refine .branch (fun starts => ?_) fun _ => (reads_memberStart? fitting).skipWhere
  obtain ⟨rest, isLast, startsRest, areBehind⟩ := behindWord fitting starts (by decide)
  simp only [areBehind]
  exact (reads_moduleMembers? startsRest).widen isLast fun _ _ _ settled plain =>
    settled (Plain.right plain)

end Members

end ForwardingProxy.Source
