import ForwardingProxy.Proofs.Collection.Lines
import Mathlib

/-!
Contract: items that are compiled under a condition only are as good as not written.

Owns: `Collection.Dropped`, which takes one such item out of the items of a file, and the theorem
that the table stays the same but for the lines, and but for one fact: a constructor in an `impl`
block is recorded under any condition.

A file, a module, a trait and an `impl` block are walked each in its own way, so there is one case
for each of them. Texts are compared by the items that are read from them.
-/

namespace ForwardingProxy

open Source (Item ImplHeader unlinedAll)

/-- The first table has the facts of the second one and these, which stand in one scope. -/
def SymbolTable.ExceedsBy (lost : List (TypeSyntax × Construction)) (table other : SymbolTable) :
    Prop :=
  ∃ before after scope, other.facts = before ++ after ∧
    table = { other with
      facts := before ++ lost.map (fun fact => ⟨scope, fact.1, fact.2⟩) ++ after }

namespace Collection

/-- What an item in the body of an `impl` block tells about building values. -/
def constructionOf (header : ImplHeader) (member : Item) : List (TypeSyntax × Construction) :=
  if header.trait.isSome then []
  else (constructorName? header.selfType member).toList.map fun name =>
    (header.selfType, .constructor name)

/-- Among the items of a file, an item that has a condition is dropped: one of them, one in a module
at any depth, in the body of a trait or in that of an `impl` block. With it, `lost` is lost. -/
inductive Dropped : (lost : List (TypeSyntax × Construction)) → (whole remaining : List Item) → Prop
    where
  | item {item : Item} {before after : List Item} (conditional : item.head.isConditional = true) :
      Dropped [] (before ++ item :: after) (before ++ after)
  | inModule {lost : List (TypeSyntax × Construction)} {head : Source.Head} {name : String}
      {before whole remaining after : List Item} (deeper : Dropped lost whole remaining) :
      Dropped (if head.isConditional then [] else lost)
        (before ++ .module head name (some whole) :: after)
        (before ++ .module head name (some remaining) :: after)
  | inTrait {item : Item} {head : Source.Head} {name : String} {generic : Bool}
      {bounds : List TypeSyntax} {before first last after : List Item}
      (conditional : item.head.isConditional = true) :
      Dropped [] (before ++ .trait head name generic bounds (first ++ item :: last) :: after)
        (before ++ .trait head name generic bounds (first ++ last) :: after)
  | inImplementation {item : Item} {head : Source.Head} {header : ImplHeader}
      {before first last after : List Item} (conditional : item.head.isConditional = true) :
      Dropped (if head.isConditional then [] else constructionOf header item)
        (before ++ .implementation head header (first ++ item :: last) :: after)
        (before ++ .implementation head header (first ++ last) :: after)

/-- The table with further facts in front. -/
def factsBefore (facts : List ConstructionFact) (table : SymbolTable) : SymbolTable :=
  { table with facts := facts ++ table.facts }

theorem addItems_factsBefore (facts : List ConstructionFact) (place : Place) (table : SymbolTable)
    (items : List Item) :
    addItems place (factsBefore facts table) items =
      factsBefore facts (addItems place table items) := by
  induction items using items_induction generalizing table place with
  | nil => rw [addItems, addItems]
  | plain item rest isPlain inductionHypothesis =>
      rw [addItems_cons, addItems_cons]
      by_cases conditional : item.head.isConditional = true
      · rw [if_pos conditional, if_pos conditional, inductionHypothesis]
      · have gained : withGain (factsBefore facts table) place.scope (gain place item) =
            factsBefore facts (withGain table place.scope (gain place item)) := by
          simp [withGain, factsBefore]
        rw [if_neg conditional, if_neg conditional, addItem_plain _ _ isPlain,
          addItem_plain _ _ isPlain, gained, inductionHypothesis]
  | module head name items rest ofItems ofRest =>
      rw [addItems_cons, addItems_cons]
      by_cases conditional : (Item.module head name (some items)).head.isConditional = true
      · rw [if_pos conditional, if_pos conditional, ofRest]
      · rw [if_neg conditional, if_neg conditional, addItem_module, addItem_module, ← ofRest,
          ← ofItems]
        rfl

/-- What is added behind leaves the facts in front as they are. -/
theorem exceedsBy_addItems {lost : List (TypeSyntax × Construction)} {table other : SymbolTable}
    (exceeds : table.ExceedsBy lost other) (place : Place) (items : List Item) :
    (addItems place table items).ExceedsBy lost (addItems place other items) := by
  obtain ⟨before, after, scope, isOther, rfl⟩ := exceeds
  let bare : SymbolTable := { other with facts := [] }
  have sameOther : other = factsBefore (before ++ after) bare := by
    obtain ⟨scopes, declarations, facts, announced⟩ := other
    simp_all [factsBefore, bare]
  have sameTable : { other with
      facts := before ++ lost.map (fun fact => ⟨scope, fact.1, fact.2⟩) ++ after } =
      factsBefore (before ++ lost.map (fun fact => ⟨scope, fact.1, fact.2⟩) ++ after) bare := by
    simp [factsBefore, bare]
  refine ⟨before, after ++ (addItems place bare items).facts, scope, ?_, ?_⟩
  · rw [sameOther, addItems_factsBefore]
    simp [factsBefore]
  · rw [sameTable, sameOther, addItems_factsBefore, addItems_factsBefore]
    simp [factsBefore]

theorem exceedsBy_refl (table : SymbolTable) : table.ExceedsBy [] table :=
  ⟨table.facts, [], 0, by simp, by simp⟩

theorem constructions_insert (header : ImplHeader) (first last : List Item) (item : Item) :
    ∃ before after, constructions header (first ++ last) = before ++ after ∧
      constructions header (first ++ item :: last) =
        before ++ (constructionOf header item).map Prod.snd ++ after := by
  unfold constructions constructionOf
  cases header.trait with
  | some path => exact ⟨_, [], (List.append_nil _).symm, by simp⟩
  | none =>
      let names (members : List Item) :=
        (members.filterMap (constructorName? header.selfType)).map Construction.constructor
      refine ⟨names first, names last, by simp [names], ?_⟩
      cases isNamed : constructorName? header.selfType item <;> simp [names, isNamed]

theorem exceedsBy_addImplementation (scope : Nat) (header : ImplHeader) (first last : List Item)
    (item : Item) (table : SymbolTable) :
    (addImplementation scope header (first ++ item :: last) table).ExceedsBy
      (constructionOf header item) (addImplementation scope header (first ++ last) table) := by
  obtain ⟨before, after, without, withItem⟩ := constructions_insert header first last item
  have sameType : (constructionOf header item).map
        (fun fact => (⟨scope, fact.1, fact.2⟩ : ConstructionFact)) =
      ((constructionOf header item).map Prod.snd).map fun construction =>
        ⟨scope, header.selfType, construction⟩ := by
    unfold constructionOf
    cases header.trait <;> simp
  let facts (constructions : List Construction) : List ConstructionFact :=
    constructions.map fun construction => ⟨scope, header.selfType, construction⟩
  refine ⟨table.facts ++ facts before, facts after, scope, ?_, ?_⟩
  · simp [addImplementation_eq, without, facts]
  · simp [addImplementation_eq, withItem, sameType, facts]

/-- Without the conditional item, exactly the facts are missing that are lost with it. -/
theorem addItems_dropped {lost : List (TypeSyntax × Construction)} {whole remaining : List Item}
    (dropped : Dropped lost whole remaining) (place : Place) (table : SymbolTable) :
    (addItems place table whole).ExceedsBy lost (addItems place table remaining) := by
  -- before the item nothing differs, and what comes behind it is added to both tables alike
  induction dropped generalizing place table with
  | @item item before after conditional =>
      rw [addItems_append, addItems_append, addItems_cons, if_pos conditional]
      exact exceedsBy_refl _
  | @inModule lost head name before whole remaining after deeper inductionHypothesis =>
      rw [addItems_append, addItems_append, addItems_cons, addItems_cons]
      refine exceedsBy_addItems ?_ place after
      by_cases conditional : head.isConditional = true
      · simp only [Item.head, conditional, if_true]
        exact exceedsBy_refl _
      · simp only [Item.head, conditional, Bool.false_eq_true, if_false, addItem_module]
        exact inductionHypothesis _ _
  | @inTrait item head name generic bounds before first last after conditional =>
      have noItem : traitItem? item = none := by
        unfold traitItem?
        rw [if_pos conditional]
      have sameItems : (first ++ item :: last).filterMap traitItem? =
          (first ++ last).filterMap traitItem? := by
        rw [List.filterMap_append, List.filterMap_cons_none noItem, ← List.filterMap_append]
      rw [addItems_append, addItems_append, addItems_cons, addItems_cons, addItem, addItem,
        sameItems]
      exact exceedsBy_refl _
  | @inImplementation item head header before first last after conditional =>
      rw [addItems_append, addItems_append, addItems_cons, addItems_cons]
      refine exceedsBy_addItems ?_ place after
      by_cases implConditional : head.isConditional = true
      · simp only [Item.head, implConditional, if_true]
        exact exceedsBy_refl _
      · simp only [Item.head, implConditional, Bool.false_eq_true, if_false, addItem]
        exact exceedsBy_addImplementation place.scope header first last item _

/-- The tables are the same just when nothing is lost. -/
theorem eq_iff_of_exceedsBy {lost : List (TypeSyntax × Construction)} {table other : SymbolTable}
    (exceeds : table.ExceedsBy lost other) : table = other ↔ lost = [] := by
  obtain ⟨before, after, scope, isOther, isTable⟩ := exceeds
  constructor
  · intro same
    have sameLength : table.facts.length = other.facts.length := by rw [same]
    simpa [isTable, isOther] using sameLength
  · rintro rfl
    rw [isTable, List.map_nil, List.append_nil, ← isOther]

/-- Dropping an item that has a condition from a source text changes nothing in the table but lines,
and that a constructor which it is in an `impl` block is lost. So it is as good as not written
unless it is such a constructor. -/
theorem collect_dropped {lost : List (TypeSyntax × Construction)} {source remaining : String}
    (dropped : Dropped lost (unlinedAll (Source.readItems source))
      (unlinedAll (Source.readItems remaining)))
    (modulePath : String) (file : Option String) (table : SymbolTable) :
    let whole := (collect source modulePath file table).relocate id
    let without := (collect remaining modulePath file table).relocate id
    whole.ExceedsBy lost without ∧ (whole = without ↔ lost = []) := by
  have exceeds : ((collect source modulePath file table).relocate id).ExceedsBy lost
      ((collect remaining modulePath file table).relocate id) := by
    unfold collect
    rw [← addItems_unlined, ← addItems_unlined]
    exact addItems_dropped dropped _ _
  exact ⟨exceeds, eq_iff_of_exceedsBy exceeds⟩

/-- A constructor that only tests have. -/
def lampText : String :=
  "pub struct Lamp \x7b\n    on: bool,\n\x7d\n\nimpl Lamp \x7b\n    #[cfg(test)]\n" ++
    "    pub fn new() -> Self \x7b\n        Lamp \x7b on: false \x7d\n    \x7d\n\x7d\n"

/-- The same text without the constructor. -/
def bareLampText : String :=
  "pub struct Lamp \x7b\n    on: bool,\n\x7d\n\nimpl Lamp \x7b\n\x7d\n"

/-- The items of the text, with the members of the `impl` block as given. -/
def lampItems (members : List Item) : List Item :=
  [.struct ⟨[], 0, true⟩ "Lamp" false true,
    .implementation ⟨[], 0, false⟩ ⟨false, none, .path ["Lamp"] []⟩ members]

/-- The constructor. -/
def newLamp : Item :=
  .function ⟨[⟨"cfg", some "test"⟩], 0, true⟩
    ⟨"new", none, [], some (.path ["Self"] []), false, true⟩

theorem readItems_lampText :
    unlinedAll (Source.readItems lampText) = lampItems [newLamp] := by
  have isText : lampText.toList = _ :=
    Source.toList_append_of_eq String.toList_ofList String.toList_ofList
  rw [Source.readItems, Source.tokens_of_toList isText]
  cbv

theorem readItems_bareLampText :
    unlinedAll (Source.readItems bareLampText) = lampItems [] := by
  have isText : bareLampText.toList = _ := String.toList_ofList
  rw [Source.readItems, Source.tokens_of_toList isText]
  cbv

theorem lampText_dropped :
    Dropped [(.path ["Lamp"] [], .constructor "new")] (lampItems [newLamp]) (lampItems []) ∧
      (collect lampText "crate" none .empty).relocate id ≠
        (collect bareLampText "crate" none .empty).relocate id := by
  have dropped :
      Dropped [(.path ["Lamp"] [], .constructor "new")] (lampItems [newLamp]) (lampItems []) :=
    @Dropped.inImplementation newLamp ⟨[], 0, false⟩ ⟨false, none, .path ["Lamp"] []⟩
      [.struct ⟨[], 0, true⟩ "Lamp" false true] [] [] [] (by decide)
  have readings : Dropped [(.path ["Lamp"] [], .constructor "new")]
      (unlinedAll (Source.readItems lampText)) (unlinedAll (Source.readItems bareLampText)) := by
    rw [readItems_lampText, readItems_bareLampText]
    exact dropped
  have differ := (collect_dropped readings "crate" none .empty).2
  exact ⟨dropped, fun same => List.cons_ne_nil _ _ (differ.mp same)⟩

end Collection

end ForwardingProxy
