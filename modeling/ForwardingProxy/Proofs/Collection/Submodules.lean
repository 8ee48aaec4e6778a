import ForwardingProxy.Proofs.Collection.Files
import ForwardingProxy.Proofs.Collection.Lines
import Mathlib

/-!
Contract: a module inside a file holds the same as a module in a file of its own.

Owns: `Collection.held`, what the items of a module add to what its table holds; and
`Collection.MovedOut`, which takes the items of a module, however deep inside other modules, out of
the items of a file.

What a module holds is read off its items one by one, once all its imports are known. A module
inside it only contributes what its own table holds, so it can be put anywhere else. Files are
compared by the items in them without lines, since how a text is cut into items is a matter of the
reader.
-/

namespace ForwardingProxy

open Source (Item UseEntry unlinedAll)

namespace Collection

/-! ### What a module holds -/

/-- What an item imports that is always compiled. -/
def importedBy : Item → List UseEntry
  | .imports _ tree => tree.entries []
  | _ => []

/-- The imports among items. -/
def importsOf : List Item → List UseEntry
  | [] => []
  | item :: rest => (if item.head.isConditional then [] else importedBy item) ++ importsOf rest

/-- The scope of a module with its imports. -/
def ownScope (modulePath : String) (items : List Item) : Scope :=
  (importsOf items).foldl Scope.withEntry (Scope.new modulePath none)

/-- What is gained, in a scope with that content. -/
def Gain.holding (own : Option Scope) (gain : Gain) : Holding where
  scopes := []
  declarations := gain.declarations.map fun declaration => (declaration.detached, own)
  facts := gain.facts.map fun fact => ((fact.selfType, fact.construction), own)
  announced := gain.announced

/-- What an item holds that is always compiled, in a scope with that content. -/
def heldBy (place : Place) (own : Option Scope) : Item → Holding
  | .module _ name (some items) =>
      (moduleTable place.file (Name.extend place.modulePath [name]) items).holding
  | item => (gain place item).holding own

/-- What the items of a module hold whose scope has that content. -/
def held (place : Place) (own : Option Scope) : List Item → Holding
  | [] => .empty
  | item :: rest =>
      (if item.head.isConditional then .empty else heldBy place own item).append
        (held place own rest)

theorem scope?_withGain (table : SymbolTable) (place : Nat) (gain : Gain) (scope : Nat) :
    (withGain table place gain).scope? scope =
      (table.scope? scope).map fun existing =>
        if place = scope then gain.entries.foldl Scope.withEntry existing else existing := by
  unfold SymbolTable.scope? withGain
  rw [List.getElem?_modify]
  rfl

/-- The scopes that are there keep what they hold; only that of the items gets their imports. -/
theorem scope?_addItems (table : SymbolTable) (place : Place) (items : List Item) {scope : Nat}
    (inRange : scope < table.scopes.length) :
    (addItems place table items).scope? scope =
      (table.scope? scope).map fun existing =>
        if place.scope = scope then (importsOf items).foldl Scope.withEntry existing
        else existing := by
  induction items using items_induction generalizing table with
  | nil =>
      cases isScope : table.scope? scope <;> simp [addItems, importsOf, isScope]
  | plain item rest isPlain inductionHypothesis =>
      rw [addItems_cons, importsOf]
      by_cases conditional : item.head.isConditional = true
      · rw [if_pos conditional, if_pos conditional, inductionHypothesis _ inRange]
        rfl
      · have sameEntries : (gain place item).entries = importedBy item := by
          cases item with
          | module head name items => cases items <;> rfl
          | _ => rfl
        rw [if_neg conditional, if_neg conditional, addItem_plain _ _ isPlain,
          inductionHypothesis _ (by rwa [length_scopes_withGain]), scope?_withGain, sameEntries,
          Option.map_map]
        refine congrFun (congrArg Option.map (funext fun existing => ?_)) _
        by_cases isOwn : place.scope = scope
        · simp [isOwn, List.foldl_append]
        · simp [isOwn]
  | module head name items rest ofItems ofRest =>
      rw [addItems_cons, importsOf]
      by_cases conditional : (Item.module head name (some items)).head.isConditional = true
      · rw [if_pos conditional, if_pos conditional, ofRest _ inRange]
        rfl
      · rw [if_neg conditional, if_neg conditional, addItem_module_eq_append,
          ofRest _ (by rw [SymbolTable.length_scopes_append]; exact Nat.lt_add_right _ inRange),
          SymbolTable.scope?_append_left inRange]
        rfl

theorem holdingIn_withGain (content : Nat → Option Scope) (table : SymbolTable) (place : Place)
    (item : Item) :
    (withGain table place.scope (gain place item)).holdingIn content =
      (table.holdingIn content).append ((gain place item).holding (content place.scope)) := by
  have inScope := gain_scope place item
  have sameDeclarations : (gain place item).declarations.map
        (fun declaration => (declaration.detached, content declaration.scope)) =
      (gain place item).declarations.map
        fun declaration => (declaration.detached, content place.scope) :=
    List.map_congr_left fun declaration member => by rw [inScope.1 declaration member]
  have sameFacts : (gain place item).facts.map
        (fun fact => ((fact.selfType, fact.construction), content fact.scope)) =
      (gain place item).facts.map
        fun fact => ((fact.selfType, fact.construction), content place.scope) :=
    List.map_congr_left fun fact member => by rw [inScope.2 fact member]
  unfold SymbolTable.holdingIn
  rw [length_scopes_withGain]
  simp [withGain, Holding.append, Gain.holding, sameDeclarations, sameFacts]

/-- Items add what they hold, in the scopes as these are in the end. -/
theorem holding_addItems (table : SymbolTable) (place : Place) (items : List Item)
    (inRange : place.scope < table.scopes.length) :
    (addItems place table items).holding =
      (table.holdingIn (addItems place table items).content?).append
        (held place ((addItems place table items).content? place.scope) items) := by
  unfold SymbolTable.holding
  induction items using items_induction generalizing table with
  | nil => rw [addItems, held, Holding.append_empty]
  | plain item rest isPlain inductionHypothesis =>
      rw [addItems_cons, held]
      by_cases conditional : item.head.isConditional = true
      · rw [if_pos conditional, if_pos conditional, inductionHypothesis _ inRange]
        rfl
      · have ownGain (own : Option Scope) :
            heldBy place own item = (gain place item).holding own := by
          cases item with
          | module head name items =>
              obtain rfl : items = none := isPlain
              rfl
          | _ => rfl
        rw [if_neg conditional, if_neg conditional, addItem_plain _ _ isPlain, ownGain,
          inductionHypothesis _ (by rwa [length_scopes_withGain]), holdingIn_withGain,
          Holding.append_assoc]
  | module head name items rest ofItems ofRest =>
      rw [addItems_cons, held]
      by_cases conditional : (Item.module head name (some items)).head.isConditional = true
      · rw [if_pos conditional, if_pos conditional, ofRest _ inRange]
        rfl
      · rw [if_neg conditional, if_neg conditional, addItem_module_eq_append]
        let inner := moduleTable place.file (Name.extend place.modulePath [name]) items
        have stillInRange : place.scope < (table.append inner).scopes.length := by
          rw [SymbolTable.length_scopes_append]
          exact Nat.lt_add_right _ inRange
        -- the scopes of the module inside are not those of the items
        have innerContent : ∀ scope < inner.scopes.length,
            (addItems place (table.append inner) rest).content? (table.scopes.length + scope) =
              inner.content? scope := by
          intro scope inInner
          have isOther : place.scope ≠ table.scopes.length + scope := by omega
          unfold SymbolTable.content?
          rw [scope?_addItems _ _ _ (by rw [SymbolTable.length_scopes_append]; omega),
            SymbolTable.scope?_append_right]
          simp [isOther]
        rw [ofRest _ stillInRange, SymbolTable.holdingIn_append, Holding.append_assoc,
          (closed_moduleTable _ _ _).holdingIn_congr innerContent]
        rfl

/-- What the table of a module holds. -/
theorem holding_moduleTable (file : Option String) (modulePath : String) (items : List Item) :
    (moduleTable file modulePath items).holding =
      (Holding.mk [some (ownScope modulePath items)] [] [] []).append
        (held ⟨file, modulePath, 0⟩ (some (ownScope modulePath items)) items) := by
  let opened := SymbolTable.empty.addScope modulePath file
  have content : (moduleTable file modulePath items).content? 0 =
      some (ownScope modulePath items) := by
    have isFirst : opened.scope? 0 = some (Scope.new modulePath file) := rfl
    unfold SymbolTable.content? moduleTable
    rw [scope?_addItems opened ⟨file, modulePath, 0⟩ items Nat.zero_lt_one, isFirst]
    exact congrArg some (Scope.refile_withEntries (fun _ => none) (importsOf items)
      (Scope.new modulePath file))
  rw [← content]
  exact holding_addItems opened ⟨file, modulePath, 0⟩ items Nat.zero_lt_one

theorem held_append (place : Place) (own : Option Scope) (before after : List Item) :
    held place own (before ++ after) = (held place own before).append (held place own after) := by
  induction before with
  | nil => rw [List.nil_append, held, Holding.empty_append]
  | cons item rest inductionHypothesis =>
      rw [List.cons_append, held, held, inductionHypothesis, Holding.append_assoc]

theorem importsOf_append (before after : List Item) :
    importsOf (before ++ after) = importsOf before ++ importsOf after := by
  induction before with
  | nil => rfl
  | cons item rest inductionHypothesis =>
      rw [List.cons_append, importsOf, importsOf, inductionHypothesis, List.append_assoc]

/-! ### Modules that are moved out -/

/-- In a file of the module `modulePath`, the items of the module `inner` inside it, or inside a
module inside it and so on, are taken out. No condition stands above any of these modules. -/
inductive MovedOut (inner : String) (moved : List Item) :
    (modulePath : String) → (whole remaining : List Item) → Prop where
  | here {modulePath name : String} {head headThere : Source.Head} {before after : List Item}
      (isInner : inner = Name.extend modulePath [name])
      (compiled : head.isConditional = false) (compiledThere : headThere.isConditional = false) :
      MovedOut inner moved modulePath (before ++ .module head name (some moved) :: after)
        (before ++ .module headThere name none :: after)
  | inside {modulePath name : String} {head : Source.Head}
      {before whole remaining after : List Item} (compiled : head.isConditional = false)
      (deeper : MovedOut inner moved (Name.extend modulePath [name]) whole remaining) :
      MovedOut inner moved modulePath (before ++ .module head name (some whole) :: after)
        (before ++ .module head name (some remaining) :: after)

/-- What stands between others can be put behind them. -/
theorem matches_behind {part remaining moved : Holding} (same : part.Matches (remaining.append moved))
    (before after : Holding) :
    (before.append (part.append after)).Matches
      ((before.append (remaining.append after)).append moved) := by
  have swapped : (remaining.append (moved.append after)).Matches
      (remaining.append (after.append moved)) :=
    Holding.Matches.append (.refl _) (Holding.matches_append_comm moved after)
  have inPlace : (part.append after).Matches ((remaining.append after).append moved) := by
    rw [Holding.append_assoc]
    refine Holding.Matches.trans ?_ swapped
    rw [← Holding.append_assoc]
    exact Holding.Matches.append same (.refl _)
  rw [Holding.append_assoc]
  exact Holding.Matches.append (.refl _) inPlace

/-- What a module holds, around one of its items. -/
theorem holding_around (file : Option String) (modulePath : String) (before after : List Item)
    (item : Item) (compiled : item.head.isConditional = false) :
    (moduleTable file modulePath (before ++ item :: after)).holding =
      let own := ownScope modulePath (before ++ item :: after)
      let place : Place := ⟨file, modulePath, 0⟩
      ((Holding.mk [some own] [] [] []).append (held place own before)).append
        ((heldBy place own item).append (held place own after)) := by
  rw [holding_moduleTable, held_append, held, compiled, Holding.append_assoc]
  rfl

theorem ownScope_around (modulePath : String) (before after : List Item) (item other : Item)
    (isModule : importedBy item = []) (isModuleThere : importedBy other = []) :
    ownScope modulePath (before ++ item :: after) =
      ownScope modulePath (before ++ other :: after) := by
  unfold ownScope
  rw [importsOf_append, importsOf_append, importsOf, importsOf, isModule, isModuleThere]
  simp

theorem ownScope_modulePath (modulePath : String) (items : List Item) :
    (ownScope modulePath items).modulePath = modulePath := by
  have kept : ∀ (entries : List UseEntry) (scope : Scope),
      (entries.foldl Scope.withEntry scope).modulePath = scope.modulePath := by
    intro entries
    induction entries with
    | nil => exact fun _ => rfl
    | cons entry rest inductionHypothesis =>
        intro scope
        rw [List.foldl_cons, inductionHypothesis]
        cases entry <;> rfl
  exact kept _ _

/-- A module is known by its own scope, so nothing changes when it is announced besides. -/
theorem matches_announced (file : Option String) (modulePath : String) (items : List Item) :
    (moduleTable file modulePath items).holding.Matches
      ((Holding.mk [] [] [] [modulePath]).append (moduleTable file modulePath items).holding) where
  scopes := .refl _
  declarations := .refl _
  facts := .refl _
  modules := by
    intro path
    rw [Holding.knows_append]
    by_cases isModule : path = modulePath
    · have known : (moduleTable file modulePath items).holding.knows path = true := by
        rw [holding_moduleTable, Holding.knows_append, Bool.or_eq_true]
        exact .inl (by simp [Holding.knows, ownScope_modulePath, isModule])
      rw [known, Bool.or_true]
    · have unannounced : (Holding.mk [] [] [] [modulePath]).knows path = false := by
        simpa [Holding.knows] using isModule
      rw [unannounced, Bool.false_or]

/-- A module holds what remains of it together with what is moved out. -/
theorem matches_movedOut {inner modulePath : String} {moved whole remaining : List Item}
    (movedOut : MovedOut inner moved modulePath whole remaining) (file : Option String) :
    (moduleTable file modulePath whole).holding.Matches
      ((moduleTable file modulePath remaining).holding.append
        (moduleTable file inner moved).holding) := by
  -- around the module the same is held on both sides, in a scope with the same imports
  induction movedOut with
  | @here modulePath name head headThere before after isInner compiled compiledThere =>
      obtain rfl := isInner
      rw [holding_around file modulePath before after (.module head name (some moved)) compiled,
        holding_around file modulePath before after (.module headThere name none) compiledThere,
        ownScope_around modulePath before after (.module head name (some moved))
          (.module headThere name none) rfl rfl]
      exact matches_behind (matches_announced file _ moved) _ _
  | @inside modulePath name head before whole remaining after compiled deeper inductionHypothesis =>
      rw [holding_around file modulePath before after (.module head name (some whole)) compiled,
        holding_around file modulePath before after (.module head name (some remaining)) compiled,
        ownScope_around modulePath before after (.module head name (some whole))
          (.module head name (some remaining)) rfl rfl]
      exact matches_behind inductionHypothesis _ _

/-! ### Files -/

/-- The lines in a file and the file's name make no difference to what it holds. -/
theorem holding_fileTable (file : SourceFile) :
    (fileTable file).holding =
      (moduleTable none file.modulePath (unlinedAll (Source.readItems file.source))).holding := by
  rw [fileTable, ← SymbolTable.holding_relocate (fun _ => none), ← moduleTable_unlined]

/-- A trait in a module of a module, below a trait outside. -/
def nestedFile : SourceFile where
  source := "trait D \x7b\x7d mod a \x7b mod b \x7b trait C: super::super::D \x7b\x7d \x7d \x7d"
  modulePath := "crate"
  file := some "src/lib.rs"

/-- The same file, without what the inner module has in it. -/
def hollowFile : SourceFile where
  source := "trait D \x7b\x7d mod a \x7b mod b; \x7d"
  modulePath := "crate"
  file := some "src/lib.rs"

/-- What the inner module has in it. -/
def innerFile : SourceFile where
  source := "trait C: super::super::D \x7b\x7d"
  modulePath := "crate::a::b"
  file := some "src/a/b.rs"

/-- The item that `innerFile` consists of. -/
def innerItem : Item :=
  .trait ⟨[], 0, false⟩ "C" false [.path ["super", "super", "D"] []] []

/-- The file with the inner module as given. -/
def itemsAround (innerItems : Option (List Item)) : List Item :=
  [.trait ⟨[], 0, false⟩ "D" false [] [],
    .module ⟨[], 0, false⟩ "a" (some [.module ⟨[], 0, false⟩ "b" innerItems])]

theorem readItems_nestedFile :
    unlinedAll (Source.readItems nestedFile.source) = itemsAround (some [innerItem]) := by
  have isText : nestedFile.source.toList = _ := String.toList_ofList
  rw [Source.readItems, Source.tokens_of_toList isText]
  cbv

theorem readItems_hollowFile :
    unlinedAll (Source.readItems hollowFile.source) = itemsAround none := by
  have isText : hollowFile.source.toList = _ := String.toList_ofList
  rw [Source.readItems, Source.tokens_of_toList isText]
  cbv

theorem readItems_innerFile :
    unlinedAll (Source.readItems innerFile.source) = [innerItem] := by
  have isText : innerFile.source.toList = _ := String.toList_ofList
  rw [Source.readItems, Source.tokens_of_toList isText]
  cbv

end Collection

end ForwardingProxy
