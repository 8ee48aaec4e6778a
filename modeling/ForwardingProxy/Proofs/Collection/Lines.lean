import ForwardingProxy.Proofs.Collection.Modules

/-!
Contract: the lines and the file of items leave no trace in a table but in locations.

Owns: `Item.unlined` and `SymbolTable.relocate`, which take the lines away from items and from a
table, and the fact that the table of items without lines is the table of these items, relocated.
-/

namespace ForwardingProxy

open Source (Item UseEntry Head)

namespace Source

/-- The head of an item on line 0. -/
def Head.unlined (head : Head) : Head :=
  { head with line := 0 }

mutual

/-- The item with all items in it on line 0. -/
def Item.unlined : Item → Item
  | .function head signature => .function head.unlined signature
  | .trait head name generic bounds members =>
      .trait head.unlined name generic bounds (unlinedAll members)
  | .struct head name generic hasBody => .struct head.unlined name generic hasBody
  | .enum head name => .enum head.unlined name
  | .union head name => .union head.unlined name
  | .typeAlias head name => .typeAlias head.unlined name
  | .associatedType head name => .associatedType head.unlined name
  | .const head name hasValue => .const head.unlined name hasValue
  | .implementation head header members =>
      .implementation head.unlined header (unlinedAll members)
  | .module head name none => .module head.unlined name none
  | .module head name (some items) => .module head.unlined name (some (unlinedAll items))
  | .imports head tree => .imports head.unlined tree

/-- The items with all items in them on line 0. -/
def unlinedAll : List Item → List Item
  | [] => []
  | item :: rest => item.unlined :: unlinedAll rest

end

theorem unlinedAll_eq_map (items : List Item) : unlinedAll items = items.map Item.unlined := by
  induction items with
  | nil => rw [unlinedAll, List.map_nil]
  | cons item rest inductionHypothesis => rw [unlinedAll, inductionHypothesis, List.map_cons]

theorem Item.head_unlined (item : Item) : item.unlined.head = item.head.unlined := by
  cases item with
  | module head name items => cases items <;> (rw [unlined]; rfl)
  | _ => rw [unlined]; rfl

theorem Item.isConditional_unlined (item : Item) :
    item.unlined.head.isConditional = item.head.isConditional := by
  rw [head_unlined]
  rfl

end Source

open Source (unlinedAll unlinedAll_eq_map)

/-! ### Tables -/

/-- The scope in another file. -/
def Scope.refile (change : Option String → Option String) (scope : Scope) : Scope :=
  { scope with file := change scope.file }

theorem Scope.refile_withEntries (change : Option String → Option String)
    (entries : List UseEntry) (scope : Scope) :
    (entries.foldl Scope.withEntry scope).refile change =
      entries.foldl Scope.withEntry (scope.refile change) := by
  induction entries generalizing scope with
  | nil => rfl
  | cons entry rest inductionHypothesis =>
      have refileEntry : (scope.withEntry entry).refile change =
          (scope.refile change).withEntry entry := by
        cases entry <;> rfl
      rw [List.foldl_cons, List.foldl_cons, inductionHypothesis, refileEntry]

/-- The declaration on line 0 of another file. -/
def Declaration.relocate (change : Option String → Option String) (declaration : Declaration) :
    Declaration :=
  { declaration with location := declaration.location.map fun location => ⟨change location.file, 0⟩ }

/-- The table with all its files changed and all its declarations on line 0. -/
def SymbolTable.relocate (change : Option String → Option String) (table : SymbolTable) :
    SymbolTable :=
  { table with
    scopes := table.scopes.map (Scope.refile change)
    declarations := table.declarations.map (Declaration.relocate change) }

theorem SymbolTable.holding_relocate (change : Option String → Option String)
    (table : SymbolTable) : (table.relocate change).holding = table.holding := by
  have content : (table.relocate change).content? = table.content? := by
    funext scope
    unfold content? scope? relocate
    rw [List.getElem?_map, Option.map_map]
    rfl
  unfold holding
  rw [content]
  simp [holdingIn, relocate, Declaration.relocate, Declaration.detached, Function.comp_def]

namespace Collection

variable (change : Option String → Option String)

theorem traitItem?_unlined (item : Item) : traitItem? item.unlined = traitItem? item := by
  unfold traitItem?
  rw [Item.isConditional_unlined]
  cases item with
  | module head name items => cases items <;> rw [Item.unlined]
  | _ => rw [Item.unlined]

theorem constructorName?_unlined (selfType : TypeSyntax) (item : Item) :
    constructorName? selfType item.unlined = constructorName? selfType item := by
  cases item with
  | module head name items => cases items <;> (rw [Item.unlined]; rfl)
  | _ => rw [Item.unlined]; rfl

theorem constructions_unlined (header : Source.ImplHeader) (members : List Item) :
    constructions header (unlinedAll members) = constructions header members := by
  unfold constructions
  have sameNames :
      (unlinedAll members).filterMap (constructorName? header.selfType) =
        members.filterMap (constructorName? header.selfType) := by
    rw [unlinedAll_eq_map, List.filterMap_map]
    exact List.filterMap_congr fun member _ => constructorName?_unlined header.selfType member
  rw [sameNames]

/-- The gain on line 0 of another file. -/
def Gain.relocate (gain : Gain) : Gain :=
  { gain with declarations := gain.declarations.map (Declaration.relocate change) }

theorem gain_unlined (place : Place) (item : Item) :
    gain { place with file := change place.file } item.unlined =
      (gain place item).relocate change := by
  cases item with
  | function head signature =>
      rw [Item.unlined]
      by_cases hasBody : signature.hasBody = true
      · simp [gain, Gain.relocate, gain.declared, hasBody, Declaration.relocate, Head.unlined]
      · simp [gain, Gain.relocate, hasBody]
  | trait head name generic bounds members =>
      rw [Item.unlined]
      have sameItems : (unlinedAll members).filterMap traitItem? = members.filterMap traitItem? := by
        rw [unlinedAll_eq_map, List.filterMap_map]
        exact List.filterMap_congr fun member _ => traitItem?_unlined member
      simp [gain, Gain.relocate, gain.declared, sameItems, Declaration.relocate, Head.unlined]
  | implementation head header members =>
      rw [Item.unlined]
      simp [gain, Gain.relocate, constructions_unlined]
  | module head name items => cases items <;> (rw [Item.unlined]; rfl)
  | _ => rw [Item.unlined]; rfl

theorem withGain_relocate (table : SymbolTable) (scope : Nat) (gain : Gain) :
    (withGain table scope gain).relocate change =
      withGain (table.relocate change) scope (gain.relocate change) := by
  have sameScopes :
      (table.scopes.modify scope fun existing => gain.entries.foldl Scope.withEntry existing).map
          (Scope.refile change) =
        (table.scopes.map (Scope.refile change)).modify scope fun existing =>
          gain.entries.foldl Scope.withEntry existing := by
    refine List.ext_getElem? fun place => ?_
    rw [List.getElem?_map, List.getElem?_modify, List.getElem?_modify, List.getElem?_map]
    cases table.scopes[place]? with
    | none => rfl
    | some existing =>
        by_cases isPlace : scope = place
        · simp [isPlace, Scope.refile_withEntries]
        · simp [isPlace]
  simp only [withGain, SymbolTable.relocate, Gain.relocate, sameScopes, List.map_append]

/-- Items without lines in another file are collected as the items are, but for the locations. -/
theorem addItems_unlined (place : Place) (table : SymbolTable) (items : List Item) :
    addItems { place with file := change place.file } (table.relocate change)
        (unlinedAll items) =
      (addItems place table items).relocate change := by
  induction items using items_induction generalizing table place with
  | nil => rw [unlinedAll, addItems, addItems]
  | plain item rest isPlain inductionHypothesis =>
      have stillPlain : contents? item.unlined = none := by
        cases item with
        | module head name items =>
            obtain rfl : items = none := isPlain
            rw [Item.unlined]
            rfl
        | _ => rw [Item.unlined]; rfl
      rw [unlinedAll, addItems_cons, addItems_cons, Item.isConditional_unlined]
      by_cases conditional : item.head.isConditional = true
      · rw [if_pos conditional, if_pos conditional, inductionHypothesis]
      · rw [if_neg conditional, if_neg conditional, addItem_plain _ _ stillPlain,
          addItem_plain _ _ isPlain, gain_unlined, ← withGain_relocate, inductionHypothesis]
  | module head name items rest ofItems ofRest =>
      have relocatedScope : (table.relocate change).addScope
          (Name.extend place.modulePath [name]) (change place.file) =
          (table.addScope (Name.extend place.modulePath [name]) place.file).relocate change := by
        simp [SymbolTable.addScope, SymbolTable.relocate, Scope.new, Scope.refile]
      have sameLength : (table.relocate change).scopes.length = table.scopes.length :=
        List.length_map _
      rw [unlinedAll, addItems_cons, addItems_cons, Item.isConditional_unlined]
      by_cases conditional : (Item.module head name (some items)).head.isConditional = true
      · rw [if_pos conditional, if_pos conditional, ofRest]
      · rw [if_neg conditional, if_neg conditional, Item.unlined, addItem_module, addItem_module,
          relocatedScope, sameLength,
          ofItems ⟨place.file, Name.extend place.modulePath [name], table.scopes.length⟩, ofRest]

/-- The table of a module whose items lost their lines and their file. -/
theorem moduleTable_unlined (file : Option String) (modulePath : String) (items : List Item) :
    moduleTable (change file) modulePath (unlinedAll items) =
      (moduleTable file modulePath items).relocate change :=
  addItems_unlined change ⟨file, modulePath, 0⟩ (SymbolTable.empty.addScope modulePath file) items

end Collection

end ForwardingProxy
