import ForwardingProxy.Collection
import ForwardingProxy.Proofs.SymbolTable.Append

/-!
Contract: what collecting adds to a table.

Owns: `SymbolTable.append`, which puts one table behind another; `Collection.gain`, what an item
adds that is no module with items of its own; `Collection.moduleTable`, the table of one module with
all modules inside it; and the fact that such a module, and so a whole source file, adds its own
table behind what was collected before.

Items are taken one after the other, and a module with items starts over with these. The induction
over lists of items has those two steps and no others.
-/

namespace ForwardingProxy

open Source (Item UseEntry Head)

/-! ### Items -/

/-- The scope with a further import. -/
def Scope.withEntry (scope : Scope) : UseEntry → Scope
  | .name shortName path => scope.withImport shortName path
  | .glob path => scope.withGlob path

namespace Collection

/-- What is added to a scope and to the lists of a table. -/
structure Gain where
  entries : List UseEntry
  declarations : List Declaration
  facts : List ConstructionFact
  announced : List String

/-- What an item adds that is no module with items. -/
def gain (place : Place) : Item → Gain
  | .function head signature =>
      ⟨[], if signature.hasBody then
        [declared head signature.name (.function signature)] else [], [], []⟩
  | .trait head name generic bounds members =>
      ⟨[], [declared head name (.trait ⟨generic, bounds, members.filterMap traitItem?⟩)], [], []⟩
  | .struct head name generic hasBody =>
      ⟨[], [declared head name (structKind head generic hasBody)], [], []⟩
  | .enum head name => ⟨[], [declared head name .enum], [], []⟩
  | .union head name => ⟨[], [declared head name .union], [], []⟩
  | .typeAlias head name => ⟨[], [declared head name .typeAlias], [], []⟩
  | .associatedType _ _ | .const _ _ _ => ⟨[], [], [], []⟩
  | .implementation _ header members =>
      ⟨[], [], (constructions header members).map fun construction =>
        ⟨place.scope, header.selfType, construction⟩, []⟩
  | .imports _ tree => ⟨tree.entries [], [], [], []⟩
  | .module _ name none => ⟨[], [], [], [Name.extend place.modulePath [name]]⟩
  | .module _ _ (some _) => ⟨[], [], [], []⟩
where
  declared (head : Head) (name : String) (kind : DeclarationKind) : Declaration :=
    { name := name
      modulePath := place.modulePath
      scope := place.scope
      kind := kind
      attributes := head.attributes
      location := some ⟨place.file, head.line⟩
      visible := head.visible }

/-- The table with a gain, whose imports go to the scope of that number. -/
def withGain (table : SymbolTable) (scope : Nat) (gain : Gain) : SymbolTable where
  scopes := table.scopes.modify scope fun existing => gain.entries.foldl Scope.withEntry existing
  declarations := table.declarations ++ gain.declarations
  facts := table.facts ++ gain.facts
  announced := table.announced ++ gain.announced

/-- The items of a module that has some in the same file. -/
def contents? : Item → Option (List Item)
  | .module _ _ items => items
  | _ => none

theorem addImports_eq (table : SymbolTable) (scope : Nat) (entries : List UseEntry) :
    entries.foldl (addEntry scope) table = withGain table scope ⟨entries, [], [], []⟩ := by
  induction entries generalizing table with
  | nil =>
      have unchanged : table.scopes.modify scope (fun existing => existing) = table.scopes :=
        List.modify_id scope table.scopes
      simp [withGain, unchanged]
  | cons entry rest inductionHypothesis =>
      have added : addEntry scope table entry =
          table.modifyScope scope fun existing => existing.withEntry entry := by
        cases entry with
        | name shortName path => rfl
        | glob path => rfl
      rw [List.foldl_cons, inductionHypothesis, added]
      simp [withGain, SymbolTable.modifyScope, List.modify_modify_eq, Function.comp_def]

theorem addImplementation_eq (scope : Nat) (header : Source.ImplHeader) (members : List Item)
    (table : SymbolTable) :
    addImplementation scope header members table =
      { table with facts := table.facts ++ (constructions header members).map fun construction =>
          ⟨scope, header.selfType, construction⟩ } := by
  unfold addImplementation
  induction constructions header members generalizing table with
  | nil => simp
  | cons construction rest inductionHypothesis =>
      rw [List.foldl_cons, inductionHypothesis]
      simp [SymbolTable.addFact]

theorem addItem_plain (place : Place) (table : SymbolTable) {item : Item}
    (plain : contents? item = none) :
    addItem place table item = withGain table place.scope (gain place item) := by
  have unchanged : table.scopes.modify place.scope (fun existing => existing) = table.scopes :=
    List.modify_id place.scope table.scopes
  cases item with
  | function head signature =>
      by_cases hasBody : signature.hasBody = true
      · simp [addItem, gain, withGain, gain.declared, declare, SymbolTable.addDeclaration,
          unchanged, hasBody]
      · simp [addItem, gain, withGain, unchanged, hasBody]
  | implementation head header members =>
      simp [addItem, addImplementation_eq, gain, withGain, unchanged]
  | imports head tree => rw [addItem, addImports_eq]; rfl
  | module head name items =>
      obtain rfl : items = none := plain
      simp [addItem, gain, withGain, SymbolTable.announce, unchanged]
  | associatedType head name => simp [addItem, gain, withGain, unchanged]
  | const head name hasValue => simp [addItem, gain, withGain, unchanged]
  | _ =>
      simp [addItem, gain, withGain, gain.declared, declare, SymbolTable.addDeclaration, unchanged]

theorem addItem_module (place : Place) (table : SymbolTable) (head : Head) (name : String)
    (items : List Item) :
    addItem place table (.module head name (some items)) =
      addItems ⟨place.file, Name.extend place.modulePath [name], table.scopes.length⟩
        (table.addScope (Name.extend place.modulePath [name]) place.file) items := by
  rw [addItem]

theorem addItems_cons (place : Place) (table : SymbolTable) (item : Item) (rest : List Item) :
    addItems place table (item :: rest) =
      addItems place (if item.head.isConditional then table else addItem place table item)
        rest := by
  rw [addItems]

theorem addItems_append (place : Place) (table : SymbolTable) (first second : List Item) :
    addItems place table (first ++ second) =
      addItems place (addItems place table first) second := by
  induction first generalizing table with
  | nil => rw [List.nil_append, addItems]
  | cons item rest inductionHypothesis =>
      rw [List.cons_append, addItems_cons, addItems_cons, inductionHypothesis]

/-- The induction over lists of items: one item after the other, and into modules with items. -/
theorem items_induction {motive : List Item → Prop} (nil : motive [])
    (plain : ∀ item rest, contents? item = none → motive rest → motive (item :: rest))
    (module : ∀ head name items rest, motive items → motive rest →
      motive (.module head name (some items) :: rest)) :
    ∀ items, motive items
  | [] => nil
  | .module head name (some items) :: rest =>
      module head name items rest (items_induction nil plain module items)
        (items_induction nil plain module rest)
  | .module head name none :: rest =>
      plain _ rest rfl (items_induction nil plain module rest)
  | .function _ _ :: rest | .trait _ _ _ _ _ :: rest | .struct _ _ _ _ :: rest
  | .enum _ _ :: rest | .union _ _ :: rest | .typeAlias _ _ :: rest | .associatedType _ _ :: rest
  | .const _ _ _ :: rest | .implementation _ _ _ :: rest | .imports _ _ :: rest =>
      plain _ rest rfl (items_induction nil plain module rest)

/-! ### Modules -/

/-- The table of a module and of all modules inside it. -/
def moduleTable (file : Option String) (modulePath : String) (items : List Item) : SymbolTable :=
  addItems ⟨file, modulePath, 0⟩ (SymbolTable.empty.addScope modulePath file) items

theorem modify_append {α : Type} (first second : List α) (place : Nat) (change : α → α) :
    (first ++ second).modify (first.length + place) change =
      first ++ second.modify place change := by
  induction first with
  | nil => simp
  | cons one rest inductionHypothesis =>
      rw [List.length_cons, Nat.add_right_comm, List.cons_append, List.modify_succ_cons,
        inductionHypothesis, List.cons_append]

theorem withGain_append (before table : SymbolTable) (place : Place) (item : Item) :
    withGain (before.append table) (before.scopes.length + place.scope)
        (gain ⟨place.file, place.modulePath, before.scopes.length + place.scope⟩ item) =
      before.append (withGain table place.scope (gain place item)) := by
  have raised : gain ⟨place.file, place.modulePath, before.scopes.length + place.scope⟩ item =
      { gain place item with
        declarations := (gain place item).declarations.map
          (Declaration.raise before.scopes.length)
        facts := (gain place item).facts.map (ConstructionFact.raise before.scopes.length) } := by
    cases item with
    | function head signature =>
        by_cases hasBody : signature.hasBody = true
        · simp [gain, gain.declared, Declaration.raise, hasBody]
        · simp [gain, hasBody]
    | module head name items =>
        cases items with
        | none => rfl
        | some items => rfl
    | implementation head header members =>
        simp [gain, ConstructionFact.raise, Function.comp_def]
    | _ => rfl
  rw [raised]
  simp [withGain, SymbolTable.append, modify_append]

/-- What is collected does not depend on what is in the table before it, except for the numbers of
its scopes. -/
theorem addItems_behind (before table : SymbolTable) (place : Place) (items : List Item) :
    addItems ⟨place.file, place.modulePath, before.scopes.length + place.scope⟩
        (before.append table) items =
      before.append (addItems place table items) := by
  induction items using items_induction generalizing table place with
  | nil => rw [addItems, addItems]
  | plain item rest isPlain inductionHypothesis =>
      rw [addItems_cons, addItems_cons]
      by_cases conditional : item.head.isConditional = true
      · rw [if_pos conditional, if_pos conditional, inductionHypothesis]
      · rw [if_neg conditional, if_neg conditional, addItem_plain _ _ isPlain,
          addItem_plain _ _ isPlain, withGain_append, inductionHypothesis]
  | module head name items rest ofItems ofRest =>
      rw [addItems_cons, addItems_cons]
      by_cases conditional : (Item.module head name (some items)).head.isConditional = true
      · rw [if_pos conditional, if_pos conditional, ofRest]
      · -- the new scope is the next one on both sides, so its number is raised like any other
        rw [if_neg conditional, if_neg conditional, addItem_module, addItem_module,
          SymbolTable.append_addScope, SymbolTable.length_scopes_append]
        rw [ofItems _ ⟨place.file, Name.extend place.modulePath [name], table.scopes.length⟩,
          ofRest]

/-- A new module adds its own table behind what was collected before. -/
theorem addItems_addScope (table : SymbolTable) (file : Option String) (modulePath : String)
    (items : List Item) :
    addItems ⟨file, modulePath, table.scopes.length⟩ (table.addScope modulePath file) items =
      table.append (moduleTable file modulePath items) := by
  have behind := addItems_behind table (SymbolTable.empty.addScope modulePath file)
    ⟨file, modulePath, 0⟩ items
  rw [← SymbolTable.append_addScope, SymbolTable.append_empty] at behind
  exact behind

/-- A source file adds the table of its module behind what was collected before. -/
theorem collect_eq_append (source modulePath : String) (file : Option String)
    (table : SymbolTable) :
    collect source modulePath file table =
      table.append (moduleTable file modulePath (Source.readItems source)) :=
  addItems_addScope table file modulePath (Source.readItems source)

theorem addItem_module_eq_append (place : Place) (table : SymbolTable) (head : Head)
    (name : String) (items : List Item) :
    addItem place table (.module head name (some items)) =
      table.append (moduleTable place.file (Name.extend place.modulePath [name]) items) := by
  rw [addItem_module, addItems_addScope]

/-! ### Scopes of what is collected -/

theorem gain_scope (place : Place) (item : Item) :
    (∀ declaration ∈ (gain place item).declarations, declaration.scope = place.scope) ∧
      ∀ fact ∈ (gain place item).facts, fact.scope = place.scope := by
  cases item with
  | function head signature =>
      by_cases hasBody : signature.hasBody = true
      · simp [gain, gain.declared, hasBody]
      · simp [gain, hasBody]
  | module head name items =>
      cases items with
      | none => simp [gain]
      | some items => simp [gain]
  | _ => simp [gain, gain.declared]

theorem length_scopes_withGain (table : SymbolTable) (scope : Nat) (gain : Gain) :
    (withGain table scope gain).scopes.length = table.scopes.length :=
  List.length_modify _ _ _

theorem closed_withGain {table : SymbolTable} (closed : table.Closed) {place : Place}
    (inRange : place.scope < table.scopes.length) (item : Item) :
    (withGain table place.scope (gain place item)).Closed where
  declarations := by
    intro declaration member
    rw [length_scopes_withGain]
    obtain before | gained := List.mem_append.mp member
    · exact closed.declarations _ before
    · rwa [(gain_scope place item).1 _ gained]
  facts := by
    intro fact member
    rw [length_scopes_withGain]
    obtain before | gained := List.mem_append.mp member
    · exact closed.facts _ before
    · rwa [(gain_scope place item).2 _ gained]

theorem closed_addScope {table : SymbolTable} (closed : table.Closed) (modulePath : String)
    (file : Option String) : (table.addScope modulePath file).Closed := by
  have isLonger : table.scopes.length < (table.addScope modulePath file).scopes.length := by
    simp [SymbolTable.addScope]
  exact ⟨fun _ member => Nat.lt_trans (closed.declarations _ member) isLonger,
    fun _ member => Nat.lt_trans (closed.facts _ member) isLonger⟩

theorem closed_addItems {table : SymbolTable} (closed : table.Closed) {place : Place}
    (inRange : place.scope < table.scopes.length) (items : List Item) :
    (addItems place table items).Closed := by
  induction items using items_induction generalizing table place with
  | nil => rwa [addItems]
  | plain item rest isPlain inductionHypothesis =>
      rw [addItems_cons]
      by_cases conditional : item.head.isConditional = true
      · rw [if_pos conditional]
        exact inductionHypothesis closed inRange
      · rw [if_neg conditional, addItem_plain _ _ isPlain]
        refine inductionHypothesis (closed_withGain closed inRange item) ?_
        rwa [length_scopes_withGain]
  | module head name items rest ofItems ofRest =>
      rw [addItems_cons]
      by_cases conditional : (Item.module head name (some items)).head.isConditional = true
      · rw [if_pos conditional]
        exact ofRest closed inRange
      · rw [if_neg conditional, addItem_module_eq_append]
        have closedInner :
            (moduleTable place.file (Name.extend place.modulePath [name]) items).Closed :=
          ofItems (closed_addScope SymbolTable.closed_empty _ _) Nat.zero_lt_one
        refine ofRest (closed.append closedInner) ?_
        rw [SymbolTable.length_scopes_append]
        exact Nat.lt_add_right _ inRange

/-- All numbers of scopes in the table of a module are those of its own. -/
theorem closed_moduleTable (file : Option String) (modulePath : String) (items : List Item) :
    (moduleTable file modulePath items).Closed :=
  closed_addItems (closed_addScope SymbolTable.closed_empty modulePath file) Nat.zero_lt_one items

end Collection

/-! ### Tokens of a given text

The characters of a text in quotation marks are a list as it stands; to take them off the bytes of
the text is far longer work.
-/

namespace Source

theorem toList_append_of_eq {first second : String} {ahead behind : List Char}
    (isFirst : first.toList = ahead) (isSecond : second.toList = behind) :
    (first ++ second).toList = ahead ++ behind := by
  rw [String.toList_append, isFirst, isSecond]

theorem tokens_of_toList {text : String} {characters : List Char}
    (isText : text.toList = characters) :
    tokens text = tokensOf ((dropPreamble characters).1.countP (· == '\n')) []
      (joinLifetimes (lexemesOf (dropPreamble characters).2)) := by
  subst isText
  rfl

end Source

end ForwardingProxy
