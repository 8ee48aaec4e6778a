import ForwardingProxy.Proofs.Collection.Modules
import ForwardingProxy.Proofs.SymbolTable.Growth

/-!
Contract: a table after any sequence of additions and collected files.

Owns: `Collection.itemsAdditions`, the single additions that collecting items makes; `Operation`, an
addition or a whole file; and the theorem that tells what a table answers after any operations.

The additions of an item depend on the table only through the numbers of the scopes it opens.
-/

namespace ForwardingProxy

open Source (Item UseEntry)

namespace Collection

/-- The addition that an import makes to a scope. -/
def entryAddition (scope : Nat) : UseEntry → Addition
  | .name shortName path => .name scope shortName path
  | .glob path => .glob scope path

/-- The additions that make a gain, whose imports go to the scope of that number. -/
def Gain.additions (scope : Nat) (gain : Gain) : List Addition :=
  gain.entries.map (entryAddition scope) ++
    (gain.declarations.map .declaration ++ (gain.facts.map .fact ++ gain.announced.map .module))

mutual

/-- The additions that an item makes. -/
def itemAdditions (place : Place) (table : SymbolTable) : Item → List Addition
  | .module _ name (some items) =>
      let path := Name.extend place.modulePath [name]
      .scope path place.file ::
        itemsAdditions ⟨place.file, path, table.scopes.length⟩ (table.addScope path place.file) items
  | item => (gain place item).additions place.scope

/-- The additions that items make which are always compiled, in their order. -/
def itemsAdditions (place : Place) (table : SymbolTable) : List Item → List Addition
  | [] => []
  | item :: rest =>
      let first := if item.head.isConditional then [] else itemAdditions place table item
      first ++ itemsAdditions place (table.afterAll first) rest

end

theorem itemAdditions_plain (place : Place) (table : SymbolTable) {item : Item}
    (plain : contents? item = none) :
    itemAdditions place table item = (gain place item).additions place.scope := by
  cases item with
  | module head name items =>
      obtain rfl : items = none := plain
      rw [itemAdditions]
      nofun
  | _ =>
      rw [itemAdditions]
      nofun

theorem itemsAdditions_cons (place : Place) (table : SymbolTable) (item : Item)
    (rest : List Item) :
    itemsAdditions place table (item :: rest) =
      (if item.head.isConditional then [] else itemAdditions place table item) ++
        itemsAdditions place (table.afterAll
          (if item.head.isConditional then [] else itemAdditions place table item)) rest := by
  rw [itemsAdditions]

section Gains

variable (table : SymbolTable)

theorem afterAll_entries (scope : Nat) (entries : List UseEntry) :
    table.afterAll (entries.map (entryAddition scope)) = entries.foldl (addEntry scope) table := by
  rw [SymbolTable.afterAll, List.foldl_map]
  refine List.foldl_ext _ _ table fun before entry _ => ?_
  cases entry <;> rfl

theorem afterAll_declarations (declarations : List Declaration) :
    table.afterAll (declarations.map .declaration) =
      { table with declarations := table.declarations ++ declarations } := by
  induction declarations generalizing table with
  | nil => simp [SymbolTable.afterAll]
  | cons declaration rest inductionHypothesis =>
      refine (inductionHypothesis (table.addDeclaration declaration)).trans ?_
      simp [SymbolTable.addDeclaration]

theorem afterAll_facts (facts : List ConstructionFact) :
    table.afterAll (facts.map .fact) = { table with facts := table.facts ++ facts } := by
  induction facts generalizing table with
  | nil => simp [SymbolTable.afterAll]
  | cons fact rest inductionHypothesis =>
      refine (inductionHypothesis (table.addFact fact)).trans ?_
      simp [SymbolTable.addFact]

theorem afterAll_announced (announced : List String) :
    table.afterAll (announced.map .module) =
      { table with announced := table.announced ++ announced } := by
  induction announced generalizing table with
  | nil => simp [SymbolTable.afterAll]
  | cons modulePath rest inductionHypothesis =>
      refine (inductionHypothesis (table.announce modulePath)).trans ?_
      simp [SymbolTable.announce]

/-- The additions of a gain make the gain. -/
theorem afterAll_gain (scope : Nat) (gain : Gain) :
    table.afterAll (gain.additions scope) = withGain table scope gain := by
  rw [Gain.additions, SymbolTable.afterAll_append, SymbolTable.afterAll_append,
    SymbolTable.afterAll_append, afterAll_entries, afterAll_declarations, afterAll_facts,
    afterAll_announced, addImports_eq]
  simp [withGain]

end Gains

/-- Collecting items makes their additions one after the other. -/
theorem addItems_eq_afterAll (place : Place) (table : SymbolTable) (items : List Item) :
    addItems place table items = table.afterAll (itemsAdditions place table items) := by
  induction items using items_induction generalizing place table with
  | nil => rw [addItems, itemsAdditions, SymbolTable.afterAll, List.foldl_nil]
  | plain item rest isPlain inductionHypothesis =>
      rw [addItems_cons, itemsAdditions_cons, SymbolTable.afterAll_append, ← inductionHypothesis]
      split
      · rfl
      · rw [addItem_plain _ _ isPlain, itemAdditions_plain _ _ isPlain, afterAll_gain]
  | module head name items rest ofItems ofRest =>
      rw [addItems_cons, itemsAdditions_cons, SymbolTable.afterAll_append, ← ofRest]
      split
      · rfl
      · rw [addItem_module, itemAdditions, ofItems]
        rfl

end Collection

/-! ### Operations -/

/-- One thing that is done to a table: an addition, or the collection of a file. -/
inductive Operation where
  | add (addition : Addition)
  | collect (source modulePath : String) (file : Option String)

/-- The single additions that an operation makes to a table. -/
def Operation.additions (table : SymbolTable) : Operation → List Addition
  | .add addition => [addition]
  | .collect source modulePath file =>
      .scope modulePath file ::
        Collection.itemsAdditions ⟨file, modulePath, table.scopes.length⟩
          (table.addScope modulePath file) (Source.readItems source)

namespace SymbolTable

/-- The table after an operation. -/
def perform (table : SymbolTable) : Operation → SymbolTable
  | .add addition => table.after addition
  | .collect source modulePath file => Collection.collect source modulePath file table

/-- The table after all operations, one after the other. -/
def performAll (table : SymbolTable) (operations : List Operation) : SymbolTable :=
  operations.foldl perform table

/-- The single additions that operations make to a table, one after the other. -/
def additions (table : SymbolTable) : List Operation → List Addition
  | [] => []
  | operation :: rest => operation.additions table ++ (table.perform operation).additions rest

theorem perform_eq_afterAll (table : SymbolTable) (operation : Operation) :
    table.perform operation = table.afterAll (operation.additions table) := by
  cases operation with
  | add addition => rfl
  | collect source modulePath file =>
      rw [perform, Collection.collect, Collection.addItems_eq_afterAll]
      rfl

theorem performAll_eq_afterAll (table : SymbolTable) (operations : List Operation) :
    table.performAll operations = table.afterAll (table.additions operations) := by
  induction operations generalizing table with
  | nil => rfl
  | cons operation rest inductionHypothesis =>
      rw [additions, afterAll_append, ← perform_eq_afterAll, ← inductionHypothesis]
      rfl

theorem declarations_performAll (table : SymbolTable) (operations : List Operation) :
    table.declarations <+: (table.performAll operations).declarations := by
  rw [performAll_eq_afterAll, declarations_afterAll]
  exact List.prefix_append _ _

theorem mem_marked_iff (table : SymbolTable) (marker : String) (id : Nat) :
    id ∈ table.marked marker ↔ ∃ declaration, table.declaration? id = some declaration ∧
      ∃ written ∈ declaration.attributes, written.isMarker marker = true := by
  simp only [mem_marked, Declaration.marker?, List.find?_isSome]

/-- After any operations on the empty table, declarations are numbered in the order they were added,
and whatever is done next they keep their numbers. A name is found at the least number of a
declaration with that name. The known modules are those of the scopes and those announced. A marker
is listed at just the declarations that carry it, in increasing order. All this is also what notes
tell that are kept as the table grows. An unknown scope takes no imports. -/
theorem performAll_tells (operations further : List Operation) :
    let table := empty.performAll operations
    let added := empty.additions operations
    let notes := Indexed.empty.afterAll added
    (∀ name id, table.find? name = some id ↔ IsLeast {number | table.NamedAt name number} id) ∧
      (∀ name, table.find? name = none ↔ {number | table.NamedAt name number} = ∅) ∧
      table.declarations = added.filterMap Addition.declaration? ∧
      (∀ id, (table.declaration? id).isSome = true ↔ id < table.declarations.length) ∧
      table.declarations <+: (table.performAll further).declarations ∧
      table.opened = added.filterMap Addition.opened? ∧
      (∀ modulePath, table.knowsModule modulePath = true ↔
        modulePath ∈ table.opened ∨ modulePath ∈ added.filterMap Addition.announced?) ∧
      (∀ marker, (table.marked marker).Pairwise (· < ·) ∧
        ∀ id, id ∈ table.marked marker ↔ ∃ declaration, table.declaration? id = some declaration ∧
          ∃ written ∈ declaration.attributes, written.isMarker marker = true) ∧
      (notes.table = table ∧ (∀ name : String, notes.numbers[name]? = table.find? name) ∧
        ∀ modulePath : String,
          modulePath ∈ notes.modules ↔ table.knowsModule modulePath = true) ∧
      ∀ beyond shortName path,
        table.addImport (table.scopes.length + beyond) shortName path = table ∧
          table.addGlob (table.scopes.length + beyond) path = table := by
  intro table added notes
  have isGrown : table = empty.afterAll added := performAll_eq_afterAll empty operations
  have isNoted : notes.table = table := (Indexed.table_afterAll _ added).trans isGrown.symm
  have agrees : notes.Agrees := Indexed.agrees_empty.afterAll added
  have isOpened : table.opened = added.filterMap Addition.opened? := by
    rw [isGrown, opened_afterAll]
    rfl
  have isAnnounced : table.announced = added.filterMap Addition.announced? := by
    rw [isGrown, announced_afterAll]
    rfl
  refine ⟨find?_iff_isLeast table, find?_eq_none_iff table, ?_, fun id => ?_,
    declarations_performAll table further, isOpened, fun modulePath => ?_,
    fun marker => ⟨marked_pairwise table marker, mem_marked_iff table marker⟩,
    ⟨isNoted, fun name => ?_, fun modulePath => ?_⟩, fun beyond shortName path => ?_⟩
  · rw [isGrown, declarations_afterAll]
    rfl
  · rw [declaration?, isSome_getElem?]
  · rw [← isAnnounced, knowsModule_iff]
  · rw [agrees.numbers, isNoted]
  · rw [agrees.modules, isNoted]
  · exact ⟨modifyScope_beyond table beyond _, modifyScope_beyond table beyond _⟩

end SymbolTable

end ForwardingProxy
