import ForwardingProxy.Proofs.Collection.Submodules

/-!
Contract: which functions are recorded as constructors, and when that is right.

Owns: the `impl` blocks of source files, each with the scope of the module it stands in; the fact
that a table holds what these blocks tell and nothing else; `Builds`, which describes the functions
that take nothing and name what they return by a path; and the functions among them that are
recorded.

A block is judged before any name has a meaning, so by the last segments of two paths. Paths that
end alike may mean different types, so a fact can be about a function that builds another type.
-/

namespace ForwardingProxy

open Source (Item ImplHeader)

namespace Collection

/-! ### Blocks -/

/-- An `impl` block in a module whose scope has that content. -/
structure Block where
  scope : Scope
  header : ImplHeader
  members : List Item

/-- What a block tells, in the form in which tables hold it. -/
def Block.facts (block : Block) : List ((TypeSyntax × Construction) × Option Scope) :=
  (constructions block.header block.members).map fun construction =>
    ((block.header.selfType, construction), some block.scope)

mutual

/-- The blocks that an item is or holds, in a module of that path and that scope. -/
def blocksOf (modulePath : String) (own : Scope) : Item → List Block
  | .implementation _ header members => [⟨own, header, members⟩]
  | .module _ name items =>
      let path := Name.extend modulePath [name]
      match items with
      | none => []
      | some items => blocksOfAll path (ownScope path items) items
  | _ => []

/-- The blocks of several items; those that are compiled under a condition are left out. -/
def blocksOfAll (modulePath : String) (own : Scope) : List Item → List Block
  | [] => []
  | item :: rest =>
      (if item.head.isConditional then [] else blocksOf modulePath own item) ++
        blocksOfAll modulePath own rest

end

/-- The blocks of a module and of all modules inside it. -/
def moduleBlocks (modulePath : String) (items : List Item) : List Block :=
  blocksOfAll modulePath (ownScope modulePath items) items

/-- The blocks of a source file. -/
def fileBlocks (file : SourceFile) : List Block :=
  moduleBlocks file.modulePath (Source.readItems file.source)

theorem gain_facts_eq (place : Place) (own : Scope) {item : Item}
    (isPlain : contents? item = none) :
    ((gain place item).holding (some own)).facts =
      (blocksOf place.modulePath own item).flatMap Block.facts := by
  cases item with
  | function head signature => rfl
  | module head name items =>
      obtain rfl : items = none := isPlain
      rfl
  | implementation head header members => simp [gain, Gain.holding, blocksOf, Block.facts]
  | _ => rfl

theorem holding_moduleTable_facts (file : Option String) (modulePath : String)
    (items : List Item) :
    (moduleTable file modulePath items).holding.facts =
      (held ⟨file, modulePath, 0⟩ (some (ownScope modulePath items)) items).facts := by
  rw [holding_moduleTable]
  rfl

theorem held_facts_eq (place : Place) (own : Scope) (items : List Item) :
    (held place (some own) items).facts =
      (blocksOfAll place.modulePath own items).flatMap Block.facts := by
  induction items using items_induction generalizing place own with
  | nil => rfl
  | plain item rest isPlain inductionHypothesis =>
      have ofItem : (heldBy place (some own) item).facts =
          (blocksOf place.modulePath own item).flatMap Block.facts := by
        rw [← gain_facts_eq place own isPlain]
        cases item with
        | module head name items =>
            obtain rfl : items = none := isPlain
            rfl
        | _ => rfl
      rw [held, blocksOfAll, List.flatMap_append, ← inductionHypothesis]
      by_cases conditional : item.head.isConditional = true
      · rw [if_pos conditional, if_pos conditional]
        rfl
      · rw [if_neg conditional, if_neg conditional, ← ofItem]
        rfl
  | module head name items rest ofItems ofRest =>
      have ofItem : (heldBy place (some own) (.module head name (some items))).facts =
          (blocksOf place.modulePath own (.module head name (some items))).flatMap Block.facts := by
        rw [heldBy, holding_moduleTable_facts, ofItems, blocksOf]
      rw [held, blocksOfAll, List.flatMap_append, ← ofRest]
      by_cases conditional : (Item.module head name (some items)).head.isConditional = true
      · rw [if_pos conditional, if_pos conditional]
        rfl
      · rw [if_neg conditional, if_neg conditional, ← ofItem]
        rfl

/-- A table holds what the blocks of its files tell, in their order, each in the scope of the module
where it stands. -/
theorem collectFiles_facts (files : List SourceFile) :
    (collectFiles files).holding.facts =
      (files.flatMap fileBlocks).flatMap Block.facts := by
  induction files with
  | nil => rfl
  | cons file rest inductionHypothesis =>
      have ofFile : (fileTable file).holding.facts = (fileBlocks file).flatMap Block.facts := by
        rw [fileTable, holding_moduleTable_facts, held_facts_eq]
        rfl
      rw [collectFiles_cons, SymbolTable.holding_append (closed_fileTable file)
        (closed_collectFiles rest), List.flatMap_cons, List.flatMap_append, ← ofFile,
        ← inductionHypothesis]
      rfl

/-! ### Constructors -/

/-- The item is a public function of that name that takes nothing, not even types, and whose return
type is a path without arguments. -/
def Builds (item : Item) (name : String) (path : List String) : Prop :=
  ∃ head signature, item = .function head signature ∧ signature.name = name ∧
    head.visible = true ∧ signature.hasBody = true ∧ signature.receiver = none ∧
    signature.parameters = [] ∧ signature.generic = false ∧
    signature.returnType = some (.path path [])

/-- The path is `Self`, or it ends in the last segment of the type. -/
def EndsLike (selfType : TypeSyntax) (path : List String) : Prop :=
  path = ["Self"] ∨ path.getLast? = selfType.lastSegment?

theorem isConstructor_eq_true {selfType : TypeSyntax} {signature : FunctionSignature} :
    isConstructor selfType signature = true ↔
      signature.receiver = none ∧ signature.parameters = [] ∧ signature.generic = false ∧
        ∃ path, signature.returnType = some (.path path []) ∧ EndsLike selfType path := by
  simp only [isConstructor, Bool.and_eq_true, Option.isNone_iff_eq_none, List.isEmpty_iff,
    Bool.not_eq_true', and_assoc]
  refine and_congr_right fun _ => and_congr_right fun _ => and_congr_right fun _ => ?_
  split
  next path isPath => simp [EndsLike, isPath]
  next otherwise =>
    simp only [Bool.false_eq_true, false_iff]
    rintro ⟨path, isPath, _⟩
    exact otherwise path isPath

theorem constructorName?_eq_some {selfType : TypeSyntax} {item : Item} {name : String} :
    constructorName? selfType item = some name ↔
      ∃ path, Builds item name path ∧ EndsLike selfType path := by
  constructor
  · intro isNamed
    cases item with
    | function head signature =>
        simp only [constructorName?, Bool.and_eq_true, Option.ite_none_right_eq_some,
          Option.some.injEq] at isNamed
        obtain ⟨⟨⟨visible, hasBody⟩, isConstructor⟩, rfl⟩ := isNamed
        obtain ⟨noReceiver, noParameters, notGeneric, path, returns, endsLike⟩ :=
          isConstructor_eq_true.mp isConstructor
        exact ⟨path, ⟨head, signature, rfl, rfl, visible, hasBody, noReceiver, noParameters,
          notGeneric, returns⟩, endsLike⟩
    | _ => cases isNamed
  · rintro ⟨path, ⟨head, signature, rfl, rfl, visible, hasBody, noReceiver, noParameters,
      notGeneric, returns⟩, endsLike⟩
    have isConstructor := isConstructor_eq_true.mpr
      ⟨noReceiver, noParameters, notGeneric, path, returns, endsLike⟩
    simp [constructorName?, visible, hasBody, isConstructor]

/-- A block without a trait records the functions that end like its type, and these alone. -/
theorem constructor_mem_constructions {header : ImplHeader} {members : List Item} {name : String} :
    .constructor name ∈ constructions header members ↔
      header.trait = none ∧ ∃ item ∈ members, ∃ path, Builds item name path ∧
        EndsLike header.selfType path := by
  simp only [← constructorName?_eq_some]
  unfold constructions
  cases header.trait with
  | none => simp
  | some path => simp

/-- The path is that of the type which the fact is about. -/
def NamesOwn (table : SymbolTable) (fact : ConstructionFact) (path : List String) : Prop :=
  path = ["Self"] ∨ table.resolve? fact.scope path = table.factType? fact

theorem namesOwn_of_alike {table : SymbolTable} {fact : ConstructionFact} {path : List String}
    (alike : path = ["Self"] ∨ ∃ arguments, fact.selfType = .path path arguments) :
    NamesOwn table fact path := by
  refine alike.imp_right fun ⟨arguments, isType⟩ => ?_
  rw [SymbolTable.factType?, isType]

/-- A fact about a constructor is told by a block without a trait for a public function that takes
nothing and returns `Self` or a path that ends like the type of the block. A path that is `Self` or
the type's own is right. A fact is wrong when the path is another one and means something else. -/
theorem collectFiles_constructors (files : List SourceFile) :
    let table := collectFiles files
    let blocks := files.flatMap fileBlocks
    table.holding.facts = blocks.flatMap Block.facts ∧
      (∀ block ∈ blocks, ∀ name, .constructor name ∈ constructions block.header block.members ↔
        block.header.trait = none ∧ ∃ item ∈ block.members, ∃ path, Builds item name path ∧
          EndsLike block.header.selfType path) ∧
      ∀ fact ∈ table.facts, ∀ name, fact.construction = .constructor name →
        ∃ block ∈ blocks, block.header.trait = none ∧ block.header.selfType = fact.selfType ∧
          table.content? fact.scope = some block.scope ∧
          ∃ item ∈ block.members, ∃ path, Builds item name path ∧ EndsLike fact.selfType path ∧
            ((path = ["Self"] ∨ ∃ arguments, fact.selfType = .path path arguments) →
              NamesOwn table fact path) := by
  intro table blocks
  refine ⟨collectFiles_facts files, fun block _ name => constructor_mem_constructions, ?_⟩
  intro fact member name isConstructor
  have isHeld : ((fact.selfType, fact.construction), table.content? fact.scope) ∈
      blocks.flatMap Block.facts := by
    rw [← collectFiles_facts]
    exact List.mem_map_of_mem member
  obtain ⟨block, isBlock, isTold⟩ := List.mem_flatMap.mp isHeld
  obtain ⟨construction, tells, same⟩ := List.mem_map.mp isTold
  obtain ⟨⟨sameType, rfl⟩, sameScope⟩ : (block.header.selfType = fact.selfType ∧
      construction = fact.construction) ∧ some block.scope = table.content? fact.scope := by
    simpa using same
  rw [isConstructor, constructor_mem_constructions] at tells
  obtain ⟨noTrait, item, isMember, path, builds, endsLike⟩ := tells
  exact ⟨block, isBlock, noTrait, sameType, sameScope.symm, item, isMember, path, builds,
    sameType ▸ endsLike, namesOwn_of_alike⟩

/-- A lamp whose only function without arguments gives the lamp of another module. -/
def lampsFile : SourceFile where
  source := "pub mod other {
    pub struct Lamp {
        on: bool,
    }
}

" ++
    "pub struct Lamp {
    on: bool,
}

" ++
    "impl Lamp {
    pub fn make() -> other::Lamp {
        todo!()
    }
}
"
  modulePath := "crate"
  file := none

example : (collectFiles [lampsFile]).facts = [⟨0, .path ["Lamp"] [], .constructor "make"⟩] ∧
    ¬NamesOwn (collectFiles [lampsFile]) ⟨0, .path ["Lamp"] [], .constructor "make"⟩
      ["other", "Lamp"] := by
  have ofLamps : Source.tokens lampsFile.source = _ :=
    Source.tokens_of_toList (Source.toList_append_of_eq (Source.toList_append_of_eq
      String.toList_ofList String.toList_ofList) String.toList_ofList)
  unfold NamesOwn
  rw [collectFiles_singleton, fileTable, Source.readItems, ofLamps]
  decide +kernel

end Collection

end ForwardingProxy
