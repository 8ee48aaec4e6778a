import ForwardingProxy.Proofs.Association
import ForwardingProxy.Proofs.Collection.Submodules
import ForwardingProxy.Proofs.Source.UseReading
import Mathlib

/-!
Contract: the scope of a file holds what the leaves of its trees of imports stand for.

Owns: `Source.Leaf`, a leaf of a tree with its whole path, what it stands for and what is recorded of
it; and the theorem that the imports and globs of a scope are those recorded of the leaves.

A tree adds a path to all leaves below it and nothing else, so what is recorded of a tree is recorded
of its leaves one by one. The one leaf that is not recorded as what it stands for is a renamed `self`
behind a path: it stays in the path.
-/

namespace ForwardingProxy

open Source (UseEntry UseTree)

namespace Source

/-! ### Leaves -/

/-- A leaf of a tree, with its path from the root of the tree on. -/
inductive Leaf where
  | bare (path : List String)
  | renamed (path : List String) (shortName : String)
  /-- A `*`, with the path of what it stands behind. -/
  | all (path : List String)
deriving DecidableEq, Repr

mutual

/-- The leaves of a tree below a path. -/
def UseTree.leaves (base : List String) : UseTree → List Leaf
  | .path segments => [.bare (base ++ segments)]
  | .renamed segments shortName => [.renamed (base ++ segments) shortName]
  | .glob segments => [.all (base ++ segments)]
  | .group segments members => leavesOfAll (base ++ segments) members
  | .placeholder => []

/-- The leaves of several trees below a path, in their order. -/
def leavesOfAll (base : List String) : List UseTree → List Leaf
  | [] => []
  | tree :: rest => tree.leaves base ++ leavesOfAll base rest

end

/-- Whether a path of more than one segment ends in `self`. -/
def endsInSelf (path : List String) : Bool :=
  1 < path.length && path.getLast? == some "self"

/-- The path that a leaf's path leads to: a `self` behind others stands for what is before it. -/
def standsFor (path : List String) : List String :=
  if endsInSelf path then path.dropLast else path

namespace Leaf

/-- What a leaf stands for; a lone `self` and a name that is renamed to `_` are not imported. -/
def meaning? : Leaf → Option UseEntry
  | .bare path =>
      if path = ["self"] then none
      else (standsFor path).getLast?.map fun name => .name name (standsFor path)
  | .renamed path shortName =>
      if shortName = "_" then none else some (.name shortName (standsFor path))
  | .all path => some (.glob path)

/-- What is recorded of a leaf: the path of a renamed one is taken as it is written. -/
def recorded? : Leaf → Option UseEntry
  | .renamed path shortName => if shortName = "_" then none else some (.name shortName path)
  | leaf => leaf.meaning?

/-- Whether a leaf renames a `self` behind a path. -/
def keepsSelf : Leaf → Bool
  | .renamed path shortName => shortName != "_" && endsInSelf path
  | _ => false

/-- Whether another `self`, or a `*`, stands behind a `self` that stands behind a path. -/
def stacksSelf : Leaf → Bool
  | .bare path => endsInSelf path && endsInSelf path.dropLast
  | .renamed _ _ => false
  | .all path => endsInSelf path

end Leaf

/-- The path that is imported. -/
def UseEntry.path : UseEntry → List String
  | .name _ path | .glob path => path

theorem endsInSelf_append {before : List String} {last : String} :
    endsInSelf (before ++ [last]) = true ↔ before ≠ [] ∧ last = "self" := by
  simp [endsInSelf, List.length_pos_iff]

/-- A path that ends in `self` is another path with `self` behind it. -/
theorem exists_of_endsInSelf {path : List String} (ends : endsInSelf path = true) :
    ∃ module, module ≠ [] ∧ path = module ++ ["self"] := by
  rcases path.eq_nil_or_concat' with rfl | ⟨before, last, rfl⟩
  · cases ends
  · obtain ⟨nonempty, rfl⟩ := endsInSelf_append.mp ends
    exact ⟨before, nonempty, rfl⟩

theorem standsFor_self {module : List String} (nonempty : module ≠ []) :
    standsFor (module ++ ["self"]) = module := by
  rw [standsFor, if_pos (endsInSelf_append.mpr ⟨nonempty, rfl⟩), List.dropLast_concat]

theorem standsFor_other {path : List String} (noSelf : endsInSelf path = false) :
    standsFor path = path := by
  rw [standsFor, noSelf]
  rfl

namespace Leaf

/-- A `self` is imported under the name of the module that it stands for. -/
theorem meaning?_self {module : List String} (nonempty : module ≠ []) :
    (bare (module ++ ["self"])).meaning? =
      module.getLast?.map fun name => .name name module := by
  simp [meaning?, standsFor_self nonempty, nonempty]

theorem meaning?_other (before : List String) {last : String} (noSelf : last ≠ "self") :
    (bare (before ++ [last])).meaning? = some (.name last (before ++ [last])) := by
  have stands : standsFor (before ++ [last]) = before ++ [last] := by
    refine standsFor_other (Bool.eq_false_iff.mpr fun ends => noSelf ?_)
    exact (endsInSelf_append.mp ends).2
  have isOther : before ++ [last] ≠ ["self"] := by
    intro same
    exact noSelf (by simpa using congrArg List.getLast? same)
  simp [meaning?, stands, isOther]

theorem recorded?_bare (path : List String) : (bare path).recorded? = (bare path).meaning? :=
  rfl

/-- Something is recorded of a leaf that stands for something, and only of such a leaf. -/
theorem isSome_recorded? (leaf : Leaf) : leaf.recorded?.isSome = leaf.meaning?.isSome := by
  cases leaf with
  | renamed path shortName =>
      by_cases unnamed : shortName = "_"
      · simp [recorded?, meaning?, unnamed]
      · simp [recorded?, meaning?, unnamed]
  | bare path | all path => rfl

/-- A renamed `self` is recorded with the `self`, and stands for what the module itself, renamed,
is recorded as. -/
theorem exists_of_keepsSelf {leaf : Leaf} (keeps : leaf.keepsSelf = true) :
    ∃ module shortName, module ≠ [] ∧ leaf = .renamed (module ++ ["self"]) shortName ∧
      leaf.recorded? = some (.name shortName (module ++ ["self"])) ∧
      leaf.meaning? = some (.name shortName module) ∧
      (Leaf.renamed module shortName).recorded? = some (.name shortName module) := by
  cases leaf with
  | bare path | all path => cases keeps
  | renamed path shortName =>
      simp only [keepsSelf, Bool.and_eq_true, bne_iff_ne, ne_eq] at keeps
      obtain ⟨named, ends⟩ := keeps
      obtain ⟨module, nonempty, rfl⟩ := exists_of_endsInSelf ends
      refine ⟨module, shortName, nonempty, rfl, ?_, ?_, ?_⟩
      · simp [recorded?, named]
      · simp [meaning?, named, standsFor_self nonempty]
      · simp [recorded?, named]

/-- A leaf is recorded as what it stands for unless it renames a `self` behind a path. -/
theorem recorded?_eq_meaning?_iff (leaf : Leaf) :
    leaf.recorded? = leaf.meaning? ↔ leaf.keepsSelf = false := by
  constructor
  · intro same
    refine Bool.eq_false_iff.mpr fun keeps => ?_
    obtain ⟨module, shortName, -, -, isRecorded, isMeant, -⟩ := exists_of_keepsSelf keeps
    rw [isRecorded, isMeant] at same
    simp at same
  · intro keepsNot
    cases leaf with
    | bare path | all path => rfl
    | renamed path shortName =>
        by_cases unnamed : shortName = "_"
        · simp [recorded?, meaning?, unnamed]
        · have noSelf : endsInSelf path = false := by simpa [keepsSelf, unnamed] using keepsNot
          simp [recorded?, meaning?, standsFor_other noSelf]

/-- What is recorded ends in `self` where one is renamed or stands before another or a `*`. -/
theorem endsInSelf_recorded? (leaf : Leaf) :
    (∃ entry, leaf.recorded? = some entry ∧ endsInSelf entry.path = true) ↔
      leaf.keepsSelf = true ∨ leaf.stacksSelf = true := by
  cases leaf with
  | all path => simp [recorded?, meaning?, keepsSelf, stacksSelf, UseEntry.path]
  | renamed path shortName =>
      by_cases unnamed : shortName = "_"
      · simp [recorded?, keepsSelf, stacksSelf, unnamed]
      · simp [recorded?, keepsSelf, stacksSelf, unnamed, UseEntry.path]
  | bare path =>
      rcases path.eq_nil_or_concat' with rfl | ⟨before, last, rfl⟩
      · simp [recorded?, meaning?, keepsSelf, stacksSelf, standsFor, endsInSelf]
      · by_cases isSelf : last = "self"
        · subst isSelf
          by_cases alone : before = []
          · simp [recorded?, meaning?, keepsSelf, stacksSelf, endsInSelf, alone]
          · have ends : endsInSelf (before ++ ["self"]) = true :=
              endsInSelf_append.mpr ⟨alone, rfl⟩
            rw [recorded?_bare, meaning?_self alone, List.getLast?_eq_some_getLast alone]
            simp [keepsSelf, stacksSelf, UseEntry.path, ends]
        · rw [recorded?_bare, meaning?_other before isSelf]
          simp [keepsSelf, stacksSelf, UseEntry.path, endsInSelf_append, isSelf]

/-- What is recorded of leaves is what they stand for unless one renames a `self`. -/
theorem filterMap_recorded?_iff (leaves : List Leaf) :
    leaves.filterMap recorded? = leaves.filterMap meaning? ↔
      ∀ leaf ∈ leaves, leaf.keepsSelf = false := by
  induction leaves with
  | nil => simp
  | cons leaf rest inductionHypothesis =>
      have sameLeaf := recorded?_eq_meaning?_iff leaf
      -- both lists have an entry of this leaf or neither has one, so their entries stand in line
      have aligned := isSome_recorded? leaf
      rw [List.forall_mem_cons, ← inductionHypothesis, ← sameLeaf]
      cases isRecorded : leaf.recorded? <;> cases isMeant : leaf.meaning? <;>
        simp_all

end Leaf

theorem entryOfPath_eq_meaning (path : List String) :
    entryOfPath path = (Leaf.bare path).meaning?.toList := by
  rcases path.eq_nil_or_concat' with rfl | ⟨before, last, rfl⟩
  · rfl
  · by_cases isSelf : last = "self"
    · subst isSelf
      rcases before.eq_nil_or_concat' with rfl | ⟨outer, module, rfl⟩
      · rfl
      · rw [Leaf.meaning?_self (by simp)]
        simp [entryOfPath]
    · rw [Leaf.meaning?_other before isSelf]
      simp [entryOfPath, isSelf]

mutual

/-- What is recorded of a tree is recorded of its leaves. -/
theorem UseTree.entries_eq_leaves (base : List String) :
    ∀ tree : UseTree, tree.entries base = (tree.leaves base).filterMap Leaf.recorded?
  | .path segments => by
      rw [UseTree.entries, UseTree.leaves, entryOfPath_eq_meaning]
      cases isMeaning : (Leaf.bare (base ++ segments)).meaning? <;>
        simp [Leaf.recorded?, isMeaning]
  | .renamed segments shortName => by
      by_cases unnamed : shortName = "_"
      · simp [UseTree.entries, UseTree.leaves, Leaf.recorded?, unnamed]
      · simp [UseTree.entries, UseTree.leaves, Leaf.recorded?, unnamed]
  | .glob segments => by simp [UseTree.entries, UseTree.leaves, Leaf.recorded?, Leaf.meaning?]
  | .group segments members => by
      rw [UseTree.entries, UseTree.leaves, entriesOfAll_eq_leaves]
  | .placeholder => by simp [UseTree.entries, UseTree.leaves]

theorem entriesOfAll_eq_leaves (base : List String) :
    ∀ trees : List UseTree,
      entriesOfAll base trees = (leavesOfAll base trees).filterMap Leaf.recorded?
  | [] => by simp [entriesOfAll, leavesOfAll]
  | tree :: rest => by
      rw [entriesOfAll, leavesOfAll, List.filterMap_append, UseTree.entries_eq_leaves,
        entriesOfAll_eq_leaves]

end

/-- The module that is imported as a whole. -/
def UseEntry.globbed? : UseEntry → Option (List String)
  | .glob path => some path
  | .name _ _ => none

/-- The path that is imported under that name. -/
def UseEntry.imported? (name : String) : UseEntry → Option (List String)
  | .name shortName path => if shortName = name then some path else none
  | .glob _ => none

end Source

/-! ### Scopes -/

namespace Scope

/-- A scope has those imports and globs and no others: the globs in their order, and for each name
the path that it was imported under last. -/
structure Holds (scope : Scope) (entries : List UseEntry) : Prop where
  globs : scope.globImports = entries.filterMap UseEntry.globbed?
  names : ∀ name, scope.import? name = (entries.filterMap (UseEntry.imported? name)).getLast?

theorem import?_withImport (scope : Scope) (shortName : String) (path : List String)
    (name : String) :
    (scope.withImport shortName path).import? name =
      if name = shortName then some path else scope.import? name :=
  lookup_replaced scope.imports shortName name path

theorem holds_new (modulePath : String) (file : Option String) : (new modulePath file).Holds [] :=
  ⟨rfl, fun _ => rfl⟩

theorem Holds.withEntry {scope : Scope} {entries : List UseEntry} (holds : scope.Holds entries)
    (entry : UseEntry) : (scope.withEntry entry).Holds (entries ++ [entry]) := by
  cases entry with
  | glob path =>
      refine ⟨?_, fun name => ?_⟩
      · simp [Scope.withEntry, withGlob, holds.globs, UseEntry.globbed?]
      · rw [List.filterMap_append, show [UseEntry.glob path].filterMap (UseEntry.imported? name) = []
          from rfl, List.append_nil]
        exact holds.names name
  | name shortName path =>
      refine ⟨?_, fun name => ?_⟩
      · rw [List.filterMap_append, show [UseEntry.name shortName path].filterMap
          UseEntry.globbed? = [] from rfl, List.append_nil]
        exact holds.globs
      · rw [Scope.withEntry, import?_withImport, holds.names]
        by_cases isName : shortName = name
        · simp [UseEntry.imported?, isName]
        · simp [UseEntry.imported?, isName, Ne.symm isName]

/-- A new scope holds the entries that are added to it. -/
theorem holds_entries (modulePath : String) (file : Option String) (entries : List UseEntry) :
    (entries.foldl Scope.withEntry (new modulePath file)).Holds entries := by
  induction entries using List.reverseRecOn with
  | nil => exact holds_new modulePath file
  | append_singleton entries entry inductionHypothesis =>
      rw [List.foldl_append]
      exact inductionHypothesis.withEntry entry

end Scope

namespace Collection

open Source (Item Leaf Token WritesImports WritesMembers WritesNames WritesPath WritesTree endsInSelf
  entriesOfAll entriesOfAll_eq_leaves importTree? importTrees_readItems leavesOfAll readItems)

/-- What items import is what is recorded of the leaves of their trees. -/
theorem importsOf_eq_leaves (items : List Item) :
    importsOf items =
      (leavesOfAll [] (items.filterMap importTree?)).filterMap Leaf.recorded? := by
  rw [← entriesOfAll_eq_leaves]
  induction items with
  | nil => rw [importsOf, List.filterMap_nil, entriesOfAll]
  | cons item rest inductionHypothesis =>
      rw [importsOf, inductionHypothesis]
      by_cases conditional : item.head.isConditional = true
      · simp [importTree?, conditional]
      · cases item with
        | imports head tree => simp [importTree?, conditional, importedBy, entriesOfAll]
        | _ => simp [importTree?, conditional, importedBy]

/-- The scope of a file has the imports and globs that its leaves stand for, each with its whole path
and in their order, unless a `self` behind a path is renamed: that one is recorded with the `self`.
Then, and where a `self` stands in front of another or of a `*`, a path ends in `self`. In a text of
`use` declarations the trees are those that it is written with. -/
theorem collect_imports (source modulePath : String) (file : Option String)
    (table : SymbolTable) :
    let trees := (readItems source).filterMap importTree?
    let leaves := leavesOfAll [] trees
    let recorded := leaves.filterMap Leaf.recorded?
    (∃ scope, (collect source modulePath file table).scope? table.scopes.length = some scope ∧
        scope.Holds recorded) ∧
      (recorded = leaves.filterMap Leaf.meaning? ↔
        ∀ leaf ∈ leaves, leaf.keepsSelf = false) ∧
      (∀ leaf ∈ leaves, leaf.keepsSelf = true →
        ∃ module shortName, module ≠ [] ∧ leaf = .renamed (module ++ ["self"]) shortName ∧
          leaf.recorded? = some (.name shortName (module ++ ["self"])) ∧
          leaf.meaning? = some (.name shortName module) ∧
          (Leaf.renamed module shortName).recorded? = some (.name shortName module)) ∧
      ((∃ entry ∈ recorded, endsInSelf entry.path = true) ↔
        ∃ leaf ∈ leaves, leaf.keepsSelf = true ∨ leaf.stacksSelf = true) ∧
      ∀ written, WritesImports written (Source.tokens source) → trees = written := by
  intro trees leaves recorded
  refine ⟨?_, Leaf.filterMap_recorded?_iff leaves,
    fun _ _ => Leaf.exists_of_keepsSelf, ?_, fun _ => importTrees_readItems⟩
  · have inRange : table.scopes.length < (table.addScope modulePath file).scopes.length := by
      simp [SymbolTable.addScope]
    have isNew : (table.addScope modulePath file).scope? table.scopes.length =
        some (Scope.new modulePath file) := by
      simp [SymbolTable.addScope, SymbolTable.scope?]
    have added := scope?_addItems (table.addScope modulePath file)
      ⟨file, modulePath, table.scopes.length⟩ (readItems source) inRange
    rw [isNew, Option.map_some, if_pos rfl, importsOf_eq_leaves] at added
    exact ⟨_, added, Scope.holds_entries modulePath file recorded⟩
  · simp only [recorded, List.mem_filterMap, ← Leaf.endsInSelf_recorded?]
    constructor
    · rintro ⟨entry, ⟨leaf, member, isRecorded⟩, ends⟩
      exact ⟨leaf, member, entry, isRecorded, ends⟩
    · rintro ⟨leaf, member, entry, isRecorded, ends⟩
      exact ⟨entry, ⟨leaf, member, isRecorded⟩, ends⟩

/-- A word with one blank before it. -/
def atlasWord (text : String) : Token := ⟨.word, text, 0, [⟨.blanks, " "⟩]⟩

/-- A mark right behind another token. -/
def atlasMark (text : String) : Token := ⟨.mark, text, 0, []⟩

/-- Two declarations; the group of the first renames its `self`. -/
def atlasText : String :=
  "use crate:: a::\x7b self as b, c::*, d as _,\x7d; pub use:: e; // last\n"

/-- The trees of that text. -/
def atlasTrees : List UseTree :=
  [.group ["crate", "a"] [.renamed ["self"] "b", .glob ["c"], .renamed ["d"] "_"], .path ["e"]]

theorem writes_atlas : WritesImports atlasTrees (Source.tokens atlasText) := by
  let firstUse : Token := ⟨.word, "use", 0, []⟩
  have areTokens : Source.tokens atlasText =
      [firstUse, atlasWord "crate", atlasMark "::", atlasWord "a", atlasMark "::",
        atlasMark "\x7b", atlasWord "self", atlasWord "as", atlasWord "b", atlasMark ",",
        atlasWord "c", atlasMark "::", atlasMark "*", atlasMark ",", atlasWord "d",
        atlasWord "as", atlasWord "_", atlasMark ",", atlasMark "\x7d", atlasMark ";",
        atlasWord "pub", atlasWord "use", atlasMark "::", atlasWord "e", atlasMark ";"] := by
    have isText : atlasText.toList = _ := String.toList_ofList
    rw [Source.tokens_of_toList isText]
    decide +kernel
  have isMark (text : String) : (atlasMark text).isMark text = true := by
    simp [atlasMark, Token.isMark]
  have isWord (text : String) : (atlasWord text).isWord text = true := by
    simp [atlasWord, Token.isWord]
  have single (text : String) : WritesPath [text] [atlasWord text] :=
    @WritesPath.relative (atlasWord text) _ _ rfl .nil
  have renamed (text shortName : String) : WritesTree (.renamed [text] shortName)
      [atlasWord text, atlasWord "as", atlasWord shortName] :=
    @WritesTree.renamed _ _ _ (atlasWord shortName) (single text) (isWord "as") rfl
  have areMembers := WritesMembers.cons (renamed "self" "b") (isMark ",")
    (.cons (.glob (single "c") (isMark "::") (isMark "*")) (isMark ",")
      (.cons (renamed "d" "_") (isMark ",") .nil))
  have further (text : String) : WritesNames [text] [atlasMark "::", atlasWord text] :=
    @WritesNames.cons _ (atlasWord text) _ _ (isMark "::") rfl .nil
  have isBase := @WritesPath.relative (atlasWord "crate") _ _ rfl (further "a")
  have isGroup := WritesTree.group (.path isBase (isMark "::")) (isMark "\x7b") areMembers
    (isMark "\x7d")
  rw [areTokens]
  exact @WritesImports.cons _ _ _ _ _ _ firstUse _ .inherited rfl isGroup (isMark ";")
    (.cons (.exported (isWord "pub")) (isWord "use") (.path (.absolute (further "e")))
      (isMark ";") .nil)

/-- The renamed `self` of that text is recorded behind its module, and the other leaves as what they
stand for. -/
theorem collect_atlas :
    WritesImports atlasTrees (Source.tokens atlasText) ∧
      ∃ scope, (collect atlasText "crate" none .empty).scope? 0 = some scope ∧
        scope.globImports = [["crate", "a", "c"]] ∧
        scope.import? "b" = some ["crate", "a", "self"] ∧
        scope.import? "_" = none ∧ scope.import? "e" = some ["e"] := by
  obtain ⟨⟨scope, isScope, holds⟩, -, -, -, areRead⟩ :=
    collect_imports atlasText "crate" none .empty
  rw [areRead atlasTrees writes_atlas] at holds
  exact ⟨writes_atlas, scope, isScope, holds.globs.trans (by decide), (holds.names "b").trans
    (by decide), (holds.names "_").trans (by decide), (holds.names "e").trans (by decide)⟩

end Collection

end ForwardingProxy
