import ForwardingProxy.Proofs.Association
import ForwardingProxy.Proofs.SymbolTable.Aliases

/-!
Contract: imports from a crate, one of them under the name of the crate itself.

Owns: what the names of these imports mean, with the import under the crate's own name and without
it.

The path of an import is followed like any other path, and its first segment is the name of the
crate. So an import under that name leads back to itself, unless the crate is one of those whose
names are never looked up among the imports.
-/

namespace ForwardingProxy

/-! ### Scopes without an import -/

/-- The scope where a short name is not imported. -/
def Scope.withoutImport (scope : Scope) (shortName : String) : Scope :=
  { scope with imports := scope.imports.filter fun entry => entry.1 != shortName }

theorem Scope.import?_withoutImport (scope : Scope) (dropped shortName : String) :
    (scope.withoutImport dropped).import? shortName =
      if shortName = dropped then none else scope.import? shortName := by
  unfold Scope.withoutImport Scope.import?
  rw [lookup_filter_key scope.imports (· != dropped)]
  simp

namespace SymbolTable

/-- The table where a scope does not import a short name. -/
def withoutImport (table : SymbolTable) (id : Nat) (shortName : String) : SymbolTable :=
  table.modifyScope id fun scope => scope.withoutImport shortName

theorem scope?_withoutImport {table : SymbolTable} {id : Nat} {scope : Scope}
    (isScope : table.scope? id = some scope) (shortName : String) :
    (table.withoutImport id shortName).scope? id = some (scope.withoutImport shortName) := by
  show (table.scopes.modify id _)[id]? = _
  rw [List.getElem?_modify_eq]
  exact congrArg (Option.map _) isScope

theorem knowsModule_withoutImport (table : SymbolTable) (id : Nat) (shortName modulePath : String) :
    (table.withoutImport id shortName).knowsModule modulePath = table.knowsModule modulePath := by
  have samePaths : (table.withoutImport id shortName).scopes.map Scope.modulePath =
      table.scopes.map Scope.modulePath := by
    refine List.ext_getElem? fun place => ?_
    simp only [withoutImport, modifyScope, List.getElem?_map, List.getElem?_modify]
    cases table.scopes[place]? with
    | none => rfl
    | some scope => by_cases here : id = place <;> simp [here, Scope.withoutImport]
  have knows : ∀ other : SymbolTable, other.knowsModule modulePath =
      ((other.scopes.map Scope.modulePath).any (· == modulePath)
        || other.announced.contains modulePath) := by
    intro other
    rw [List.any_map]
    rfl
  rw [knows, knows, samePaths]
  rfl

/-! ### Imported names -/

variable {table : SymbolTable} {id : Nat} {scope : Scope}

/-- What a lone name means that is imported as something of that meaning. -/
def importedMeaning? (name : String) (meaning : Option String) : Option String :=
  if name = "Self" then none
  else if name ∈ Name.primitiveTypes then some name
  else meaning

theorem resolve?_imported (isScope : table.scope? id = some scope) {name : String}
    {imported : List String} (isImported : scope.import? name = some imported) :
    table.resolve? id [name] =
      importedMeaning? name (table.absolute? scope (aliasLimit - 1) imported) := by
  rw [resolve?, isScope]
  show (if some name = some "Self" then none else table.resolveName? scope name) = _
  simp only [Option.some.injEq, resolveName?, isImported, importedMeaning?, List.contains_iff_mem]

theorem not_isRoot {crate : String} (notKeyword : crate ∉ ["Self", "crate", "self", "super"])
    (notExtern : externRoots.contains crate = false) : isRoot crate = false := by
  rw [isRoot, notExtern, Bool.or_false]
  refine Bool.eq_false_iff.mpr fun isKeyword => notKeyword ?_
  exact List.mem_cons_of_mem "Self" (List.contains_iff_mem.mp isKeyword)

/-! ### A crate with an import under its own name -/

section OwnName

variable {crate : String} {rest : List String}
  (imported : scope.import? crate = some (crate :: rest))
  (notKeyword : crate ∉ ["Self", "crate", "self", "super"])
include imported notKeyword

theorem aliasOf_own_name (notExtern : externRoots.contains crate = false) :
    scope.AliasOf crate crate := by
  refine ⟨rest, ?_⟩
  rw [Scope.alias?, not_isRoot notKeyword notExtern]
  exact imported

/-- The path of an import from the crate leads around in a circle, except from a root. -/
theorem absolute?_own_name (aliases : Nat) (more : List String) :
    table.absolute? scope aliases (crate :: more) =
      if externRoots.contains crate then some (Name.join (crate :: more)) else none := by
  cases isExtern : externRoots.contains crate with
  | true => rw [(Expands.rooted more (.inr isExtern)).absolute?, if_pos rfl]
  | false =>
      have loops := aliasOf_own_name imported notKeyword isExtern
      rw [absolute?_eq_none_of_cycle .refl (.single loops)]
      rfl

theorem resolve?_behind_own_name (isScope : table.scope? id = some scope)
    (notExtern : externRoots.contains crate = false) {first : String}
    (leads : Relation.ReflTransGen scope.AliasOf first crate) {more : List String}
    (lone : more = [] → first ∉ Name.primitiveTypes) :
    table.resolve? id (first :: more) = none := by
  have loops := aliasOf_own_name imported notKeyword notExtern
  by_cases isSelf : first = "Self"
  · rw [isSelf, resolve?, isScope]
    rfl
  have isAliased : ∃ path, scope.alias? first = some path := by
    rcases leads.cases_head with rfl | ⟨next, ⟨others, aliased⟩, _⟩
    · obtain ⟨others, aliased⟩ := loops
      exact ⟨_, aliased⟩
    · exact ⟨_, aliased⟩
  rw [resolve?_followed isScope isSelf more fun isLone => ⟨lone isLone, isAliased⟩]
  exact absolute?_eq_none_of_cycle leads (.single loops) aliasLimit more

end OwnName

/-- Without an import under its name, and where no module below has that name, a crate is found. -/
theorem expands_withoutImport {crate : String}
    (notKeyword : crate ∉ ["Self", "crate", "self", "super"])
    (noModule : table.knowsModule (scope.modulePath ++ "::" ++ crate) = false)
    (more : List String) :
    Expands (table.withoutImport id crate) (scope.withoutImport crate) (crate :: more)
      (Name.join (crate :: more)) := by
  cases isExtern : externRoots.contains crate with
  | true => exact .rooted more (.inr isExtern)
  | false =>
      have notImported : (scope.withoutImport crate).import? crate = none := by
        rw [Scope.import?_withoutImport, if_pos rfl]
      refine .plain more (not_isRoot notKeyword isExtern) notImported ?_
      rw [knowsModule_withoutImport]
      exact noModule

/-- A crate is hidden by an import under its own name, together with all that is imported from it,
unless its name is a root. Nothing else hides it: without that import each name and each path from
the crate has its meaning. -/
theorem own_name_import_hides_crate {table : SymbolTable} {id : Nat} {scope : Scope}
    (isScope : table.scope? id = some scope) {crate : String}
    {rest : List String} (imported : scope.import? crate = some (crate :: rest))
    (notKeyword : crate ∉ ["Self", "crate", "self", "super"])
    (noModule : table.knowsModule (scope.modulePath ++ "::" ++ crate) = false) :
    (∀ name more, scope.import? name = some (crate :: more) →
      table.resolve? id [name] = importedMeaning? name
        (if externRoots.contains crate then some (Name.join (crate :: more)) else none)) ∧
    (externRoots.contains crate = false → ∀ first, Relation.ReflTransGen scope.AliasOf first crate →
      ∀ more, (more = [] → first ∉ Name.primitiveTypes) →
        table.resolve? id (first :: more) = none) ∧
    (∀ name more, name ≠ crate → scope.import? name = some (crate :: more) →
      (table.withoutImport id crate).resolve? id [name] =
        importedMeaning? name (some (Name.join (crate :: more)))) ∧
    ∀ next more, (table.withoutImport id crate).resolve? id (crate :: next :: more) =
      some (Name.join (crate :: next :: more)) := by
  have isScopeWithout := scope?_withoutImport isScope crate
  refine ⟨fun name more isImported => ?_, fun notExtern first leads more lone => ?_,
    fun name more differs isImported => ?_, fun next more => ?_⟩
  · rw [resolve?_imported isScope isImported, absolute?_own_name imported notKeyword]
  · exact resolve?_behind_own_name imported notKeyword isScope notExtern leads lone
  · have stillImported : (scope.withoutImport crate).import? name = some (crate :: more) := by
      rw [Scope.import?_withoutImport, if_neg differs]
      exact isImported
    rw [resolve?_imported isScopeWithout stillImported,
      (expands_withoutImport notKeyword noModule more).absolute?]
  · have notSelf : crate ≠ "Self" := fun isSelf => notKeyword (by rw [isSelf]; decide)
    have goesOn : next :: more ≠ [] := List.cons_ne_nil next more
    rw [resolve?_followed isScopeWithout notSelf (next :: more) fun isLone => absurd isLone goesOn,
      (expands_withoutImport notKeyword noModule (next :: more)).absolute?]

/-- Imports from two crates, each with one under the name of the crate. -/
def crateScope : Scope where
  modulePath := "crate"
  imports := [("serde_json", ["serde_json"]), ("Json", ["serde_json", "Value"]),
    ("anyhow", ["anyhow", "anyhow"])]
  globImports := []
  file := none

/-- The table with that scope alone. -/
def crateTable : SymbolTable := ⟨[crateScope], [], [], []⟩

theorem crateTable_hides_crates :
    crateTable.scope? 0 = some crateScope ∧
      (∀ crate ∈ ["serde_json", "anyhow"], crate ∉ ["Self", "crate", "self", "super"] ∧
        crateTable.knowsModule (crateScope.modulePath ++ "::" ++ crate) = false) ∧
      (∀ path ∈ [["serde_json"], ["Json"], ["serde_json", "Map"], ["anyhow"]],
        crateTable.resolve? 0 path = none) ∧
      (crateTable.withoutImport 0 "serde_json").resolve? 0 ["Json"] = some "serde_json::Value" ∧
      (crateTable.withoutImport 0 "serde_json").resolve? 0 ["serde_json", "Map"] =
        some "serde_json::Map" := by
  have isScope : crateTable.scope? 0 = some crateScope := rfl
  have ordinary : ∀ crate ∈ ["serde_json", "anyhow"], crate ∉ ["Self", "crate", "self", "super"] ∧
      crateTable.knowsModule (crateScope.modulePath ++ "::" ++ crate) = false := by decide
  have json : crateScope.import? "serde_json" = some ["serde_json"] := rfl
  have anyhow : crateScope.import? "anyhow" = some ["anyhow", "anyhow"] := rfl
  obtain ⟨notKeyword, noModule⟩ := ordinary "serde_json" (by decide)
  obtain ⟨byName, byPath, nameWithout, pathWithout⟩ :=
    own_name_import_hides_crate isScope json notKeyword noModule
  refine ⟨isScope, ordinary, ?_, nameWithout "Json" ["Value"] (by decide) rfl,
    pathWithout "Map" []⟩
  intro path isPath
  simp only [List.mem_cons, List.not_mem_nil, or_false] at isPath
  rcases isPath with rfl | rfl | rfl | rfl
  · exact byName "serde_json" [] rfl
  · exact byName "Json" ["Value"] rfl
  · exact byPath (by decide) "serde_json" .refl ["Map"] nofun
  · obtain ⟨notKeyword, noModule⟩ := ordinary "anyhow" (by decide)
    exact (own_name_import_hides_crate isScope anyhow notKeyword noModule).1 "anyhow"
      ["anyhow"] rfl

end SymbolTable

end ForwardingProxy
