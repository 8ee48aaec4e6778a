import ForwardingProxy.Proofs.Host
import ForwardingProxy.Proofs.SymbolTable.Matching
import Mathlib

/-!
Contract: what a table answers after any number of additions.

Owns: `Addition`, one thing that is added to a table; `Indexed`, a table whose names and modules are
noted down in hash tables as it grows; and the facts that these notes always tell what the table
itself tells, and that what was added once keeps its number.

A name is noted down for the first declaration that has it. Later declarations of that name leave the
note alone, so it holds the least number.
-/

namespace ForwardingProxy

/-- One thing that is added to a table. -/
inductive Addition where
  | scope (modulePath : String) (file : Option String)
  /-- A module without a scope. -/
  | module (modulePath : String)
  | name (scope : Nat) (shortName : String) (path : List String)
  | glob (scope : Nat) (module : List String)
  | declaration (declaration : Declaration)
  | fact (fact : ConstructionFact)

namespace Addition

/-- The declaration that is added. -/
def declaration? : Addition → Option Declaration
  | .declaration declared => some declared
  | _ => none

/-- The path of the module whose scope is added. -/
def opened? : Addition → Option String
  | .scope modulePath _ => some modulePath
  | _ => none

/-- The path of the module that is added without a scope. -/
def announced? : Addition → Option String
  | .module modulePath => some modulePath
  | _ => none

/-- The path of the module that is added, with a scope or without. -/
def module? : Addition → Option String
  | .scope modulePath _ | .module modulePath => some modulePath
  | _ => none

end Addition

namespace SymbolTable

/-- The table with an addition. -/
def after (table : SymbolTable) : Addition → SymbolTable
  | .scope modulePath file => table.addScope modulePath file
  | .module modulePath => table.announce modulePath
  | .name scope shortName path => table.addImport scope shortName path
  | .glob scope module => table.addGlob scope module
  | .declaration declaration => table.addDeclaration declaration
  | .fact fact => table.addFact fact

/-- The table with all additions, one after the other. -/
def afterAll (table : SymbolTable) (additions : List Addition) : SymbolTable :=
  additions.foldl after table

variable {table : SymbolTable}

theorem afterAll_append (table : SymbolTable) (first second : List Addition) :
    table.afterAll (first ++ second) = (table.afterAll first).afterAll second :=
  List.foldl_append

/-! ### What is in a table -/

/-- The paths of the modules that have scopes, in the order of these. -/
def opened (table : SymbolTable) : List String :=
  table.scopes.map Scope.modulePath

theorem opened_modifyScope (table : SymbolTable) (scope : Nat) {change : Scope → Scope}
    (keeps : ∀ existing, (change existing).modulePath = existing.modulePath) :
    (table.modifyScope scope change).opened = table.opened := by
  refine List.ext_getElem? fun place => ?_
  simp only [opened, modifyScope, List.getElem?_map, List.getElem?_modify]
  cases table.scopes[place]? with
  | none => rfl
  | some existing =>
      by_cases isPlace : scope = place
      · simp [isPlace, keeps]
      · simp [isPlace]

theorem opened_after (table : SymbolTable) (addition : Addition) :
    (table.after addition).opened = table.opened ++ addition.opened?.toList := by
  cases addition with
  | scope modulePath file => simp [after, addScope, opened, Addition.opened?, Scope.new]
  | name scope shortName path =>
      simp [after, addImport, Addition.opened?, opened_modifyScope, Scope.withImport]
  | glob scope module =>
      simp [after, addGlob, Addition.opened?, opened_modifyScope, Scope.withGlob]
  | _ => simp [after, announce, addDeclaration, addFact, opened, Addition.opened?]

theorem announced_after (table : SymbolTable) (addition : Addition) :
    (table.after addition).announced = table.announced ++ addition.announced?.toList := by
  cases addition <;>
    simp [after, addScope, announce, addImport, addGlob, modifyScope, addDeclaration, addFact,
      Addition.announced?]

theorem declarations_after (table : SymbolTable) (addition : Addition) :
    (table.after addition).declarations =
      table.declarations ++ addition.declaration?.toList := by
  cases addition <;>
    simp [after, addScope, announce, addImport, addGlob, modifyScope, addDeclaration, addFact,
      Addition.declaration?]

/-- What one addition puts at the end of a list is there in order after all of them. -/
theorem gathered_afterAll {Kept : Type} {kept : SymbolTable → List Kept}
    {added : Addition → Option Kept}
    (step : ∀ table addition, kept (after table addition) = kept table ++ (added addition).toList)
    (table : SymbolTable) (additions : List Addition) :
    kept (table.afterAll additions) = kept table ++ additions.filterMap added := by
  induction additions generalizing table with
  | nil => rw [afterAll, List.foldl_nil, List.filterMap_nil, List.append_nil]
  | cons addition rest inductionHypothesis =>
      have ofRest := inductionHypothesis (table.after addition)
      rw [step, List.append_assoc] at ofRest
      rw [afterAll, List.foldl_cons, ← afterAll, ofRest]
      cases isAdded : added addition <;> simp [isAdded]

theorem opened_afterAll (table : SymbolTable) (additions : List Addition) :
    (table.afterAll additions).opened =
      table.opened ++ additions.filterMap Addition.opened? :=
  gathered_afterAll opened_after table additions

theorem announced_afterAll (table : SymbolTable) (additions : List Addition) :
    (table.afterAll additions).announced =
      table.announced ++ additions.filterMap Addition.announced? :=
  gathered_afterAll announced_after table additions

theorem declarations_afterAll (table : SymbolTable) (additions : List Addition) :
    (table.afterAll additions).declarations =
      table.declarations ++ additions.filterMap Addition.declaration? :=
  gathered_afterAll declarations_after table additions

theorem knowsModule_iff {modulePath : String} :
    table.knowsModule modulePath = true ↔
      modulePath ∈ table.opened ∨ modulePath ∈ table.announced := by
  simp [knowsModule, opened]

theorem module?_eq_some {addition : Addition} {modulePath : String} :
    addition.module? = some modulePath ↔
      addition.opened? = some modulePath ∨ addition.announced? = some modulePath := by
  cases addition <;> simp [Addition.module?, Addition.opened?, Addition.announced?]

theorem knowsModule_after (addition : Addition) (modulePath : String) :
    (table.after addition).knowsModule modulePath = true ↔
      table.knowsModule modulePath = true ∨ addition.module? = some modulePath := by
  rw [knowsModule_iff, knowsModule_iff, opened_after, announced_after, module?_eq_some]
  simp only [List.mem_append, Option.mem_toList]
  tauto

/-! ### Numbers of declarations -/

/-- The declaration with that number has that qualified name. -/
def NamedAt (table : SymbolTable) (name : String) (id : Nat) : Prop :=
  ∃ declaration, table.declaration? id = some declaration ∧ declaration.qualifiedName = name

/-- The number that is found under a name is the least one of a declaration with that name. -/
theorem find?_iff_isLeast (table : SymbolTable) (name : String) (id : Nat) :
    table.find? name = some id ↔ IsLeast {number | table.NamedAt name number} id := by
  have namedAt {number : Nat} (inRange : number < table.declarations.length) :
      table.NamedAt name number ↔ table.declarations[number].qualifiedName = name := by
    simp [NamedAt, declaration?, List.getElem?_eq_getElem inRange]
  have inRange {number : Nat} (isNamed : table.NamedAt name number) :
      number < table.declarations.length := by
    obtain ⟨declaration, isDeclaration, -⟩ := isNamed
    exact (List.getElem?_eq_some_iff.mp isDeclaration).1
  rw [find?, List.findIdx?_eq_some_iff_getElem]
  constructor
  · rintro ⟨inside, isNamed, areOthers⟩
    refine ⟨(namedAt inside).mpr (beq_iff_eq.mp isNamed), fun number isNamedToo => ?_⟩
    by_contra isLess
    have isOther := areOthers number (Nat.lt_of_not_le isLess)
    rw [(namedAt (inRange isNamedToo)).mp isNamedToo] at isOther
    exact isOther (beq_self_eq_true name)
  · rintro ⟨isNamed, isLeast⟩
    refine ⟨inRange isNamed, beq_iff_eq.mpr ((namedAt (inRange isNamed)).mp isNamed), ?_⟩
    intro number isLess isNamedToo
    have inside := Nat.lt_trans isLess (inRange isNamed)
    exact Nat.not_le_of_lt isLess (isLeast ((namedAt inside).mpr (beq_iff_eq.mp isNamedToo)))

/-- A name is not found just when no declaration has it. -/
theorem find?_eq_none_iff (table : SymbolTable) (name : String) :
    table.find? name = none ↔ {number | table.NamedAt name number} = ∅ := by
  rw [find?_eq_none, Set.eq_empty_iff_forall_notMem, List.mem_map, not_exists]
  constructor
  · rintro noName number ⟨declaration, isDeclaration, isNamed⟩
    exact noName declaration ⟨List.mem_of_getElem? isDeclaration, isNamed⟩
  · rintro noName declaration ⟨isDeclared, isNamed⟩
    obtain ⟨number, isNumber⟩ := List.getElem?_of_mem isDeclared
    exact noName number ⟨declaration, isNumber, isNamed⟩

/-- The numbers of marked declarations grow along their list, and so none stands there twice. -/
theorem marked_pairwise (table : SymbolTable) (marker : String) :
    (table.marked marker).Pairwise (· < ·) := by
  have ascending : (table.declarations.zipIdx.map Prod.snd).Pairwise (· < ·) := by
    rw [List.zipIdx_map_snd]
    exact List.pairwise_lt_range'
  rw [marked, List.pairwise_filterMap]
  refine (List.pairwise_map.mp ascending).imp fun isLess one isOne other isOther => ?_
  rw [← Option.some.inj (Option.ite_none_right_eq_some.mp isOne).2,
    ← Option.some.inj (Option.ite_none_right_eq_some.mp isOther).2]
  exact isLess

/-- An unknown scope takes no imports. -/
theorem modifyScope_beyond (table : SymbolTable) (beyond : Nat) (change : Scope → Scope) :
    table.modifyScope (table.scopes.length + beyond) change = table := by
  have unchanged : table.scopes.modify (table.scopes.length + beyond) change = table.scopes :=
    List.modify_eq_self (Nat.le_add_right _ _)
  rw [modifyScope, unchanged]

end SymbolTable

/-! ### Notes that are kept as a table grows -/

/-- A table with notes of its names and modules. -/
structure Indexed where
  table : SymbolTable
  /-- The number of the first declaration of each qualified name. -/
  numbers : Std.HashMap String Nat
  /-- The paths of the known modules. -/
  modules : Std.HashSet String

namespace Indexed

/-- The empty table with no notes. -/
def empty : Indexed := ⟨.empty, ∅, ∅⟩

/-- The table with an addition, and the notes brought up to date. -/
def after (indexed : Indexed) (addition : Addition) : Indexed where
  table := indexed.table.after addition
  numbers :=
    match addition.declaration? with
    | some declaration =>
        indexed.numbers.insertIfNew declaration.qualifiedName indexed.table.declarations.length
    | none => indexed.numbers
  modules :=
    match addition.module? with
    | some modulePath => indexed.modules.insert modulePath
    | none => indexed.modules

/-- The table with all additions, and the notes kept up to date. -/
def afterAll (indexed : Indexed) (additions : List Addition) : Indexed :=
  additions.foldl after indexed

/-- The notes tell what the table tells. -/
structure Agrees (indexed : Indexed) : Prop where
  numbers : ∀ name : String, indexed.numbers[name]? = indexed.table.find? name
  modules : ∀ modulePath : String,
    modulePath ∈ indexed.modules ↔ indexed.table.knowsModule modulePath = true

variable {indexed : Indexed}

theorem agrees_empty : empty.Agrees where
  numbers name := by simp [empty, SymbolTable.find?, SymbolTable.empty]
  modules modulePath := by simp [empty, SymbolTable.knowsModule, SymbolTable.empty]

/-- An addition leaves the notes as true as they were. -/
theorem Agrees.after (agrees : indexed.Agrees) (addition : Addition) :
    (indexed.after addition).Agrees where
  numbers name := by
    have found := agrees.numbers name
    rw [SymbolTable.find?] at found
    rw [SymbolTable.find?]
    unfold Indexed.after
    dsimp only
    rw [SymbolTable.declarations_after, List.findIdx?_append, ← found]
    cases addition.declaration? with
    | none => simp
    | some declaration =>
        dsimp only [Option.toList_some]
        rw [Std.HashMap.getElem?_insertIfNew]
        by_cases isName : declaration.qualifiedName = name
        · -- the new number counts only when the name was not noted down before
          subst isName
          cases isNoted : indexed.numbers[declaration.qualifiedName]? with
          | some number => simp [Std.HashMap.mem_iff_isSome_getElem?, isNoted]
          | none => simp [Std.HashMap.mem_iff_isSome_getElem?, isNoted]
        · simp [isName]
  modules modulePath := by
    unfold Indexed.after
    dsimp only
    rw [SymbolTable.knowsModule_after, ← agrees.modules]
    cases addition.module? with
    | none => simp
    | some other =>
        dsimp only
        rw [Std.HashSet.mem_insert, beq_iff_eq, Option.some.injEq, or_comm]

/-- The notes stay true through any number of additions. -/
theorem Agrees.afterAll (agrees : indexed.Agrees) (additions : List Addition) :
    (indexed.afterAll additions).Agrees := by
  induction additions generalizing indexed with
  | nil => exact agrees
  | cons addition rest inductionHypothesis => exact inductionHypothesis (agrees.after addition)

theorem table_afterAll (indexed : Indexed) (additions : List Addition) :
    (indexed.afterAll additions).table = indexed.table.afterAll additions := by
  induction additions generalizing indexed with
  | nil => rfl
  | cons addition rest inductionHypothesis => exact inductionHypothesis (indexed.after addition)

end Indexed

end ForwardingProxy
