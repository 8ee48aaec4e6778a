import ForwardingProxy.Proofs.Enumeration.Mirroring
import ForwardingProxy.Proofs.Enumeration.Walk
import ForwardingProxy.Proofs.Host
import Mathlib.Data.List.Nodup
import Mathlib.Data.List.Perm.Basic

/-!
Contract: symbol tables that hold the same under other numbers.

Owns: `SymbolTable.holding`, what a table holds without the numbers, files and lines in it;
`SymbolTable.Matches`, which compares this without its order; and the facts that matching tables
give every path the same meaning in scopes of the same content, and every trait name the same
interface or the same failure.

A declaration is held together with the content of the scope it stands in, since this and not the
number of the scope decides what the names in it mean.
-/

namespace ForwardingProxy

/-- The scope without the file it was read from. -/
def Scope.unfiled (scope : Scope) : Scope :=
  { scope with file := none }

/-- The declaration without its location and the number of its scope. -/
def Declaration.detached (declaration : Declaration) : Declaration :=
  { declaration with scope := 0, location := none }

theorem Declaration.alike_of_detached {one other : Declaration}
    (same : one.detached = other.detached) : one.Alike other := by
  obtain ⟨_, _, _, _, _, _, _⟩ := one
  obtain ⟨_, _, _, _, _, _, _⟩ := other
  cases same
  exact ⟨rfl, rfl, rfl⟩

/-- Scopes, declarations and facts, the latter two with the content of the scopes they stand in. -/
structure Holding where
  scopes : List (Option Scope)
  declarations : List (Declaration × Option Scope)
  facts : List ((TypeSyntax × Construction) × Option Scope)
  announced : List String

namespace Holding

/-- Whether a module of that path is among the scopes or announced. -/
def knows (holding : Holding) (modulePath : String) : Bool :=
  holding.scopes.any (fun scope => scope.any fun scope => scope.modulePath == modulePath)
    || holding.announced.contains modulePath

/-- The same is held, in any order, and the same modules are known. -/
structure Matches (left right : Holding) : Prop where
  scopes : left.scopes.Perm right.scopes
  declarations : left.declarations.Perm right.declarations
  facts : left.facts.Perm right.facts
  modules : ∀ path, left.knows path = right.knows path

variable {left right third : Holding}

theorem Matches.refl (holding : Holding) : holding.Matches holding :=
  ⟨.refl _, .refl _, .refl _, fun _ => rfl⟩

theorem Matches.symm (same : left.Matches right) : right.Matches left where
  scopes := same.scopes.symm
  declarations := same.declarations.symm
  facts := same.facts.symm
  modules := fun path => (same.modules path).symm

theorem Matches.trans (first : left.Matches right) (second : right.Matches third) :
    left.Matches third where
  scopes := first.scopes.trans second.scopes
  declarations := first.declarations.trans second.declarations
  facts := first.facts.trans second.facts
  modules := fun path => (first.modules path).trans (second.modules path)

/-- Nothing is held. -/
def empty : Holding := ⟨[], [], [], []⟩

/-- What two holdings hold, the second one behind the first. -/
def append (first second : Holding) : Holding where
  scopes := first.scopes ++ second.scopes
  declarations := first.declarations ++ second.declarations
  facts := first.facts ++ second.facts
  announced := first.announced ++ second.announced

theorem append_empty (holding : Holding) : holding.append empty = holding := by
  simp [append, empty]

theorem empty_append (holding : Holding) : empty.append holding = holding := rfl

theorem append_assoc (first second third : Holding) :
    (first.append second).append third = first.append (second.append third) := by
  simp [append]

theorem knows_append (first second : Holding) (modulePath : String) :
    (first.append second).knows modulePath =
      (first.knows modulePath || second.knows modulePath) := by
  simp only [knows, append, List.any_append, List.contains_eq_any_beq]
  ac_rfl

theorem Matches.append {otherLeft otherRight : Holding} (first : left.Matches right)
    (second : otherLeft.Matches otherRight) :
    (left.append otherLeft).Matches (right.append otherRight) where
  scopes := first.scopes.append second.scopes
  declarations := first.declarations.append second.declarations
  facts := first.facts.append second.facts
  modules := fun path => by rw [knows_append, knows_append, first.modules, second.modules]

theorem matches_append_comm (first second : Holding) :
    (first.append second).Matches (second.append first) where
  scopes := List.perm_append_comm
  declarations := List.perm_append_comm
  facts := List.perm_append_comm
  modules := fun path => by rw [knows_append, knows_append, Bool.or_comm]

end Holding

namespace SymbolTable

/-- What the scope with that number holds, if there is one. -/
def content? (table : SymbolTable) (scope : Nat) : Option Scope :=
  (table.scope? scope).map Scope.unfiled

/-- What a table holds where that is the content of the scopes. -/
def holdingIn (content : Nat → Option Scope) (table : SymbolTable) : Holding where
  scopes := (List.range table.scopes.length).map content
  declarations := table.declarations.map fun declaration =>
    (declaration.detached, content declaration.scope)
  facts := table.facts.map fun fact => ((fact.selfType, fact.construction), content fact.scope)
  announced := table.announced

/-- What a table holds. -/
def holding (table : SymbolTable) : Holding :=
  table.holdingIn table.content?

/-- The tables hold the same. -/
def Matches (left right : SymbolTable) : Prop :=
  left.holding.Matches right.holding

theorem holding_scopes (table : SymbolTable) :
    table.holding.scopes = table.scopes.map fun scope => some scope.unfiled := by
  refine List.ext_getElem (by simp [holding, holdingIn]) fun place inLeft inRight => ?_
  simp only [List.length_map] at inRight
  simp [holding, holdingIn, content?, scope?, List.getElem?_eq_getElem inRight]

theorem holding_knows (table : SymbolTable) (modulePath : String) :
    table.holding.knows modulePath = table.knowsModule modulePath := by
  unfold Holding.knows
  rw [holding_scopes, List.any_map]
  rfl

/-- The qualified names of a table, read off what it holds. -/
theorem holding_names (table : SymbolTable) :
    table.holding.declarations.map (fun held => held.1.qualifiedName) =
      table.declarations.map Declaration.qualifiedName := by
  unfold holding holdingIn
  rw [List.map_map]
  rfl

variable {left right : SymbolTable}

theorem Matches.names (same : left.Matches right) :
    (left.declarations.map Declaration.qualifiedName).Perm
      (right.declarations.map Declaration.qualifiedName) := by
  rw [← holding_names, ← holding_names]
  exact same.declarations.map _

theorem Matches.knowsModule (same : left.Matches right) (modulePath : String) :
    left.knowsModule modulePath = right.knowsModule modulePath := by
  rw [← holding_knows, ← holding_knows]
  exact same.modules modulePath

theorem declares_eq_true {table : SymbolTable} {name : String} :
    table.declares name = true ↔ name ∈ table.declarations.map Declaration.qualifiedName := by
  simp [declares]

theorem Matches.declares (same : left.Matches right) (name : String) :
    left.declares name = right.declares name := by
  rw [Bool.eq_iff_iff, declares_eq_true, declares_eq_true]
  exact same.names.mem_iff

theorem Matches.length (same : left.Matches right) :
    left.declarations.length = right.declarations.length := by
  simpa using same.names.length_eq

/-! ### Paths -/

section Paths

variable (modules : ∀ path, left.knowsModule path = right.knowsModule path) {one other : Scope}
  (content : one.unfiled = other.unfiled)

include modules content

/-- A path has the same absolute form in scopes of one content where the same modules are known. -/
theorem absolute?_congr (aliases : Nat) (path : List String) :
    left.absolute? one aliases path = right.absolute? other aliases path := by
  obtain ⟨modulePath, imports, globImports, file⟩ := one
  obtain ⟨_, _, _, otherFile⟩ := other
  cases content
  induction aliases generalizing path with
  | zero =>
      cases path with
      | nil => rfl
      | cons first rest =>
          rw [absolute?, absolute?]
          simp only [modules]
          rfl
  | succ fewer inductionHypothesis =>
      cases path with
      | nil => rfl
      | cons first rest =>
          rw [absolute?, absolute?]
          simp only [modules, inductionHypothesis]
          rfl

variable (declared : ∀ name, left.declares name = right.declares name)

include declared

theorem resolveName?_congr (name : String) :
    left.resolveName? one name = right.resolveName? other name := by
  have absolutes := absolute?_congr modules content
  obtain ⟨modulePath, imports, globImports, file⟩ := one
  obtain ⟨_, _, _, otherFile⟩ := other
  cases content
  simp only [resolveName?, findInGlobs?, absolutes, declared]
  rfl

end Paths

/-- A path has the same meaning in scopes of the same content, where the same modules are known and
the same names declared. -/
theorem resolve?_congr (modules : ∀ path, left.knowsModule path = right.knowsModule path)
    (declared : ∀ name, left.declares name = right.declares name) {first second : Nat}
    (content : left.content? first = right.content? second) (path : List String) :
    left.resolve? first path = right.resolve? second path := by
  unfold content? at content
  unfold SymbolTable.resolve?
  cases isOne : left.scope? first with
  | none =>
      rw [isOne, Option.map_none, eq_comm, Option.map_eq_none_iff] at content
      rw [content]
  | some one =>
      rw [isOne, Option.map_some, eq_comm, Option.map_eq_some_iff] at content
      obtain ⟨other, isOther, sameContent⟩ := content
      have absolutes := absolute?_congr modules sameContent.symm
      have names := resolveName?_congr modules sameContent.symm declared
      simp only [isOther, absolutes, names]

/-- Matching tables give a path the same meaning in scopes of the same content. -/
theorem Matches.resolve? (same : left.Matches right) {first second : Nat}
    (content : left.content? first = right.content? second) (path : List String) :
    left.resolve? first path = right.resolve? second path :=
  resolve?_congr same.knowsModule same.declares content path

/-! ### Interfaces -/

/-- Numbers of declarations that are the same, in scopes of the same content. -/
def Corresponding (left right : SymbolTable) (first second : Nat) : Prop :=
  ∃ one other, left.declaration? first = some one ∧ right.declaration? second = some other ∧
    one.detached = other.detached ∧ left.content? one.scope = right.content? other.scope

/-- The declaration that is found under a name. -/
def named? (table : SymbolTable) (name : String) : Option Declaration :=
  (table.find? name).bind table.declaration?

theorem find?_eq_some {table : SymbolTable} {name : String} {id : Nat}
    (found : table.find? name = some id) :
    ∃ declaration, table.declaration? id = some declaration ∧
      declaration.qualifiedName = name := by
  obtain ⟨inRange, isNamed, _⟩ := List.findIdx?_eq_some_iff_getElem.mp found
  exact ⟨_, List.getElem?_eq_getElem inRange, by simpa using isNamed⟩

theorem find?_eq_none {table : SymbolTable} {name : String} :
    table.find? name = none ↔ name ∉ table.declarations.map Declaration.qualifiedName := by
  simp [find?, List.findIdx?_eq_none_iff]

theorem Matches.find?_isSome (same : left.Matches right) (name : String) :
    (left.find? name).isSome = (right.find? name).isSome := by
  rw [Bool.eq_iff_iff, Option.isSome_iff_ne_none, Option.isSome_iff_ne_none, ne_eq, ne_eq,
    find?_eq_none, find?_eq_none, same.names.mem_iff]

/-- Where names are distinct, a name is found under corresponding numbers. -/
theorem Matches.corresponding (same : left.Matches right)
    (distinct : (left.declarations.map Declaration.qualifiedName).Nodup) {name : String}
    {first second : Nat} (isFirst : left.find? name = some first)
    (isSecond : right.find? name = some second) : Corresponding left right first second := by
  obtain ⟨one, isOne, rfl⟩ := find?_eq_some isFirst
  obtain ⟨other, isOther, sameName⟩ := find?_eq_some isSecond
  have isHeld : (one.detached, left.content? one.scope) ∈ right.holding.declarations :=
    same.declarations.mem_iff.mp (List.mem_map_of_mem (List.mem_of_getElem? isOne))
  obtain ⟨partner, isPartner, sameHeld⟩ := List.mem_map.mp isHeld
  obtain ⟨sameDetached, sameContent⟩ := Prod.mk.inj sameHeld
  have partnerName : partner.qualifiedName = other.qualifiedName :=
    (Declaration.alike_of_detached sameDetached).name.trans sameName.symm
  -- the name tells the partner of `one` apart in the right table
  obtain rfl : partner = other :=
    List.inj_on_of_nodup_map (same.names.nodup_iff.mp distinct) isPartner
      (List.mem_of_getElem? isOther) partnerName
  exact ⟨one, partner, isOne, isOther, sameDetached.symm, sameContent.symm⟩

/-- In matching tables with distinct names, a name is found in neither or under corresponding
numbers. -/
theorem Matches.find? (same : left.Matches right)
    (distinct : (left.declarations.map Declaration.qualifiedName).Nodup) (name : String) :
    (left.find? name = none ∧ right.find? name = none) ∨
      ∃ first second, left.find? name = some first ∧ right.find? name = some second ∧
        Corresponding left right first second := by
  have sameSome := same.find?_isSome name
  cases isFirst : left.find? name with
  | none =>
      rw [isFirst, Option.isSome_none, eq_comm, Option.isSome_eq_false_iff,
        Option.isNone_iff_eq_none] at sameSome
      exact .inl ⟨rfl, sameSome⟩
  | some first =>
      rw [isFirst, Option.isSome_some, eq_comm, Option.isSome_iff_exists] at sameSome
      obtain ⟨second, isSecond⟩ := sameSome
      exact .inr ⟨first, second, rfl, isSecond, same.corresponding distinct isFirst isSecond⟩

/-- Matching tables with distinct names declare the same under each name. -/
theorem Matches.named? (same : left.Matches right)
    (distinct : (left.declarations.map Declaration.qualifiedName).Nodup) (name : String) :
    (left.named? name).map Declaration.detached = (right.named? name).map Declaration.detached := by
  unfold SymbolTable.named?
  obtain ⟨isLeft, isRight⟩ | ⟨first, second, isLeft, isRight, one, other, isOne, isOther, same, _⟩ :=
    same.find? distinct name
  · rw [isLeft, isRight, Option.bind_none, Option.bind_none]
  · rw [isLeft, isRight, Option.bind_some, Option.bind_some, isOne, isOther, Option.map_some,
      Option.map_some, same]

/-- The hosts of matching tables mirror each other. -/
theorem Matches.mirrors (same : left.Matches right)
    (distinct : (left.declarations.map Declaration.qualifiedName).Nodup) :
    left.host.Mirrors right.host (Corresponding left right) where
  declared := by
    rintro first second ⟨one, other, isOne, isOther, sameDetached, sameContent⟩
    exact .present (congrArg Except.ok isOne) (congrArg Except.ok isOther)
      (Declaration.alike_of_detached sameDetached)
      fun path => congrArg Except.ok (same.resolve? sameContent path)
  found := by
    intro name
    obtain ⟨isLeft, isRight⟩ | ⟨first, second, isLeft, isRight, corresponds⟩ :=
      same.find? distinct name
    · exact .missing (congrArg Except.ok isLeft) (congrArg Except.ok isRight)
    · exact .present (congrArg Except.ok isLeft) (congrArg Except.ok isRight) corresponds

/-- What the declaration of that name gives as an interface, if there is one. -/
def interfaceOf? (table : SymbolTable) (name : String) : Option (Attempt Interface) :=
  (table.find? name).map (Enumeration.enumerate table.host)

/-- Matching tables with distinct names have the same interface for each name, or the same failure. -/
theorem Matches.interfaceOf? (same : left.Matches right)
    (distinct : (left.declarations.map Declaration.qualifiedName).Nodup) (name : String) :
    left.interfaceOf? name = right.interfaceOf? name := by
  unfold SymbolTable.interfaceOf?
  obtain ⟨isLeft, isRight⟩ | ⟨first, second, isLeft, isRight, corresponds⟩ :=
    same.find? distinct name
  · rw [isLeft, isRight, Option.map_none, Option.map_none]
  · rw [isLeft, isRight, Option.map_some, Option.map_some,
      Enumeration.enumerate_mirrors (same.mirrors distinct) same.length corresponds]

end SymbolTable

end ForwardingProxy
