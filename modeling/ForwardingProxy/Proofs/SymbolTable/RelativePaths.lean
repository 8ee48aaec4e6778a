import ForwardingProxy.Proofs.Segments
import ForwardingProxy.Proofs.SymbolTable.Aliases

/-!
Contract: paths from the own module and from the modules above it.

Owns: the ancestors of a module that is joined from segments, and the names of paths that begin with
`super` or with `self` and `super`, written in place or reached through imports.

Going up is what `super` does at the beginning of a path. Behind `self` it is a segment like any
other and becomes part of the name.
-/

namespace ForwardingProxy

/-! ### Modules as segments -/

namespace Name

/-- The segment can name an item or a module. -/
structure IsPlain (segment : String) : Prop where
  noColon : ':' ∉ segment.toList
  notSelf : segment ≠ "self"
  notSuper : segment ≠ "super"

instance (segment : String) : Decidable (IsPlain segment) :=
  decidable_of_iff (':' ∉ segment.toList ∧ segment ≠ "self" ∧ segment ≠ "super")
    ⟨fun ⟨noColon, notSelf, notSuper⟩ => ⟨noColon, notSelf, notSuper⟩,
      fun plain => ⟨plain.noColon, plain.notSelf, plain.notSuper⟩⟩

/-- Each level up takes one segment off, and the last segment stays. -/
theorem ancestor?_join (levels : Nat) {module : List String} (notEmpty : module ≠ [])
    (noColon : ∀ segment ∈ module, ':' ∉ segment.toList) :
    ancestor? levels (join module) =
      if levels < module.length then some (join (module.take (module.length - levels)))
      else none := by
  induction levels generalizing module with
  | zero =>
      rw [if_pos (List.length_pos_of_ne_nil notEmpty), Nat.sub_zero, List.take_length]
      rfl
  | succ levels inductionHypothesis =>
      obtain rfl | ⟨before, last, rfl⟩ := List.eq_nil_or_concat' module
      · exact absurd rfl notEmpty
      have noColonBefore : ∀ segment ∈ before, ':' ∉ segment.toList := fun segment member =>
        noColon segment (List.mem_append_left _ member)
      rw [ancestor?, parent?_join before (noColon last (by simp)), List.length_append,
        List.length_singleton]
      by_cases alone : before = []
      · rw [if_pos alone, alone]
        rfl
      · rw [if_neg alone, Option.bind_some, inductionHypothesis alone noColonBefore,
          Nat.add_sub_add_right, List.take_append_of_le_length (Nat.sub_le _ _)]
        simp only [Nat.add_lt_add_iff_right]

theorem ancestor_ne_nil {module : List String} {levels : Nat} (high : levels < module.length) :
    module.take (module.length - levels) ≠ [] := by
  rw [← List.length_pos_iff, List.length_take]
  omega

/-- What imports leave behind goes to the end of a name, the last import first. -/
theorem extendBack_join {base : List String} (notEmpty : base ≠ []) (left : List (List String)) :
    extendBack (join base) left = join (base ++ left.reverse.flatten) := by
  induction left with
  | nil => simp [extendBack]
  | cons rest left inductionHypothesis =>
      have unfolded : extendBack (join base) (rest :: left) =
          extend (extendBack (join base) left) rest := rfl
      rw [unfolded, inductionHypothesis, extend_join (List.append_ne_nil_of_left_ne_nil notEmpty _)]
      simp

theorem relative_notMem_segments_join {parts : List String} (notEmpty : parts ≠ [])
    (plain : ∀ part ∈ parts, IsPlain part) :
    "self" ∉ segments (join parts) ∧ "super" ∉ segments (join parts) := by
  rw [segments_join notEmpty fun part member => (plain part member).noColon]
  exact ⟨fun member => (plain "self" member).notSelf rfl,
    fun member => (plain "super" member).notSuper rfl⟩

end Name

/-- The scope is that of the module with these segments. -/
structure Scope.IsModule (scope : Scope) (module : List String) : Prop where
  path : scope.modulePath = Name.join module
  notEmpty : module ≠ []
  plain : ∀ segment ∈ module, Name.IsPlain segment

theorem Scope.IsModule.noColon {scope : Scope} {module : List String}
    (isModule : scope.IsModule module) : ∀ segment ∈ module, ':' ∉ segment.toList :=
  fun segment member => (isModule.plain segment member).noColon

/-- A path is followed to another one within the limit. It does not begin with `Self`, and a lone
name is imported and no name of a built-in type. What the imports leave behind are names. -/
structure Scope.Follows
    (scope : Scope)
    (path : List String)
    (left : List (List String))
    (reached : List String) : Prop where
  leads : scope.Leads path left reached
  enough : left.length ≤ SymbolTable.aliasLimit
  notSelf : path.head? ≠ some "Self"
  lone : path.length = 1 → left ≠ [] ∧ ∀ name ∈ Name.primitiveTypes, path ≠ [name]
  plain : ∀ segment ∈ left.flatten, Name.IsPlain segment

theorem Scope.Follows.plain_reverse {scope : Scope} {path reached : List String}
    {left : List (List String)} (follows : scope.Follows path left reached) :
    ∀ segment ∈ left.reverse.flatten, Name.IsPlain segment := by
  intro segment member
  obtain ⟨rest, isRest, member⟩ := List.mem_flatten.mp member
  exact follows.plain segment (List.mem_flatten.mpr ⟨rest, List.mem_reverse.mp isRest, member⟩)

namespace SymbolTable

variable {table : SymbolTable} {id : Nat} {scope : Scope} {path reached : List String}
  {left : List (List String)}

/-! ### Followed relative paths -/

/-- A path means what the path means that it is followed to, with all that is left behind. -/
theorem resolve?_of_follows (isScope : table.scope? id = some scope)
    (follows : scope.Follows path left reached) :
    ∃ aliases, table.resolve? id path =
      (table.absolute? scope aliases reached).map fun base => Name.extendBack base left := by
  obtain ⟨leads, enough, notSelf, lone, _⟩ := follows
  have followed : table.absolute? scope (aliasLimit - left.length + left.length) path = _ :=
    absolute?_of_leads leads _
  rw [Nat.sub_add_cancel enough] at followed
  refine ⟨aliasLimit - left.length, ?_⟩
  rw [← followed]
  cases path with
  | nil =>
      rw [resolve?, isScope]
      rfl
  | cons first rest =>
      refine resolve?_followed isScope (by simpa using notSelf) rest ?_
      rintro rfl
      -- a lone name that nothing is left behind of would not be imported
      obtain ⟨someLeft, notPrimitive⟩ := lone rfl
      cases leads with
      | here => exact absurd rfl someLeft
      | link aliased _ =>
          exact ⟨fun isPrimitive => notPrimitive first isPrimitive rfl, _, aliased⟩

/-- Climbing goes up as often as `super` stands in front. -/
theorem climb_replicate (levels : Nat) (modulePath : String) {rest : List String}
    (ends : rest.head? ≠ some "super") :
    climb modulePath (List.replicate levels "super" ++ rest) =
      (Name.ancestor? levels modulePath).map fun module => Name.extend module rest := by
  induction levels generalizing modulePath with
  | zero =>
      cases rest with
      | nil => rfl
      | cons first more =>
          have notSuper : first ≠ "super" := by simpa using ends
          show climb modulePath (first :: more) = _
          rw [climb, if_neg notSuper]
          rfl
  | succ levels inductionHypothesis =>
      rw [List.replicate_succ, List.cons_append, climb, if_pos rfl, Name.ancestor?]
      cases Name.parent? modulePath with
      | none => rfl
      | some parent => exact inductionHypothesis parent

theorem absolute?_super {levels : Nat} (positive : 0 < levels) {rest : List String}
    (ends : rest.head? ≠ some "super") (aliases : Nat) :
    table.absolute? scope aliases (List.replicate levels "super" ++ rest) =
      (Name.ancestor? levels scope.modulePath).map fun module => Name.extend module rest := by
  obtain ⟨fewer, rfl⟩ := Nat.exists_eq_add_one_of_ne_zero (Nat.ne_of_gt positive)
  rw [← climb_replicate (fewer + 1) scope.modulePath ends, List.replicate_succ, List.cons_append,
    absolute?, if_neg (by decide), if_neg (by decide), if_pos rfl]

section Module

variable {module rest : List String} {levels : Nat} (isScope : table.scope? id = some scope)
  (isModule : scope.IsModule module)
include isScope isModule

/-- A path that is followed to one behind `super` is below an ancestor of the module. -/
theorem resolve?_super (positive : 0 < levels) (plainRest : ∀ segment ∈ rest, Name.IsPlain segment)
    (follows : scope.Follows path left (List.replicate levels "super" ++ rest)) :
    table.resolve? id path =
      if levels < module.length then
        some (Name.join (module.take (module.length - levels) ++ rest ++ left.reverse.flatten))
      else none := by
  have ends : rest.head? ≠ some "super" :=
    fun isSuper => (plainRest "super" (List.mem_of_mem_head? isSuper)).notSuper rfl
  obtain ⟨aliases, meaning⟩ := resolve?_of_follows isScope follows
  rw [meaning, absolute?_super positive ends, isModule.path,
    Name.ancestor?_join levels isModule.notEmpty isModule.noColon]
  by_cases high : levels < module.length
  · have above := Name.ancestor_ne_nil high
    rw [if_pos high, if_pos high, Option.map_some, Option.map_some, Name.extend_join above,
      Name.extendBack_join (List.append_ne_nil_of_left_ne_nil above rest)]
  · rw [if_neg high, if_neg high]
    rfl

/-- A path that is followed to one behind `self` is below the module, whatever comes there. -/
theorem resolve?_self (follows : scope.Follows path left ("self" :: rest)) :
    table.resolve? id path = some (Name.join (module ++ rest ++ left.reverse.flatten)) := by
  obtain ⟨aliases, meaning⟩ := resolve?_of_follows isScope follows
  rw [meaning, (Expands.own rest).absolute?, Option.map_some, isModule.path,
    Name.extend_join isModule.notEmpty,
    Name.extendBack_join (List.append_ne_nil_of_left_ne_nil isModule.notEmpty rest)]

end Module

/-- Paths that begin with `super` are names below an ancestor of the module, and mean nothing when
it has too few. With `self` before them they are names below the module itself, which have every
`super` as a segment. The same holds of paths that imports lead there. -/
theorem resolve?_relative {table : SymbolTable} {id : Nat} {scope : Scope}
    (isScope : table.scope? id = some scope) {module : List String}
    (isModule : scope.IsModule module) {levels : Nat} (positive : 0 < levels) {rest : List String}
    (plainRest : ∀ segment ∈ rest, Name.IsPlain segment) :
    (∀ path left, scope.Follows path left (List.replicate levels "super" ++ rest) →
      (table.resolve? id path =
        if levels < module.length then
          some (Name.join (module.take (module.length - levels) ++ rest ++ left.reverse.flatten))
        else none) ∧
      ∀ name, table.resolve? id path = some name →
        "self" ∉ Name.segments name ∧ "super" ∉ Name.segments name) ∧
    ∀ path left, scope.Follows path left ("self" :: (List.replicate levels "super" ++ rest)) →
      ∃ name, table.resolve? id path = some name ∧
        name = Name.join
          (module ++ (List.replicate levels "super" ++ rest) ++ left.reverse.flatten) ∧
        Name.segments name =
          module ++ (List.replicate levels "super" ++ rest) ++ left.reverse.flatten := by
  constructor
  · intro path left follows
    have meaning := resolve?_super isScope isModule positive plainRest follows
    refine ⟨meaning, fun name found => ?_⟩
    rw [meaning] at found
    obtain ⟨high, same⟩ := Option.ite_none_right_eq_some.mp found
    rw [← Option.some.inj same]
    have plainAbove : ∀ segment ∈ module.take (module.length - levels), Name.IsPlain segment :=
      fun segment member => isModule.plain segment (List.mem_of_mem_take member)
    refine Name.relative_notMem_segments_join ?_ ?_
    · rw [List.append_assoc]
      exact List.append_ne_nil_of_left_ne_nil (Name.ancestor_ne_nil high) _
    · simp only [List.forall_mem_append]
      exact ⟨⟨plainAbove, plainRest⟩, follows.plain_reverse⟩
  · intro path left follows
    refine ⟨_, resolve?_self isScope isModule follows, rfl, ?_⟩
    have noColonSuper : ∀ segment ∈ List.replicate levels "super", ':' ∉ segment.toList := by
      intro segment isSuper
      rw [List.eq_of_mem_replicate isSuper]
      decide
    refine Name.segments_join (by simp [isModule.notEmpty]) ?_
    simp only [List.forall_mem_append]
    exact ⟨⟨isModule.noColon, noColonSuper, fun segment below => (plainRest segment below).noColon⟩,
      fun segment behind => (follows.plain_reverse segment behind).noColon⟩

/-- A module at depth two, with an import from above it that is written behind `self`. -/
def shapesScope : Scope where
  modulePath := "crate::geo::shapes"
  imports := [("Point", ["self", "super", "Point"]), ("Line", ["super", "lines"])]
  globImports := []
  file := none

/-- The table with that scope alone. -/
def shapesTable : SymbolTable := ⟨[shapesScope], [], [], []⟩

theorem shapesTable_resolves_relative :
    shapesTable.scope? 0 = some shapesScope ∧
      shapesScope.IsModule ["crate", "geo", "shapes"] ∧
      shapesTable.resolve? 0 ["super", "Point"] = some "crate::geo::Point" ∧
      shapesTable.resolve? 0 ["super", "super", "super", "Point"] = none ∧
      shapesTable.resolve? 0 ["Line", "Thin"] = some "crate::geo::lines::Thin" ∧
      shapesTable.resolve? 0 ["self", "super", "Point"] = some "crate::geo::shapes::super::Point" ∧
      shapesTable.resolve? 0 ["Point"] = some "crate::geo::shapes::super::Point" := by
  have isScope : shapesTable.scope? 0 = some shapesScope := rfl
  have isModule : shapesScope.IsModule ["crate", "geo", "shapes"] :=
    ⟨by decide, by decide, by decide⟩
  have plainPoint : ∀ segment ∈ ["Point"], Name.IsPlain segment := by decide
  have plainLines : ∀ segment ∈ ["lines"], Name.IsPlain segment := by decide
  have above := resolve?_relative isScope isModule (Nat.succ_pos 0) plainPoint
  have beyond := resolve?_relative isScope isModule (Nat.succ_pos 2) plainPoint
  have imported := resolve?_relative isScope isModule (Nat.succ_pos 0) plainLines
  have written : ∀ path, path.head? ≠ some "Self" → path.length ≠ 1 →
      shapesScope.Follows path [] path :=
    fun path notSelf several => ⟨.here path, by decide, notSelf, (absurd · several), by decide⟩
  refine ⟨isScope, isModule, ?_, ?_, ?_, ?_, ?_⟩
  · exact (above.1 _ _ (written _ (by decide) (by decide))).1
  · exact (beyond.1 _ _ (written _ (by decide) (by decide))).1
  · exact (imported.1 _ [["Thin"]]
      ⟨.link rfl (.here _), by decide, by decide, by decide, by decide⟩).1
  · obtain ⟨_, meaning, rfl, _⟩ := above.2 ["self", "super", "Point"] []
      (written _ (by decide) (by decide))
    exact meaning
  · obtain ⟨_, meaning, rfl, _⟩ := above.2 ["Point"] [[]]
      ⟨.link rfl (.here _), by decide, by decide, by decide, by decide⟩
    exact meaning

end SymbolTable

end ForwardingProxy
