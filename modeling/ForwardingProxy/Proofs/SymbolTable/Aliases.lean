import ForwardingProxy.SymbolTable
import Mathlib.Logic.Relation

/-!
Contract: paths that begin with an imported name.

Owns: the chain of imports that such a path is followed along, what the path at the end of the chain
stands for, and the fact that a path has a meaning exactly when its chain ends within the limit.

A chain is kept together with the segments that each of its imports leaves behind. Imports may lead
back to each other; a chain that they lead around has no end, and no limit makes it one.
-/

namespace ForwardingProxy

/-! ### Chains of imports -/

/-- First segments that keep their own meaning where an import bears the same name. -/
def SymbolTable.isRoot (first : String) : Bool :=
  ["crate", "self", "super"].contains first || externRoots.contains first

/-- The path that a first segment is followed to. -/
def Scope.alias? (scope : Scope) (first : String) : Option (List String) :=
  if SymbolTable.isRoot first then none else scope.import? first

/-- Imports lead from one path to another one; `left` holds the segments that each of them leaves
behind, those of the first import first. -/
inductive Scope.Leads (scope : Scope) :
    (path : List String) → (left : List (List String)) → (reached : List String) → Prop where
  | here (path : List String) : Leads scope path [] path
  | link {first : String} {rest imported reached : List String} {left : List (List String)}
      (aliased : scope.alias? first = some imported)
      (further : Leads scope imported left reached) :
      Leads scope (first :: rest) (rest :: left) reached

/-- The import of `first` begins with `next`. -/
def Scope.AliasOf (scope : Scope) (first next : String) : Prop :=
  ∃ rest, scope.alias? first = some (next :: rest)

/-- The name below `base` of what imports left behind, from the last one back to the first. -/
def Name.extendBack (base : String) (left : List (List String)) : String :=
  left.foldr (fun rest extended => Name.extend extended rest) base

/-- The module that many levels above. -/
def Name.ancestor? : (levels : Nat) → (modulePath : String) → Option String
  | 0, modulePath => some modulePath
  | levels + 1, modulePath => (Name.parent? modulePath).bind (ancestor? levels)

namespace SymbolTable

/-- What a path stands for that is not followed any further: a path from a root, from the own
module or from one above, a path into a module below, or a path from an unknown name. -/
inductive Expands (table : SymbolTable) (scope : Scope) :
    (path : List String) → (name : String) → Prop where
  | rooted {first : String} (rest : List String)
      (isRooted : first = "crate" ∨ externRoots.contains first = true) :
      Expands table scope (first :: rest) (Name.join (first :: rest))
  | own (rest : List String) :
      Expands table scope ("self" :: rest) (Name.extend scope.modulePath rest)
  | upper {levels : Nat} {rest : List String} {module : String}
      (above : Name.ancestor? (levels + 1) scope.modulePath = some module)
      (ends : rest.head? ≠ some "super") :
      Expands table scope (List.replicate (levels + 1) "super" ++ rest) (Name.extend module rest)
  | child {first : String} (rest : List String) (ordinary : isRoot first = false)
      (notImported : scope.import? first = none)
      (known : table.knowsModule (scope.modulePath ++ "::" ++ first) = true) :
      Expands table scope (first :: rest)
        (Name.extend (scope.modulePath ++ "::" ++ first) rest)
  | plain {first : String} (rest : List String) (ordinary : isRoot first = false)
      (notImported : scope.import? first = none)
      (unknown : table.knowsModule (scope.modulePath ++ "::" ++ first) = false) :
      Expands table scope (first :: rest) (Name.join (first :: rest))

variable {table : SymbolTable} {scope : Scope}

/-! ### Ends of chains -/

theorem climb_eq_some {modulePath name : String} {path : List String} :
    climb modulePath path = some name ↔
      ∃ levels rest module, path = List.replicate levels "super" ++ rest ∧
        rest.head? ≠ some "super" ∧ Name.ancestor? levels modulePath = some module ∧
        name = Name.extend module rest := by
  induction path generalizing modulePath with
  | nil =>
      constructor
      · intro climbed
        exact ⟨0, [], modulePath, rfl, by simp, rfl, (Option.some.inj climbed).symm⟩
      · rintro ⟨levels, rest, module, isPath, _, above, rfl⟩
        obtain ⟨isZero, rfl⟩ := List.append_eq_nil_iff.mp isPath.symm
        obtain rfl := (List.replicate_eq_nil_iff _).mp isZero
        exact above
  | cons first more inductionHypothesis =>
      rw [climb]
      by_cases goesUp : first = "super"
      · subst goesUp
        rw [if_pos rfl]
        constructor
        · intro climbed
          cases isParent : Name.parent? modulePath with
          | none =>
              rw [isParent] at climbed
              cases climbed
          | some parent =>
              rw [isParent] at climbed
              obtain ⟨levels, rest, module, rfl, ends, above, isName⟩ :=
                inductionHypothesis.mp climbed
              refine ⟨levels + 1, rest, module, rfl, ends, ?_, isName⟩
              rw [Name.ancestor?, isParent]
              exact above
        · rintro ⟨levels, rest, module, isPath, ends, above, isName⟩
          cases levels with
          | zero =>
              have isRest : "super" :: more = rest := isPath
              rw [← isRest] at ends
              exact absurd rfl ends
          | succ levels =>
              have isMore : more = List.replicate levels "super" ++ rest := List.tail_eq_of_cons_eq isPath
              rw [Name.ancestor?] at above
              obtain ⟨parent, isParent, above⟩ := Option.bind_eq_some_iff.mp above
              rw [isParent]
              exact inductionHypothesis.mpr ⟨levels, rest, module, isMore, ends, above, isName⟩
      · rw [if_neg goesUp]
        constructor
        · intro same
          exact ⟨0, first :: more, modulePath, rfl, by simpa using goesUp, rfl,
            (Option.some.inj same).symm⟩
        · rintro ⟨levels, rest, module, isPath, ends, above, rfl⟩
          cases levels with
          | zero =>
              have isRest : first :: more = rest := isPath
              have isModule : modulePath = module := Option.some.inj above
              rw [isRest, isModule]
          | succ levels => exact absurd (List.head_eq_of_cons_eq isPath) goesUp

theorem not_root {first : String} (ordinary : isRoot first = false) :
    first ≠ "crate" ∧ first ≠ "self" ∧ first ≠ "super" ∧ externRoots.contains first = false := by
  rw [isRoot, Bool.or_eq_false_iff] at ordinary
  simpa [not_or, and_assoc] using ordinary

/-- A path from no root begins with an import, with a module below or with an unknown name. -/
theorem absolute?_ordinary {first : String} (ordinary : isRoot first = false) (aliases : Nat)
    (rest : List String) :
    table.absolute? scope aliases (first :: rest) =
      match scope.import? first, aliases with
      | some _, 0 => none
      | some imported, fewer + 1 =>
          (table.absolute? scope fewer imported).map fun base => Name.extend base rest
      | none, _ =>
          if table.knowsModule (scope.modulePath ++ "::" ++ first) then
            some (Name.extend (scope.modulePath ++ "::" ++ first) rest)
          else some (Name.join (first :: rest)) := by
  obtain ⟨notCrate, notSelf, notSuper, notExtern⟩ := not_root ordinary
  rw [absolute?, if_neg notCrate, if_neg notSelf, if_neg notSuper, if_neg (by simpa using notExtern)]
  cases scope.import? first with
  | none => rfl
  | some imported =>
      cases aliases with
      | zero => rfl
      | succ fewer => rfl

theorem Expands.absolute? {path : List String} {name : String}
    (expands : Expands table scope path name) (aliases : Nat) :
    table.absolute? scope aliases path = some name := by
  cases expands with
  | @rooted first rest isRooted =>
      rw [SymbolTable.absolute?]
      rcases isRooted with rfl | isExtern
      · rw [if_pos rfl]
      · have notOther : first ≠ "crate" ∧ first ≠ "self" ∧ first ≠ "super" := by
          refine ⟨?_, ?_, ?_⟩
          all_goals
            rintro rfl
            exact absurd isExtern (by decide)
        rw [if_neg notOther.1, if_neg notOther.2.1, if_neg notOther.2.2, if_pos isExtern]
  | own rest => rw [SymbolTable.absolute?, if_neg (by decide), if_pos rfl]
  | @upper levels rest module above ends =>
      have climbed := climb_eq_some.mpr ⟨levels + 1, rest, module, rfl, ends, above, rfl⟩
      rw [List.replicate_succ, List.cons_append] at climbed ⊢
      rw [SymbolTable.absolute?, if_neg (by decide), if_neg (by decide), if_pos rfl, climbed]
  | child rest ordinary notImported known =>
      rw [absolute?_ordinary ordinary, notImported]
      exact if_pos known
  | plain rest ordinary notImported unknown =>
      rw [absolute?_ordinary ordinary, notImported]
      exact if_neg (by simp [unknown])

theorem expands_of_absolute? {first : String} {rest : List String} {aliases : Nat} {name : String}
    (notAliased : scope.alias? first = none)
    (found : table.absolute? scope aliases (first :: rest) = some name) :
    Expands table scope (first :: rest) name := by
  cases ordinary : isRoot first with
  | false =>
      rw [Scope.alias?, ordinary] at notAliased
      have notImported : scope.import? first = none := notAliased
      rw [absolute?_ordinary ordinary, notImported] at found
      cases known : table.knowsModule (scope.modulePath ++ "::" ++ first) with
      | true =>
          rw [known] at found
          cases found
          exact .child rest ordinary notImported known
      | false =>
          rw [known] at found
          cases found
          exact .plain rest ordinary notImported known
  | true =>
      rw [absolute?] at found
      by_cases isCrate : first = "crate"
      · rw [if_pos isCrate] at found
        cases found
        exact .rooted rest (.inl isCrate)
      rw [if_neg isCrate] at found
      by_cases isSelf : first = "self"
      · subst isSelf
        cases found
        exact .own rest
      rw [if_neg isSelf] at found
      by_cases isSuper : first = "super"
      · subst isSuper
        obtain ⟨levels, below, module, isPath, ends, above, rfl⟩ := climb_eq_some.mp found
        cases levels with
        | zero =>
            have isBelow : "super" :: rest = below := isPath
            rw [← isBelow] at ends
            exact absurd rfl ends
        | succ levels =>
            rw [isPath]
            exact .upper above ends
      rw [if_neg isSuper] at found
      have isExtern : externRoots.contains first = true := by
        simpa [isRoot, isCrate, isSelf, isSuper] using ordinary
      rw [if_pos isExtern] at found
      cases found
      exact .rooted rest (.inr isExtern)

/-! ### Followed paths -/

section Imports

variable {first : String} {imported : List String} (aliased : scope.alias? first = some imported)
include aliased

/-- One import is followed at the price of one alias. -/
theorem absolute?_aliased (fewer : Nat) (rest : List String) :
    table.absolute? scope (fewer + 1) (first :: rest) =
      (table.absolute? scope fewer imported).map fun base => Name.extend base rest := by
  obtain ⟨notRoot, isImported⟩ := Option.ite_none_left_eq_some.mp aliased
  have ordinary : isRoot first = false := by simpa using notRoot
  rw [absolute?_ordinary ordinary, isImported]

theorem absolute?_aliased_zero (rest : List String) :
    table.absolute? scope 0 (first :: rest) = none := by
  obtain ⟨notRoot, isImported⟩ := Option.ite_none_left_eq_some.mp aliased
  have ordinary : isRoot first = false := by simpa using notRoot
  rw [absolute?_ordinary ordinary, isImported]

end Imports

/-- A chain hands the rest of the limit on to the path that it reaches. -/
theorem absolute?_of_leads {path reached : List String} {left : List (List String)}
    (leads : scope.Leads path left reached) (aliases : Nat) :
    table.absolute? scope (aliases + left.length) path =
      (table.absolute? scope aliases reached).map fun base => Name.extendBack base left := by
  induction leads with
  | here path => simp [Name.extendBack]
  | @link first rest imported reached left aliased further inductionHypothesis =>
      rw [List.length_cons, ← Nat.add_assoc, absolute?_aliased aliased, inductionHypothesis,
        Option.map_map]
      rfl

theorem absolute?_eq_none_of_leads {path reached : List String} {left : List (List String)}
    (leads : scope.Leads path left reached) {aliases : Nat} (beyond : aliases < left.length) :
    table.absolute? scope aliases path = none := by
  induction leads generalizing aliases with
  | here path => exact absurd beyond (Nat.not_lt_zero aliases)
  | @link first rest imported reached left aliased further inductionHypothesis =>
      cases aliases with
      | zero => exact absolute?_aliased_zero aliased rest
      | succ fewer =>
          have fewerLeft : fewer < left.length := Nat.lt_of_succ_lt_succ beyond
          rw [absolute?_aliased aliased, inductionHypothesis fewerLeft]
          rfl

private theorem exists_leads {aliases : Nat} {path : List String} {name : String}
    (found : table.absolute? scope aliases path = some name) :
    ∃ left reached base, scope.Leads path left reached ∧ left.length ≤ aliases ∧
      Expands table scope reached base ∧ name = Name.extendBack base left := by
  cases path with
  | nil =>
      rw [absolute?] at found
      cases found
  | cons first rest =>
      cases aliased : scope.alias? first with
      | none =>
          exact ⟨[], _, name, .here _, Nat.zero_le _, expands_of_absolute? aliased found, rfl⟩
      | some imported =>
          cases aliases with
          | zero =>
              rw [absolute?_aliased_zero aliased] at found
              cases found
          | succ fewer =>
              rw [absolute?_aliased aliased] at found
              obtain ⟨upper, isUpper, rfl⟩ := Option.map_eq_some_iff.mp found
              obtain ⟨left, reached, base, leads, enough, expands, rfl⟩ := exists_leads isUpper
              exact ⟨rest :: left, reached, base, .link aliased leads, Nat.succ_le_succ enough,
                expands, rfl⟩

/-- A path has a meaning exactly when its chain ends within the limit, at a path that expands. -/
theorem absolute?_eq_some {aliases : Nat} {path : List String} {name : String} :
    table.absolute? scope aliases path = some name ↔
      ∃ left reached base, scope.Leads path left reached ∧ left.length ≤ aliases ∧
        Expands table scope reached base ∧ name = Name.extendBack base left := by
  constructor
  · exact exists_leads
  · rintro ⟨left, reached, base, leads, enough, expands, rfl⟩
    rw [← Nat.sub_add_cancel enough, absolute?_of_leads leads, expands.absolute?]
    rfl

private theorem exists_next {first looping : String}
    (leads : Relation.ReflTransGen scope.AliasOf first looping)
    (loops : Relation.TransGen scope.AliasOf looping looping) :
    ∃ next, scope.AliasOf first next ∧ Relation.ReflTransGen scope.AliasOf next looping := by
  rcases leads.cases_head with rfl | ahead
  · exact Relation.TransGen.head'_iff.mp loops
  · exact ahead

/-- Aliases that lead around in a circle give no path a meaning, however many are followed. -/
theorem absolute?_eq_none_of_cycle {first looping : String}
    (leads : Relation.ReflTransGen scope.AliasOf first looping)
    (loops : Relation.TransGen scope.AliasOf looping looping) (aliases : Nat)
    (rest : List String) : table.absolute? scope aliases (first :: rest) = none := by
  induction aliases generalizing first rest with
  | zero =>
      -- the circle goes on, but the limit is reached
      obtain ⟨next, ⟨more, aliased⟩, _⟩ := exists_next leads loops
      exact absolute?_aliased_zero aliased rest
  | succ fewer inductionHypothesis =>
      obtain ⟨next, ⟨more, aliased⟩, nextLeads⟩ := exists_next leads loops
      rw [absolute?_aliased aliased, inductionHypothesis nextLeads more]
      rfl

/-! ### Imported names -/

/-- A path that goes on behind its first name is followed, and so is a lone name that is imported:
it spends its first alias before the limit is looked at. -/
theorem resolve?_followed {id : Nat} (isScope : table.scope? id = some scope) {first : String}
    (notSelf : first ≠ "Self") (rest : List String)
    (lone : rest = [] →
      first ∉ Name.primitiveTypes ∧ ∃ imported, scope.alias? first = some imported) :
    table.resolve? id (first :: rest) = table.absolute? scope aliasLimit (first :: rest) := by
  have headDiffers : (first :: rest).head? ≠ some "Self" := by simpa using notSelf
  rw [resolve?, isScope]
  show (if (first :: rest).head? = some "Self" then none else _) = _
  rw [if_neg headDiffers]
  cases rest with
  | nil =>
      obtain ⟨notPrimitive, imported, aliased⟩ := lone rfl
      have isImported : scope.import? first = some imported :=
        (Option.ite_none_left_eq_some.mp aliased).2
      show table.resolveName? scope first = _
      rw [resolveName?, if_neg (by simpa using notPrimitive), isImported]
      show table.absolute? scope (aliasLimit - 1) imported =
        table.absolute? scope (aliasLimit - 1 + 1) [first]
      rw [absolute?_aliased aliased]
      simp [Name.extend]
  | cons second rest => rfl

/-- A path from an imported name is followed in the same way whether it goes on behind the name or
not. -/
theorem resolve?_eq_absolute? {id : Nat} {first : String} {imported : List String}
    (isScope : table.scope? id = some scope) (aliased : scope.alias? first = some imported)
    (notSelf : first ≠ "Self") (notPrimitive : first ∉ Name.primitiveTypes)
    (rest : List String) :
    table.resolve? id (first :: rest) = table.absolute? scope aliasLimit (first :: rest) :=
  resolve?_followed isScope notSelf rest fun _ => ⟨notPrimitive, imported, aliased⟩

/-- What a path means that begins with an imported name: the end of its chain with all that the
imports left behind, if there are eight of them at most, and nothing if there are more or if they
lead around in a circle. What follows the name is put behind the meaning of the name alone. -/
theorem resolve?_follows_imports {table : SymbolTable} {id : Nat} {scope : Scope}
    (isScope : table.scope? id = some scope) {first : String}
    (isImported : (scope.import? first).isSome = true)
    (ordinary : first ∉ ["Self", "crate", "self", "super", "std", "core", "alloc"])
    (notPrimitive : first ∉ Name.primitiveTypes) (rest : List String) :
    (∀ name, table.resolve? id (first :: rest) = some name ↔
      ∃ left reached base, scope.Leads (first :: rest) left reached ∧ left.length ≤ 8 ∧
        Expands table scope reached base ∧ name = Name.extendBack base left) ∧
    (∀ left reached, scope.Leads (first :: rest) left reached → 8 < left.length →
      table.resolve? id (first :: rest) = none) ∧
    (∀ looping, Relation.ReflTransGen scope.AliasOf first looping →
      Relation.TransGen scope.AliasOf looping looping →
      table.resolve? id (first :: rest) = none) ∧
    table.resolve? id (first :: rest) =
      (table.resolve? id [first]).map fun base => Name.extend base rest := by
  obtain ⟨imported, areSegments⟩ := Option.isSome_iff_exists.mp isImported
  have notSelf : first ≠ "Self" := by
    rintro rfl
    exact ordinary (by decide)
  have notRoot : isRoot first = false := by
    simpa [isRoot, externRoots, notSelf, and_assoc] using ordinary
  have aliased : scope.alias? first = some imported := by
    rw [Scope.alias?, notRoot]
    exact areSegments
  have followed := resolve?_eq_absolute? isScope aliased notSelf notPrimitive
  refine ⟨fun name => ?_, fun left reached leads beyond => ?_, fun looping leads loops => ?_, ?_⟩
  · rw [followed]
    exact absolute?_eq_some
  · rw [followed]
    exact absolute?_eq_none_of_leads leads beyond
  · rw [followed]
    exact absolute?_eq_none_of_cycle leads loops aliasLimit rest
  · have step : ∀ more, table.absolute? scope aliasLimit (first :: more) =
        (table.absolute? scope 7 imported).map fun base => Name.extend base more :=
      fun more => absolute?_aliased aliased 7 more
    rw [followed, followed, step, step, Option.map_map]
    rfl

/-- Imports of imported names, two that lead to each other, and nine in a row. -/
def relayScope : Scope where
  modulePath := "crate::views"
  imports := [("Outer", ["super", "shapes"]), ("Inner", ["Outer", "round"]),
    ("Left", ["Right", "wing"]), ("Right", ["Left"]), ("N1", ["N2"]), ("N2", ["N3"]),
    ("N3", ["N4"]), ("N4", ["N5"]), ("N5", ["N6"]), ("N6", ["N7"]), ("N7", ["N8"]),
    ("N8", ["N9"]), ("N9", ["std", "rc"])]
  globImports := []
  file := none

/-- The table with that scope alone. -/
def relayTable : SymbolTable := ⟨[relayScope], [], [], []⟩

theorem relayTable_follows_imports :
    relayTable.scope? 0 = some relayScope ∧
      (∀ first ∈ ["Inner", "Left", "N1", "N2"], (relayScope.import? first).isSome = true ∧
        first ∉ ["Self", "crate", "self", "super", "std", "core", "alloc"] ∧
        first ∉ Name.primitiveTypes) ∧
      relayTable.resolve? 0 ["Inner", "Disc"] = some "crate::shapes::round::Disc" ∧
      relayTable.resolve? 0 ["Left", "Tip"] = none ∧
      relayTable.resolve? 0 ["N2", "Rc"] = some "std::rc::Rc" ∧
      relayTable.resolve? 0 ["N1", "Rc"] = none := by
  have isScope : relayTable.scope? 0 = some relayScope := rfl
  have imported : ∀ first ∈ ["Inner", "Left", "N1", "N2"],
      (relayScope.import? first).isSome = true ∧
        first ∉ ["Self", "crate", "self", "super", "std", "core", "alloc"] ∧
        first ∉ Name.primitiveTypes := by decide
  have follows := fun first isFirst =>
    resolve?_follows_imports isScope (imported first isFirst).1 (imported first isFirst).2.1
      (imported first isFirst).2.2
  have eightLinks : ∀ rest, relayScope.Leads ("N2" :: rest) [rest, [], [], [], [], [], [], []]
      ["std", "rc"] := fun rest =>
    .link rfl (.link rfl (.link rfl (.link rfl (.link rfl (.link rfl (.link rfl (.link rfl
      (.here _))))))))
  refine ⟨isScope, imported, ?_, ?_, ?_, ?_⟩
  · refine ((follows "Inner" (by decide) ["Disc"]).1 _).mpr
      ⟨[["Disc"], ["round"]], ["super", "shapes"], "crate::shapes", ?_, by decide, ?_, by decide⟩
    · exact .link rfl (.link rfl (.here _))
    · exact @Expands.upper _ _ 0 ["shapes"] "crate" (by decide) (by decide)
  · refine (follows "Left" (by decide) ["Tip"]).2.2.1 "Left" .refl ?_
    exact .tail (.single ⟨["wing"], rfl⟩) ⟨[], rfl⟩
  · exact ((follows "N2" (by decide) ["Rc"]).1 _).mpr
      ⟨_, _, _, eightLinks ["Rc"], by decide, .rooted _ (by decide), by decide⟩
  · exact (follows "N1" (by decide) ["Rc"]).2.1 _ _ (.link rfl (eightLinks [])) (by decide)

end SymbolTable

end ForwardingProxy
