import ForwardingProxy.Proofs.SymbolTable.Matching

/-!
Contract: symbol tables put behind each other.

Owns: `SymbolTable.append`; `SymbolTable.Closed`, which says that all numbers of scopes in a table
are those of its own; and that closed tables behind each other hold what both hold, so that it does
not matter which one comes first.
-/

namespace ForwardingProxy

/-- The declaration in a scope that has that many scopes more before it. -/
def Declaration.raise (count : Nat) (declaration : Declaration) : Declaration :=
  { declaration with scope := count + declaration.scope }

/-- The fact in a scope that has that many scopes more before it. -/
def ConstructionFact.raise (count : Nat) (fact : ConstructionFact) : ConstructionFact :=
  { fact with scope := count + fact.scope }

namespace SymbolTable

/-- The second table behind the first one, whose scopes come before those of the second. -/
def append (first second : SymbolTable) : SymbolTable where
  scopes := first.scopes ++ second.scopes
  declarations :=
    first.declarations ++ second.declarations.map (Declaration.raise first.scopes.length)
  facts := first.facts ++ second.facts.map (ConstructionFact.raise first.scopes.length)
  announced := first.announced ++ second.announced

theorem append_empty (table : SymbolTable) : table.append empty = table := by
  simp [append, empty]

theorem empty_append (table : SymbolTable) : empty.append table = table := by
  have sameDeclaration : ∀ declaration : Declaration, declaration.raise 0 = declaration :=
    fun _ => by simp [Declaration.raise]
  have sameFact : ∀ fact : ConstructionFact, fact.raise 0 = fact :=
    fun _ => by simp [ConstructionFact.raise]
  simp [append, empty, funext sameDeclaration, funext sameFact]

theorem append_assoc (first second third : SymbolTable) :
    (first.append second).append third = first.append (second.append third) := by
  have raiseTwice : ∀ {count further : Nat},
      Declaration.raise (count + further) = Declaration.raise count ∘ Declaration.raise further :=
    fun {_ _} => funext fun _ => by simp [Declaration.raise, Nat.add_assoc]
  have raiseFactTwice : ∀ {count further : Nat}, ConstructionFact.raise (count + further) =
      ConstructionFact.raise count ∘ ConstructionFact.raise further :=
    fun {_ _} => funext fun _ => by simp [ConstructionFact.raise, Nat.add_assoc]
  simp [append, raiseTwice, raiseFactTwice]

theorem length_scopes_append (first second : SymbolTable) :
    (first.append second).scopes.length = first.scopes.length + second.scopes.length :=
  List.length_append

theorem append_addScope (first second : SymbolTable) (modulePath : String)
    (file : Option String) :
    (first.append second).addScope modulePath file =
      first.append (second.addScope modulePath file) := by
  simp [append, addScope]

/-! ### What tables behind each other hold -/

/-- Declarations and facts stand in scopes of the table. -/
structure Closed (table : SymbolTable) : Prop where
  declarations : ∀ declaration ∈ table.declarations, declaration.scope < table.scopes.length
  facts : ∀ fact ∈ table.facts, fact.scope < table.scopes.length

theorem closed_empty : empty.Closed where
  declarations := fun _ member => absurd member List.not_mem_nil
  facts := fun _ member => absurd member List.not_mem_nil

variable {first second : SymbolTable}

theorem Closed.append (ofFirst : first.Closed) (ofSecond : second.Closed) :
    (first.append second).Closed where
  declarations := by
    intro declaration member
    rw [length_scopes_append]
    obtain inFirst | inSecond := List.mem_append.mp member
    · exact Nat.lt_add_right _ (ofFirst.declarations _ inFirst)
    · obtain ⟨bare, isBare, rfl⟩ := List.mem_map.mp inSecond
      exact Nat.add_lt_add_left (ofSecond.declarations _ isBare) _
  facts := by
    intro fact member
    rw [length_scopes_append]
    obtain inFirst | inSecond := List.mem_append.mp member
    · exact Nat.lt_add_right _ (ofFirst.facts _ inFirst)
    · obtain ⟨bare, isBare, rfl⟩ := List.mem_map.mp inSecond
      exact Nat.add_lt_add_left (ofSecond.facts _ isBare) _

theorem scope?_append_left {scope : Nat} (inFirst : scope < first.scopes.length) :
    (first.append second).scope? scope = first.scope? scope :=
  List.getElem?_append_left inFirst

theorem scope?_append_right (first second : SymbolTable) (scope : Nat) :
    (first.append second).scope? (first.scopes.length + scope) = second.scope? scope := by
  unfold scope?
  rw [append, List.getElem?_append_right (Nat.le_add_right _ _), Nat.add_sub_cancel_left]

theorem content?_append_left {scope : Nat} (inFirst : scope < first.scopes.length) :
    (first.append second).content? scope = first.content? scope :=
  congrArg (Option.map Scope.unfiled) (scope?_append_left inFirst)

theorem content?_append_right (first second : SymbolTable) (scope : Nat) :
    (first.append second).content? (first.scopes.length + scope) = second.content? scope :=
  congrArg (Option.map Scope.unfiled) (scope?_append_right first second scope)

/-- A closed table holds the same wherever its own scopes have the same content. -/
theorem Closed.holdingIn_congr {table : SymbolTable} (closed : table.Closed)
    {content other : Nat → Option Scope}
    (same : ∀ scope < table.scopes.length, content scope = other scope) :
    table.holdingIn content = table.holdingIn other := by
  have sameScopes : (List.range table.scopes.length).map content =
      (List.range table.scopes.length).map other :=
    List.map_congr_left fun scope inRange => same scope (List.mem_range.mp inRange)
  have sameDeclarations : table.declarations.map (fun one => (one.detached, content one.scope)) =
      table.declarations.map fun one => (one.detached, other one.scope) :=
    List.map_congr_left fun one member => by rw [same _ (closed.declarations one member)]
  have sameFacts :
      table.facts.map (fun one => ((one.selfType, one.construction), content one.scope)) =
        table.facts.map fun one => ((one.selfType, one.construction), other one.scope) :=
    List.map_congr_left fun one member => by rw [same _ (closed.facts one member)]
  unfold holdingIn
  rw [sameScopes, sameDeclarations, sameFacts]

theorem holdingIn_append (content : Nat → Option Scope) (first second : SymbolTable) :
    (first.append second).holdingIn content =
      (first.holdingIn content).append
        (second.holdingIn fun scope => content (first.scopes.length + scope)) := by
  simp [holdingIn, append, Holding.append, List.range_add, Declaration.raise,
    Declaration.detached, ConstructionFact.raise, Function.comp_def]

theorem holding_append (ofFirst : first.Closed) (ofSecond : second.Closed) :
    (first.append second).holding = first.holding.append second.holding := by
  unfold holding
  rw [holdingIn_append, ofFirst.holdingIn_congr fun _ inFirst => content?_append_left inFirst,
    ofSecond.holdingIn_congr fun scope _ => content?_append_right first second scope]

theorem Matches.append {otherFirst otherSecond : SymbolTable} (ofFirst : first.Closed)
    (ofSecond : second.Closed) (ofOtherFirst : otherFirst.Closed)
    (ofOtherSecond : otherSecond.Closed) (sameFirst : first.Matches otherFirst)
    (sameSecond : second.Matches otherSecond) :
    (first.append second).Matches (otherFirst.append otherSecond) := by
  unfold Matches
  rw [holding_append ofFirst ofSecond, holding_append ofOtherFirst ofOtherSecond]
  exact Holding.Matches.append sameFirst sameSecond

theorem matches_append_comm (ofFirst : first.Closed) (ofSecond : second.Closed) :
    (first.append second).Matches (second.append first) := by
  unfold Matches
  rw [holding_append ofFirst ofSecond, holding_append ofSecond ofFirst]
  exact Holding.matches_append_comm _ _

end SymbolTable

end ForwardingProxy
