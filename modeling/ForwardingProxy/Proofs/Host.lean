import ForwardingProxy.Proofs.Attempt
import Mathlib.Data.List.Perm.Subperm

/-!
Contract: hosts that can be relied on.

Owns: hosts that answer every question, hosts that do not contradict themselves, the failures that
such hosts permit, and the fact that the host of a symbol table is of both kinds.
-/

namespace ForwardingProxy

/-- No question is broken off. -/
structure Host.Answers (host : Host) : Prop where
  marked : ∀ marker, ∃ ids, host.marked marker = .ok ids
  declaration : ∀ id, ∃ found, host.declaration? id = .ok found
  find : ∀ name, ∃ found, host.find? name = .ok found
  resolve : ∀ scope path, ∃ name, host.resolve? scope path = .ok name
  implementsDefault : ∀ id, ∃ answer, host.implementsDefault id = .ok answer
  constructor : ∀ id, ∃ name, host.constructor? id = .ok name

/-- Listed declarations exist and carry the marker, found declarations exist, and the size bounds
the number of declared names. -/
structure Host.Coherent (host : Host) : Prop where
  marked : ∀ {marker ids}, host.marked marker = .ok ids → ∀ id ∈ ids,
    ∃ declaration, host.declaration? id = .ok (some declaration) ∧
      (declaration.marker? marker).isSome = true
  found : ∀ {name id}, host.find? name = .ok (some id) →
    ∃ declaration, host.declaration? id = .ok (some declaration)
  bounded : ∀ names : List String, names.Nodup →
    (∀ name ∈ names, ∃ id declaration, host.declaration? id = .ok (some declaration) ∧
      declaration.qualifiedName = name) → names.length ≤ host.size

/-- The failure concerns one declaration only, unless the host contradicts itself. -/
def Host.Permits (host : Host) (failure : Failure) : Prop :=
  host.Coherent → failure.isLocal = true

theorem Host.permits_of_isLocal {host : Host} {failure : Failure}
    (isLocal : failure.isLocal = true) : host.Permits failure :=
  fun _ => isLocal

theorem Attempt.Ensures.ofLocal {α : Type} {host : Host} {failure : Failure} {post : α → Prop}
    (isLocal : failure.isLocal = true) : Ensures host.Permits (Attempt.fail failure) post :=
  .ofFailure (host.permits_of_isLocal isLocal)

theorem Attempt.Ensures.requireLocal {α : Type} {host : Host} {failure : Failure}
    {found : Option α} (isLocal : failure.isLocal = true) :
    Ensures host.Permits (Attempt.require failure found) fun value => found = some value :=
  .require fun _ => host.permits_of_isLocal isLocal

theorem SymbolTable.host_answers (table : SymbolTable) : table.host.Answers where
  marked := fun _ => ⟨_, rfl⟩
  declaration := fun _ => ⟨_, rfl⟩
  find := fun _ => ⟨_, rfl⟩
  resolve := fun _ _ => ⟨_, rfl⟩
  implementsDefault := fun _ => ⟨_, rfl⟩
  constructor := fun _ => ⟨_, rfl⟩

theorem SymbolTable.host_declaration? (table : SymbolTable) (id : Nat) :
    table.host.declaration? id = .ok (table.declaration? id) :=
  rfl

theorem SymbolTable.host_find? (table : SymbolTable) (name : String) :
    table.host.find? name = .ok (table.find? name) :=
  rfl

theorem SymbolTable.host_resolve? (table : SymbolTable) (scope : Nat) (path : List String) :
    table.host.resolve? scope path = .ok (table.resolve? scope path) :=
  rfl

theorem SymbolTable.mem_marked {table : SymbolTable} {marker : String} {id : Nat} :
    id ∈ table.marked marker ↔
      ∃ declaration, table.declaration? id = some declaration ∧
        (declaration.marker? marker).isSome = true := by
  simp only [marked, List.mem_filterMap, Prod.exists, List.mem_zipIdx_iff_getElem?,
    Option.ite_none_right_eq_some, Option.some.injEq, declaration?]
  constructor
  · rintro ⟨declaration, _, declared, carries, rfl⟩
    exact ⟨declaration, declared, carries⟩
  · rintro ⟨declaration, declared, carries⟩
    exact ⟨declaration, id, declared, carries, rfl⟩

theorem SymbolTable.host_coherent (table : SymbolTable) : table.host.Coherent where
  marked := by
    rintro marker _ ⟨⟩ id isMarked
    obtain ⟨declaration, declared, carries⟩ := mem_marked.mp isMarked
    exact ⟨declaration, congrArg Except.ok declared, carries⟩
  found := by
    intro name id isFound
    obtain ⟨inRange, _⟩ := List.findIdx?_eq_some_iff_getElem.mp (Except.ok.inj isFound)
    exact ⟨table.declarations[id], congrArg Except.ok (List.getElem?_eq_getElem inRange)⟩
  bounded := by
    intro names nodup declared
    have included : names ⊆ table.declarations.map Declaration.qualifiedName := by
      intro name isName
      obtain ⟨id, declaration, isDeclared, rfl⟩ := declared name isName
      exact List.mem_map_of_mem (List.mem_of_getElem? (Except.ok.inj isDeclared))
    have atMost := (nodup.subperm included).length_le
    rw [List.length_map] at atMost
    exact atMost

end ForwardingProxy
