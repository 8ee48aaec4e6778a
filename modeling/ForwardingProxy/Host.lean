import ForwardingProxy.SymbolTable

/-!
Contract: the questions the generator asks about a program, and answers that may fail to come.

Owns: `Fault`, `Host`, and the host that answers from a symbol table.

A host may break off on any question. It also bounds its declarations: `size` is above the number of
every declaration it knows, so that a walk over declarations ends.
-/

namespace ForwardingProxy

/-- A question that was broken off, with the reason when one was given. -/
inductive Fault where
  | stated (reason : String)
  | unstated
deriving DecidableEq, Repr

/-- The answer to a question, unless the host broke off. -/
abbrev Answer (α : Type) := Except Fault α

/-- What the generator can ask about a program. -/
structure Host where
  size : Nat
  marked : (marker : String) → Answer (List Nat)
  declaration? : (id : Nat) → Answer (Option Declaration)
  find? : (qualifiedName : String) → Answer (Option Nat)
  resolve? : (scope : Nat) → (path : List String) → Answer (Option String)
  implementsDefault : (id : Nat) → Answer Bool
  constructor? : (id : Nat) → Answer (Option String)

/-- The host that answers every question from the table. -/
def SymbolTable.host (table : SymbolTable) : Host where
  size := table.declarations.length
  marked := fun marker => .ok (table.marked marker)
  declaration? := fun id => .ok (table.declaration? id)
  find? := fun qualifiedName => .ok (table.find? qualifiedName)
  resolve? := fun scope path => .ok (table.resolve? scope path)
  implementsDefault := fun id => .ok (table.implementsDefault id)
  constructor? := fun id => .ok (table.constructor? id)

end ForwardingProxy
