import ForwardingProxy.Proofs.Enumeration.Locality

/-!
Contract: how deep an enumeration goes.

Owns: attempts that were not cut off for want of fuel, the fact that more fuel changes none of them,
and the fact that over a symbol table no enumeration is cut off, whatever its bounds lead to.
-/

namespace ForwardingProxy.Enumeration

open Attempt (Ensures)

variable {host : Host}

/-- The attempt ended by itself, not because the hierarchy went on beyond the fuel. -/
def Settled {α : Type} (attempt : Attempt α) : Prop :=
  ∀ interface, attempt ≠ .error (.failed (.host (.endlessHierarchy interface)))

theorem Settled.first {α β : Type} {attempt : Attempt α} {next : α → Attempt β}
    (settled : Settled (attempt >>= next)) : Settled attempt := by
  intro interface cutOff
  rw [cutOff] at settled
  exact settled interface rfl

theorem Settled.bind_congr {α β : Type} {attempt : Attempt α} {next other : α → Attempt β}
    (agree : ∀ value, Settled (next value) → other value = next value)
    (settled : Settled (attempt >>= next)) : attempt >>= other = attempt >>= next := by
  cases attempt with
  | error stop => rfl
  | ok value => exact agree value settled

/-- A loop that is not cut off runs as any other loop whose rounds agree where they are not. -/
theorem Settled.foldlM_congr {α β : Type} {step other : β → α → Attempt β} {inputs : List α}
    {start : β}
    (agree : ∀ state input, Settled (step state input) → other state input = step state input)
    (settled : Settled (inputs.foldlM step start)) :
    inputs.foldlM other start = inputs.foldlM step start := by
  induction inputs generalizing start with
  | nil => rfl
  | cons input rest inductionHypothesis =>
      rw [List.foldlM_cons] at settled
      rw [List.foldlM_cons, List.foldlM_cons, agree start input settled.first]
      cases stepped : step start input with
      | error stop => rfl
      | ok state =>
          rw [stepped] at settled
          exact inductionHypothesis settled

/-- More fuel does not change a visit that had enough. -/
theorem visit_succ {fuel id : Nat} {interface : Interface}
    (settled : Settled (visit host fuel id interface)) :
    visit host (fuel + 1) id interface = visit host fuel id interface := by
  induction fuel generalizing id interface with
  | zero =>
      -- without fuel the visit is cut off at once
      exact absurd rfl (settled interface.name)
  | succ fuel inductionHypothesis =>
      rw [visit, visit] at *
      refine Settled.bind_congr (fun found settled => ?_) settled
      by_cases visited : interface.traits.contains found.qualifiedName = true
      · rw [if_pos visited, if_pos visited]
      · rw [if_neg visited] at settled
        rw [if_neg visited, if_neg visited]
        refine Settled.bind_congr (fun body settled => ?_) settled
        refine Settled.bind_congr (fun members settled => ?_) settled
        refine Settled.foldlM_congr (fun state bound settled => ?_) settled
        refine Settled.bind_congr (fun target settled => ?_) settled
        cases target with
        | none => rfl
        | some upper => exact inductionHypothesis settled

theorem visit_add {fuel id : Nat} {interface : Interface}
    (settled : Settled (visit host fuel id interface)) (more : Nat) :
    visit host (fuel + more) id interface = visit host fuel id interface := by
  induction more with
  | zero => rfl
  | succ more inductionHypothesis =>
      have stillSettled : Settled (visit host (fuel + more) id interface) := by
        rw [inductionHypothesis]
        exact settled
      rw [← Nat.add_assoc, visit_succ stillSettled, inductionHypothesis]

/-- The interface of a trait whose hierarchy is followed `depth` traits deep at most. -/
def enumerateWithin (host : Host) (depth id : Nat) : Attempt Interface := do
  let found ← declaration host id
  match found.trait? with
  | none => Attempt.fail (.notInterface found.qualifiedName found.kind.describe)
  | some _ => visit host depth id (.empty found.qualifiedName)

theorem settled_of_permits {α : Type} {attempt : Attempt α} {post : α → Prop}
    (coherent : host.Coherent) (ensures : Ensures host.Permits attempt post) :
    Settled attempt := by
  intro interface cutOff
  rw [cutOff] at ensures
  cases ensures coherent

/-- An enumeration over a table ends within a depth that the number of declarations bounds: it is
not cut off there, and to go deeper makes no difference. -/
theorem enumerateWithin_eq (table : SymbolTable) (id : Nat) {depth : Nat}
    (enough : table.declarations.length < depth) :
    Settled (enumerateWithin table.host depth id) ∧
      enumerateWithin table.host depth id = enumerate table.host id := by
  have answers := table.host_answers
  have coherent := table.host_coherent
  unfold enumerateWithin enumerate
  cases asked : table.declaration? id with
  | none =>
      have isAsked : table.host.declaration? id = .ok none := congrArg Except.ok asked
      have isUnknown : declaration table.host id =
          .error (.failed (.host (.unknownDeclaration id))) := by
        rw [declaration, isAsked]
        rfl
      rw [isUnknown]
      exact ⟨fun interface cutOff => (by cases cutOff), rfl⟩
  | some found =>
      have isAsked : table.host.declaration? id = .ok (some found) := congrArg Except.ok asked
      rw [declaration_eq_ok.mpr isAsked]
      simp only [bind, Except.bind]
      cases found.trait? with
      | none => exact ⟨fun interface cutOff => (by cases cutOff), rfl⟩
      | some body =>
          have bounded := Bounded.empty table.host found.qualifiedName
          have ensures := visit_ensures answers (fun _ => ⟨found, isAsked⟩) bounded
          have settled := settled_of_permits coherent ensures
          obtain ⟨more, rfl⟩ := Nat.exists_eq_add_of_lt enough
          have isSize : table.declarations.length + more + 1 = table.host.size + 1 + more := by
            show table.declarations.length + more + 1 = table.declarations.length + 1 + more
            omega
          simp only [isSize]
          rw [visit_add settled more]
          exact ⟨settled, rfl⟩

end ForwardingProxy.Enumeration
