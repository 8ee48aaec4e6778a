import ForwardingProxy.Proofs.Classification.Locality
import ForwardingProxy.Proofs.Generation.Script

/-!
Contract: the questions that a pass asks before and after it writes its file.

Owns: the fact that a host that answers lets a pass find its items and, at the end, the names that
it has to wait for. All that is left of the host then is what it answered.
-/

namespace ForwardingProxy

/-! ### Names to wait for -/

namespace Resolution

variable {host : Host}

mutual

theorem validate_answered (answers : host.Answers) (scope : Nat) :
    ∀ type, ∃ valid, validate host scope type = .ok valid
  | .unit => ⟨true, rfl⟩
  | .path segments arguments => by
      obtain ⟨name, resolved⟩ := answers.resolve scope segments
      obtain ⟨valid, areValid⟩ := validateAll_answered answers scope arguments
      rw [validate, resolved]
      cases name with
      | none => exact ⟨false, rfl⟩
      | some name => exact ⟨valid, areValid⟩
  | .reference mutable inner => by
      rw [validate]
      exact validate_answered answers scope inner
  | .traitObject segments => by
      obtain ⟨name, resolved⟩ := answers.resolve scope segments
      rw [validate, resolved]
      exact ⟨name.isSome, rfl⟩
  | .unsupported text => ⟨false, rfl⟩

theorem validateAll_answered (answers : host.Answers) (scope : Nat) :
    ∀ types, ∃ valid, validateAll host scope types = .ok valid
  | [] => ⟨true, rfl⟩
  | type :: rest => by
      obtain ⟨first, isFirst⟩ := validate_answered answers scope type
      obtain ⟨valid, areValid⟩ := validateAll_answered answers scope rest
      rw [validateAll, isFirst]
      cases first with
      | true => exact ⟨valid, areValid⟩
      | false => exact ⟨false, rfl⟩

end

end Resolution

namespace Generation

variable {host : Host}

theorem hasUnknownName_answered (answers : host.Answers) (scope : Nat) (types : List TypeSyntax) :
    ∃ unknown, hasUnknownName host scope types = .ok unknown := by
  induction types with
  | nil => exact ⟨false, rfl⟩
  | cons type rest inductionHypothesis =>
      obtain ⟨valid, isValid⟩ := Resolution.validate_answered answers scope type
      rw [hasUnknownName, isValid]
      cases valid with
      | true => exact inductionHypothesis
      | false => exact ⟨true, rfl⟩

theorem deferred?_answered (answers : host.Answers) (id : Nat) :
    ∃ name, deferred? host id = .ok name := by
  obtain ⟨found, asked⟩ := answers.declaration id
  rw [deferred?, asked]
  cases found with
  | none => exact ⟨none, rfl⟩
  | some declaration =>
      simp only [bind, Except.bind]
      cases declaration.function? with
      | none => exact ⟨none, rfl⟩
      | some signature =>
          obtain ⟨unknown, isUnknown⟩ :=
            hasUnknownName_answered answers declaration.scope signature.types
          simp only [isUnknown]
          cases unknown with
          | true => exact ⟨some declaration.qualifiedName, rfl⟩
          | false => exact ⟨none, rfl⟩

theorem deferredFunctions_answered (answers : host.Answers) (markers : Markers) :
    ∃ names, deferredFunctions host markers = .ok names := by
  obtain ⟨functions, areFunctions⟩ := answers.marked markers.dispatchFunction
  obtain ⟨names, areNames⟩ := mapM_answered fun id (_ : id ∈ functions) =>
    deferred?_answered answers id
  refine ⟨names.filterMap id, ?_⟩
  rw [deferredFunctions, areFunctions]
  simp only [bind, Except.bind, areNames]
  rfl

/-! ### Items -/

/-- A pass over a host that answers finds all listed declarations, or nothing if none is listed. -/
theorem items?_answered (answers : host.Answers) (markers : Markers) {functions traits : List Nat}
    (areFunctions : host.marked markers.dispatchFunction = .ok functions)
    (areTraits : host.marked markers.handlerInterface = .ok traits) :
    ∃ items, Classification.classifyAll host markers = .ok items ∧
      items.map Classification.Item.id = functions ++ traits ∧
      (∀ item ∈ items, item.Answered host) ∧
      items? host markers = .ok (if items.isEmpty then none else some items) := by
  obtain ⟨items, areItems, ids, answered⟩ :=
    Classification.classifyAll_answered answers areFunctions areTraits
  refine ⟨items, areItems, ids, answered, ?_⟩
  have sameLength : (functions ++ traits).isEmpty = items.isEmpty := by
    rw [← ids, List.isEmpty_map]
  rw [items?, Classification.anyMarked_answered areFunctions areTraits, sameLength]
  cases items.isEmpty with
  | true => rfl
  | false =>
      simp only [bind, Except.bind, areItems]
      rfl

end Generation

end ForwardingProxy
