import ForwardingProxy.Config.Basic

/-!
Contract: which settings are accepted.

Owns: the conditions that settings meet exactly when no reason against them is found.
-/

namespace ForwardingProxy.Config

/-- Every condition on settings is met. -/
structure IsValid (config : Config) : Prop where
  runtimePath : isCodePath config.runtimePath = true
  fileName : Text.isIdentifier config.fileName = true
  dispatchFunction : Text.isIdentifier config.markers.dispatchFunction = true
  handlerInterface : Text.isIdentifier config.markers.handlerInterface = true
  distinct : config.markers.dispatchFunction ≠ config.markers.handlerInterface
  package : (packageSegments config.package).all Text.isIdentifier = true

theorem guarded_eq_none {refused : Prop} [Decidable refused] {reason : Invalid}
    {further : Option Invalid} :
    (if refused then some reason else further) = none ↔ ¬refused ∧ further = none := by
  by_cases isRefused : refused <;> simp [isRefused]

theorem invalid?_eq_none {config : Config} : config.invalid? = none ↔ config.IsValid := by
  simp only [invalid?, guarded_eq_none, Bool.not_eq_true', Bool.not_eq_false, and_true]
  constructor
  · rintro ⟨isPath, isFile, isDispatch, isHandler, distinct, isPackage⟩
    exact ⟨isPath, isFile, isDispatch, isHandler, distinct, isPackage⟩
  · rintro ⟨isPath, isFile, isDispatch, isHandler, distinct, isPackage⟩
    exact ⟨isPath, isFile, isDispatch, isHandler, distinct, isPackage⟩

theorem validate_eq_ok {config : Config} : config.validate = .ok () ↔ config.IsValid := by
  rw [← invalid?_eq_none, validate]
  cases config.invalid? <;> simp

end ForwardingProxy.Config
