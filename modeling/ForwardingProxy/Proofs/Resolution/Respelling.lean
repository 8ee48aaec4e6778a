import ForwardingProxy.Proofs.Resolution.Meaning

/-!
Contract: types that are written with other paths of the same meaning.

Owns: `Respells`, which relates two written types that differ only in paths which mean the same in a
scope, and the fact that both resolve alike.
-/

namespace ForwardingProxy

/-- The paths are the same, or both mean the same name in the scope. -/
def Host.SameMeaning (host : Host) (scope : Nat) (segments others : List String) : Prop :=
  segments = others ∨ ∃ name, host.resolve? scope segments = .ok (some name) ∧
    host.resolve? scope others = .ok (some name)

theorem Host.SameMeaning.symm {host : Host} {scope : Nat} {segments others : List String}
    (same : host.SameMeaning scope segments others) : host.SameMeaning scope others segments := by
  rcases same with same | ⟨name, isOne, isOther⟩
  · exact .inl same.symm
  · exact .inr ⟨name, isOther, isOne⟩

theorem Host.SameMeaning.resolves {host : Host} {scope : Nat} {segments others : List String}
    (same : host.SameMeaning scope segments others) {name : String}
    (resolves : host.resolve? scope segments = .ok (some name)) :
    host.resolve? scope others = .ok (some name) := by
  rcases same with rfl | ⟨other, isOne, isOther⟩
  · exact resolves
  · cases isOne.symm.trans resolves
    exact isOther

namespace Resolution

/-- The second type is the first one, written with other paths of the same meaning. -/
inductive Respells (host : Host) (scope : Nat) : TypeSyntax → TypeSyntax → Prop where
  | path {segments others : List String} {arguments otherArguments : List TypeSyntax}
      (same : host.SameMeaning scope segments others)
      (each : List.Forall₂ (Respells host scope) arguments otherArguments) :
      Respells host scope (.path segments arguments) (.path others otherArguments)
  | reference (mutable : Bool) {inner other : TypeSyntax} (each : Respells host scope inner other) :
      Respells host scope (.reference mutable inner) (.reference mutable other)
  | traitObject {segments others : List String} (same : host.SameMeaning scope segments others) :
      Respells host scope (.traitObject segments) (.traitObject others)
  | unit : Respells host scope .unit .unit
  | unsupported (text : String) : Respells host scope (.unsupported text) (.unsupported text)

variable {host : Host} {scope : Nat}

theorem Respells.symm {type other : TypeSyntax} (respells : Respells host scope type other) :
    Respells host scope other type := by
  induction type using TypeSyntax.induction generalizing other with
  | path segments arguments inductionHypothesis =>
      cases respells with
      | path same each =>
          refine .path same.symm ?_
          rw [List.forall₂_iff_zip] at each
          refine List.Forall₂.flip (List.forall₂_iff_zip.mpr ⟨each.1, fun pair => ?_⟩)
          exact inductionHypothesis _ (List.of_mem_zip pair).1 (each.2 pair)
  | reference mutable inner inductionHypothesis =>
      cases respells with
      | reference mutable each => exact .reference mutable (inductionHypothesis each)
  | traitObject segments =>
      cases respells with
      | traitObject same => exact .traitObject same.symm
  | unit =>
      cases respells
      exact .unit
  | unsupported text =>
      cases respells
      exact .unsupported text

theorem Respells.refl (type : TypeSyntax) : Respells host scope type type := by
  induction type using TypeSyntax.induction with
  | path segments arguments inductionHypothesis =>
      exact .path (.inl rfl) (List.forall₂_same.mpr inductionHypothesis)
  | reference mutable inner inductionHypothesis => exact .reference mutable inductionHypothesis
  | traitObject segments => exact .traitObject (.inl rfl)
  | unit => exact .unit
  | unsupported text => exact .unsupported text

theorem Respells.eq_unit_iff {type other : TypeSyntax} (respells : Respells host scope type other) :
    type = .unit ↔ other = .unit := by
  cases respells <;> simp

/-- Whether types are respelled depends on the meanings of paths only. -/
theorem Respells.transfer {right : Host}
    (resolves : ∀ path, host.resolve? scope path = right.resolve? scope path)
    {type other : TypeSyntax} (respells : Respells host scope type other) :
    Respells right scope type other := by
  have meanings : ∀ {segments others}, host.SameMeaning scope segments others →
      right.SameMeaning scope segments others := fun same => by
    unfold Host.SameMeaning at *
    rwa [resolves, resolves] at same
  induction type using TypeSyntax.induction generalizing other with
  | path segments arguments inductionHypothesis =>
      cases respells with
      | path same each =>
          refine .path (meanings same) ?_
          rw [List.forall₂_iff_zip] at each ⊢
          exact ⟨each.1, fun pair =>
            inductionHypothesis _ (List.of_mem_zip pair).1 (each.2 pair)⟩
  | reference mutable inner inductionHypothesis =>
      cases respells with
      | reference mutable each => exact .reference mutable (inductionHypothesis each)
  | traitObject segments =>
      cases respells with
      | traitObject same => exact .traitObject (meanings same)
  | unit =>
      cases respells
      exact .unit
  | unsupported text =>
      cases respells
      exact .unsupported text

/-- A type resolves to the same whichever way it is written. -/
theorem Respells.resolve_eq_ok {type other : TypeSyntax} (respells : Respells host scope type other)
    {owner : String} {resolved : ResolvedType}
    (resolves : resolve host owner scope type = .ok resolved) :
    resolve host owner scope other = .ok resolved := by
  induction type using TypeSyntax.induction generalizing other resolved with
  | path segments arguments inductionHypothesis =>
      cases respells with
      | path same each =>
          obtain ⟨name, results, means, noTrait, areResults, rfl⟩ := resolve_path_eq_ok.mp resolves
          refine resolve_path_eq_ok.mpr ⟨name, results, same.resolves means, noTrait, ?_, rfl⟩
          exact forall₂_through each areResults fun argument isArgument other result respelled =>
            inductionHypothesis argument isArgument respelled
  | unit =>
      cases respells
      exact resolves
  | reference mutable inner _ => exact absurd (resolvable_of_resolve resolves) nofun
  | traitObject segments => exact absurd (resolvable_of_resolve resolves) nofun
  | unsupported text => exact absurd (resolvable_of_resolve resolves) nofun

end Resolution

end ForwardingProxy
