import ForwardingProxy.Proofs.Host
import ForwardingProxy.Resolution

/-!
Contract: which written types have a meaning in a scope.

Owns: the induction over written types, the answers that a successful resolution rests on, and
`Resolvable`, which holds of exactly the types that resolution succeeds for.

Does not own: what the resolved type looks like; see `Rendering`.
-/

namespace ForwardingProxy

/-- The induction over written types, with the hypothesis at hand for every argument of a path. -/
theorem TypeSyntax.induction {motive : TypeSyntax → Prop}
    (path : ∀ segments arguments, (∀ argument ∈ arguments, motive argument) →
      motive (.path segments arguments))
    (reference : ∀ mutable inner, motive inner → motive (.reference mutable inner))
    (traitObject : ∀ segments, motive (.traitObject segments))
    (unit : motive .unit)
    (unsupported : ∀ text, motive (.unsupported text))
    (type : TypeSyntax) : motive type := by
  apply @TypeSyntax.rec motive (fun types => ∀ type ∈ types, motive type)
    path reference traitObject unit unsupported
  · simp
  · intro first rest ofFirst ofRest type member
    rcases List.mem_cons.mp member with rfl | later
    · exact ofFirst
    · exact ofRest type later

/-- The host declares a trait of that qualified name. -/
def Host.NamesTrait (host : Host) (name : String) : Prop :=
  ∃ id declaration body, host.find? name = .ok (some id) ∧
    host.declaration? id = .ok (some declaration) ∧ declaration.trait? = some body

namespace Resolution

variable {host : Host} {owner : String} {scope : Nat} {resolved : ResolvedType}

/-- The types that resolution succeeds for: every path at every depth has a meaning, and it is not
a trait. -/
inductive Resolvable (host : Host) (scope : Nat) : TypeSyntax → Prop where
  | unit : Resolvable host scope .unit
  | path {segments : List String} {name : String} {arguments : List TypeSyntax}
      (resolves : host.resolve? scope segments = .ok (some name))
      (noTrait : ¬host.NamesTrait name)
      (each : ∀ argument ∈ arguments, Resolvable host scope argument) :
      Resolvable host scope (.path segments arguments)

theorem resolveAll_eq_mapM (types : List TypeSyntax) :
    resolveAll host owner scope types = types.mapM (resolve host owner scope) := by
  induction types with
  | nil => rw [resolveAll, List.mapM_nil]
  | cons type rest inductionHypothesis => rw [resolveAll, List.mapM_cons, inductionHypothesis]

theorem not_namesTrait {name : String} (asked : namesTrait host name = .ok false) :
    ¬host.NamesTrait name := by
  rintro ⟨id, declaration, body, found, declared, isTrait⟩
  simp [namesTrait, found, declared, isTrait, Attempt.ask, bind, Except.bind, pure, Except.pure]
    at asked

theorem namesTrait_eq_false (answers : host.Answers) {name : String}
    (noTrait : ¬host.NamesTrait name) : namesTrait host name = .ok false := by
  obtain ⟨found, isFound⟩ := answers.find name
  rw [namesTrait, isFound]
  cases found with
  | none => rfl
  | some id =>
      obtain ⟨declaration, declared⟩ := answers.declaration id
      cases declaration with
      | none => simp [declared, Attempt.ask, bind, Except.bind, pure, Except.pure]
      | some declaration =>
          have notTrait : declaration.trait? = none := by
            rw [Option.eq_none_iff_forall_ne_some]
            intro body isTrait
            exact noTrait ⟨id, declaration, body, isFound, declared, isTrait⟩
          simp [declared, notTrait, Attempt.ask, bind, Except.bind, pure, Except.pure]

theorem resolvePath_eq_ok {type : TypeSyntax} {segments : List String} {name : String} :
    resolvePath host owner scope type segments = .ok name ↔
      host.resolve? scope segments = .ok (some name) ∧ namesTrait host name = .ok false := by
  rw [resolvePath, bind_eq_ok]
  constructor
  · rintro ⟨answer, asked, continued⟩
    rw [Attempt.ask_eq_ok] at asked
    cases answer with
    | none => exact absurd continued Attempt.fail_ne_ok
    | some found =>
        obtain ⟨isTrait, traitAsked, continued⟩ := bind_eq_ok.mp continued
        cases isTrait with
        | true => exact absurd continued Attempt.fail_ne_ok
        | false =>
            obtain rfl : name = found := pure_eq_ok.mp continued
            exact ⟨asked, traitAsked⟩
  · rintro ⟨asked, traitAsked⟩
    exact ⟨some name, Attempt.ask_eq_ok.mpr asked, bind_eq_ok.mpr ⟨false, traitAsked, rfl⟩⟩

/-- A path resolves when it means a name of no trait and each of its arguments resolves. -/
theorem resolve_path_eq_ok {segments : List String} {arguments : List TypeSyntax} :
    resolve host owner scope (.path segments arguments) = .ok resolved ↔
      ∃ name results, host.resolve? scope segments = .ok (some name) ∧
        namesTrait host name = .ok false ∧
        List.Forall₂ (fun argument result => resolve host owner scope argument = .ok result)
          arguments results ∧
        resolved = assemble name results := by
  rw [resolve]
  simp only [bind_eq_ok, resolvePath_eq_ok, resolveAll_eq_mapM, mapM_eq_ok, pure_eq_ok]
  constructor
  · rintro ⟨name, ⟨resolves, noTrait⟩, results, each, same⟩
    exact ⟨name, results, resolves, noTrait, each, same⟩
  · rintro ⟨name, results, resolves, noTrait, each, same⟩
    exact ⟨name, ⟨resolves, noTrait⟩, results, each, same⟩

theorem resolve_unit_eq_ok :
    resolve host owner scope .unit = .ok resolved ↔ resolved = .unit := by
  rw [resolve, pure_eq_ok]

theorem resolvable_of_resolve {type : TypeSyntax}
    (resolves : resolve host owner scope type = .ok resolved) : Resolvable host scope type := by
  induction type using TypeSyntax.induction generalizing resolved with
  | unit => exact .unit
  | path segments arguments inductionHypothesis =>
      obtain ⟨name, results, meaning, noTrait, each, _⟩ := resolve_path_eq_ok.mp resolves
      refine .path meaning (not_namesTrait noTrait) fun argument member => ?_
      obtain ⟨result, _, ofArgument⟩ := partner_of_mem_left each member
      exact inductionHypothesis argument member ofArgument
  | reference mutable inner _ => rw [resolve] at resolves; exact absurd resolves Attempt.fail_ne_ok
  | traitObject segments => rw [resolve] at resolves; exact absurd resolves Attempt.fail_ne_ok
  | unsupported text => rw [resolve] at resolves; exact absurd resolves Attempt.fail_ne_ok

theorem resolve_of_resolvable (answers : host.Answers) (owner : String) {type : TypeSyntax}
    (resolvable : Resolvable host scope type) :
    ∃ resolved, resolve host owner scope type = .ok resolved := by
  induction type using TypeSyntax.induction with
  | unit => exact ⟨.unit, resolve_unit_eq_ok.mpr rfl⟩
  | path segments arguments inductionHypothesis =>
      cases resolvable with
      | @path _ name _ meaning noTrait each =>
          obtain ⟨results, areResults⟩ := mapM_answered fun argument member =>
            inductionHypothesis argument member (each argument member)
          have noTraitAsked := namesTrait_eq_false answers noTrait
          exact ⟨assemble name results, resolve_path_eq_ok.mpr
            ⟨name, results, meaning, noTraitAsked, mapM_eq_ok.mp areResults, rfl⟩⟩
  | reference mutable inner _ => nomatch resolvable
  | traitObject segments => nomatch resolvable
  | unsupported text => nomatch resolvable

end Resolution

end ForwardingProxy
