import ForwardingProxy.Proofs.Resolution.Meaning

/-!
Contract: the first reason why a written type has no resolved form.

Owns: the subterms of a type in the order they are looked at, `Passes`, `Offends` and `BreaksOff`,
which say what comes of one subterm by itself, and the judgement of a whole type as a loop over its
subterms.

Does not own: the types that have a resolved form at every host that answers; see `Meaning`.
-/

namespace ForwardingProxy

/-! ### Subterms -/

mutual

/-- The type and all types inside it: each stands before its own parts, and these from left to
right. -/
def TypeSyntax.subterms : TypeSyntax → List TypeSyntax
  | .path segments arguments => .path segments arguments :: subtermsOfAll arguments
  | .reference mutable inner => .reference mutable inner :: subterms inner
  | .traitObject segments => [.traitObject segments]
  | .unit => [.unit]
  | .unsupported text => [.unsupported text]

/-- The subterms of several types, one type after the other. -/
def TypeSyntax.subtermsOfAll : List TypeSyntax → List TypeSyntax
  | [] => []
  | type :: rest => subterms type ++ subtermsOfAll rest

end

/-! ### One subterm by itself -/

/-- The host answers what is declared under that qualified name, and it is no trait. -/
structure Host.DeniesTrait (host : Host) (name : String) : Prop where
  answered : ∃ found, host.find? name = .ok found ∧
    ∀ id ∈ found, ∃ declared, host.declaration? id = .ok declared
  none : ¬host.NamesTrait name

namespace Resolution

variable {host : Host} {owner : String} {scope : Nat}

/-- The type by itself is not in the way, whatever it is built from: it is unit or a path, and the
path means the name of no trait. -/
inductive Passes (host : Host) (scope : Nat) : TypeSyntax → Prop where
  | unit : Passes host scope .unit
  | path {segments : List String} {name : String} (arguments : List TypeSyntax)
      (resolves : host.resolve? scope segments = .ok (some name))
      (noTrait : host.DeniesTrait name) : Passes host scope (.path segments arguments)

/-- The type by itself is in the way, for that reason. -/
inductive Offends (host : Host) (scope : Nat) : TypeSyntax → TypeProblem → Prop where
  | notInScope {segments : List String} (arguments : List TypeSyntax)
      (unresolved : host.resolve? scope segments = .ok none) :
      Offends host scope (.path segments arguments) .notInScope
  | isTrait {segments : List String} {name : String} (arguments : List TypeSyntax)
      (resolves : host.resolve? scope segments = .ok (some name))
      (namesTrait : host.NamesTrait name) :
      Offends host scope (.path segments arguments) (.isTrait name)
  | reference (mutable : Bool) (inner : TypeSyntax) :
      Offends host scope (.reference mutable inner) .borrowed
  | traitObject (segments : List String) : Offends host scope (.traitObject segments) .traitObject
  | unsupported (text : String) : Offends host scope (.unsupported text) .notForwardable

/-- A question about the type by itself is broken off: the one for the meaning of its path, or one
of those for what is declared under that name. -/
inductive BreaksOff (host : Host) (scope : Nat) : TypeSyntax → Fault → Prop where
  | resolving {segments : List String} {fault : Fault} (arguments : List TypeSyntax)
      (broken : host.resolve? scope segments = .error fault) :
      BreaksOff host scope (.path segments arguments) fault
  | finding {segments : List String} {name : String} {fault : Fault} (arguments : List TypeSyntax)
      (resolves : host.resolve? scope segments = .ok (some name))
      (broken : host.find? name = .error fault) :
      BreaksOff host scope (.path segments arguments) fault
  | declaring {segments : List String} {name : String} {id : Nat} {fault : Fault}
      (arguments : List TypeSyntax)
      (resolves : host.resolve? scope segments = .ok (some name))
      (found : host.find? name = .ok (some id))
      (broken : host.declaration? id = .error fault) :
      BreaksOff host scope (.path segments arguments) fault

/-! ### The judgement of one subterm -/

/-- What is asked about one subterm. The arguments of a path are subterms of their own. -/
def judge (host : Host) (owner : String) (scope : Nat) : TypeSyntax → Attempt Unit
  | .unit => pure ()
  | .path segments arguments => do
      let _ ← resolvePath host owner scope (.path segments arguments) segments
  | .reference mutable inner => refuse owner (.reference mutable inner) .borrowed
  | .traitObject segments => refuse owner (.traitObject segments) .traitObject
  | .unsupported text => refuse owner (.unsupported text) .notForwardable

/-- The question for a trait is broken off with one of the two questions it is made of. -/
theorem namesTrait_eq_error {name : String} {stop : Stop} :
    namesTrait host name = .error stop ↔
      ∃ fault, stop = .broken fault ∧ (host.find? name = .error fault ∨
        ∃ id, host.find? name = .ok (some id) ∧ host.declaration? id = .error fault) := by
  rw [namesTrait]
  cases found : host.find? name with
  | error fault => simp [Attempt.ask, error_bind, eq_comm]
  | ok id =>
      cases id with
      | none => simp [Attempt.ask, ok_bind, pure, Except.pure]
      | some id =>
          cases declared : host.declaration? id with
          | error fault => simp [Attempt.ask, ok_bind, error_bind, declared, eq_comm]
          | ok declaration =>
              cases declaration <;>
                simp [Attempt.ask, ok_bind, declared, pure, Except.pure]

theorem namesTrait_eq_true {name : String} :
    namesTrait host name = .ok true ↔ host.NamesTrait name := by
  constructor
  · intro asked
    obtain ⟨found, isFound, asked⟩ := bind_eq_ok.mp asked
    rw [Attempt.ask_eq_ok] at isFound
    cases found with
    | none => cases asked
    | some id =>
        obtain ⟨declared, isDeclared, asked⟩ := bind_eq_ok.mp asked
        rw [Attempt.ask_eq_ok] at isDeclared
        cases declared with
        | none => cases asked
        | some declaration =>
            obtain ⟨body, isTrait⟩ := Option.isSome_iff_exists.mp (pure_eq_ok.mp asked).symm
            exact ⟨id, declaration, body, isFound, isDeclared, isTrait⟩
  · rintro ⟨id, declaration, body, isFound, isDeclared, isTrait⟩
    simp [namesTrait, isFound, isDeclared, isTrait, Attempt.ask, ok_bind, pure, Except.pure]

theorem namesTrait_eq_false_iff {name : String} :
    namesTrait host name = .ok false ↔ host.DeniesTrait name := by
  constructor
  · intro asked
    refine ⟨?_, not_namesTrait asked⟩
    obtain ⟨found, isFound, asked⟩ := bind_eq_ok.mp asked
    refine ⟨found, Attempt.ask_eq_ok.mp isFound, ?_⟩
    rintro id rfl
    obtain ⟨declared, isDeclared, _⟩ := bind_eq_ok.mp asked
    exact ⟨declared, Attempt.ask_eq_ok.mp isDeclared⟩
  · rintro ⟨⟨found, isFound, declares⟩, noTrait⟩
    cases answer : namesTrait host name with
    | ok isTrait =>
        cases isTrait with
        | false => rfl
        | true => exact absurd (namesTrait_eq_true.mp answer) noTrait
    | error stop =>
        obtain ⟨fault, _, broken | ⟨id, foundId, broken⟩⟩ := namesTrait_eq_error.mp answer
        · cases broken.symm.trans isFound
        · cases foundId.symm.trans isFound
          obtain ⟨declared, isDeclared⟩ := declares id rfl
          cases broken.symm.trans isDeclared

/-- A subterm gets through exactly when it passes. -/
theorem judge_eq_ok {subterm : TypeSyntax} :
    judge host owner scope subterm = .ok () ↔ Passes host scope subterm := by
  cases subterm with
  | unit => exact iff_of_true rfl .unit
  | path segments arguments =>
      constructor
      · intro passes
        obtain ⟨name, named, _⟩ := bind_eq_ok.mp passes
        obtain ⟨resolves, noTrait⟩ := resolvePath_eq_ok.mp named
        exact .path arguments resolves (namesTrait_eq_false_iff.mp noTrait)
      · rintro (_ | ⟨_, resolves, noTrait⟩)
        rw [judge, resolvePath_eq_ok.mpr ⟨resolves, namesTrait_eq_false_iff.mpr noTrait⟩]
        rfl
  | reference mutable inner => exact iff_of_false Attempt.fail_ne_ok fun passes => by cases passes
  | traitObject segments => exact iff_of_false Attempt.fail_ne_ok fun passes => by cases passes
  | unsupported text => exact iff_of_false Attempt.fail_ne_ok fun passes => by cases passes

/-- A path is refused when it means nothing or a trait, and broken off with a question. -/
theorem resolvePath_eq_error {type : TypeSyntax} {segments : List String} {stop : Stop} :
    resolvePath host owner scope type segments = .error stop ↔
      (∃ fault, host.resolve? scope segments = .error fault ∧ stop = .broken fault) ∨
      (host.resolve? scope segments = .ok none ∧
        stop = .failed (.unresolvable owner type.render .notInScope)) ∨
      ∃ name, host.resolve? scope segments = .ok (some name) ∧
        (namesTrait host name = .error stop ∨ host.NamesTrait name ∧
          stop = .failed (.unresolvable owner type.render (.isTrait name))) := by
  rw [resolvePath]
  cases resolves : host.resolve? scope segments with
  | error fault => simp [Attempt.ask, error_bind, eq_comm]
  | ok answer =>
      cases answer with
      | none => simp [Attempt.ask, ok_bind, refuse, Attempt.fail, eq_comm]
      | some name =>
          simp only [Attempt.ask, ok_bind, ← namesTrait_eq_true]
          cases asked : namesTrait host name with
          | error broken => simp [error_bind, asked]
          | ok isTrait =>
              cases isTrait <;>
                simp [ok_bind, asked, refuse, Attempt.fail, pure, Except.pure, eq_comm]

/-- A subterm that stops the loop is refused for its own sake, or a question about it is broken
off. -/
theorem judge_eq_error {subterm : TypeSyntax} {stop : Stop} :
    judge host owner scope subterm = .error stop ↔
      (∃ problem, Offends host scope subterm problem ∧
        stop = .failed (.unresolvable owner subterm.render problem)) ∨
      ∃ fault, BreaksOff host scope subterm fault ∧ stop = .broken fault := by
  constructor
  · intro stops
    cases subterm with
    | unit => cases stops
    | path segments arguments =>
        rcases resolvePath_eq_error.mp (Attempt.outcome_eq_error.mp stops) with
          ⟨fault, broken, rfl⟩ | ⟨unresolved, rfl⟩ | ⟨name, resolves, asked | ⟨isTrait, rfl⟩⟩
        · exact .inr ⟨fault, .resolving arguments broken, rfl⟩
        · exact .inl ⟨.notInScope, .notInScope arguments unresolved, rfl⟩
        · obtain ⟨fault, rfl, broken | ⟨id, found, broken⟩⟩ := namesTrait_eq_error.mp asked
          · exact .inr ⟨fault, .finding arguments resolves broken, rfl⟩
          · exact .inr ⟨fault, .declaring arguments resolves found broken, rfl⟩
        · exact .inl ⟨.isTrait name, .isTrait arguments resolves isTrait, rfl⟩
    | reference mutable inner =>
        exact .inl ⟨.borrowed, .reference mutable inner, (Except.error.inj stops).symm⟩
    | traitObject segments =>
        exact .inl ⟨.traitObject, .traitObject segments, (Except.error.inj stops).symm⟩
    | unsupported text =>
        exact .inl ⟨.notForwardable, .unsupported text, (Except.error.inj stops).symm⟩
  · rintro (⟨problem, offends, rfl⟩ | ⟨fault, breaksOff, rfl⟩)
    · cases offends with
      | notInScope arguments unresolved =>
          exact Attempt.outcome_eq_error.mpr
            (resolvePath_eq_error.mpr (.inr (.inl ⟨unresolved, rfl⟩)))
      | isTrait arguments resolves isTrait =>
          exact Attempt.outcome_eq_error.mpr
            (resolvePath_eq_error.mpr (.inr (.inr ⟨_, resolves, .inr ⟨isTrait, rfl⟩⟩)))
      | reference mutable inner => rfl
      | traitObject segments => rfl
      | unsupported text => rfl
    · have ofQuestion : ∀ {segments arguments name},
          host.resolve? scope segments = .ok (some name) →
            namesTrait host name = .error (.broken fault) →
              judge host owner scope (.path segments arguments) = .error (.broken fault) :=
        fun resolves asked => Attempt.outcome_eq_error.mpr
          (resolvePath_eq_error.mpr (.inr (.inr ⟨_, resolves, .inl asked⟩)))
      cases breaksOff with
      | resolving arguments broken =>
          exact Attempt.outcome_eq_error.mpr (resolvePath_eq_error.mpr (.inl ⟨fault, broken, rfl⟩))
      | finding arguments resolves broken =>
          exact ofQuestion resolves (namesTrait_eq_error.mpr ⟨fault, rfl, .inl broken⟩)
      | declaring arguments resolves found broken =>
          exact ofQuestion resolves
            (namesTrait_eq_error.mpr ⟨fault, rfl, .inr ⟨_, found, broken⟩⟩)

theorem judge_eq_failed {subterm : TypeSyntax} {failure : Failure} :
    judge host owner scope subterm = .error (.failed failure) ↔
      ∃ problem, Offends host scope subterm problem ∧
        failure = .unresolvable owner subterm.render problem := by
  simp [judge_eq_error]

theorem judge_eq_broken {subterm : TypeSyntax} {fault : Fault} :
    judge host owner scope subterm = .error (.broken fault) ↔
      BreaksOff host scope subterm fault := by
  simp [judge_eq_error]

/-! ### Whole types -/

theorem outcome_resolveAll {types : List TypeSyntax}
    (each : ∀ type ∈ types, Attempt.outcome (resolve host owner scope type) =
      forM type.subterms (judge host owner scope)) :
    Attempt.outcome (resolveAll host owner scope types) =
      forM (TypeSyntax.subtermsOfAll types) (judge host owner scope) := by
  induction types with
  | nil => rfl
  | cons type rest inductionHypothesis =>
      rw [List.forall_mem_cons] at each
      rw [resolveAll, TypeSyntax.subtermsOfAll, List.forM_append, ← each.1,
        ← inductionHypothesis each.2]
      cases resolve host owner scope type with
      | error stop => rfl
      | ok first =>
          cases resolveAll host owner scope rest with
          | error stop => rfl
          | ok others => rfl

/-- Resolution judges the subterms one after the other. -/
theorem outcome_resolve (type : TypeSyntax) :
    Attempt.outcome (resolve host owner scope type) =
      forM type.subterms (judge host owner scope) := by
  induction type using TypeSyntax.induction with
  | unit => rfl
  | path segments arguments inductionHypothesis =>
      rw [resolve, TypeSyntax.subterms, List.forM_cons, ← outcome_resolveAll inductionHypothesis,
        judge]
      cases resolvePath host owner scope (.path segments arguments) segments with
      | error stop => rfl
      | ok name =>
          cases resolveAll host owner scope arguments with
          | error stop => rfl
          | ok resolved => rfl
  | reference mutable inner _ => rfl
  | traitObject segments => rfl
  | unsupported text => rfl

/-- What stops the resolution of a type is the judgement of a subterm behind ones that pass. -/
theorem resolve_eq_error {type : TypeSyntax} {stop : Stop} :
    resolve host owner scope type = .error stop ↔
      ∃ before subterm after, type.subterms = before ++ subterm :: after ∧
        (∀ earlier ∈ before, Passes host scope earlier) ∧
        judge host owner scope subterm = .error stop := by
  rw [← Attempt.outcome_eq_error, outcome_resolve, forM_eq_error]
  simp only [judge_eq_ok]

/-- A list of types that are valid one by one is gone through to its end. -/
theorem validateAll_eq_true {types : List TypeSyntax}
    (each : ∀ type ∈ types, validate host scope type = .ok true) :
    validateAll host scope types = .ok true := by
  induction types with
  | nil => rfl
  | cons type rest inductionHypothesis =>
      rw [List.forall_mem_cons] at each
      rw [validateAll, each.1, ok_bind]
      exact inductionHypothesis each.2

/-- Names are all that is checked, and the paths of a type with a resolved form have one. -/
theorem validate_of_resolvable {type : TypeSyntax} (resolvable : Resolvable host scope type) :
    validate host scope type = .ok true := by
  induction type using TypeSyntax.induction with
  | unit => rfl
  | path segments arguments inductionHypothesis =>
      cases resolvable with
      | path resolves noTrait each =>
          rw [validate, resolves, ok_bind]
          exact validateAll_eq_true fun argument member =>
            inductionHypothesis argument member (each argument member)
  | reference mutable inner _ => cases resolvable
  | traitObject segments => cases resolvable
  | unsupported text => cases resolvable

/-- A type has a resolved form exactly when none of its subterms is in the way. Otherwise the first
subterm in the way is reported, a type being looked at before its parts and these from left to
right, unless a question about an earlier one is broken off. What has a resolved form is valid. -/
theorem resolve_reports_first_offender (host : Host) (owner : String) (scope : Nat)
    (type : TypeSyntax) :
    ((∃ resolved, resolve host owner scope type = .ok resolved) ↔
      ∀ subterm ∈ type.subterms, Passes host scope subterm) ∧
    (∀ failure, resolve host owner scope type = .error (.failed failure) ↔
      ∃ before offender after problem, type.subterms = before ++ offender :: after ∧
        (∀ earlier ∈ before, Passes host scope earlier) ∧
        Offends host scope offender problem ∧
        failure = .unresolvable owner offender.render problem) ∧
    (∀ fault, resolve host owner scope type = .error (.broken fault) ↔
      ∃ before questioned after, type.subterms = before ++ questioned :: after ∧
        (∀ earlier ∈ before, Passes host scope earlier) ∧
        BreaksOff host scope questioned fault) ∧
    ∀ resolved, resolve host owner scope type = .ok resolved →
      validate host scope type = .ok true := by
  refine ⟨?_, fun failure => ?_, fun fault => ?_, fun resolved resolves => ?_⟩
  · rw [← Attempt.outcome_eq_ok, outcome_resolve, forM_eq_ok]
    simp only [judge_eq_ok]
  · rw [resolve_eq_error]
    simp only [judge_eq_failed, exists_and_left]
  · rw [resolve_eq_error]
    simp only [judge_eq_broken]
  · exact validate_of_resolvable (resolvable_of_resolve resolves)

/-- The borrowed argument is reported, and not the slice behind it. -/
example :
    resolve (SymbolTable.empty.addScope "crate" none).host "crate::Lamp" 0
        (.path ["std", "vec", "Vec"] [.unit, .reference false (.path ["u8"] []),
          .unsupported "[u8]"]) =
      .error (.failed (.unresolvable "crate::Lamp" "&u8" .borrowed)) := by
  decide

end Resolution

end ForwardingProxy

