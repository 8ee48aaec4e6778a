import ForwardingProxy.Proofs.Enumeration.Accessors
import ForwardingProxy.Proofs.Host

/-!
Contract: which failures resolution and enumeration meet.

Owns: the fact that over a host that answers both end with a result or a permitted failure,
`Bounded`, the invariant of the visits of a hierarchy, and `Steps.visit`, which takes what single
steps ensure to whole visits.

Fuel bounds the visits. Visited names are distinct names of declarations, and fuel and visited
traits together outnumber what the host can declare; so a coherent host never uses the fuel up.
-/

namespace ForwardingProxy

/-! ### Written types -/

namespace Resolution

open Attempt (Ensures)

variable {host : Host}

theorem namesTrait_ensures (answers : host.Answers) (name : String) :
    Ensures host.Permits (namesTrait host name) fun _ => True := by
  refine .andThen (.ask (answers.find name)) fun found _ => ?_
  cases found with
  | none => exact .ofValue trivial
  | some id =>
      refine .andThen (.ask (answers.declaration id)) fun declaration _ => ?_
      cases declaration with
      | none => exact .ofValue trivial
      | some declaration => exact .ofValue trivial

theorem resolvePath_ensures (answers : host.Answers) (owner : String) (scope : Nat)
    (type : TypeSyntax) (segments : List String) :
    Ensures host.Permits (resolvePath host owner scope type segments) fun _ => True := by
  refine .andThen (.ask (answers.resolve scope segments)) fun resolved _ => ?_
  cases resolved with
  | none => exact .ofLocal rfl
  | some name =>
      refine .andThen (namesTrait_ensures answers name) fun isTrait _ => ?_
      cases isTrait with
      | true => exact .ofLocal rfl
      | false => exact .ofValue trivial

mutual

theorem resolve_ensures (answers : host.Answers) (owner : String) (scope : Nat) :
    ∀ type, Ensures host.Permits (resolve host owner scope type) fun _ => True
  | .unit => .ofValue trivial
  | .path segments arguments => by
      rw [resolve]
      refine .andThen (resolvePath_ensures answers owner scope _ segments) fun name _ => ?_
      refine .andThen (resolveAll_ensures answers owner scope arguments) fun resolved _ => ?_
      exact .ofValue trivial
  | .reference mutable inner => by
      rw [resolve]
      exact .ofLocal rfl
  | .traitObject segments => by
      rw [resolve]
      exact .ofLocal rfl
  | .unsupported text => by
      rw [resolve]
      exact .ofLocal rfl

theorem resolveAll_ensures (answers : host.Answers) (owner : String) (scope : Nat) :
    ∀ types, Ensures host.Permits (resolveAll host owner scope types) fun _ => True
  | [] => .ofValue trivial
  | type :: rest => by
      rw [resolveAll]
      refine .andThen (resolve_ensures answers owner scope type) fun first _ => ?_
      refine .andThen (resolveAll_ensures answers owner scope rest) fun others _ => ?_
      exact .ofValue trivial

end

end Resolution

/-! ### Interfaces -/

namespace Enumeration

open Attempt (Ensures)

variable {host : Host}

theorem declaration_ensures (answers : host.Answers) {id : Nat}
    (declared : host.Coherent → ∃ found, host.declaration? id = .ok (some found)) :
    Ensures host.Permits (declaration host id) fun found =>
      host.declaration? id = .ok (some found) := by
  refine .andThen (.ask (answers.declaration id)) fun found asked => ?_
  refine (Ensures.require fun unknown coherent => ?_).imp fun value _ same => by rw [asked, same]
  obtain ⟨known, isKnown⟩ := declared coherent
  rw [asked, unknown] at isKnown
  cases isKnown

theorem parametersFrom_ensures (answers : host.Answers) (owner : Declaration) (place : Nat)
    (parameters : List ParameterSyntax) :
    Ensures host.Permits (parametersFrom host owner place parameters) fun _ => True := by
  induction parameters generalizing place with
  | nil => exact .ofValue trivial
  | cons parameter rest inductionHypothesis =>
      rw [parametersFrom]
      refine .andThen (Resolution.resolve_ensures answers _ _ parameter.type) fun type _ => ?_
      refine .andThen (inductionHypothesis (place + 1)) fun others _ => .ofValue trivial

theorem returnType_ensures (answers : host.Answers) (owner : Declaration)
    (written : Option TypeSyntax) :
    Ensures host.Permits (returnType host owner written) fun _ => True := by
  cases written with
  | none => exact .ofValue trivial
  | some type => exact Resolution.resolve_ensures answers _ _ type

theorem member?_ensures (answers : host.Answers) (interface : String) (owner : Declaration)
    (methods : List FunctionSignature) (signature : FunctionSignature) :
    Ensures host.Permits (member? host interface owner methods signature) fun _ => True := by
  have refused : ∀ problem, Ensures host.Permits
      (refuse interface problem : Attempt (Option Member)) fun _ => True :=
    fun problem => .ofLocal rfl
  cases taken : signature.receiver with
  | none =>
      simp only [member?, taken]
      cases signature.hasBody with
      | true => exact .ofValue trivial
      | false => exact refused _
  | some receiver =>
      by_cases borrows : receiver = .owned
      · simp only [member?, taken, borrows]
        exact refused _
      · rw [member?_borrowing taken borrows]
        cases signature.generic with
        | true => exact refused _
        | false =>
            rw [if_neg (by decide)]
            cases readProperty? signature with
            | some read =>
                refine .andThen (Resolution.resolve_ensures answers _ _ read.2) fun type _ => ?_
                exact .ofValue trivial
            | none =>
                cases isPairedWriter methods signature with
                | true => exact .ofValue trivial
                | false =>
                    refine .andThen (parametersFrom_ensures answers owner 0 _) fun _ _ => ?_
                    refine .andThen (returnType_ensures answers owner _) fun _ _ => ?_
                    exact .ofValue trivial

theorem ownMembers_ensures (answers : host.Answers) (interface : String) (owner : Declaration)
    (body : TraitBody) :
    Ensures host.Permits (ownMembers host interface owner body) fun _ => True := by
  unfold ownMembers
  cases body.items.findSome? (itemProblem? owner.qualifiedName) with
  | some problem => exact .ofLocal rfl
  | none =>
      refine .andThen (.mapM fun signature _ => ?_) fun members _ => .ofValue trivial
      exact member?_ensures answers interface owner body.methods signature

theorem includedTrait_ensures (interface : String) (declaration : Declaration) :
    Ensures host.Permits (includedTrait interface declaration) fun _ => True := by
  unfold includedTrait
  cases declaration.trait? with
  | none => exact .ofLocal rfl
  | some body =>
      dsimp only
      split
      · exact .ofLocal rfl
      · split
        · exact .ofLocal rfl
        · exact .ofValue trivial

theorem supertrait?_ensures (answers : host.Answers) (interface : String)
    (declaration : Declaration) (bound : TypeSyntax) :
    Ensures host.Permits (supertrait? host interface declaration bound) fun _ => True := by
  have refused : ∀ problem, Ensures host.Permits
      (refuse interface problem : Attempt (Option Nat)) fun _ => True :=
    fun problem => .ofLocal rfl
  cases bound with
  | path segments arguments =>
      cases arguments with
      | cons first rest => exact refused _
      | nil =>
          simp only [supertrait?]
          cases isAutoTrait segments with
          | true => exact .ofValue trivial
          | false =>
              rw [if_neg (by decide)]
              refine .andThen (.ask (answers.resolve _ segments)) fun resolved _ => ?_
              refine .andThen (.requireLocal rfl) fun name _ => ?_
              refine .andThen (.ask (answers.find name)) fun found _ => ?_
              refine .map ((Ensures.requireLocal rfl).imp ?_)
              exact fun _ _ _ => trivial
  | reference mutable inner => exact refused _
  | traitObject segments => exact refused _
  | unit => exact refused _
  | unsupported text => exact refused _

/-- What the visits of a hierarchy keep: the visited traits are declared under distinct names, and
together with the fuel that is left they outnumber what the host can declare. -/
structure Bounded (host : Host) (fuel : Nat) (interface : Interface) : Prop where
  distinct : interface.traits.Nodup
  declared : ∀ name ∈ interface.traits, ∃ id declaration,
    host.declaration? id = .ok (some declaration) ∧ declaration.qualifiedName = name
  enough : host.size < fuel + interface.traits.length

/-- A trait that joins uses up one step of the fuel. -/
theorem Bounded.extend {host : Host} {fuel id : Nat} {interface : Interface}
    {found : Declaration} {members : List Member} (bounded : Bounded host (fuel + 1) interface)
    (isFound : host.declaration? id = .ok (some found))
    (fresh : found.qualifiedName ∉ interface.traits) :
    Bounded host fuel (extend interface found.qualifiedName members) where
  distinct := by
    refine List.nodup_append.mpr ⟨bounded.distinct, List.nodup_singleton _, ?_⟩
    rintro name visited _ isNew rfl
    rw [List.mem_singleton] at isNew
    exact fresh (isNew ▸ visited)
  declared := by
    intro name isName
    rcases List.mem_append.mp isName with visited | isNew
    · exact bounded.declared name visited
    · exact ⟨id, found, isFound, (List.mem_singleton.mp isNew).symm⟩
  enough := by
    have enough := bounded.enough
    simp only [Enumeration.extend, List.length_append, List.length_singleton]
    omega

/-- Every step of a visit ends in an allowed way where the property holds, and the property passes on
to the supertraits. -/
structure Steps (host : Host) (allowed : Failure → Prop) (holds : Nat → Prop) : Prop where
  declared : ∀ {id}, holds id →
    Ensures allowed (declaration host id) fun found => host.declaration? id = .ok (some found)
  included : ∀ {id found}, holds id → host.declaration? id = .ok (some found) → ∀ interface,
    Ensures allowed (includedTrait interface found) fun body => found.trait? = some body
  members : ∀ {id found body}, holds id → host.declaration? id = .ok (some found) →
    found.trait? = some body → ∀ interface,
      Ensures allowed (ownMembers host interface found body) fun _ => True
  followed : ∀ {id found body}, holds id → host.declaration? id = .ok (some found) →
    found.trait? = some body → ∀ interface, ∀ bound ∈ body.supertraits,
      Ensures allowed (supertrait? host interface found bound) fun target =>
        ∀ upper, target = some upper → holds upper
  exhausted : ∀ {interface}, Bounded host 0 interface →
    allowed (.host (.endlessHierarchy interface.name))

/-- The rule of visits: where every step ends in an allowed way, so does the visit. -/
theorem Steps.visit {allowed : Failure → Prop} {holds : Nat → Prop}
    (steps : Steps host allowed holds) {fuel id : Nat} {interface : Interface} (start : holds id)
    (bounded : Bounded host fuel interface) :
    Ensures allowed (visit host fuel id interface) (Bounded host fuel) := by
  induction fuel generalizing id interface with
  | zero => exact .ofFailure (steps.exhausted bounded)
  | succ fuel inductionHypothesis =>
      rw [Enumeration.visit]
      refine .andThen (steps.declared start) fun found isFound => ?_
      by_cases visited : found.qualifiedName ∈ interface.traits
      · rw [if_pos (by simpa using visited)]
        exact .ofValue bounded
      · rw [if_neg (by simpa using visited)]
        refine .andThen (steps.included start isFound _) fun body isTrait => ?_
        refine .andThen (steps.members start isFound isTrait _) fun members _ => ?_
        have more : ∀ after, Bounded host fuel after → Bounded host (fuel + 1) after :=
          fun after kept => ⟨kept.distinct, kept.declared, by have := kept.enough; omega⟩
        refine (Ensures.foldlM (bounded.extend isFound visited) ?_).imp fun after _ => more after
        intro bound isBound state kept
        refine .andThen (steps.followed start isFound isTrait _ bound isBound) fun target leads => ?_
        cases target with
        | none => exact .ofValue kept
        | some upper => exact inductionHypothesis (leads upper rfl) kept

theorem Bounded.exhausted (coherent : host.Coherent) {interface : Interface}
    (bounded : Bounded host 0 interface) : False := by
  have atMost := coherent.bounded interface.traits bounded.distinct bounded.declared
  have enough := bounded.enough
  omega

theorem Bounded.empty (host : Host) (name : String) :
    Bounded host (host.size + 1) (.empty name) :=
  ⟨.nil, by simp [Interface.empty], by simp [Interface.empty]⟩

theorem steps_of_answers (answers : host.Answers) :
    Steps host host.Permits fun id =>
      host.Coherent → ∃ found, host.declaration? id = .ok (some found) where
  declared := declaration_ensures answers
  included := fun _ _ interface =>
    (includedTrait_ensures interface _).imp fun _ included _ => (includedTrait_eq_ok.mp included).1
  members := fun _ _ _ interface => ownMembers_ensures answers interface _ _
  followed := by
    intro id found body _ _ _ interface bound _
    refine (supertrait?_ensures answers interface found bound).imp fun target leads _ => ?_
    rintro upper rfl coherent
    obtain ⟨_, _, ⟨_, isNone⟩ | ⟨_, name, _, _, isUpper, same⟩⟩ := supertrait?_eq_ok.mp leads
    · cases isNone
    · cases same
      exact coherent.found isUpper
  exhausted := fun bounded coherent => (bounded.exhausted coherent).elim

theorem visit_ensures (answers : host.Answers) {fuel id : Nat} {interface : Interface}
    (declared : host.Coherent → ∃ found, host.declaration? id = .ok (some found))
    (bounded : Bounded host fuel interface) :
    Ensures host.Permits (visit host fuel id interface) (Bounded host fuel) :=
  (steps_of_answers answers).visit declared bounded

theorem enumerate_ensures (answers : host.Answers) {id : Nat}
    (declared : host.Coherent → ∃ found, host.declaration? id = .ok (some found)) :
    Ensures host.Permits (enumerate host id) fun _ => True := by
  refine .andThen (declaration_ensures answers declared) fun found _ => ?_
  cases found.trait? with
  | none => exact .ofLocal rfl
  | some body =>
      have visited := visit_ensures answers declared (Bounded.empty host found.qualifiedName)
      exact visited.imp fun _ _ _ => trivial

end Enumeration

end ForwardingProxy
