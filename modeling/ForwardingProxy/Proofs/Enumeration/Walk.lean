import ForwardingProxy.Enumeration
import ForwardingProxy.Proofs.Attempt
import Mathlib.Logic.Relation

/-!
Contract: the traits that a successful enumeration visits, and what each of them adds.

Owns: the relation between a trait and the supertraits its bounds name, `Part` (what one trait adds
to an interface), `Walk` (a depth-first walk over traits that are still pending), and the fact that
an enumerated interface is put together from the parts of such a walk.

Does not own: which members a part has; see `Accessors`.

A walk keeps its pending traits in one list, so that its properties follow by one induction. The
enumeration keeps them in its recursion and is bounded by fuel; neither is left in a walk.
-/

namespace ForwardingProxy.Enumeration

/-! ### One step of the enumeration -/

theorem declaration_eq_ok {host : Host} {id : Nat} {found : Declaration} :
    declaration host id = .ok found ↔ host.declaration? id = .ok (some found) := by
  simp only [declaration, bind_eq_ok, Attempt.ask_eq_ok, Attempt.require_eq_ok]
  exact ⟨fun ⟨_, asked, same⟩ => by rw [asked, same], fun asked => ⟨_, asked, rfl⟩⟩

/-- A trait joins an interface exactly when it is public and has no parameters. -/
theorem includedTrait_eq_ok {interface : String} {declaration : Declaration} {body : TraitBody} :
    includedTrait interface declaration = .ok body ↔
      declaration.trait? = some body ∧ body.generic = false ∧ declaration.visible = true := by
  unfold includedTrait
  cases declaration.trait? with
  | none => simp [refuse]
  | some declared =>
      by_cases generic : declared.generic = true
      · simp only [generic, if_true, refuse, Attempt.fail_ne_ok, Option.some.injEq, false_iff]
        rintro ⟨rfl, notGeneric, _⟩
        exact Bool.noConfusion (generic.symm.trans notGeneric)
      · by_cases visible : declaration.visible = true
        · simp only [generic, visible, Bool.not_true, Bool.false_eq_true, if_false, pure_eq_ok,
            Option.some.injEq, and_true]
          exact ⟨fun same => ⟨same.symm, by simpa [same] using generic⟩, fun same => same.1.symm⟩
        · simp [generic, visible, refuse]

/-- A bound is followed exactly when it is a path without arguments that names an auto trait, which
leads nowhere, or a declaration. -/
theorem supertrait?_eq_ok {host : Host} {interface : String} {declaration : Declaration}
    {bound : TypeSyntax} {target : Option Nat} :
    supertrait? host interface declaration bound = .ok target ↔
      ∃ segments, bound = .path segments [] ∧
        (isAutoTrait segments = true ∧ target = none ∨
          isAutoTrait segments = false ∧ ∃ name upper,
            host.resolve? declaration.scope segments = .ok (some name) ∧
              host.find? name = .ok (some upper) ∧ target = some upper) := by
  cases bound with
  | path segments arguments =>
      cases arguments with
      | cons first rest => simp [supertrait?, refuse]
      | nil =>
          simp only [supertrait?, TypeSyntax.path.injEq, and_true]
          cases isAuto : isAutoTrait segments with
          | true =>
              simp only [if_true, pure_eq_ok]
              constructor
              · rintro rfl
                exact ⟨segments, rfl, .inl ⟨isAuto, rfl⟩⟩
              · rintro ⟨_, rfl, ⟨_, rfl⟩ | ⟨notAuto, _⟩⟩
                · rfl
                · exact Bool.noConfusion (isAuto.symm.trans notAuto)
          | false =>
              simp only [Bool.false_eq_true, if_false, bind_eq_ok, map_eq_ok, Attempt.ask_eq_ok,
                Attempt.require_eq_ok]
              constructor
              · rintro ⟨_, resolved, name, rfl, _, found, upper, rfl, rfl⟩
                exact ⟨segments, rfl, .inr ⟨isAuto, name, upper, resolved, found, rfl⟩⟩
              · rintro ⟨_, rfl, ⟨auto, _⟩ | ⟨_, name, upper, resolved, found, rfl⟩⟩
                · exact Bool.noConfusion (isAuto.symm.trans auto)
                · exact ⟨some name, resolved, name, rfl, some upper, found, upper, rfl, rfl⟩
  | reference mutable inner => simp [supertrait?, refuse]
  | traitObject segments => simp [supertrait?, refuse]
  | unit => simp [supertrait?, refuse]
  | unsupported text => simp [supertrait?, refuse]

/-! ### Supertraits -/

/-- A bound of the trait `lower` names the declaration `upper`, which is no auto trait. -/
def Supertrait (host : Host) (lower upper : Nat) : Prop :=
  ∃ declaration body segments name,
    host.declaration? lower = .ok (some declaration) ∧ declaration.trait? = some body ∧
      .path segments [] ∈ body.supertraits ∧ isAutoTrait segments = false ∧
      host.resolve? declaration.scope segments = .ok (some name) ∧
      host.find? name = .ok (some upper)

/-- The declarations that the bounds of a trait lead to are its supertraits. -/
theorem mem_targets_iff {host : Host} {interface : String} {lower : Nat}
    {declaration : Declaration} {body : TraitBody} {targets : List (Option Nat)}
    (declared : host.declaration? lower = .ok (some declaration))
    (isTrait : declaration.trait? = some body)
    (followed : List.Forall₂
      (fun bound target => supertrait? host interface declaration bound = .ok target)
      body.supertraits targets) {upper : Nat} :
    upper ∈ targets.filterMap id ↔ Supertrait host lower upper := by
  simp only [List.mem_filterMap, id_eq, exists_eq_right]
  constructor
  · intro member
    obtain ⟨bound, isBound, leads⟩ := partner_of_mem_right followed member
    obtain ⟨segments, rfl, ⟨_, isNone⟩ | ⟨notAuto, name, found, resolved, isFound, isSome⟩⟩ :=
      supertrait?_eq_ok.mp leads
    · cases isNone
    · cases isSome
      exact ⟨_, _, segments, name, declared, isTrait, isBound, notAuto, resolved, isFound⟩
  · rintro ⟨other, _, segments, name, declaredAgain, declares, isBound, notAuto, resolved, found⟩
    cases declared.symm.trans declaredAgain
    cases isTrait.symm.trans declares
    obtain ⟨target, isTarget, leads⟩ := partner_of_mem_left followed isBound
    have leadsUp : supertrait? host interface declaration (.path segments []) =
        .ok (some upper) :=
      supertrait?_eq_ok.mpr ⟨segments, rfl, .inr ⟨notAuto, name, upper, resolved, found, rfl⟩⟩
    cases leads.symm.trans leadsUp
    exact isTarget

/-- The name belongs to a declaration that supertraits lead to from `start`, itself included. -/
def InHierarchy (host : Host) (start : Nat) (name : String) : Prop :=
  ∃ reached declaration, Relation.ReflTransGen (Supertrait host) start reached ∧
    host.declaration? reached = .ok (some declaration) ∧ declaration.qualifiedName = name

/-! ### Parts of an interface -/

/-- A trait of an interface with the members it adds. -/
structure Part where
  id : Nat
  owner : Declaration
  body : TraitBody
  members : List Member

/-- The name under which the interface lists the trait. -/
def Part.name (part : Part) : String :=
  part.owner.qualifiedName

/-- The part is what its trait adds to the interface. -/
structure Part.BelongsTo (host : Host) (interface : String) (part : Part) : Prop where
  declared : host.declaration? part.id = .ok (some part.owner)
  included : includedTrait interface part.owner = .ok part.body
  members : ownMembers host interface part.owner part.body = .ok part.members

/-- The interface with further parts at its end. -/
def withParts (interface : Interface) (parts : List Part) : Interface where
  name := interface.name
  traits := interface.traits ++ parts.map Part.name
  properties :=
    interface.properties ++ parts.flatMap fun part => part.members.filterMap Member.property?
  methods := interface.methods ++ parts.flatMap fun part => part.members.filterMap Member.method?

@[simp] theorem withParts_nil (interface : Interface) : withParts interface [] = interface := by
  simp [withParts]

theorem withParts_append (interface : Interface) (first second : List Part) :
    withParts (withParts interface first) second = withParts interface (first ++ second) := by
  simp [withParts, List.append_assoc]

theorem withParts_cons (interface : Interface) (part : Part) (rest : List Part) :
    withParts (extend interface part.name part.members) rest =
      withParts interface (part :: rest) := by
  simp [withParts, extend, List.append_assoc]

/-! ### Walks -/

/-- A depth-first walk over the pending declarations, in which every trait that is not known yet
adds its part and puts its supertraits before what is pending. -/
inductive Walk (host : Host) (interface : String) :
    (known : List String) → (pending : List Nat) → (parts : List Part) → Prop where
  | done (known : List String) : Walk host interface known [] []
  | again {known : List String} {id : Nat} {pending : List Nat} {parts : List Part}
      {declaration : Declaration}
      (declared : host.declaration? id = .ok (some declaration))
      (repeated : declaration.qualifiedName ∈ known)
      (rest : Walk host interface known pending parts) :
      Walk host interface known (id :: pending) parts
  | enter {known : List String} {pending : List Nat} {parts : List Part} {part : Part}
      {targets : List (Option Nat)}
      (belongs : part.BelongsTo host interface)
      (fresh : part.name ∉ known)
      (followed : List.Forall₂
        (fun bound target => supertrait? host interface part.owner bound = .ok target)
        part.body.supertraits targets)
      (rest : Walk host interface (known ++ [part.name]) (targets.filterMap id ++ pending) parts) :
      Walk host interface known (part.id :: pending) (part :: parts)

/-- Bounds that are visited one after the other walk over the supertraits they name. -/
private theorem bounds_walk {host : Host} {fuel : Nat} {owner : Declaration}
    (visits : ∀ {id : Nat} {before after : Interface}, visit host fuel id before = .ok after →
      ∃ parts, after = withParts before parts ∧ ∀ pending later,
        Walk host before.name after.traits pending later →
          Walk host before.name before.traits (id :: pending) (parts ++ later))
    {bounds : List TypeSyntax} {before after : Interface}
    (visited : bounds.foldlM (fun interface bound => do
      match ← supertrait? host interface.name owner bound with
      | none => pure interface
      | some supertrait => visit host fuel supertrait interface) before = .ok after) :
    ∃ parts targets, after = withParts before parts ∧
      List.Forall₂ (fun bound target => supertrait? host before.name owner bound = .ok target)
        bounds targets ∧
      ∀ pending later, Walk host before.name after.traits pending later →
        Walk host before.name before.traits (targets.filterMap id ++ pending) (parts ++ later) := by
  induction bounds generalizing before with
  | nil =>
      rw [List.foldlM_nil, pure_eq_ok] at visited
      subst visited
      exact ⟨[], [], by simp, .nil, fun _ _ walk => walk⟩
  | cons bound rest inductionHypothesis =>
      rw [List.foldlM_cons, bind_eq_ok] at visited
      obtain ⟨middle, stepped, remaining⟩ := visited
      obtain ⟨target, followed, continued⟩ := bind_eq_ok.mp stepped
      cases target with
      | none =>
          rw [pure_eq_ok] at continued
          subst continued
          obtain ⟨parts, targets, isAfter, areTargets, goesOn⟩ := inductionHypothesis remaining
          exact ⟨parts, none :: targets, isAfter, .cons followed areTargets, goesOn⟩
      | some upper =>
          obtain ⟨first, isMiddle, enters⟩ := visits continued
          obtain ⟨parts, targets, isAfter, areTargets, goesOn⟩ := inductionHypothesis remaining
          have sameName : middle.name = before.name := by rw [isMiddle]; rfl
          rw [sameName] at areTargets goesOn
          refine ⟨first ++ parts, some upper :: targets, ?_, .cons followed areTargets, ?_⟩
          · rw [isAfter, isMiddle, withParts_append]
          · intro pending later walk
            rw [List.append_assoc]
            exact enters _ _ (goesOn pending later walk)

/-- A successful visit is a walk that starts at the visited trait. -/
theorem visit_walk {host : Host} {fuel id : Nat} {before after : Interface}
    (visited : visit host fuel id before = .ok after) :
    ∃ parts, after = withParts before parts ∧ ∀ pending later,
      Walk host before.name after.traits pending later →
        Walk host before.name before.traits (id :: pending) (parts ++ later) := by
  induction fuel generalizing id before after with
  | zero => exact absurd visited Attempt.fail_ne_ok
  | succ fuel inductionHypothesis =>
      rw [visit, bind_eq_ok] at visited
      obtain ⟨found, declared, continued⟩ := visited
      rw [declaration_eq_ok] at declared
      by_cases known : before.traits.contains found.qualifiedName = true
      · rw [if_pos known, pure_eq_ok] at continued
        subst continued
        refine ⟨[], by simp, fun pending later walk => ?_⟩
        exact .again declared (by simpa using known) walk
      · rw [if_neg known, bind_eq_ok] at continued
        obtain ⟨body, included, continued⟩ := continued
        obtain ⟨members, areMembers, continued⟩ := bind_eq_ok.mp continued
        obtain ⟨parts, targets, isAfter, followed, goesOn⟩ :=
          bounds_walk inductionHypothesis continued
        let part : Part := ⟨id, found, body, members⟩
        refine ⟨part :: parts, ?_, fun pending later walk => ?_⟩
        · rw [isAfter]
          exact withParts_cons before part parts
        · have fresh : part.name ∉ before.traits := by simpa [part, Part.name] using known
          show Walk host before.name before.traits (part.id :: pending) (part :: parts ++ later)
          exact .enter ⟨declared, included, areMembers⟩ fresh followed
            (goesOn pending later walk)

/-- An enumeration is the visit of a declared trait. -/
theorem enumerate_eq_ok {host : Host} {id : Nat} {interface : Interface} :
    enumerate host id = .ok interface ↔
      ∃ found body, host.declaration? id = .ok (some found) ∧ found.trait? = some body ∧
        visit host (host.size + 1) id (.empty found.qualifiedName) = .ok interface := by
  simp only [enumerate, bind_eq_ok, declaration_eq_ok]
  refine exists_congr fun found => ?_
  cases found.trait? with
  | none => simp
  | some body => simp

/-- An enumerated interface consists of the parts of a walk that starts at its trait. -/
theorem enumerate_walk {host : Host} {id : Nat} {interface : Interface}
    (enumerated : enumerate host id = .ok interface) :
    ∃ parts, interface = withParts (.empty interface.name) parts ∧
      Walk host interface.name [] [id] parts := by
  obtain ⟨found, _, _, _, visited⟩ := enumerate_eq_ok.mp enumerated
  obtain ⟨parts, isInterface, walks⟩ := visit_walk visited
  have sameName : interface.name = found.qualifiedName := by rw [isInterface]; rfl
  rw [sameName]
  exact ⟨parts, isInterface, by simpa [Interface.empty] using walks [] [] (.done _)⟩

/-- An interface is named after the trait that is asked for. -/
theorem enumerate_start {host : Host} {id : Nat} {interface : Interface}
    (enumerated : enumerate host id = .ok interface) :
    ∃ declaration, host.declaration? id = .ok (some declaration) ∧
      declaration.qualifiedName = interface.name := by
  obtain ⟨found, _, declared, _, visited⟩ := enumerate_eq_ok.mp enumerated
  obtain ⟨parts, isInterface, _⟩ := visit_walk visited
  refine ⟨found, declared, ?_⟩
  rw [isInterface]
  rfl

namespace Walk

variable {host : Host} {interface : String} {known : List String} {pending : List Nat}
  {parts : List Part}

theorem belongs (walk : Walk host interface known pending parts) :
    ∀ part ∈ parts, part.BelongsTo host interface := by
  induction walk with
  | done known => simp
  | again declared repeated rest inductionHypothesis => exact inductionHypothesis
  | enter belongs fresh followed rest inductionHypothesis =>
      intro part member
      rcases List.mem_cons.mp member with rfl | later
      · exact belongs
      · exact inductionHypothesis part later

/-- All bounds of a trait that is entered are followed. -/
theorem followed (walk : Walk host interface known pending parts) :
    ∀ part ∈ parts, ∃ targets, List.Forall₂
      (fun bound target => supertrait? host interface part.owner bound = .ok target)
      part.body.supertraits targets := by
  induction walk with
  | done known => simp
  | again declared repeated rest inductionHypothesis => exact inductionHypothesis
  | enter belongs fresh followed rest inductionHypothesis =>
      intro part member
      rcases List.mem_cons.mp member with rfl | later
      · exact ⟨_, followed⟩
      · exact inductionHypothesis part later

/-- No trait is entered twice, and none that was known before. -/
theorem names_nodup (walk : Walk host interface known pending parts) :
    (parts.map Part.name).Nodup ∧ ∀ part ∈ parts, part.name ∉ known := by
  induction walk with
  | done known => simp
  | again declared repeated rest inductionHypothesis => exact inductionHypothesis
  | @enter known pending parts part targets belongs fresh followed rest inductionHypothesis =>
      obtain ⟨nodup, unknown⟩ := inductionHypothesis
      constructor
      · rw [List.map_cons, List.nodup_cons]
        refine ⟨fun member => ?_, nodup⟩
        obtain ⟨other, isLater, same⟩ := List.mem_map.mp member
        exact unknown other isLater (by simp [same])
      · intro other member
        rcases List.mem_cons.mp member with rfl | later
        · exact fresh
        · exact fun wasKnown => unknown other later (List.mem_append_left _ wasKnown)

/-- The declarations that the bounds of a part lead to are its supertraits. -/
private theorem mem_targets {part : Part} {targets : List (Option Nat)}
    (belongs : part.BelongsTo host interface)
    (followed : List.Forall₂
      (fun bound target => supertrait? host interface part.owner bound = .ok target)
      part.body.supertraits targets) {upper : Nat} :
    upper ∈ targets.filterMap id ↔ Supertrait host part.id upper :=
  mem_targets_iff belongs.declared (includedTrait_eq_ok.mp belongs.included).1 followed

/-- Supertraits lead from some pending declaration to every trait that is entered. -/
theorem reached (walk : Walk host interface known pending parts) :
    ∀ part ∈ parts, ∃ start ∈ pending,
      Relation.ReflTransGen (Supertrait host) start part.id := by
  induction walk with
  | done known => simp
  | @again known id pending parts declaration declared repeated rest inductionHypothesis =>
      intro part member
      obtain ⟨start, isPending, leads⟩ := inductionHypothesis part member
      exact ⟨start, List.mem_cons_of_mem id isPending, leads⟩
  | @enter known pending parts part targets belongs fresh followed rest inductionHypothesis =>
      intro other member
      rcases List.mem_cons.mp member with rfl | later
      · exact ⟨other.id, by simp, .refl⟩
      · obtain ⟨start, isPending, leads⟩ := inductionHypothesis other later
        rcases List.mem_append.mp isPending with isTarget | waiting
        · exact ⟨part.id, by simp, .head ((mem_targets belongs followed).mp isTarget) leads⟩
        · exact ⟨start, List.mem_cons_of_mem part.id waiting, leads⟩

/-- Every pending declaration and every supertrait of an entered one ends up known or entered. -/
theorem covers (walk : Walk host interface known pending parts) {id : Nat}
    (wanted : id ∈ pending ∨ ∃ part ∈ parts, Supertrait host part.id id) {declaration : Declaration}
    (declared : host.declaration? id = .ok (some declaration)) :
    declaration.qualifiedName ∈ known ++ parts.map Part.name := by
  induction walk with
  | done known => simp at wanted
  | @again known first pending parts repeatedOne declaredOne repeated rest inductionHypothesis =>
      rcases wanted with waiting | upwards
      · rcases List.mem_cons.mp waiting with rfl | later
        · cases declared.symm.trans declaredOne
          exact List.mem_append_left _ repeated
        · exact inductionHypothesis (.inl later)
      · exact inductionHypothesis (.inr upwards)
  | @enter known pending parts part targets belongs fresh followed rest inductionHypothesis =>
      have regrouped : known ++ (part :: parts).map Part.name =
          known ++ [part.name] ++ parts.map Part.name := by simp
      rw [regrouped]
      rcases wanted with waiting | ⟨lower, isPart, upwards⟩
      · rcases List.mem_cons.mp waiting with rfl | later
        · cases declared.symm.trans belongs.declared
          simp [Part.name]
        · exact inductionHypothesis (.inl (List.mem_append_right _ later))
      · rcases List.mem_cons.mp isPart with rfl | later
        · have isTarget := (mem_targets belongs followed).mpr upwards
          exact inductionHypothesis (.inl (List.mem_append_left _ isTarget))
        · exact inductionHypothesis (.inr ⟨lower, later, upwards⟩)

end Walk

/-- Qualified names tell the declarations of a host apart. -/
def DistinctNames (host : Host) : Prop :=
  ∀ {first second : Nat} {left right : Declaration},
    host.declaration? first = .ok (some left) → host.declaration? second = .ok (some right) →
      left.qualifiedName = right.qualifiedName → first = second

theorem distinctNames_of_nodup {table : SymbolTable}
    (distinct : (table.declarations.map Declaration.qualifiedName).Nodup) :
    DistinctNames table.host := by
  intro first second left right isLeft isRight sameName
  have leftAt : table.declarations[first]? = some left := Except.ok.inj isLeft
  have rightAt : table.declarations[second]? = some right := Except.ok.inj isRight
  obtain ⟨inRange, _⟩ := List.getElem?_eq_some_iff.mp leftAt
  apply (List.getElem?_inj (by simpa using inRange) distinct).mp
  rw [List.getElem?_map, List.getElem?_map, leftAt, rightAt, Option.map_some, Option.map_some,
    sameName]

/-- Every declared trait that supertraits lead to from the start is entered itself. -/
theorem Walk.entered {host : Host} {interface : String} {start reached : Nat}
    {parts : List Part} (distinct : DistinctNames host)
    (walk : Walk host interface [] [start] parts)
    (leads : Relation.ReflTransGen (Supertrait host) start reached) {declaration : Declaration}
    (declared : host.declaration? reached = .ok (some declaration)) :
    ∃ part ∈ parts, part.id = reached := by
  have enteredAs : ∀ {id : Nat} {found : Declaration},
      host.declaration? id = .ok (some found) → found.qualifiedName ∈ parts.map Part.name →
        ∃ part ∈ parts, part.id = id := by
    intro id found isDeclared member
    obtain ⟨part, isPart, sameName⟩ := List.mem_map.mp member
    exact ⟨part, isPart, distinct (walk.belongs part isPart).declared isDeclared sameName⟩
  induction leads generalizing declaration with
  | refl => exact enteredAs declared (by simpa using walk.covers (.inl (by simp)) declared)
  | @tail lower upper before last inductionHypothesis =>
      have lowerDeclares := last
      obtain ⟨found, _, _, _, foundAt, _⟩ := lowerDeclares
      obtain ⟨part, isPart, rfl⟩ := inductionHypothesis foundAt
      have covered := walk.covers (.inr ⟨part, isPart, last⟩) declared
      exact enteredAs declared (by simpa using covered)

/-- A walk from one trait enters exactly the traits of its hierarchy. -/
theorem Walk.mem_names_iff {host : Host} {interface : String} {start : Nat} {parts : List Part}
    (distinct : DistinctNames host) (walk : Walk host interface [] [start] parts)
    {name : String} : name ∈ parts.map Part.name ↔ InHierarchy host start name := by
  constructor
  · intro member
    obtain ⟨part, isPart, rfl⟩ := List.mem_map.mp member
    obtain ⟨origin, isPending, leads⟩ := walk.reached part isPart
    rw [List.mem_singleton.mp isPending] at leads
    exact ⟨part.id, part.owner, leads, (walk.belongs part isPart).declared, rfl⟩
  · rintro ⟨reached, declaration, leads, declared, rfl⟩
    obtain ⟨part, isPart, rfl⟩ := walk.entered distinct leads declared
    cases (walk.belongs part isPart).declared.symm.trans declared
    exact List.mem_map_of_mem isPart

end ForwardingProxy.Enumeration
