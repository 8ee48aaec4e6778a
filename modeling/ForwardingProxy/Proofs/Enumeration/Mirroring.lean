import ForwardingProxy.Proofs.Attempt
import ForwardingProxy.Enumeration

/-!
Contract: hosts that give the same answers under other numbers.

Owns: `Host.Mirrors`, which relates two hosts whose declarations correspond under a relation between
their numbers, and the fact that types resolve alike and interfaces are the same for both.

The numbers themselves show in no result: a failure names a number only where nothing is declared,
and there corresponding numbers are asked to be equal. Attributes and locations are not compared,
since no interface depends on them.
-/

namespace ForwardingProxy

/-- Declarations that an interface takes the same from. -/
structure Declaration.Alike (left right : Declaration) : Prop where
  name : left.qualifiedName = right.qualifiedName
  kind : left.kind = right.kind
  visible : left.visible = right.visible

theorem Declaration.Alike.trait? {left right : Declaration} (alike : left.Alike right) :
    left.trait? = right.trait? := by
  unfold Declaration.trait?
  rw [alike.kind]

/-- The answers about a declaration correspond: both are broken off alike, or nothing is declared
under the one number that both were asked for, or both declare alike and resolve paths alike. -/
inductive Host.Declared (left right : Host) (first second : Nat) : Prop where
  | broken {fault : Fault} (isLeft : left.declaration? first = .error fault)
      (isRight : right.declaration? second = .error fault)
  | missing (sameNumber : first = second) (isLeft : left.declaration? first = .ok none)
      (isRight : right.declaration? second = .ok none)
  | present {one other : Declaration} (isLeft : left.declaration? first = .ok (some one))
      (isRight : right.declaration? second = .ok (some other)) (alike : one.Alike other)
      (resolves : ∀ path, left.resolve? one.scope path = right.resolve? other.scope path)

/-- The answers to the search for a name correspond. -/
inductive Host.Found (left right : Host) (same : Nat → Nat → Prop) (name : String) : Prop where
  | broken {fault : Fault} (isLeft : left.find? name = .error fault)
      (isRight : right.find? name = .error fault)
  | missing (isLeft : left.find? name = .ok none) (isRight : right.find? name = .ok none)
  | present {first second : Nat} (isLeft : left.find? name = .ok (some first))
      (isRight : right.find? name = .ok (some second)) (corresponds : same first second)

/-- Numbers that correspond stand for declarations that do, and every name leads to such numbers. -/
structure Host.Mirrors (left right : Host) (same : Nat → Nat → Prop) : Prop where
  declared : ∀ {first second}, same first second → left.Declared right first second
  found : ∀ name, left.Found right same name

variable {left right : Host} {same : Nat → Nat → Prop}

/-! ### Written types -/

namespace Resolution

theorem namesTrait_mirrors (mirrors : left.Mirrors right same) (name : String) :
    namesTrait left name = namesTrait right name := by
  unfold namesTrait
  cases mirrors.found name with
  | broken isLeft isRight => rw [isLeft, isRight]; rfl
  | missing isLeft isRight => rw [isLeft, isRight]; rfl
  | present isLeft isRight corresponds =>
      rw [isLeft, isRight]
      show (Attempt.ask (left.declaration? _) >>= _) = (Attempt.ask (right.declaration? _) >>= _)
      cases mirrors.declared corresponds with
      | broken isFirst isSecond => rw [isFirst, isSecond]
      | missing sameNumber isFirst isSecond => rw [isFirst, isSecond]
      | present isFirst isSecond alike resolves =>
          rw [isFirst, isSecond]
          exact congrArg (fun body => Except.ok (Option.isSome body)) alike.trait?

theorem resolvePath_congr (traits : ∀ name, namesTrait left name = namesTrait right name)
    {first second : Nat}
    (resolves : ∀ path, left.resolve? first path = right.resolve? second path) (owner : String)
    (type : TypeSyntax) (segments : List String) :
    resolvePath left owner first type segments = resolvePath right owner second type segments := by
  unfold resolvePath
  rw [resolves, funext traits]

mutual

/-- A type resolves alike where paths have the same meanings and the same names are traits. -/
theorem resolve_congr (traits : ∀ name, namesTrait left name = namesTrait right name)
    {first second : Nat}
    (resolves : ∀ path, left.resolve? first path = right.resolve? second path) (owner : String) :
    ∀ type, resolve left owner first type = resolve right owner second type
  | .unit => by rw [resolve, resolve]
  | .path segments arguments => by
      rw [resolve, resolve, resolvePath_congr traits resolves,
        resolveAll_congr traits resolves owner arguments]
  | .reference mutable inner => by rw [resolve, resolve]
  | .traitObject segments => by rw [resolve, resolve]
  | .unsupported text => by rw [resolve, resolve]

theorem resolveAll_congr (traits : ∀ name, namesTrait left name = namesTrait right name)
    {first second : Nat}
    (resolves : ∀ path, left.resolve? first path = right.resolve? second path) (owner : String) :
    ∀ types, resolveAll left owner first types = resolveAll right owner second types
  | [] => by rw [resolveAll, resolveAll]
  | type :: rest => by
      rw [resolveAll, resolveAll, resolve_congr traits resolves owner type,
        resolveAll_congr traits resolves owner rest]

end

end Resolution

/-! ### Interfaces -/

namespace Enumeration

open Resolution (namesTrait namesTrait_mirrors resolve_congr)

/-- What follows a bound does the same for both hosts if it does so for corresponding numbers. -/
theorem supertrait?_mirrors (mirrors : left.Mirrors right same) {one other : Declaration}
    (resolves : ∀ path, left.resolve? one.scope path = right.resolve? other.scope path)
    {α : Type} {ofLeft ofRight : Option Nat → Attempt α}
    (atEnd : ofLeft none = ofRight none)
    (further : ∀ {first second}, same first second → ofLeft (some first) = ofRight (some second))
    (interface : String) (bound : TypeSyntax) :
    supertrait? left interface one bound >>= ofLeft =
      supertrait? right interface other bound >>= ofRight := by
  cases bound with
  | path segments arguments =>
      cases arguments with
      | cons argument rest => rfl
      | nil =>
          by_cases isAuto : isAutoTrait segments = true
          · simp only [supertrait?, if_pos isAuto]
            exact atEnd
          · simp only [supertrait?, if_neg isAuto, resolves segments, bind_assoc]
            refine bind_congr fun resolved => bind_congr fun name => ?_
            cases mirrors.found name with
            | broken isLeft isRight => rw [isLeft, isRight]; rfl
            | missing isLeft isRight => rw [isLeft, isRight]; rfl
            | present isLeft isRight corresponds =>
                rw [isLeft, isRight]
                exact further corresponds
  | reference mutable inner => rfl
  | traitObject segments => rfl
  | unit => rfl
  | unsupported text => rfl

section Members

variable (traits : ∀ name, namesTrait left name = namesTrait right name)
  {one other : Declaration} (sameName : one.qualifiedName = other.qualifiedName)
  (resolves : ∀ path, left.resolve? one.scope path = right.resolve? other.scope path)

include traits sameName resolves

theorem parametersFrom_congr (place : Nat) (parameters : List ParameterSyntax) :
    parametersFrom left one place parameters = parametersFrom right other place parameters := by
  induction parameters generalizing place with
  | nil => rfl
  | cons parameter rest inductionHypothesis =>
      rw [parametersFrom, parametersFrom, sameName, resolve_congr traits resolves,
        inductionHypothesis]

theorem returnType_congr (written : Option TypeSyntax) :
    returnType left one written = returnType right other written := by
  cases written with
  | none => rfl
  | some type =>
      show Resolution.resolve left one.qualifiedName one.scope type = _
      rw [sameName]
      exact resolve_congr traits resolves _ type

theorem member?_congr (interface : String) (methods : List FunctionSignature)
    (signature : FunctionSignature) :
    member? left interface one methods signature =
      member? right interface other methods signature := by
  unfold member?
  simp only [sameName, resolve_congr traits resolves,
    parametersFrom_congr traits sameName resolves, returnType_congr traits sameName resolves]

/-- A trait of the same name and body declares the same members where its types resolve alike. -/
theorem ownMembers_congr (interface : String) (body : TraitBody) :
    ownMembers left interface one body = ownMembers right interface other body := by
  have sameMember := funext (member?_congr traits sameName resolves interface body.methods)
  unfold ownMembers
  rw [sameName, sameMember]

end Members

theorem includedTrait_alike {one other : Declaration} (alike : one.Alike other)
    (interface : String) : includedTrait interface one = includedTrait interface other := by
  unfold includedTrait
  rw [alike.name, alike.trait?, alike.kind, alike.visible]

/-- To look up corresponding declarations fails alike or gives declarations that correspond. -/
theorem declaration_mirrors {first second : Nat} (declared : left.Declared right first second) :
    (∃ stop, declaration left first = .error stop ∧ declaration right second = .error stop) ∨
      ∃ one other, declaration left first = .ok one ∧ declaration right second = .ok other ∧
        one.Alike other ∧ ∀ path, left.resolve? one.scope path = right.resolve? other.scope path := by
  unfold declaration
  cases declared with
  | broken isLeft isRight =>
      rw [isLeft, isRight]
      exact .inl ⟨_, rfl, rfl⟩
  | missing sameNumber isLeft isRight =>
      rw [isLeft, isRight, sameNumber]
      exact .inl ⟨_, rfl, rfl⟩
  | present isLeft isRight alike resolves =>
      rw [isLeft, isRight]
      exact .inr ⟨_, _, rfl, rfl, alike, resolves⟩

/-- Corresponding traits add the same to an interface. -/
theorem visit_mirrors (mirrors : left.Mirrors right same) (fuel : Nat) {first second : Nat}
    (corresponds : same first second) (interface : Interface) :
    visit left fuel first interface = visit right fuel second interface := by
  -- the numbers change from trait to trait, so they are general; the fuel is the same for both
  induction fuel generalizing first second interface with
  | zero => rfl
  | succ fuel inductionHypothesis =>
      rw [visit, visit]
      obtain ⟨stop, isLeft, isRight⟩ | ⟨one, other, isLeft, isRight, alike, resolves⟩ :=
        declaration_mirrors (mirrors.declared corresponds)
      · rw [isLeft, isRight, error_bind, error_bind]
      · rw [isLeft, isRight, ok_bind, ok_bind, alike.name, includedTrait_alike alike]
        by_cases visited : interface.traits.contains other.qualifiedName = true
        · rw [if_pos visited, if_pos visited]
        · rw [if_neg visited, if_neg visited]
          refine bind_congr fun body => ?_
          rw [ownMembers_congr (namesTrait_mirrors mirrors) alike.name resolves]
          refine bind_congr fun members => ?_
          refine congrArg (fun step => List.foldlM step _ body.supertraits) ?_
          funext state bound
          refine supertrait?_mirrors mirrors resolves ?_ ?_ state.name bound
          · rfl
          · exact fun corresponds => inductionHypothesis corresponds state

/-- Hosts of one size that mirror each other have the same interfaces. -/
theorem enumerate_mirrors (mirrors : left.Mirrors right same) (sameSize : left.size = right.size)
    {first second : Nat} (corresponds : same first second) :
    enumerate left first = enumerate right second := by
  unfold enumerate
  obtain ⟨stop, isLeft, isRight⟩ | ⟨one, other, isLeft, isRight, alike, resolves⟩ :=
    declaration_mirrors (mirrors.declared corresponds)
  · rw [isLeft, isRight, error_bind, error_bind]
  · rw [isLeft, isRight, ok_bind, ok_bind, alike.trait?, alike.name, alike.kind, sameSize,
      visit_mirrors mirrors _ corresponds]

end Enumeration

end ForwardingProxy
