import ForwardingProxy.Proofs.Enumeration.Walk
import ForwardingProxy.Proofs.SymbolTable.Matching

/-!
Contract: bounds that are spelled like auto traits.

Owns: `SpelledAuto`, the spellings that a bound is passed over for, `withoutAutoBounds`, which takes
such bounds away, the fact that interfaces are the same without them, and the fact that an interface
is closed under all other bounds.

A bound is passed over before it is resolved. So it does not matter whether its path means an auto
trait, a trait of the program, or nothing.
-/

namespace ForwardingProxy

open Enumeration (isAutoTrait autoTraits)

/-! ### Spellings -/

/-- The path is the name of an auto trait alone, or begins with a standard crate and ends in such a
name. -/
inductive SpelledAuto : List String → Prop where
  | alone {name : String} (isAuto : name ∈ autoTraits) : SpelledAuto [name]
  | rooted {root name : String} (middle : List String) (isRoot : root = "std" ∨ root = "core")
      (isAuto : name ∈ autoTraits) : SpelledAuto (root :: (middle ++ [name]))

theorem isAutoTrait_iff {segments : List String} :
    isAutoTrait segments = true ↔ SpelledAuto segments := by
  unfold isAutoTrait
  simp only [Bool.and_eq_true, Bool.or_eq_true, beq_iff_eq, Option.any_eq_true,
    List.contains_iff_mem, List.getLast?_eq_some_iff]
  constructor
  · rintro ⟨⟨name, ⟨before, rfl⟩, isAuto⟩, isShort⟩
    cases before with
    | nil => exact .alone isAuto
    | cons root middle =>
        refine .rooted middle ?_ isAuto
        simpa using isShort
  · rintro (isAuto | ⟨middle, isRoot, isAuto⟩)
    · exact ⟨⟨_, ⟨[], rfl⟩, isAuto⟩, by simp⟩
    · exact ⟨⟨_, ⟨_ :: middle, rfl⟩, isAuto⟩, by simpa using isRoot⟩

/-- Whether a bound is passed over. -/
def TypeSyntax.isAutoBound : TypeSyntax → Bool
  | .path segments [] => isAutoTrait segments
  | _ => false

theorem TypeSyntax.isAutoBound_iff {bound : TypeSyntax} :
    bound.isAutoBound = true ↔ ∃ segments, bound = .path segments [] ∧ SpelledAuto segments := by
  constructor
  · intro isAuto
    match bound, isAuto with
    | .path segments [], isAuto => exact ⟨segments, rfl, isAutoTrait_iff.mp isAuto⟩
  · rintro ⟨segments, rfl, isAuto⟩
    exact isAutoTrait_iff.mpr isAuto

/-! ### Tables without such bounds -/

/-- The trait without the bounds that are passed over. -/
def TraitBody.withoutAutoBounds (body : TraitBody) : TraitBody :=
  { body with supertraits := body.supertraits.filter fun bound => !bound.isAutoBound }

/-- The declaration without the bounds that are passed over. -/
def Declaration.withoutAutoBounds (declaration : Declaration) : Declaration :=
  { declaration with
    kind := match declaration.kind with
      | .trait body => .trait body.withoutAutoBounds
      | other => other }

/-- The table whose traits have lost the bounds that are passed over. -/
def SymbolTable.withoutAutoBounds (table : SymbolTable) : SymbolTable :=
  { table with declarations := table.declarations.map Declaration.withoutAutoBounds }

theorem Declaration.trait?_withoutAutoBounds (declaration : Declaration) :
    declaration.withoutAutoBounds.trait? =
      declaration.trait?.map TraitBody.withoutAutoBounds := by
  unfold withoutAutoBounds Declaration.trait?
  cases declaration.kind <;> rfl

theorem Declaration.describe_withoutAutoBounds (declaration : Declaration) :
    declaration.withoutAutoBounds.kind.describe = declaration.kind.describe := by
  unfold withoutAutoBounds
  cases declaration.kind <;> rfl

namespace SymbolTable

variable (table : SymbolTable)

theorem declaration?_withoutAutoBounds (id : Nat) :
    table.withoutAutoBounds.declaration? id =
      (table.declaration? id).map Declaration.withoutAutoBounds :=
  List.getElem?_map

theorem find?_withoutAutoBounds : table.withoutAutoBounds.find? = table.find? := by
  funext name
  show (table.declarations.map Declaration.withoutAutoBounds).findIdx? _ = _
  rw [List.findIdx?_map]
  rfl

theorem resolve?_withoutAutoBounds : table.withoutAutoBounds.resolve? = table.resolve? := by
  have declared : ∀ name, table.withoutAutoBounds.declares name = table.declares name := by
    intro name
    show (table.declarations.map Declaration.withoutAutoBounds).any _ = _
    rw [List.any_map]
    rfl
  funext scope path
  exact @resolve?_congr table.withoutAutoBounds table (fun _ => rfl) declared scope scope rfl path

end SymbolTable

/-! ### Interfaces -/

namespace Enumeration

variable (table : SymbolTable)

theorem declaration_withoutAutoBounds (id : Nat) :
    declaration table.withoutAutoBounds.host id =
      Declaration.withoutAutoBounds <$> declaration table.host id := by
  unfold declaration
  rw [SymbolTable.host_declaration?, SymbolTable.host_declaration?,
    table.declaration?_withoutAutoBounds]
  cases table.declaration? id with
  | none => rfl
  | some found => rfl

theorem namesTrait_withoutAutoBounds (name : String) :
    Resolution.namesTrait table.withoutAutoBounds.host name =
      Resolution.namesTrait table.host name := by
  unfold Resolution.namesTrait
  rw [SymbolTable.host_find?, SymbolTable.host_find?, table.find?_withoutAutoBounds]
  cases table.find? name with
  | none => rfl
  | some id =>
      simp only [Attempt.ask, ok_bind, SymbolTable.host_declaration?,
        table.declaration?_withoutAutoBounds]
      cases table.declaration? id with
      | none => rfl
      | some found =>
          simp only [Option.map_some, found.trait?_withoutAutoBounds, Option.isSome_map]

theorem ownMembers_withoutAutoBounds (interface : String) (owner : Declaration)
    (body : TraitBody) :
    ownMembers table.withoutAutoBounds.host interface owner.withoutAutoBounds
      body.withoutAutoBounds = ownMembers table.host interface owner body := by
  have sameName : owner.withoutAutoBounds.qualifiedName = owner.qualifiedName := rfl
  have resolves : ∀ path,
      table.withoutAutoBounds.host.resolve? owner.withoutAutoBounds.scope path =
        table.host.resolve? owner.scope path := fun path => by
    rw [SymbolTable.host_resolve?, SymbolTable.host_resolve?, table.resolve?_withoutAutoBounds]
    rfl
  exact ownMembers_congr (namesTrait_withoutAutoBounds table) sameName resolves interface body

theorem supertrait?_withoutAutoBounds (interface : String) (owner : Declaration)
    (bound : TypeSyntax) :
    supertrait? table.withoutAutoBounds.host interface owner.withoutAutoBounds bound =
      supertrait? table.host interface owner bound := by
  unfold supertrait?
  simp only [SymbolTable.host_resolve?, SymbolTable.host_find?, table.resolve?_withoutAutoBounds,
    table.find?_withoutAutoBounds]
  rfl

theorem includedTrait_withoutAutoBounds (interface : String) (owner : Declaration) :
    includedTrait interface owner.withoutAutoBounds =
      TraitBody.withoutAutoBounds <$> includedTrait interface owner := by
  unfold includedTrait
  rw [owner.trait?_withoutAutoBounds, owner.describe_withoutAutoBounds]
  cases owner.trait? with
  | none => rfl
  | some body =>
      show (if body.generic then _ else if !owner.visible then _ else _) = _ <$> _
      cases generic : body.generic with
      | true => simp only [generic, if_true]; rfl
      | false =>
          simp only [generic, Bool.false_eq_true, if_false]
          cases owner.visible <;> rfl

/-- Elements for which a step does nothing may be left out. -/
theorem foldlM_filter {α β : Type} {step : β → α → Attempt β} {isDropped : α → Bool}
    (idle : ∀ element, isDropped element = true → ∀ state, step state element = pure state)
    (elements : List α) (start : β) :
    (elements.filter fun element => !isDropped element).foldlM step start =
      elements.foldlM step start := by
  induction elements generalizing start with
  | nil => rfl
  | cons element rest inductionHypothesis =>
      rw [List.foldlM_cons]
      by_cases dropped : isDropped element = true
      · rw [List.filter_cons_of_neg (by simp [dropped]), idle element dropped start]
        exact inductionHypothesis start
      · rw [List.filter_cons_of_pos (by simp [dropped]), List.foldlM_cons]
        exact bind_congr fun state => inductionHypothesis state

theorem supertrait?_of_isAutoBound {host : Host} {bound : TypeSyntax}
    (isAuto : bound.isAutoBound = true) (interface : String) (owner : Declaration) :
    supertrait? host interface owner bound = pure none := by
  obtain ⟨segments, rfl, spelled⟩ := TypeSyntax.isAutoBound_iff.mp isAuto
  exact supertrait?_eq_ok.mpr ⟨segments, rfl, .inl ⟨isAutoTrait_iff.mpr spelled, rfl⟩⟩

/-- To visit a trait does the same without the bounds that are passed over. -/
theorem visit_withoutAutoBounds (fuel id : Nat) (interface : Interface) :
    visit table.withoutAutoBounds.host fuel id interface =
      visit table.host fuel id interface := by
  induction fuel generalizing id interface with
  | zero => rfl
  | succ fuel inductionHypothesis =>
      rw [visit, visit, declaration_withoutAutoBounds, bind_map_left]
      refine bind_congr fun found => ?_
      by_cases visited : interface.traits.contains found.qualifiedName = true
      · rw [if_pos visited]
        exact if_pos visited
      · rw [if_neg visited]
        refine (if_neg visited).trans ?_
        rw [includedTrait_withoutAutoBounds, bind_map_left]
        refine bind_congr fun body => ?_
        rw [ownMembers_withoutAutoBounds]
        refine bind_congr fun members => ?_
        simp only [supertrait?_withoutAutoBounds, inductionHypothesis]
        refine foldlM_filter (fun bound isAuto state => ?_) body.supertraits _
        rw [supertrait?_of_isAutoBound isAuto]
        rfl

/-- The interface of a trait is the same without the bounds that are passed over. -/
theorem enumerate_withoutAutoBounds (id : Nat) :
    enumerate table.withoutAutoBounds.host id = enumerate table.host id := by
  unfold enumerate
  rw [declaration_withoutAutoBounds, bind_map_left]
  refine bind_congr fun found => ?_
  have sameSize : table.withoutAutoBounds.host.size = table.host.size := List.length_map _
  rw [found.trait?_withoutAutoBounds, found.describe_withoutAutoBounds, sameSize]
  cases found.trait? with
  | none => rfl
  | some body => exact visit_withoutAutoBounds table _ id _

/-! ### Closure -/

variable {table}

/-- What becomes of a bound of a trait that is listed: it is passed over for its spelling, or the
declaration that it means is listed, too. -/
inductive Treated (table : SymbolTable) (owner : Declaration) (traits : List String) :
    TypeSyntax → Prop where
  | passedOver {segments : List String} (spelled : SpelledAuto segments) :
      Treated table owner traits (.path segments [])
  | followed {segments : List String} {name : String} {upper : Nat}
      (notSpelled : ¬SpelledAuto segments)
      (means : table.resolve? owner.scope segments = some name)
      (found : table.find? name = some upper)
      (listed : name ∈ traits) :
      Treated table owner traits (.path segments [])

/-- The bound is a path that means a declared trait of that name in the scope of its owner. -/
def MeansTrait (table : SymbolTable) (owner : Declaration) (bound : TypeSyntax) (name : String) :
    Prop :=
  ∃ segments arguments id found body, bound = .path segments arguments ∧
    table.resolve? owner.scope segments = some name ∧ table.find? name = some id ∧
      table.declaration? id = some found ∧ found.kind = .trait body

theorem Treated.lists {owner : Declaration} {traits : List String} {bound : TypeSyntax}
    (treated : Treated table owner traits bound) {name : String}
    (means : MeansTrait table owner bound name) :
    name ∈ traits ∨ bound.isAutoBound = true := by
  obtain ⟨_, _, _, _, _, isPath, meansName, _⟩ := means
  cases treated with
  | passedOver spelled => exact .inr (isAutoTrait_iff.mpr spelled)
  | followed _ meansOther _ listed =>
      cases isPath
      cases meansName.symm.trans meansOther
      exact .inl listed

/-- Every bound of a trait that a walk enters is passed over or leads to a trait it enters, too. -/
theorem Walk.treated {interface : String} {start : Nat} {parts : List Part}
    (walk : Walk table.host interface [] [start] parts) {part : Part} (isPart : part ∈ parts)
    {bound : TypeSyntax} (isBound : bound ∈ part.body.supertraits) :
    Treated table part.owner (parts.map Part.name) bound := by
  have belongs := walk.belongs part isPart
  obtain ⟨targets, followed⟩ := walk.followed part isPart
  obtain ⟨target, isTarget, leads⟩ := partner_of_mem_left followed isBound
  obtain ⟨segments, rfl, ⟨isAuto, _⟩ | ⟨notAuto, name, upper, means, found, _⟩⟩ :=
    supertrait?_eq_ok.mp leads
  · exact .passedOver (isAutoTrait_iff.mp isAuto)
  · have upwards : Supertrait table.host part.id upper :=
      ⟨part.owner, part.body, segments, name, belongs.declared,
        (includedTrait_eq_ok.mp belongs.included).1, isBound, notAuto, means, found⟩
    obtain ⟨declaration, declared, rfl⟩ := SymbolTable.find?_eq_some (Except.ok.inj found)
    have listed := walk.covers (.inr ⟨part, isPart, upwards⟩) (congrArg Except.ok declared)
    refine .followed ?_ (Except.ok.inj means) (Except.ok.inj found) (by simpa using listed)
    rw [← isAutoTrait_iff, notAuto]
    exact Bool.false_ne_true

/-- Bounds that are spelled like auto traits have no part in an interface, whatever they mean. Of
all other bounds, the interface lists what they mean; so a declared trait that a bound means is
missing only where the bound is spelled like an auto trait. -/
theorem enumerate_skips_by_spelling (table : SymbolTable) (id : Nat) :
    enumerate table.withoutAutoBounds.host id = enumerate table.host id ∧
      ∀ interface, enumerate table.host id = .ok interface →
        ∃ visited : List Declaration,
          visited.map Declaration.qualifiedName = interface.traits ∧
            ∀ owner ∈ visited, owner ∈ table.declarations ∧
              ∃ body, owner.kind = .trait body ∧
                ∀ bound ∈ body.supertraits, Treated table owner interface.traits bound ∧
                  ∀ name, MeansTrait table owner bound name →
                    name ∈ interface.traits ∨ bound.isAutoBound = true := by
  refine ⟨enumerate_withoutAutoBounds table id, fun interface enumerated => ?_⟩
  obtain ⟨parts, areParts, walk⟩ := enumerate_walk enumerated
  have traits : interface.traits = parts.map Part.name := by
    rw [areParts]
    rfl
  refine ⟨parts.map Part.owner, ?_, ?_⟩
  · rw [traits, List.map_map]
    rfl
  · intro owner isOwner
    obtain ⟨part, isPart, rfl⟩ := List.mem_map.mp isOwner
    have belongs := walk.belongs part isPart
    have isTrait := (includedTrait_eq_ok.mp belongs.included).1
    refine ⟨List.mem_of_getElem? (Except.ok.inj belongs.declared), part.body,
      Declaration.trait?_eq_some.mp isTrait, fun bound isBound => ?_⟩
    have treated := walk.treated isPart isBound
    rw [← traits] at treated
    exact ⟨treated, fun name means => treated.lists means⟩

/-- A program with a trait that is called like an auto trait, and two traits below it. -/
def radioTable : SymbolTable where
  scopes := [.new "crate" none]
  declarations := [
    ⟨"Send", "crate", 0,
      .trait ⟨false, [], [.method ⟨"transmit", some .shared, [], none, false, false⟩]⟩, [], none,
      true⟩,
    ⟨"Radio", "crate", 0, .trait ⟨false, [.path ["Send"] []], []⟩, [], none, true⟩,
    ⟨"Phone", "crate", 0, .trait ⟨false, [.path ["crate", "Send"] []], []⟩, [], none, true⟩]
  facts := []
  announced := []

theorem radioTable_skips_by_spelling :
    radioTable.resolve? 0 ["Send"] = some "crate::Send" ∧
      enumerate radioTable.withoutAutoBounds.host 1 = enumerate radioTable.host 1 ∧
      enumerate radioTable.host 1 = .ok ⟨"crate::Radio", ["crate::Radio"], [], []⟩ ∧
      ∃ interface, enumerate radioTable.host 2 = .ok interface ∧
        "crate::Send" ∈ interface.traits :=
  ⟨rfl, (enumerate_skips_by_spelling radioTable 1).1, rfl, _, rfl, by decide⟩

end Enumeration

end ForwardingProxy
