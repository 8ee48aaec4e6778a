import ForwardingProxy.Proofs.ProxySource.Overrides
import Mathlib.Data.List.Flatten

/-!
Contract: when the calls that one trait is forwarded with tell its members apart.

Owns: `Interface.callsOf`, the calls of the members that a trait declares itself; `CallsApart`, what
keeps the calls of properties and methods apart; and the fact that, where method names differ,
nothing else makes two calls of a trait equal.

A property is called by its capitalized name behind `get` or `set`. Several names may share one
capitalized form, and methods are called by names of the same kind, so only types separate them.
-/

namespace ForwardingProxy

/-! ### Calls of one trait -/

namespace Interface

variable (interface : Interface) (trait : String)

/-- The properties that the trait declares itself. -/
def propertiesOf : List Property :=
  interface.properties.filter fun property => property.owner == trait

/-- The methods that the trait declares itself. -/
def methodsOf : List Method :=
  interface.methods.filter fun method => method.owner == trait

/-- The calls that the members of the trait are forwarded with. -/
def callsOf : List ForwardedCall :=
  (interface.forwardedMembers.filter fun member => member.owner == trait).map ForwardedMember.call

end Interface

/-- The calls of a property: to read it and, if it is mutable, to write it. -/
def Property.calls (property : Property) : List ForwardedCall :=
  (ForwardedMember.ofProperty property).map ForwardedMember.call

/-- The call of a method. -/
def Method.call (method : Method) : ForwardedCall :=
  (ForwardedMember.ofMethod method).call

/-- All accessors of a property belong to the trait that owns it. -/
private theorem filter_ofProperty (property : Property) (trait : String) :
    (ForwardedMember.ofProperty property).filter (fun member => member.owner == trait) =
      if property.owner == trait then ForwardedMember.ofProperty property else [] := by
  cases owned : property.owner == trait <;> cases mutable : property.mutable <;>
    simp [ForwardedMember.ofProperty, ForwardedMember.ofGetter, ForwardedMember.ofSetter, owned,
      mutable]

/-- The accessors that belong to a trait are those of the properties that do. -/
private theorem filter_accessors (properties : List Property) (trait : String) :
    (properties.flatMap ForwardedMember.ofProperty).filter (fun member => member.owner == trait) =
      (properties.filter fun property => property.owner == trait).flatMap
        ForwardedMember.ofProperty := by
  induction properties with
  | nil => rfl
  | cons property rest inductionHypothesis =>
      rw [List.flatMap_cons, List.filter_append, filter_ofProperty, inductionHypothesis,
        List.filter_cons]
      split
      · rw [List.flatMap_cons]
      · rw [List.nil_append]

/-- A trait is forwarded with the calls of its own properties, followed by those of its methods. -/
theorem Interface.callsOf_eq (interface : Interface) (trait : String) :
    interface.callsOf trait =
      (interface.propertiesOf trait).flatMap Property.calls
        ++ (interface.methodsOf trait).map Method.call := by
  have ofMethods : (interface.methods.map ForwardedMember.ofMethod).filter
        (fun member => member.owner == trait) =
      (interface.methodsOf trait).map ForwardedMember.ofMethod := by
    rw [List.filter_map]
    rfl
  rw [callsOf, forwardedMembers, List.filter_append, filter_accessors, ofMethods, List.map_append,
    List.map_flatMap, List.map_map]
  rfl

/-! ### Equal calls -/

namespace ForwardedCall

theorem getter_eq_getter {first second : String} {type other : ResolvedType} :
    getter first type = getter second other ↔
      Text.capitalize first = Text.capitalize second ∧ type = other := by
  simp [getter]

theorem setter_eq_setter {first second : String} {type other : ResolvedType} :
    setter first type = setter second other ↔
      Text.capitalize first = Text.capitalize second ∧ type = other := by
  simp [setter]

/-- Only a writing call takes an argument. -/
theorem getter_ne_setter {first second : String} {type other : ResolvedType} :
    getter first type ≠ setter second other := by
  simp [getter, setter]

end ForwardedCall

namespace Property

theorem mem_calls {property : Property} {call : ForwardedCall} :
    call ∈ property.calls ↔
      call = .getter property.name property.type ∨
        property.mutable = true ∧ call = .setter property.name property.type := by
  cases mutable : property.mutable <;>
    simp [calls, ForwardedMember.ofProperty, ForwardedMember.ofGetter, ForwardedMember.ofSetter,
      mutable]

theorem calls_nodup (property : Property) : property.calls.Nodup := by
  cases mutable : property.mutable <;>
    simp [calls, ForwardedMember.ofProperty, ForwardedMember.ofGetter, ForwardedMember.ofSetter,
      mutable, ForwardedCall.getter_ne_setter]

/-- Two properties share a call exactly when they are called by one name and have one type. Sharing
the writing call means sharing the reading one. -/
theorem disjoint_calls_iff {first second : Property} :
    List.Disjoint first.calls second.calls ↔
      (Text.capitalize first.name = Text.capitalize second.name → first.type ≠ second.type) := by
  constructor
  · intro disjoint sameName sameType
    have sameGetter := ForwardedCall.getter_eq_getter.mpr ⟨sameName, sameType⟩
    exact disjoint (mem_calls.mpr (.inl rfl)) (mem_calls.mpr (.inl sameGetter))
  · intro apart call ofFirst ofSecond
    rcases mem_calls.mp ofFirst with rfl | ⟨_, rfl⟩ <;>
      rcases mem_calls.mp ofSecond with same | ⟨_, same⟩
    · exact (ForwardedCall.getter_eq_getter.mp same).elim apart
    · exact ForwardedCall.getter_ne_setter same
    · exact ForwardedCall.getter_ne_setter same.symm
    · exact (ForwardedCall.setter_eq_setter.mp same).elim apart

end Property

/-! ### Separation -/

/-- The calls of properties and methods differ from each other by their names or their types. -/
structure CallsApart (properties : List Property) (methods : List Method) : Prop where
  /-- Properties with names that agree once they are capitalized have different types. -/
  pairs : properties.Pairwise fun first second =>
    Text.capitalize first.name = Text.capitalize second.name → first.type ≠ second.type
  /-- A method without parameters that is named as a reading call gives another type. -/
  getters : ∀ property ∈ properties, ∀ method ∈ methods,
    method.name = "get" ++ Text.capitalize property.name → method.parameters = [] →
      method.returnType ≠ property.type
  /-- A method that is named as a writing call and takes the written type does not give unit. -/
  setters : ∀ property ∈ properties, property.mutable = true → ∀ method ∈ methods,
    method.name = "set" ++ Text.capitalize property.name →
      method.parameters.map Parameter.type = [property.type] → method.returnType ≠ .unit

instance (properties : List Property) (methods : List Method) :
    Decidable (CallsApart properties methods) :=
  decidable_of_iff (_ ∧ _ ∧ _)
    ⟨fun ⟨pairs, getters, setters⟩ => ⟨pairs, getters, setters⟩,
      fun apart => ⟨apart.pairs, apart.getters, apart.setters⟩⟩

namespace Method

theorem call_eq_getter {method : Method} {property : String} {type : ResolvedType} :
    method.call = .getter property type ↔
      method.name = "get" ++ Text.capitalize property ∧ method.parameters = [] ∧
        method.returnType = type := by
  simp [call, ForwardedMember.ofMethod, ForwardedCall.method, ForwardedCall.getter]

theorem call_eq_setter {method : Method} {property : String} {type : ResolvedType} :
    method.call = .setter property type ↔
      method.name = "set" ++ Text.capitalize property ∧
        method.parameters.map Parameter.type = [type] ∧ method.returnType = .unit := by
  simp [call, ForwardedMember.ofMethod, ForwardedCall.method, ForwardedCall.setter]

/-- Methods are called by their own names. -/
theorem calls_nodup {methods : List Method} (distinct : (methods.map Method.name).Nodup) :
    (methods.map Method.call).Nodup := by
  refine List.Nodup.of_map ForwardedCall.name ?_
  rw [List.map_map]
  exact distinct

end Method

/-- Calls of methods with names of their own are distinct from each other, so only properties can
make calls meet. -/
theorem calls_nodup_iff {properties : List Property} {methods : List Method}
    (distinct : (methods.map Method.name).Nodup) :
    (properties.flatMap Property.calls ++ methods.map Method.call).Nodup ↔
      CallsApart properties methods := by
  rw [List.nodup_append', List.nodup_flatMap]
  constructor
  · rintro ⟨⟨_, pairwise⟩, _, disjoint⟩
    have separate : ∀ property ∈ properties, ∀ call ∈ property.calls, ∀ method ∈ methods,
        method.call ≠ call := by
      intro property isProperty call isCall method isMethod same
      exact disjoint (List.mem_flatMap.mpr ⟨property, isProperty, isCall⟩)
        (List.mem_map.mpr ⟨method, isMethod, same⟩)
    refine ⟨pairwise.imp Property.disjoint_calls_iff.mp, ?_, ?_⟩
    · intro property isProperty method isMethod named noParameters sameType
      exact separate property isProperty _ (Property.mem_calls.mpr (.inl rfl)) method isMethod
        (Method.call_eq_getter.mpr ⟨named, noParameters, sameType⟩)
    · intro property isProperty mutable method isMethod named takes isUnit
      exact separate property isProperty _ (Property.mem_calls.mpr (.inr ⟨mutable, rfl⟩)) method
        isMethod (Method.call_eq_setter.mpr ⟨named, takes, isUnit⟩)
  · intro apart
    refine ⟨⟨fun property _ => property.calls_nodup, ?_⟩, Method.calls_nodup distinct, ?_⟩
    · exact apart.pairs.imp Property.disjoint_calls_iff.mpr
    · intro call ofProperty ofMethod
      obtain ⟨property, isProperty, isCall⟩ := List.mem_flatMap.mp ofProperty
      obtain ⟨method, isMethod, rfl⟩ := List.mem_map.mp ofMethod
      rcases Property.mem_calls.mp isCall with reads | ⟨mutable, writes⟩
      · obtain ⟨named, noParameters, sameType⟩ := Method.call_eq_getter.mp reads
        exact apart.getters property isProperty method isMethod named noParameters sameType
      · obtain ⟨named, takes, isUnit⟩ := Method.call_eq_setter.mp writes
        exact apart.setters property isProperty mutable method isMethod named takes isUnit

namespace Enumeration

/-! ### Enumerated traits -/

/-- A walk from a trait enters that trait. -/
private theorem Walk.enters_start {host : Host} {interface : String} {id : Nat} {parts : List Part}
    {declaration : Declaration} {body : TraitBody} (walk : Walk host interface [] [id] parts)
    (declared : host.declaration? id = .ok (some declaration))
    (isTrait : declaration.trait? = some body) :
    ∃ part ∈ parts, part.owner = declaration ∧ part.body = body := by
  cases walk with
  | again declaredAgain repeated rest => cases repeated
  | @enter _ _ parts part _ belongs fresh followed rest =>
      cases belongs.declared.symm.trans declared
      cases (includedTrait_eq_ok.mp belongs.included).1.symm.trans isTrait
      exact ⟨part, List.mem_cons_self, rfl, rfl⟩

/-- The properties and methods of an interface that a part of it owns are those of the part. -/
private theorem members_withParts {host : Host} {interface : Interface} {parts : List Part}
    (areParts : interface = withParts (.empty interface.name) parts)
    (distinct : (parts.map Part.name).Nodup)
    (belongs : ∀ part ∈ parts, part.BelongsTo host interface.name)
    {part : Part} (isPart : part ∈ parts) :
    interface.propertiesOf part.name = part.members.filterMap Member.property? ∧
      interface.methodsOf part.name = part.members.filterMap Member.method? := by
  have ownProperties : ∀ part ∈ parts, ∀ property ∈ part.members.filterMap Member.property?,
      property.owner = part.name :=
    fun part isPart _ => ownMembers_property_owner (belongs part isPart).members
  have ownMethods : ∀ part ∈ parts, ∀ method ∈ part.members.filterMap Member.method?,
      method.owner = part.name :=
    fun part isPart _ => ownMembers_method_owner (belongs part isPart).members
  rw [areParts]
  exact ⟨filter_owner distinct ownProperties isPart, filter_owner distinct ownMethods isPart⟩

/-- A trait with distinct method names has methods with distinct names in its interface. -/
private theorem methodNames_nodup {host : Host} {interface : String} {owner : Declaration}
    {body : TraitBody} {members : List Member}
    (enumerated : ownMembers host interface owner body = .ok members)
    (distinct : (body.methods.map FunctionSignature.name).Nodup) :
    ((members.filterMap Member.method?).map Method.name).Nodup := by
  have sameNames : (members.filterMap Member.method?).map Method.name =
      (body.methods.filter (standsAlone body.methods)).map FunctionSignature.name := by
    rw [← List.forall₂_eq_eq_eq, List.forall₂_map_left_iff, List.forall₂_map_right_iff]
    exact (ownMembers_forMethods enumerated).flip.imp fun _ _ ofMethod => ofMethod.overridden.name
  rw [sameNames]
  exact distinct.sublist (List.filter_sublist.map _)

/-- The calls of a trait with distinct method names are distinct exactly when `CallsApart` holds of
its properties and methods. -/
theorem enumerate_calls_nodup_iff {host : Host} {id : Nat} {interface : Interface}
    {declaration : Declaration} {body : TraitBody}
    (enumerated : enumerate host id = .ok interface)
    (declared : host.declaration? id = .ok (some declaration))
    (isTrait : declaration.trait? = some body)
    (distinct : (body.methods.map FunctionSignature.name).Nodup) :
    (interface.callsOf declaration.qualifiedName).Nodup ↔
      CallsApart (interface.propertiesOf declaration.qualifiedName)
        (interface.methodsOf declaration.qualifiedName) := by
  obtain ⟨parts, areParts, walk⟩ := enumerate_walk enumerated
  obtain ⟨part, isPart, rfl, rfl⟩ := walk.enters_start declared isTrait
  obtain ⟨ownProperties, ownMethods⟩ :=
    members_withParts areParts walk.names_nodup.1 walk.belongs isPart
  rw [Interface.callsOf_eq]
  refine calls_nodup_iff ?_
  change ((interface.methodsOf part.name).map Method.name).Nodup
  rw [ownMethods]
  exact methodNames_nodup (walk.belongs part isPart).members distinct

/-- Two properties under one capitalized name, and a method named after each of the two calls of the
first one. -/
def dial : Declaration :=
  ⟨"Dial", "crate", 0,
    .trait ⟨false, [], [
      .method ⟨"get_angle", some .shared, [], some (.path ["u16"] []), false, false⟩,
      .method ⟨"set_angle", some .exclusive, [⟨some "angle", .path ["u16"] []⟩], none, false,
        false⟩,
      .method ⟨"get_Angle", some .shared, [], some (.path ["String"] []), false, false⟩,
      .method ⟨"getAngle", some .shared, [⟨some "scale", .path ["u8"] []⟩],
        some (.path ["u16"] []), false, false⟩,
      .method ⟨"setAngle", some .shared, [⟨some "angle", .path ["u16"] []⟩],
        some (.path ["bool"] []), false, false⟩]⟩,
    [], none, true⟩

/-- The sources that declare the dial. -/
def dialTable : SymbolTable where
  scopes := [.new "crate" none]
  declarations := [dial]
  facts := []
  announced := []

/-- The interface of the dial. -/
def dialInterface : Interface :=
  ⟨"crate::Dial", ["crate::Dial"],
    [⟨"angle", .named "u16", true, "crate::Dial"⟩,
      ⟨"Angle", .named "std::string::String", false, "crate::Dial"⟩],
    [⟨"getAngle", .shared, [⟨"scale", .named "u8"⟩], .named "u16", "crate::Dial"⟩,
      ⟨"setAngle", .shared, [⟨"angle", .named "u16"⟩], .named "bool", "crate::Dial"⟩]⟩

theorem dialInterface_calls_nodup :
    ∃ body, enumerate dialTable.host 0 = .ok dialInterface ∧
      dialTable.host.declaration? 0 = .ok (some dial) ∧ dial.trait? = some body ∧
      (body.methods.map FunctionSignature.name).Nodup ∧
      (dialInterface.callsOf dial.qualifiedName).Nodup := by
  have apart : CallsApart (dialInterface.propertiesOf dial.qualifiedName)
      (dialInterface.methodsOf dial.qualifiedName) := by
    decide +kernel
  have enumerated : enumerate dialTable.host 0 = .ok dialInterface := rfl
  refine ⟨_, enumerated, rfl, rfl, by decide, ?_⟩
  exact (enumerate_calls_nodup_iff enumerated rfl rfl (by decide)).mpr apart

/-- A method that is named and typed as the call that reads a property. -/
def gauge : Declaration :=
  ⟨"Gauge", "crate", 0,
    .trait ⟨false, [], [
      .method ⟨"get_x", some .shared, [], some (.path ["f64"] []), false, false⟩,
      .method ⟨"getX", some .shared, [], some (.path ["f64"] []), false, false⟩]⟩,
    [], none, true⟩

/-- The sources that declare the gauge. -/
def gaugeTable : SymbolTable where
  scopes := [.new "crate" none]
  declarations := [gauge]
  facts := []
  announced := []

/-- The interface of the gauge. -/
def gaugeInterface : Interface :=
  ⟨"crate::Gauge", ["crate::Gauge"], [⟨"x", .named "f64", false, "crate::Gauge"⟩],
    [⟨"getX", .shared, [], .named "f64", "crate::Gauge"⟩]⟩

/-- Distinct method names alone do not keep calls apart. -/
theorem gaugeInterface_calls_meet :
    ∃ body, enumerate gaugeTable.host 0 = .ok gaugeInterface ∧
      gaugeTable.host.declaration? 0 = .ok (some gauge) ∧ gauge.trait? = some body ∧
      (body.methods.map FunctionSignature.name).Nodup ∧
      ¬ (gaugeInterface.callsOf gauge.qualifiedName).Nodup :=
  ⟨_, rfl, rfl, rfl, by decide, by decide +kernel⟩

end Enumeration

end ForwardingProxy
