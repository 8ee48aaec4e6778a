import ForwardingProxy.Proofs.Enumeration.Depth
import ForwardingProxy.Proofs.Enumeration.Preorder
import ForwardingProxy.Proofs.ProxySource.Overrides

/-!
Contract: the order of an enumerated interface.

Owns: `Contribution`, what one trait adds to an interface in the order of its declaration, and the
fact that over every symbol table an enumeration ends and lists traits depth first, with the members
of each trait in the place of the trait.

Nothing is asked of the table: supertraits may form cycles and names may be declared twice. Only
that the listed traits are those of the hierarchy needs distinct qualified names, since a second
declaration of a listed name is passed over together with what stands above it.
-/

namespace ForwardingProxy.Enumeration

/-- The properties and methods are those of a trait that the table declares under the name: a
property for each reader and a method for each method that stands alone, in declaration order. -/
structure Contribution
    (table : SymbolTable)
    (trait : String)
    (owner : Declaration)
    (body : TraitBody)
    (properties : List Property)
    (methods : List Method) : Prop where
  declared : owner ∈ table.declarations
  named : owner.qualifiedName = trait
  isTrait : owner.trait? = some body
  ofReaders : List.Forall₂ (ForReader table.host owner body.methods) (body.methods.filter reads)
    properties
  ofMethods : List.Forall₂
    (fun signature method => Overrides table.host owner signature (.ofMethod method) ∧
      method.owner = owner.qualifiedName)
    (body.methods.filter (standsAlone body.methods)) methods

/-- The interface of the trait `id` lists the traits of its hierarchy depth first, each where it
comes up first, and the members of the traits in that order. -/
structure DepthFirst (table : SymbolTable) (id : Nat) (interface : Interface) : Prop where
  start : ∃ declaration, table.declaration? id = some declaration ∧
    declaration.qualifiedName = interface.name
  first : interface.traits.head? = some interface.name
  preorder : ∃ listed, Preordered table.host interface.name [] [id] listed ∧
    interface.traits = listed.eraseDups
  distinct : interface.traits.Nodup
  hierarchy : (table.declarations.map Declaration.qualifiedName).Nodup →
    ∀ name, name ∈ interface.traits ↔ InHierarchy table.host id name
  members : ∃ groups : List (List Property × List Method),
    List.Forall₂ (fun trait group => ∃ owner body,
        Contribution table trait owner body group.1 group.2) interface.traits groups ∧
      interface.properties = groups.flatMap Prod.fst ∧
      interface.methods = groups.flatMap Prod.snd
  owners : (∀ property ∈ interface.properties, property.owner ∈ interface.traits) ∧
    ∀ method ∈ interface.methods, method.owner ∈ interface.traits

/-- A part of an interface over a table contributes its own members. -/
theorem Part.BelongsTo.contribution {table : SymbolTable} {interface : String} {part : Part}
    (belongs : part.BelongsTo table.host interface) :
    Contribution table part.name part.owner part.body
      (part.members.filterMap Member.property?) (part.members.filterMap Member.method?) where
  declared := List.mem_of_getElem? (Except.ok.inj belongs.declared)
  named := rfl
  isTrait := (includedTrait_eq_ok.mp belongs.included).1
  ofReaders := ownMembers_properties belongs.members
  ofMethods := ownMembers_methods belongs.members

namespace Contribution

variable {table : SymbolTable} {trait : String} {owner : Declaration} {body : TraitBody}
  {properties : List Property} {methods : List Method}

theorem property_owner (contribution : Contribution table trait owner body properties methods)
    {property : Property} (isProperty : property ∈ properties) : property.owner = trait := by
  obtain ⟨_, _, isRead⟩ := partner_of_mem_right contribution.ofReaders isProperty
  exact isRead.owned.trans contribution.named

theorem method_owner (contribution : Contribution table trait owner body properties methods)
    {method : Method} (isMethod : method ∈ methods) : method.owner = trait := by
  obtain ⟨_, _, _, isOwned⟩ := partner_of_mem_right contribution.ofMethods isMethod
  exact isOwned.trans contribution.named

end Contribution

/-- Over every table an enumeration ends by itself, at a depth that the number of declarations
bounds, and what it returns is in depth-first order. -/
theorem enumerate_depth_first (table : SymbolTable) (id : Nat) :
    (∀ depth, table.declarations.length < depth →
      Settled (enumerateWithin table.host depth id) ∧
        enumerateWithin table.host depth id = enumerate table.host id) ∧
      ∀ interface, enumerate table.host id = .ok interface → DepthFirst table id interface := by
  refine ⟨fun depth => enumerateWithin_eq table id, fun interface enumerated => ?_⟩
  obtain ⟨parts, areParts, walk⟩ := enumerate_walk enumerated
  obtain ⟨root, isRoot, rootName⟩ := enumerate_start enumerated
  have traits : interface.traits = parts.map Part.name := by
    rw [areParts]
    rfl
  obtain ⟨listed, isListed, isErased⟩ := walk.names_eq_eraseDups (SymbolTable.host_findsNames table)
  have groups : List.Forall₂ (fun trait group => ∃ owner body,
      Contribution table trait owner body group.1 group.2) interface.traits (parts.map fun part =>
        (part.members.filterMap Member.property?, part.members.filterMap Member.method?)) := by
    rw [traits, List.forall₂_map_left_iff, List.forall₂_map_right_iff, List.forall₂_same]
    exact fun part isPart => ⟨part.owner, part.body, (walk.belongs part isPart).contribution⟩
  have properties : interface.properties = (parts.map fun part =>
      (part.members.filterMap Member.property?, part.members.filterMap Member.method?)).flatMap
        Prod.fst := by
    rw [areParts, List.flatMap_map]
    rfl
  have methods : interface.methods = (parts.map fun part =>
      (part.members.filterMap Member.property?, part.members.filterMap Member.method?)).flatMap
        Prod.snd := by
    rw [areParts, List.flatMap_map]
    rfl
  exact {
    start := ⟨root, Except.ok.inj isRoot, rootName⟩
    first := by
      cases isListed with
      | back declared passed rest => cases passed
      | enter declared isTrait fresh followed below rest =>
          cases isRoot.symm.trans declared
          rw [traits, isErased, List.eraseDups_cons, List.head?_cons, rootName]
    preorder := ⟨listed, isListed, traits.trans isErased⟩
    distinct := by
      rw [traits]
      exact walk.names_nodup.1
    hierarchy := by
      intro distinct name
      rw [traits]
      exact walk.mem_names_iff (distinctNames_of_nodup distinct)
    members := ⟨_, groups, properties, methods⟩
    owners := by
      constructor
      · intro property isProperty
        rw [properties] at isProperty
        obtain ⟨group, isGroup, isMember⟩ := List.mem_flatMap.mp isProperty
        obtain ⟨trait, isTrait, _, _, contribution⟩ := partner_of_mem_right groups isGroup
        exact contribution.property_owner isMember ▸ isTrait
      · intro method isMethod
        rw [methods] at isMethod
        obtain ⟨group, isGroup, isMember⟩ := List.mem_flatMap.mp isMethod
        obtain ⟨trait, isTrait, _, _, contribution⟩ := partner_of_mem_right groups isGroup
        exact contribution.method_owner isMember ▸ isTrait }

/-- Four traits in a diamond whose top leads back to its bottom. -/
def ringTable : SymbolTable where
  scopes := [.new "crate" none]
  declarations := [
    ⟨"Bottom", "crate", 0,
      .trait ⟨false, [.path ["Left"] [], .path ["Send"] [], .path ["Right"] []], [
        .method ⟨"close", some .exclusive, [], none, false, false⟩,
        .method ⟨"get_depth", some .shared, [], some (.path ["u8"] []), false, false⟩]⟩,
      [], none, true⟩,
    ⟨"Right", "crate", 0,
      .trait ⟨false, [.path ["Top"] []], [
        .method ⟨"turn", some .shared, [], none, false, false⟩]⟩,
      [], none, true⟩,
    ⟨"Left", "crate", 0,
      .trait ⟨false, [.path ["Top"] []], [
        .method ⟨"get_width", some .shared, [], some (.path ["u8"] []), false, false⟩]⟩,
      [], none, true⟩,
    ⟨"Top", "crate", 0,
      .trait ⟨false, [.path ["Bottom"] []], [
        .method ⟨"lift", some .shared, [], none, false, false⟩]⟩,
      [], none, true⟩]
  facts := []
  announced := []

/-- The interface of the trait at the bottom. -/
def ringInterface : Interface where
  name := "crate::Bottom"
  traits := ["crate::Bottom", "crate::Left", "crate::Top", "crate::Right"]
  properties := [
    ⟨"depth", .named "u8", false, "crate::Bottom"⟩,
    ⟨"width", .named "u8", false, "crate::Left"⟩]
  methods := [
    ⟨"close", .exclusive, [], .unit, "crate::Bottom"⟩,
    ⟨"lift", .shared, [], .unit, "crate::Top"⟩,
    ⟨"turn", .shared, [], .unit, "crate::Right"⟩]

theorem ringInterface_depth_first :
    (ringTable.declarations.map Declaration.qualifiedName).Nodup ∧
      enumerate ringTable.host 0 = .ok ringInterface ∧
      Settled (enumerateWithin ringTable.host 5 0) ∧
      DepthFirst ringTable 0 ringInterface ∧
      ∀ name, name ∈ ringInterface.traits ↔ InHierarchy ringTable.host 0 name := by
  have distinct : (ringTable.declarations.map Declaration.qualifiedName).Nodup := by decide
  have enumerated : enumerate ringTable.host 0 = .ok ringInterface := rfl
  obtain ⟨ends, ordered⟩ := enumerate_depth_first ringTable 0
  have depthFirst := ordered ringInterface enumerated
  exact ⟨distinct, enumerated, (ends 5 (by decide)).1, depthFirst, depthFirst.hierarchy distinct⟩

end ForwardingProxy.Enumeration
