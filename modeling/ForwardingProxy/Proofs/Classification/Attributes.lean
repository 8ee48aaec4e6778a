import ForwardingProxy.Proofs.Classification.Locality
import ForwardingProxy.Proofs.Enumeration.Mirroring

/-!
Contract: what attributes decide.

Owns: declarations and hosts without attributes, the fact that interfaces are the same without
them, and the fact that a marked declaration is classified by no attribute but the one that
marks it.

Does not own: which declarations are listed, for which a host has to be asked about its markers.

A function that asks the host is compared with itself on the host without attributes. Two hosts that
differ in attributes only are the same host then.
-/

namespace ForwardingProxy

/-- The declaration without its attributes. -/
def Declaration.bare (declaration : Declaration) : Declaration :=
  { declaration with attributes := [] }

/-- The host of a program in which nothing has attributes. -/
def Host.bare (host : Host) : Host :=
  { host with
    marked := fun _ => .ok []
    declaration? := fun id => (host.declaration? id).map (Option.map Declaration.bare) }

variable {host : Host}

theorem Host.ask_bare_declaration? (id : Nat) :
    Attempt.ask (host.bare.declaration? id) =
      Option.map Declaration.bare <$> Attempt.ask (host.declaration? id) := by
  show Attempt.ask ((host.declaration? id).map (Option.map Declaration.bare)) = _
  cases host.declaration? id with
  | error fault => rfl
  | ok found => rfl

/-! ### Interfaces -/

/-- Without attributes, each declaration still corresponds to itself. -/
theorem Host.bare_mirrors (host : Host) : host.bare.Mirrors host Eq where
  declared := by
    rintro id _ rfl
    have asked : host.bare.declaration? id =
        (host.declaration? id).map (Option.map Declaration.bare) := rfl
    cases isFound : host.declaration? id with
    | error fault => exact .broken (by rw [asked, isFound]; rfl) isFound
    | ok found =>
        cases found with
        | none => exact .missing rfl (by rw [asked, isFound]; rfl) isFound
        | some declaration =>
            have isBare : host.bare.declaration? id = .ok (some declaration.bare) := by
              rw [asked, isFound]
              rfl
            exact .present isBare isFound ⟨rfl, rfl, rfl⟩ fun _ => rfl
  found := by
    intro name
    cases isFound : host.find? name with
    | error fault => exact .broken isFound isFound
    | ok found =>
        cases found with
        | none => exact .missing isFound isFound
        | some id => exact .present isFound isFound rfl

namespace Enumeration

theorem declaration_bare (id : Nat) :
    declaration host.bare id = Declaration.bare <$> declaration host id := by
  unfold declaration
  rw [Host.ask_bare_declaration?, bind_map_left, map_bind]
  refine bind_congr fun found => ?_
  cases found with
  | none => rfl
  | some declaration => rfl

theorem enumerate_bare (id : Nat) : enumerate host.bare id = enumerate host id :=
  enumerate_mirrors host.bare_mirrors rfl rfl

end Enumeration

/-! ### Marked declarations -/

namespace Classification

open Enumeration (declaration_bare declaration_eq_ok enumerate_bare)

/-- The request of a dispatch function, given the attribute that marks it. -/
def functionRequest
    (host : Host)
    (marker : String)
    (declaration : Declaration)
    (written : Option Attribute) : Attempt ProxyRequest := do
  let name := declaration.qualifiedName
  dispatchFunction marker declaration
  let written ← Attempt.require (.host (.markerMissing name marker)) written
  let path ← attributePath marker name written
  let target ← markedTarget host declaration path
  let interface ← Enumeration.enumerate host target
  pure (.new interface (.function name) none)

/-- The request of a trait, given the attribute that marks it. -/
def traitRequest
    (host : Host)
    (marker : String)
    (id : Nat)
    (declaration : Declaration)
    (written : Option Attribute) : Attempt ProxyRequest :=
  let name := declaration.qualifiedName
  match declaration.trait? with
  | none => Attempt.fail (.notInterface name declaration.kind.describe)
  | some _ => do
      let written ← Attempt.require (.host (.markerMissing name marker)) written
      let path ← attributePath marker name written
      let resolved ← Attempt.ask (host.resolve? declaration.scope path)
      let handlerName ←
        Attempt.require (.unresolvable name (Name.join path) .notInScope) resolved
      let found ← Attempt.ask (host.find? handlerName)
      let handlerId ← Attempt.require (.handler name handlerName .notDeclared) found
      let handler ← Enumeration.declaration host handlerId
      if !handler.visible then Attempt.fail (.handler name handlerName .isPrivate)
      else
        let (target, items) ← handlerTarget host name handlerName handlerId handler
        let interface ← Enumeration.enumerate host id
        pure (.new interface target items)

/-- The request of a declaration in a role, given the attribute that marks it. -/
def requestOf
    (host : Host)
    (markers : Markers)
    (role : MarkerRole)
    (id : Nat)
    (declaration : Declaration)
    (written : Option Attribute) : Attempt ProxyRequest :=
  match role with
  | .dispatchFunction => functionRequest host markers.dispatchFunction declaration written
  | .handlerInterface => traitRequest host markers.handlerInterface id declaration written

/-- Classification looks at one attribute of the declaration. -/
theorem classify_eq (markers : Markers) (role : MarkerRole) (id : Nat) :
    classify host markers role id = (do
      let declaration ← Enumeration.declaration host id
      requestOf host markers role id declaration (declaration.marker? (role.marker markers))) := by
  cases role with
  | dispatchFunction => rfl
  | handlerInterface => rfl

/-- A declaration is classified by its first attribute that is the marker of the role. -/
theorem classify_of_declared (markers : Markers) (role : MarkerRole) {id : Nat}
    {declaration : Declaration} (declared : host.declaration? id = .ok (some declaration)) :
    classify host markers role id = requestOf host markers role id declaration
      (declaration.marker? (role.marker markers)) := by
  rw [classify_eq, declaration_eq_ok.mpr declared]
  rfl

theorem functionRequest_bare (marker : String) (declaration : Declaration)
    (written : Option Attribute) :
    functionRequest host.bare marker declaration.bare written =
      functionRequest host marker declaration written := by
  unfold functionRequest
  simp only [enumerate_bare]
  rfl

theorem handlerTarget_bare (interface path : String) (id : Nat) (handler : Declaration) :
    handlerTarget host.bare interface path id handler.bare =
      handlerTarget host interface path id handler :=
  rfl

theorem traitRequest_bare (marker : String) (id : Nat) (declaration : Declaration)
    (written : Option Attribute) :
    traitRequest host.bare marker id declaration.bare written =
      traitRequest host marker id declaration written := by
  unfold traitRequest
  simp only [enumerate_bare, declaration_bare, bind_map_left, handlerTarget_bare]
  rfl

theorem requestOf_bare (markers : Markers) (role : MarkerRole) (id : Nat)
    (declaration : Declaration) (written : Option Attribute) :
    requestOf host.bare markers role id declaration.bare written =
      requestOf host markers role id declaration written := by
  cases role with
  | dispatchFunction => exact functionRequest_bare _ declaration written
  | handlerInterface => exact traitRequest_bare _ id declaration written

variable {other : Host} {markers : Markers} {role : MarkerRole} {id : Nat}
  {left right : Declaration}

theorem bare_eq_of_declared (same : host.bare = other.bare)
    (isLeft : host.declaration? id = .ok (some left))
    (isRight : other.declaration? id = .ok (some right)) : left.bare = right.bare := by
  have asked : host.bare.declaration? id = other.bare.declaration? id := by rw [same]
  simp only [Host.bare, isLeft, isRight, Except.map, Option.map_some, Except.ok.injEq,
    Option.some.injEq] at asked
  exact asked

/-- Two hosts that differ in attributes only agree on the item of a declaration whose marker is the
same for both. -/
theorem item_congr (same : host.bare = other.bare)
    (isLeft : host.declaration? id = .ok (some left))
    (isRight : other.declaration? id = .ok (some right))
    (sameMarker : left.marker? (role.marker markers) = right.marker? (role.marker markers)) :
    item host markers role id = item other markers role id := by
  have sameBare := bare_eq_of_declared same isLeft isRight
  have sameName : left.qualifiedName = right.qualifiedName := by
    show left.bare.qualifiedName = right.bare.qualifiedName
    rw [sameBare]
  have sameRequest : classify host markers role id = classify other markers role id := by
    rw [classify_eq, classify_eq, declaration_eq_ok.mpr isLeft, declaration_eq_ok.mpr isRight]
    show requestOf host markers role id left _ = requestOf other markers role id right _
    rw [← requestOf_bare, same, sameBare, sameMarker, requestOf_bare]
  unfold item
  rw [isLeft, isRight, sameRequest]
  show ((classify other markers role id).result >>= fun outcome =>
    pure (Item.mk id left.qualifiedName role outcome)) = _
  rw [sameName]
  rfl

end Classification

end ForwardingProxy
