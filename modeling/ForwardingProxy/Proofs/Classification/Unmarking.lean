import ForwardingProxy.Proofs.Classification.Attributes
import ForwardingProxy.Proofs.SymbolTable.Matching
import Mathlib.Data.List.Forall2

/-!
Contract: tables from which markers are taken away.

Owns: `SymbolTable.unmark`, which takes the attributes of chosen markers off chosen declarations,
and the fact that it leaves out the items of those declarations and changes no other item.

An attribute is one marker at most, since the markers of the two roles differ. So a declaration that
loses one marker keeps the other.
-/

namespace ForwardingProxy

open Classification (MarkerRole)

/-- The declaration without the attributes that mark it in one of the roles. -/
def Declaration.unmarked
    (declaration : Declaration)
    (markers : Markers)
    (dropped : MarkerRole → Bool) : Declaration :=
  { declaration with
    attributes := declaration.attributes.filter fun written =>
      !([MarkerRole.dispatchFunction, .handlerInterface].any fun role =>
        dropped role && written.isMarker (role.marker markers)) }

/-- The table in which each declaration has lost its attributes of the roles that are dropped. -/
def SymbolTable.unmark
    (table : SymbolTable)
    (markers : Markers)
    (dropped : Nat → MarkerRole → Bool) : SymbolTable :=
  { table with
    declarations := table.declarations.mapIdx fun id declaration =>
      declaration.unmarked markers (dropped id) }

/-! ### Lookups -/

/-- The table without any attributes. -/
def SymbolTable.bare (table : SymbolTable) : SymbolTable :=
  { table with declarations := table.declarations.map Declaration.bare }

namespace SymbolTable

variable {table : SymbolTable}

theorem declares_bare (name : String) : table.bare.declares name = table.declares name := by
  show (table.declarations.map Declaration.bare).any _ = _
  rw [List.any_map]
  rfl

theorem resolve?_bare (scope : Nat) (path : List String) :
    table.bare.resolve? scope path = table.resolve? scope path :=
  @resolve?_congr table.bare table (fun _ => rfl) declares_bare scope scope rfl path

theorem declaration?_bare (id : Nat) :
    table.bare.declaration? id = (table.declaration? id).map Declaration.bare :=
  List.getElem?_map

theorem implementsDefault_bare (id : Nat) :
    table.bare.implementsDefault id = table.implementsDefault id := by
  unfold implementsDefault
  rw [declaration?_bare]
  cases table.declaration? id with
  | none => rfl
  | some declaration =>
      have sameType : table.bare.factType? = table.factType? := by
        funext fact
        simp only [factType?, resolve?_bare]
      simp only [Option.map_some, sameType]
      rfl

theorem constructor?_bare (id : Nat) : table.bare.constructor? id = table.constructor? id := by
  unfold constructor?
  rw [declaration?_bare]
  cases table.declaration? id with
  | none => rfl
  | some declaration =>
      have sameNames : table.bare.constructors = table.constructors := by
        funext name
        simp only [constructors, factType?, resolve?_bare]
        rfl
      simp only [Option.map_some, sameNames]
      rfl

theorem host_bare : table.host.bare = table.bare.host.bare := by
  have sameFind : table.bare.find? = table.find? := by
    funext name
    show (table.declarations.map Declaration.bare).findIdx? _ = _
    rw [List.findIdx?_map]
    rfl
  have sameDeclaration : ∀ id, (table.bare.declaration? id).map Declaration.bare =
      (table.declaration? id).map Declaration.bare := by
    intro id
    rw [declaration?_bare, Option.map_map]
    rfl
  have sameSize : table.bare.declarations.length = table.declarations.length :=
    List.length_map _
  simp only [Host.bare, host, Except.map, sameSize, sameDeclaration, sameFind, resolve?_bare,
    implementsDefault_bare, constructor?_bare]

/-- To unmark a table changes nothing but attributes. -/
theorem host_bare_unmark (markers : Markers) (dropped : Nat → MarkerRole → Bool) :
    (table.unmark markers dropped).host.bare = table.host.bare := by
  have sameBare : (table.unmark markers dropped).bare = table.bare := by
    have sameDeclarations : (table.declarations.mapIdx fun id declaration =>
        declaration.unmarked markers (dropped id)).map Declaration.bare =
          table.declarations.map Declaration.bare := by
      apply List.ext_getElem?
      intro id
      simp only [List.getElem?_map, List.getElem?_mapIdx, Option.map_map]
      rfl
    simp only [bare, unmark, sameDeclarations]
  rw [host_bare, sameBare, ← host_bare]

theorem declaration?_unmark (markers : Markers) (dropped : Nat → MarkerRole → Bool) (id : Nat) :
    (table.unmark markers dropped).declaration? id =
      (table.declaration? id).map fun declaration => declaration.unmarked markers (dropped id) :=
  List.getElem?_mapIdx

end SymbolTable

/-! ### Markers -/

section Markers

variable {markers : Markers}

theorem Attribute.role_unique (differ : markers.dispatchFunction ≠ markers.handlerInterface)
    {written : Attribute} {first second : MarkerRole}
    (isFirst : written.isMarker (first.marker markers) = true)
    (isSecond : written.isMarker (second.marker markers) = true) : first = second := by
  have sameMarker : first.marker markers = second.marker markers := by
    rw [isMarker, beq_iff_eq] at isFirst isSecond
    rw [← isFirst, isSecond]
  cases first with
  | dispatchFunction =>
      cases second with
      | dispatchFunction => rfl
      | handlerInterface => exact absurd sameMarker differ
  | handlerInterface =>
      cases second with
      | dispatchFunction => exact absurd sameMarker.symm differ
      | handlerInterface => rfl

/-- A dropped role loses its marker and no other role does. -/
theorem Declaration.marker?_unmarked
    (differ : markers.dispatchFunction ≠ markers.handlerInterface) (declaration : Declaration)
    (dropped : MarkerRole → Bool) (role : MarkerRole) :
    (declaration.unmarked markers dropped).marker? (role.marker markers) =
      if dropped role then none else declaration.marker? (role.marker markers) := by
  -- an attribute that marks `role` marks no other role, so it goes only where `role` is dropped
  have kept : ∀ written : Attribute, written.isMarker (role.marker markers) = true →
      [MarkerRole.dispatchFunction, .handlerInterface].any (fun other =>
        dropped other && written.isMarker (other.marker markers)) = dropped role := by
    intro written marks
    cases isDropped : dropped role with
    | true =>
        refine List.any_eq_true.mpr ⟨role, ?_, by rw [isDropped, marks]; rfl⟩
        cases role <;> simp
    | false =>
        refine List.any_eq_false.mpr fun other _ both => ?_
        rw [Bool.and_eq_true] at both
        have sameRole := Attribute.role_unique differ both.2 marks
        rw [sameRole, isDropped] at both
        cases both.1
  show (declaration.attributes.filter _).find? _ = _
  rw [List.find?_filter]
  cases isDropped : dropped role with
  | true =>
      refine List.find?_eq_none.mpr fun written _ found => ?_
      obtain ⟨notDropped, marks⟩ := of_decide_eq_true found
      rw [kept written marks, isDropped] at notDropped
      exact absurd notDropped (by decide)
  | false =>
      refine congrArg declaration.attributes.find? (funext fun written => ?_)
      cases marks : written.isMarker (role.marker markers) with
      | true =>
          rw [kept written marks, isDropped]
          rfl
      | false => simp

/-! ### Items -/

variable {table : SymbolTable}

/-- The declarations that keep their marker stay listed in their order. -/
theorem SymbolTable.marked_unmark (differ : markers.dispatchFunction ≠ markers.handlerInterface)
    (dropped : Nat → MarkerRole → Bool) (role : MarkerRole) :
    (table.unmark markers dropped).marked (role.marker markers) =
      (table.marked (role.marker markers)).filter fun id => !dropped id role := by
  have numbered : (table.unmark markers dropped).declarations.zipIdx =
      table.declarations.zipIdx.map fun numbered =>
        (numbered.1.unmarked markers (dropped numbered.2), numbered.2) := by
    apply List.ext_getElem?
    intro id
    simp only [unmark, List.getElem?_zipIdx, List.getElem?_mapIdx, List.getElem?_map,
      Option.map_map, Nat.zero_add]
    rfl
  rw [marked, numbered, List.filterMap_map, marked, List.filter_filterMap]
  apply List.filterMap_congr
  rintro ⟨declaration, id⟩ _
  show (if ((declaration.unmarked markers (dropped id)).marker? (role.marker markers)).isSome then
      some id else none) =
    (if (declaration.marker? (role.marker markers)).isSome then some id else none).filter
      fun id => !dropped id role
  rw [Declaration.marker?_unmarked differ]
  by_cases carries : (declaration.marker? (role.marker markers)).isSome = true
  · rw [if_pos carries]
    show _ = if !dropped id role then some id else none
    cases dropped id role with
    | true => rfl
    | false => exact if_pos carries
  · rw [if_neg carries]
    cases dropped id role with
    | true => rfl
    | false => exact if_neg carries

namespace Classification

theorem item_eq_ok {host : Host} {role : MarkerRole} {id : Nat} {found : Item}
    (isItem : item host markers role id = .ok found) : found.id = id ∧ found.role = role := by
  simp only [item, bind_eq_ok, pure_eq_ok] at isItem
  obtain ⟨declaration, _, outcome, _, rfl⟩ := isItem
  exact ⟨rfl, rfl⟩

variable (differ : markers.dispatchFunction ≠ markers.handlerInterface)
  (dropped : Nat → MarkerRole → Bool)

include differ

/-- What keeps its marker is classified as before. -/
theorem item_unmark {role : MarkerRole} {id : Nat}
    (declared : ∃ declaration, table.declaration? id = some declaration)
    (kept : dropped id role = false) :
    item (table.unmark markers dropped).host markers role id =
      item table.host markers role id := by
  obtain ⟨declaration, isDeclared⟩ := declared
  have asked : (table.unmark markers dropped).host.declaration? id =
      .ok (some (declaration.unmarked markers (dropped id))) := by
    show Except.ok ((table.unmark markers dropped).declaration? id) = _
    rw [table.declaration?_unmark markers dropped id, isDeclared]
    rfl
  refine item_congr (table.host_bare_unmark markers dropped) asked
    (congrArg Except.ok isDeclared) ?_
  rw [Declaration.marker?_unmarked differ, kept]
  rfl

private theorem items_unmark {role : MarkerRole} {ids : List Nat} {found : List Item}
    (declared : ∀ id ∈ ids, ∃ declaration, table.declaration? id = some declaration)
    (areItems : List.Forall₂ (fun id one => item table.host markers role id = .ok one) ids found) :
    List.Forall₂
      (fun id one => item (table.unmark markers dropped).host markers role id = .ok one)
      (ids.filter fun id => !dropped id role)
      (found.filter fun one => !dropped one.id one.role) := by
  induction areItems with
  | nil => exact .nil
  | @cons id one ids found isItem areItems inductionHypothesis =>
      have others := inductionHypothesis fun other later =>
        declared other (List.mem_cons_of_mem id later)
      obtain ⟨sameId, sameRole⟩ := item_eq_ok isItem
      rw [List.filter_cons, List.filter_cons, sameId, sameRole]
      cases isDropped : dropped id role with
      | true => exact others
      | false =>
          refine .cons ?_ others
          rw [item_unmark differ dropped (declared id (by simp)) isDropped]
          exact isItem

/-- The items of an unmarked table are those of the table that keep their markers. -/
theorem classifyAll_unmark {items : List Item}
    (classified : classifyAll table.host markers = .ok items) :
    classifyAll (table.unmark markers dropped).host markers =
      .ok (items.filter fun one => !dropped one.id one.role) := by
  have declared : ∀ marker, ∀ id ∈ table.marked marker,
      ∃ declaration, table.declaration? id = some declaration := by
    intro marker id isListed
    obtain ⟨declaration, isDeclared, _⟩ := SymbolTable.mem_marked.mp isListed
    exact ⟨declaration, isDeclared⟩
  simp only [classifyAll, bind_eq_ok, pure_eq_ok] at classified
  obtain ⟨_, ⟨⟩, _, ⟨⟩, functions, areFunctions, traits, areTraits, rfl⟩ := classified
  rw [mapM_eq_ok] at areFunctions areTraits
  have functionsLeft := items_unmark differ dropped (declared _) areFunctions
  have traitsLeft := items_unmark differ dropped (declared _) areTraits
  have listedFunctions :=
    table.marked_unmark differ dropped MarkerRole.dispatchFunction
  have listedTraits := table.marked_unmark differ dropped MarkerRole.handlerInterface
  simp only [classifyAll, bind_eq_ok, pure_eq_ok, mapM_eq_ok]
  refine ⟨_, rfl, _, rfl, _, ?_, _, ?_, List.filter_append ..⟩
  · exact listedFunctions ▸ functionsLeft
  · exact listedTraits ▸ traitsLeft

end Classification

end Markers

end ForwardingProxy
