import ForwardingProxy.Classification
import ForwardingProxy.Proofs.Enumeration.Locality

/-!
Contract: which failures classification meets.

Owns: the fact that classification over a host that answers comes to an outcome for every listed
declaration, and that a coherent host leads to failures that concern that declaration only.
-/

namespace ForwardingProxy.Classification

open Attempt (Ensures)

variable {host : Host}

/-- The marker that a role goes by. -/
def MarkerRole.marker (markers : Markers) : MarkerRole → String
  | .dispatchFunction => markers.dispatchFunction
  | .handlerInterface => markers.handlerInterface

/-- The declaration exists and carries the marker that it is listed for. -/
def Carries (host : Host) (marker : String) (id : Nat) : Prop :=
  ∃ declaration, host.declaration? id = .ok (some declaration) ∧
    (declaration.marker? marker).isSome = true

theorem Carries.declared {marker : String} {id : Nat} (carries : Carries host marker id) :
    ∃ declaration, host.declaration? id = .ok (some declaration) := by
  obtain ⟨declaration, isDeclared, _⟩ := carries
  exact ⟨declaration, isDeclared⟩

theorem markerOf_ensures {id : Nat} {marker : String} {declaration : Declaration}
    (listed : host.Coherent → Carries host marker id)
    (declared : host.declaration? id = .ok (some declaration)) :
    Ensures host.Permits (markerOf declaration marker) fun _ => True := by
  refine (Ensures.require fun missing coherent => ?_).imp fun _ _ _ => trivial
  obtain ⟨found, isFound, carries⟩ := listed coherent
  cases declared.symm.trans isFound
  rw [missing] at carries
  cases carries

theorem attributePath_ensures (marker declaration : String) (written : Attribute) :
    Ensures host.Permits (attributePath marker declaration written) fun _ => True := by
  unfold attributePath
  cases markerPath (written.arguments.getD "") with
  | ok segments => exact .ofValue trivial
  | error problem => exact .ofLocal rfl

theorem dispatchFunction_ensures (marker : String) (declaration : Declaration) :
    Ensures host.Permits (dispatchFunction marker declaration) fun _ => True := by
  unfold dispatchFunction
  cases declaration.function? with
  | none => exact .ofLocal rfl
  | some signature =>
      dsimp only
      split
      · exact .ofLocal rfl
      · split
        · exact .ofLocal rfl
        · exact .ofValue trivial

theorem markedTarget_ensures (answers : host.Answers) (declaration : Declaration)
    (path : List String) :
    Ensures host.Permits (markedTarget host declaration path) fun id =>
      ∃ name, host.find? name = .ok (some id) := by
  refine .andThen (.ask (answers.resolve _ path)) fun resolved _ => ?_
  refine .andThen (.requireLocal rfl) fun name _ => ?_
  refine .andThen (.ask (answers.find name)) fun found isFound => ?_
  refine (Ensures.requireLocal rfl).imp fun id _ same => ?_
  exact ⟨name, same ▸ isFound⟩

theorem classifyFunction_ensures (answers : host.Answers) {markers : Markers} {id : Nat}
    (listed : host.Coherent → Carries host markers.dispatchFunction id) :
    Ensures host.Permits (classifyFunction host markers id) fun _ => True := by
  refine .andThen (Enumeration.declaration_ensures answers fun coherent =>
    (listed coherent).declared) fun declaration declared => ?_
  refine .andThen (dispatchFunction_ensures _ declaration) fun _ _ => ?_
  refine .andThen (markerOf_ensures listed declared) fun written _ => ?_
  refine .andThen (attributePath_ensures _ _ written) fun path _ => ?_
  refine .andThen (markedTarget_ensures answers declaration path) fun target found => ?_
  refine .andThen (Enumeration.enumerate_ensures answers fun coherent => ?_) fun _ _ =>
    .ofValue trivial
  obtain ⟨name, isFound⟩ := found
  exact coherent.found isFound

theorem handlerTarget_ensures (answers : host.Answers) (interface path : String) (id : Nat)
    (handler : Declaration) :
    Ensures host.Permits (handlerTarget host interface path id handler) fun _ => True := by
  have refused : ∀ problem, Ensures host.Permits
      (Attempt.fail (.handler interface path problem) : Attempt (Target × Option String))
        fun _ => True :=
    fun problem => .ofLocal rfl
  unfold handlerTarget
  cases handler.kind with
  | unitStruct => exact .ofValue trivial
  | struct body =>
      cases generic : body.generic with
      | true =>
          simp only [generic, if_true]
          exact refused _
      | false =>
          simp only [generic, Bool.false_eq_true, if_false]
          refine .andThen (.ask (answers.implementsDefault id)) fun hasDefault _ => ?_
          cases hasDefault with
          | true => exact .ofValue trivial
          | false =>
              refine .andThen (.ask (answers.constructor id)) fun constructor _ => ?_
              cases constructor with
              | none => exact refused _
              | some name => exact .ofValue trivial
  | trait body => exact refused _
  | enum => exact refused _
  | union => exact refused _
  | function signature => exact refused _
  | typeAlias => exact refused _

theorem classifyTrait_ensures (answers : host.Answers) {markers : Markers} {id : Nat}
    (listed : host.Coherent → Carries host markers.handlerInterface id) :
    Ensures host.Permits (classifyTrait host markers id) fun _ => True := by
  have declaredAt := fun coherent => (listed coherent).declared
  refine .andThen (Enumeration.declaration_ensures answers declaredAt) ?_
  intro declaration declared
  cases declaration.trait? with
  | none => exact .ofLocal rfl
  | some body =>
      refine .andThen (markerOf_ensures listed declared) fun written _ => ?_
      refine .andThen (attributePath_ensures _ _ written) fun path _ => ?_
      refine .andThen (.ask (answers.resolve _ path)) fun resolved _ => ?_
      refine .andThen (.requireLocal rfl) fun handlerName _ => ?_
      refine .andThen (.ask (answers.find handlerName)) fun found isFound => ?_
      refine .andThen (.requireLocal rfl) fun handlerId same => ?_
      refine .andThen (Enumeration.declaration_ensures answers fun coherent =>
        coherent.found (same ▸ isFound)) fun handler _ => ?_
      cases handler.visible with
      | false =>
          simp only [Bool.not_false, if_true]
          exact .ofLocal rfl
      | true =>
          simp only [Bool.not_true, Bool.false_eq_true, if_false]
          refine .andThen (handlerTarget_ensures answers _ _ handlerId handler) fun target _ => ?_
          refine .andThen (Enumeration.enumerate_ensures answers declaredAt) fun _ _ => ?_
          exact .ofValue trivial

theorem classify_ensures (answers : host.Answers) {markers : Markers} {role : MarkerRole} {id : Nat}
    (listed : host.Coherent → Carries host (role.marker markers) id) :
    Ensures host.Permits (classify host markers role id) fun _ => True := by
  cases role with
  | dispatchFunction => exact classifyFunction_ensures answers listed
  | handlerInterface => exact classifyTrait_ensures answers listed

/-- The item bears the name of its declaration, and its failure is one that the host permits. -/
structure Item.Answered (host : Host) (item : Item) : Prop where
  named : ∀ declaration, host.declaration? item.id = .ok (some declaration) →
    item.declaration = declaration.qualifiedName
  permitted : ∀ failure, item.outcome = .error failure → host.Permits failure

theorem item_answered (answers : host.Answers) {markers : Markers} {role : MarkerRole} {id : Nat}
    (listed : host.Coherent → Carries host (role.marker markers) id) :
    ∃ found, item host markers role id = .ok found ∧ found.id = id ∧ found.Answered host := by
  obtain ⟨declaration, asked⟩ := answers.declaration id
  obtain ⟨outcome, isOutcome, permitted⟩ := (classify_ensures answers listed).result
  refine ⟨⟨id, (declaration.map Declaration.qualifiedName).getD "", role, outcome⟩, ?_, rfl, ?_,
    permitted⟩
  · rw [item, asked, isOutcome]
    rfl
  · intro found isFound
    cases asked.symm.trans isFound
    rfl

/-- Each listed declaration of a role comes to an item, in the order of the list. -/
private theorem items_answered (answers : host.Answers) (markers : Markers) (role : MarkerRole)
    {ids : List Nat} (listed : host.Coherent → ∀ id ∈ ids, Carries host (role.marker markers) id) :
    ∃ found, ids.mapM (item host markers role) = .ok found ∧ found.map Item.id = ids ∧
      ∀ item ∈ found, item.Answered host := by
  induction ids with
  | nil => exact ⟨[], rfl, rfl, by simp⟩
  | cons id rest inductionHypothesis =>
      obtain ⟨first, isFirst, firstId, firstAnswered⟩ :=
        item_answered answers fun coherent => listed coherent id (by simp)
      obtain ⟨others, areOthers, otherIds, othersAnswered⟩ :=
        inductionHypothesis fun coherent other later =>
          listed coherent other (List.mem_cons_of_mem id later)
      refine ⟨first :: others, ?_, ?_, ?_⟩
      · rw [List.mapM_cons, isFirst, areOthers]
        rfl
      · rw [List.map_cons, firstId, otherIds]
      · intro item isItem
        rcases List.mem_cons.mp isItem with rfl | later
        · exact firstAnswered
        · exact othersAnswered item later

/-- Over a host that answers, each listed declaration comes to an item: first the dispatch
functions, then the traits. -/
theorem classifyAll_answered (answers : host.Answers) {markers : Markers}
    {functions traits : List Nat}
    (areFunctions : host.marked markers.dispatchFunction = .ok functions)
    (areTraits : host.marked markers.handlerInterface = .ok traits) :
    ∃ items, classifyAll host markers = .ok items ∧ items.map Item.id = functions ++ traits ∧
      ∀ item ∈ items, item.Answered host := by
  obtain ⟨functionItems, areFunctionItems, functionIds, functionsAnswered⟩ :=
    items_answered answers markers .dispatchFunction fun coherent =>
      coherent.marked areFunctions
  obtain ⟨traitItems, areTraitItems, traitIds, traitsAnswered⟩ :=
    items_answered answers markers .handlerInterface fun coherent =>
      coherent.marked areTraits
  refine ⟨functionItems ++ traitItems, ?_, ?_, ?_⟩
  · rw [classifyAll, areFunctions, areTraits]
    simp only [bind, Except.bind, areFunctionItems, areTraitItems]
    rfl
  · rw [List.map_append, functionIds, traitIds]
  · intro item isItem
    rcases List.mem_append.mp isItem with isFunction | isTrait
    · exact functionsAnswered item isFunction
    · exact traitsAnswered item isTrait

/-- Whether anything is marked shows in the two lists. -/
theorem anyMarked_answered {markers : Markers} {functions traits : List Nat}
    (areFunctions : host.marked markers.dispatchFunction = .ok functions)
    (areTraits : host.marked markers.handlerInterface = .ok traits) :
    anyMarked host markers = .ok !(functions ++ traits).isEmpty := by
  rw [anyMarked, areFunctions]
  cases functions with
  | cons first rest => rfl
  | nil =>
      simp only [bind, Except.bind, areTraits]
      rfl

end ForwardingProxy.Classification
