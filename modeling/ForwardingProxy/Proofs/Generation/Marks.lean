import ForwardingProxy.Proofs.Classification.Attributes
import ForwardingProxy.Proofs.Generation.Accounting

/-!
Contract: what becomes of marker attributes.

Owns: the marks of a table, which are its attributes that are markers, parted into those that come
first on their declaration in their role and those that repeat them; and the fact that a pass
settles each of the first and takes no notice of the others.

The item of a mark is what the program without any attributes and this one attribute say.
-/

namespace ForwardingProxy

open Classification (Item MarkerRole)

/-! ### Marks -/

/-- An attribute that marks a declaration in a role. -/
structure Mark where
  id : Nat
  role : MarkerRole
  written : Attribute
deriving DecidableEq, Repr

/-- The attributes of a declaration that are the marker, in their order. -/
def Declaration.marks (declaration : Declaration) (marker : String) : List Attribute :=
  declaration.attributes.filter (Attribute.isMarker marker)

theorem Declaration.take_marks (declaration : Declaration) (marker : String) :
    (declaration.marks marker).take 1 = (declaration.marker? marker).toList := by
  rw [marks, marker?, ← List.head?_filter]
  cases declaration.attributes.filter (Attribute.isMarker marker) <;> rfl

namespace SymbolTable

/-- The marks in one role, of each declaration those that are chosen. -/
def marksIn
    (table : SymbolTable)
    (markers : Markers)
    (chosen : List Attribute → List Attribute)
    (role : MarkerRole) : List Mark :=
  table.declarations.zipIdx.flatMap fun (declaration, id) =>
    (chosen (declaration.marks (role.marker markers))).map (Mark.mk id role)

/-- The marks in both roles. -/
def marksAmong
    (table : SymbolTable)
    (markers : Markers)
    (chosen : List Attribute → List Attribute) : List Mark :=
  table.marksIn markers chosen .dispatchFunction ++ table.marksIn markers chosen .handlerInterface

/-- All marks: those of dispatch functions before those of traits, each in source order. -/
def marks (table : SymbolTable) (markers : Markers) : List Mark :=
  table.marksAmong markers id

/-- The marks that are the first of their role on their declaration. -/
def leadingMarks (table : SymbolTable) (markers : Markers) : List Mark :=
  table.marksAmong markers (List.take 1)

/-- The marks that another one of their role comes before on their declaration. -/
def repeatedMarks (table : SymbolTable) (markers : Markers) : List Mark :=
  table.marksAmong markers (List.drop 1)

variable {table : SymbolTable} {markers : Markers} {role : MarkerRole}

theorem marksIn_perm : (table.marksIn markers id role).Perm
    (table.marksIn markers (List.take 1) role ++ table.marksIn markers (List.drop 1) role) := by
  have parted : table.marksIn markers id role =
      table.declarations.zipIdx.flatMap fun (declaration, id) =>
        ((declaration.marks (role.marker markers)).take 1).map (Mark.mk id role)
          ++ ((declaration.marks (role.marker markers)).drop 1).map (Mark.mk id role) := by
    refine List.flatMap_congr ?_
    rintro ⟨declaration, id⟩ _
    dsimp only
    rw [← List.map_append, List.take_append_drop]
    rfl
  rw [parted]
  exact (List.flatMap_append_perm _ _ _).symm

/-- Every mark is one of the first or repeats one. -/
theorem marks_perm (table : SymbolTable) (markers : Markers) :
    (table.marks markers).Perm (table.leadingMarks markers ++ table.repeatedMarks markers) := by
  refine (marksIn_perm.append marksIn_perm).trans ?_
  unfold leadingMarks repeatedMarks marksAmong
  rw [List.append_assoc, List.append_assoc]
  refine List.Perm.append_left _ ?_
  rw [← List.append_assoc, ← List.append_assoc]
  exact List.Perm.append_right _ List.perm_append_comm

/-- The declarations of the first marks in a role are those that are listed for its marker. -/
theorem map_id_marksIn :
    (table.marksIn markers (List.take 1) role).map Mark.id =
      table.marked (role.marker markers) := by
  rw [marksIn, List.map_flatMap, marked, List.filterMap_eq_flatMap_toList]
  refine List.flatMap_congr ?_
  rintro ⟨declaration, id⟩ _
  dsimp only
  rw [Declaration.take_marks]
  cases declaration.marker? (role.marker markers) <;> rfl

theorem marker?_of_mem_marksIn {mark : Mark}
    (member : mark ∈ table.marksIn markers (List.take 1) role) :
    mark.role = role ∧ ∃ declaration, table.declaration? mark.id = some declaration ∧
      declaration.marker? (role.marker markers) = some mark.written := by
  obtain ⟨⟨declaration, id⟩, numbered, isMark⟩ := List.mem_flatMap.mp member
  obtain ⟨written, isFirst, rfl⟩ := List.mem_map.mp isMark
  rw [Declaration.take_marks, Option.mem_toList] at isFirst
  exact ⟨rfl, declaration, List.mem_zipIdx_iff_getElem?.mp numbered, isFirst⟩

end SymbolTable

/-! ### Items -/

namespace Classification

/-- The item is the one of that mark: no other attribute of the program has a say in it. -/
structure StandsFor (table : SymbolTable) (markers : Markers) (mark : Mark) (item : Item) :
    Prop where
  sameId : item.id = mark.id
  sameRole : item.role = mark.role
  decided : ∃ declaration, table.declaration? mark.id = some declaration ∧
    item.declaration = declaration.qualifiedName ∧
      (requestOf table.host.bare markers mark.role mark.id declaration.bare
        (some mark.written)).result = .ok item.outcome

variable {table : SymbolTable} {markers : Markers} {role : MarkerRole}

theorem standsFor_of_item {mark : Mark} {found : Item}
    (member : mark ∈ table.marksIn markers (List.take 1) role)
    (isItem : item table.host markers role mark.id = .ok found) :
    StandsFor table markers mark found := by
  obtain ⟨rfl, declaration, declaredAt, isFirst⟩ := SymbolTable.marker?_of_mem_marksIn member
  have asked : table.host.declaration? mark.id = .ok (some declaration) :=
    congrArg Except.ok declaredAt
  simp only [item, bind_eq_ok, pure_eq_ok] at isItem
  obtain ⟨_, isDeclared, outcome, isOutcome, rfl⟩ := isItem
  obtain rfl := Except.ok.inj (isDeclared.symm.trans asked)
  refine ⟨rfl, rfl, declaration, declaredAt, rfl, ?_⟩
  rw [requestOf_bare, ← isOutcome, classify_eq, Enumeration.declaration_eq_ok.mpr asked, ← isFirst]
  rfl

theorem standFor_of_items {marks : List Mark} {items : List Item}
    (leading : ∀ mark ∈ marks, mark ∈ table.marksIn markers (List.take 1) role)
    (areItems : List.Forall₂ (fun id one => item table.host markers role id = .ok one)
      (marks.map Mark.id) items) :
    List.Forall₂ (StandsFor table markers) marks items := by
  rw [List.forall₂_map_left_iff] at areItems
  induction areItems with
  | nil => exact .nil
  | @cons mark one marks items isItem _ inductionHypothesis =>
      exact .cons (standsFor_of_item (leading mark (List.mem_cons_self ..)) isItem)
        (inductionHypothesis fun other later => leading other (List.mem_cons_of_mem mark later))

/-- The first marks and the items correspond one to one, in their order. -/
theorem classifyAll_standFor {items : List Item}
    (classified : classifyAll table.host markers = .ok items) :
    List.Forall₂ (StandsFor table markers) (table.leadingMarks markers) items := by
  simp only [classifyAll, bind_eq_ok, pure_eq_ok] at classified
  obtain ⟨_, ⟨⟩, _, ⟨⟩, functions, areFunctions, traits, areTraits, rfl⟩ := classified
  rw [mapM_eq_ok] at areFunctions areTraits
  have areListed : ∀ role, (table.marksIn markers (List.take 1) role).map Mark.id =
      table.marked (role.marker markers) :=
    fun _ => SymbolTable.map_id_marksIn
  have ofFunctions := standFor_of_items (fun _ member => member)
    ((areListed .dispatchFunction).symm ▸ areFunctions)
  have ofTraits := standFor_of_items (fun _ member => member)
    ((areListed .handlerInterface).symm ▸ areTraits)
  exact List.rel_append ofFunctions ofTraits

end Classification

/-! ### Passes -/

namespace Generation

open Output (Memory)

/-- The first marks of the declarations have items of their own, and each item is either accepted
and registered or rejected and reported as an error about its declaration. -/
structure SettlesMarks
    (table : SymbolTable)
    (markers : Markers)
    (items : List Item)
    (judged : List Judged)
    (report : Report) : Prop where
  parted : (table.marks markers).Perm (table.leadingMarks markers ++ table.repeatedMarks markers)
  stand : List.Forall₂ (Classification.StandsFor table markers) (table.leadingMarks markers) items
  /-- As many marks are passed over as repeat another one. -/
  passedOver : (table.marks markers).length = items.length + (table.repeatedMarks markers).length
  complete : judged.map Judged.item = items
  accepted : ∀ one ∈ judged, ∀ request, one.verdict = .ok request →
    one.item.outcome = .ok request
  registered : report.outcome.registered = (requests judged).map ProxyRequest.entry
  reported : report.diagnostics = judged.filterMap Judged.diagnostic?
  errorsOnly : ∀ diagnostic ∈ report.diagnostics, diagnostic.severity = .error

/-- Over any table, a pass into memory settles every mark that is the first of its role on its
declaration. Repeated marks have no items; without any, all marks are settled. -/
theorem run_settles_leading_marks (table : SymbolTable) (config : Config) :
    ∃ items judged report memory,
      Classification.classifyAll table.host config.markers = .ok items ∧
        run table.host config Memory.sink .empty = (report, memory) ∧
          SettlesMarks table config.markers items judged report := by
  obtain ⟨items, classified, ran⟩ := run_accounts_for_every_item table config
  have parted := table.marks_perm config.markers
  have stand := Classification.classifyAll_standFor classified.classified
  have passedOver : (table.marks config.markers).length =
      items.length + (table.repeatedMarks config.markers).length := by
    rw [parted.length_eq, List.length_append, stand.length_eq]
  rcases ran with ⟨unmarked, ran⟩ | ⟨_, judged, report, memory, ran, accounts⟩
  · have noItems : items = [] := by
      rw [← List.map_eq_nil_iff (f := Item.id), classified.ids]
      exact unmarked_iff.mp unmarked
    subst noItems
    exact ⟨[], [], ⟨.nothing, []⟩, .empty, classified.classified, ran, parted, stand, passedOver,
      rfl, by simp, rfl, rfl, by simp⟩
  · exact ⟨items, judged, report, memory, classified.classified, ran, parted, stand, passedOver,
      accounts.complete, accounts.accepted, accounts.registered, accounts.reported,
      accounts.errorsOnly⟩

/-- A function that is marked for two traits is the dispatch function of the first one only. -/
example :
    let table : SymbolTable := {
      scopes := [.new "crate" none]
      declarations := [⟨"forward", "crate", 0, .function ⟨"forward", none, [], none, false, true⟩,
        [⟨"proxy_for", some "Lamp"⟩, ⟨"runtime::proxy_for", some "Bell"⟩], none, true⟩]
      facts := []
      announced := [] }
    table.leadingMarks .standard = [⟨0, .dispatchFunction, ⟨"proxy_for", some "Lamp"⟩⟩] ∧
      table.repeatedMarks .standard =
        [⟨0, .dispatchFunction, ⟨"runtime::proxy_for", some "Bell"⟩⟩] := by
  decide

end Generation

end ForwardingProxy
