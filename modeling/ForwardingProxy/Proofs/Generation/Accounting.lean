import ForwardingProxy.Proofs.Generation.Stages

/-!
Contract: what a pass over a symbol table accounts for.

Owns: the fact that such a pass runs to its end into memory, that it accepts or reports every marked
declaration, and what its file holds.
-/

namespace ForwardingProxy.Generation

open Classification (Item)
open Output (Call Memory)

/-! ### Passes without an obstacle -/

/-- A verdict fails only with the item's own failure or with a refusal. -/
theorem verdict_eq_error {registry : Registry} {item : Item} {failure : Failure}
    (rejected : verdict registry item = .error failure) :
    item.outcome = .error failure ∨ ∃ refusal, failure = .refused refusal := by
  unfold verdict at rejected
  cases asked : item.outcome with
  | error own =>
      rw [asked] at rejected
      exact .inl (by rw [Except.error.inj rejected])
  | ok request =>
      simp only [asked] at rejected
      cases refused : registry.refusal? request.entry with
      | none => rw [refused] at rejected; cases rejected
      | some refusal =>
          rw [refused] at rejected
          exact .inr ⟨refusal, (Except.error.inj rejected).symm⟩

theorem verdict_eq_ok {registry : Registry} {item : Item} {request : ProxyRequest}
    (accepted : verdict registry item = .ok request) : item.outcome = .ok request := by
  unfold verdict at accepted
  cases asked : item.outcome with
  | error own => rw [asked] at accepted; cases accepted
  | ok wanted =>
      simp only [asked] at accepted
      cases refused : registry.refusal? wanted.entry with
      | none => rw [refused] at accepted; exact accepted
      | some refusal => rw [refused] at accepted; cases accepted

theorem judge_items (registry : Registry) (items : List Item) :
    (judge registry items).map Judged.item = items := by
  induction items generalizing registry with
  | nil => rfl
  | cons item rest inductionHypothesis => rw [judge, List.map_cons, inductionHypothesis]

/-- Each item is judged after the items before it. -/
theorem verdict_of_mem_judge {registry : Registry} {items : List Item} {judged : Judged}
    (member : judged ∈ judge registry items) :
    judged.item ∈ items ∧ ∃ before, judged.verdict = verdict before judged.item := by
  induction items generalizing registry with
  | nil => cases member
  | cons item rest inductionHypothesis =>
      rw [judge, List.mem_cons] at member
      rcases member with rfl | later
      · exact ⟨by simp, registry, rfl⟩
      · obtain ⟨isItem, judgedAfter⟩ := inductionHypothesis later
        exact ⟨List.mem_cons_of_mem item isItem, judgedAfter⟩

theorem obstacle?_eq_none_iff {settled : Nat} {judged : List Judged} :
    obstacle? settled judged = none ↔ ∀ one ∈ judged, one.obstacle? = none := by
  induction judged generalizing settled with
  | nil => simp [obstacle?]
  | cons first rest inductionHypothesis =>
      rw [obstacle?]
      cases stops : first.obstacle? with
      | some failure => simp [stops]
      | none => simp [stops, inductionHypothesis]

/-- Without an obstacle every item is either accepted or reported. -/
theorem length_requests_add_length_diagnostics (judged : List Judged) :
    judged.length = (requests judged).length + (diagnostics judged).length := by
  induction judged with
  | nil => rfl
  | cons first rest inductionHypothesis =>
      obtain ⟨item, verdict⟩ := first
      cases verdict with
      | ok request => simp [inductionHypothesis]; omega
      | error failure => simp [inductionHypothesis]; omega

/-- Without an obstacle the plan for the items adds the texts of all of them. -/
theorem itemCalls_calls {runtimePath : String} {settled : Nat} {judged : List Judged}
    (unobstructed : obstacle? settled judged = none) :
    (itemCalls runtimePath settled judged).map Output.Planned.call =
      (judged.flatMap (itemTexts runtimePath)).map Call.append := by
  induction judged generalizing settled with
  | nil => rfl
  | cons first rest inductionHypothesis =>
      rw [obstacle?] at unobstructed
      rw [itemCalls]
      cases stops : first.obstacle? with
      | some failure => rw [stops] at unobstructed; cases unobstructed
      | none =>
          rw [stops] at unobstructed
          simp [inductionHypothesis unobstructed, List.map_map, Function.comp_def]

/-- The texts of the items are those of the accepted requests, a line end after each. -/
theorem join_itemTexts (runtimePath : String) (judged : List Judged) :
    String.join (judged.flatMap (itemTexts runtimePath)) =
      String.join ((requests judged).map fun request =>
        request.sourceText runtimePath ++ "\n") := by
  induction judged with
  | nil => rfl
  | cons first rest inductionHypothesis =>
      obtain ⟨item, verdict⟩ := first
      cases verdict with
      | ok request =>
          simp [itemTexts, Judged.request?, inductionHypothesis, String.append_assoc]
      | error failure => simp [itemTexts, Judged.request?, inductionHypothesis]

/-- The text of the file of a pass without an obstacle. -/
def fileText (config : Config) (judged : List Judged) : String :=
  header ++ "\n\n"
    ++ String.join ((requests judged).map fun request =>
      request.sourceText config.runtimePath ++ "\n")
    ++ (registryOf judged).sourceText config.runtimePath

/-- The texts that a pass without an obstacle adds to its file, in their order. -/
def fileTexts (config : Config) (judged : List Judged) : List String :=
  [header, "\n\n"] ++ judged.flatMap (itemTexts config.runtimePath)
    ++ [(registryOf judged).sourceText config.runtimePath]

theorem join_fileTexts (config : Config) (judged : List Judged) :
    String.join (fileTexts config judged) = fileText config judged := by
  simp [fileTexts, fileText, join_itemTexts, String.append_assoc]

/-- Without an obstacle the whole file is planned. -/
theorem script_calls (config : Config) {judged : List Judged}
    (unobstructed : obstacle? 0 judged = none) :
    (script config judged).map Output.Planned.call =
      Call.create config.package config.fileName
        :: (fileTexts config judged).map Call.append ++ [Call.finish] := by
  simp [script, fileTexts, openingCalls, closingCalls, unobstructed, itemCalls_calls unobstructed]

theorem firstFault_script_memory (config : Config) {judged : List Judged}
    (unobstructed : obstacle? 0 judged = none) (memory : Memory) :
    Memory.sink.firstFault (script config judged) memory =
      (none, ⟨memory.files.filter (fun file =>
          file.1 != Output.key config.package config.fileName)
        ++ [(Output.key config.package config.fileName, fileText config judged)], none⟩) := by
  rw [Memory.firstFault_sink, script_calls config unobstructed, Memory.foldl_file, join_fileTexts]

/-! ### Passes over tables -/

/-- No declaration of the table carries a marker. -/
def Unmarked (table : SymbolTable) (markers : Markers) : Prop :=
  ∀ declaration ∈ table.declarations,
    declaration.marker? markers.dispatchFunction = none ∧
      declaration.marker? markers.handlerInterface = none

/-- The items stand for the marked declarations in order and bear their names, and no failure among
them concerns more than its own declaration. -/
structure Classified (table : SymbolTable) (markers : Markers) (items : List Item) : Prop where
  classified : Classification.classifyAll table.host markers = .ok items
  ids : items.map Item.id =
    table.marked markers.dispatchFunction ++ table.marked markers.handlerInterface
  named : ∀ item ∈ items, ∃ declaration, table.declaration? item.id = some declaration ∧
    item.declaration = declaration.qualifiedName
  isLocal : ∀ item ∈ items, ∀ failure, item.outcome = .error failure → failure.isLocal = true

/-- Each item is either accepted and registered or rejected and reported, both in order, and the
file holds the proxies of the accepted items and the registry of just these. -/
structure Accounts
    (config : Config)
    (items : List Item)
    (judged : List Judged)
    (report : Report)
    (memory : Memory) : Prop where
  complete : judged.map Judged.item = items
  accepted : ∀ one ∈ judged, ∀ request, one.verdict = .ok request →
    one.item.outcome = .ok request
  rejected : ∀ one ∈ judged, ∀ failure, one.verdict = .error failure →
    one.item.outcome = .error failure ∨ ∃ refusal, failure = .refused refusal
  registered : report.outcome.registered = (requests judged).map ProxyRequest.entry
  reported : report.diagnostics = judged.filterMap Judged.diagnostic?
  counted : items.length = report.outcome.registered.length + report.diagnostics.length
  errorsOnly : ∀ diagnostic ∈ report.diagnostics, diagnostic.severity = .error
  written : report.outcome.fileWritten = true
  file : memory.files = [(Output.key config.package config.fileName,
    header ++ "\n\n"
      ++ String.join ((requests judged).map fun request =>
        request.sourceText config.runtimePath ++ "\n")
      ++ (Registry.mk report.outcome.registered).sourceText config.runtimePath)]

theorem unmarked_iff {table : SymbolTable} {markers : Markers} :
    Unmarked table markers ↔
      table.marked markers.dispatchFunction ++ table.marked markers.handlerInterface = [] := by
  have noneMarked : ∀ marker, table.marked marker = [] ↔
      ∀ declaration ∈ table.declarations, declaration.marker? marker = none := by
    intro marker
    rw [List.eq_nil_iff_forall_not_mem]
    constructor
    · intro unlisted declaration isDeclared
      obtain ⟨id, declaredAt⟩ := List.mem_iff_getElem?.mp isDeclared
      by_contra carries
      exact unlisted id (SymbolTable.mem_marked.mpr
        ⟨declaration, declaredAt, Option.isSome_iff_ne_none.mpr carries⟩)
    · intro unmarked id isListed
      obtain ⟨declaration, declaredAt, carries⟩ := SymbolTable.mem_marked.mp isListed
      rw [unmarked declaration (List.mem_of_getElem? declaredAt)] at carries
      cases carries
  rw [List.append_eq_nil_iff, noneMarked, noneMarked]
  constructor
  · intro unmarked
    exact ⟨fun declaration isDeclared => (unmarked declaration isDeclared).1,
      fun declaration isDeclared => (unmarked declaration isDeclared).2⟩
  · rintro ⟨noFunction, noTrait⟩ declaration isDeclared
    exact ⟨noFunction declaration isDeclared, noTrait declaration isDeclared⟩

theorem exists_classified (table : SymbolTable) (markers : Markers) :
    ∃ items, Classified table markers items ∧
      items? table.host markers = .ok (if items.isEmpty then none else some items) := by
  obtain ⟨items, areItems, ids, answered, found⟩ :=
    items?_answered table.host_answers markers rfl rfl
  refine ⟨items, ⟨areItems, ids, ?_, ?_⟩, found⟩
  · intro item isItem
    have listed : item.id ∈
        table.marked markers.dispatchFunction ++ table.marked markers.handlerInterface := by
      rw [← ids]
      exact List.mem_map_of_mem isItem
    have declared : ∃ declaration, table.declaration? item.id = some declaration := by
      rcases List.mem_append.mp listed with isFunction | isTrait
      · obtain ⟨declaration, declaredAt, _⟩ := SymbolTable.mem_marked.mp isFunction
        exact ⟨declaration, declaredAt⟩
      · obtain ⟨declaration, declaredAt, _⟩ := SymbolTable.mem_marked.mp isTrait
        exact ⟨declaration, declaredAt⟩
    obtain ⟨declaration, declaredAt⟩ := declared
    exact ⟨declaration, declaredAt,
      (answered item isItem).named declaration (congrArg Except.ok declaredAt)⟩
  · exact fun item isItem failure failed =>
      (answered item isItem).permitted failure failed table.host_coherent

/-- Items with local failures only are no obstacles. -/
theorem obstacle?_judge {items : List Item} (registry : Registry) (settled : Nat)
    (isLocal : ∀ item ∈ items, ∀ failure, item.outcome = .error failure → failure.isLocal = true) :
    obstacle? settled (judge registry items) = none := by
  apply obstacle?_eq_none_iff.mpr
  intro one member
  obtain ⟨isItem, before, judgedAfter⟩ := verdict_of_mem_judge member
  apply Judged.obstacle?_eq_none.mpr
  intro failure rejected
  rcases verdict_eq_error (judgedAfter.symm.trans rejected) with own | ⟨refusal, rfl⟩
  · exact isLocal one.item isItem failure own
  · rfl

/-- A pass over a table with marked declarations makes the calls of its plan, wherever it writes, and
nothing stands in its way. -/
theorem run_eq_script {table : SymbolTable} {config : Config} {items : List Item}
    (classified : Classification.classifyAll table.host config.markers = .ok items)
    (marked : items ≠ []) :
    ∃ deferred, obstacle? 0 (judge .empty items) = none ∧
      ∀ {m : Type → Type} [Monad m] [LawfulMonad m] (sink : Output.Sink m),
        run table.host config sink = conclude (.ok deferred) (judge .empty items) <$>
          sink.firstFault (script config (judge .empty items)) := by
  obtain ⟨found, isClassified, foundItems⟩ := exists_classified table config.markers
  obtain rfl : items = found := Except.ok.inj (classified.symm.trans isClassified.classified)
  obtain ⟨deferred, areDeferred⟩ := deferredFunctions_answered table.host_answers config.markers
  have notEmpty : items.isEmpty = false := by simpa using marked
  refine ⟨deferred, obstacle?_judge .empty 0 isClassified.isLocal, ?_⟩
  intro m _ _ sink
  rw [run_eq, foundItems, areDeferred, notEmpty]
  simp [passOf]

theorem run_unmarked {table : SymbolTable} {config : Config} {m : Type → Type} [Monad m]
    (sink : Output.Sink m) (unmarked : Unmarked table config.markers) :
    run table.host config sink = pure ⟨.nothing, []⟩ := by
  obtain ⟨items, classified, found⟩ := exists_classified table config.markers
  rw [unmarked_iff, ← classified.ids, List.map_eq_nil_iff] at unmarked
  rw [run, found, unmarked]
  rfl

/-- A pass that reaches its end accounts for its items. -/
private theorem accounts_of_judge (config : Config) (deferred : List String) (items : List Item) :
    Accounts config items (judge .empty items)
      ⟨⟨(registryOf (judge .empty items)).entries, deferred, true⟩,
        diagnostics (judge .empty items)⟩
      ⟨[(Output.key config.package config.fileName, fileText config (judge .empty items))],
        none⟩ where
  complete := judge_items .empty items
  accepted := by
    intro one member request accepted
    obtain ⟨_, before, judgedAfter⟩ := verdict_of_mem_judge member
    exact verdict_eq_ok (judgedAfter.symm.trans accepted)
  rejected := by
    intro one member failure rejected
    obtain ⟨_, before, judgedAfter⟩ := verdict_of_mem_judge member
    exact verdict_eq_error (judgedAfter.symm.trans rejected)
  registered := rfl
  reported := rfl
  counted := by
    have counted := length_requests_add_length_diagnostics (judge .empty items)
    have sameLength := congrArg List.length (judge_items .empty items)
    rw [List.length_map] at sameLength
    rw [← sameLength, counted]
    simp [registryOf]
  errorsOnly := fun diagnostic isReported => severity_of_mem_diagnostics isReported
  written := rfl
  file := rfl

/-- Over any table a pass into memory runs to its end. Where something is marked, it accounts for
every marked declaration and leaves one file; where nothing is, it does nothing. -/
theorem run_accounts_for_every_item (table : SymbolTable) (config : Config) :
    ∃ items, Classified table config.markers items ∧
      (Unmarked table config.markers ∧
          run table.host config Memory.sink .empty = (⟨.nothing, []⟩, .empty) ∨
        ¬Unmarked table config.markers ∧ ∃ judged report memory,
          run table.host config Memory.sink .empty = (report, memory) ∧
            Accounts config items judged report memory) := by
  obtain ⟨items, classified, found⟩ := exists_classified table config.markers
  obtain ⟨deferred, areDeferred⟩ := deferredFunctions_answered table.host_answers config.markers
  refine ⟨items, classified, ?_⟩
  rw [run_eq, found, areDeferred, unmarked_iff, ← classified.ids, List.map_eq_nil_iff]
  cases items with
  | nil => exact .inl ⟨rfl, rfl⟩
  | cons first rest =>
      right
      have unobstructed : obstacle? 0 (judge .empty (first :: rest)) = none :=
        obstacle?_judge .empty 0 classified.isLocal
      have ran : passOf (.ok (some (first :: rest))) (.ok deferred) config Memory.sink .empty =
          (conclude (.ok deferred) (judge .empty (first :: rest)) none,
            ⟨[(Output.key config.package config.fileName,
              fileText config (judge .empty (first :: rest)))], none⟩) := by
        have written := firstFault_script_memory config unobstructed .empty
        simp only [passOf, bind, StateT.bind, written]
        rfl
      refine ⟨by simp, judge .empty (first :: rest), _, _, ran, ?_⟩
      simp only [conclude, unobstructed, Option.or_none]
      exact accounts_of_judge config deferred (first :: rest)

end ForwardingProxy.Generation
