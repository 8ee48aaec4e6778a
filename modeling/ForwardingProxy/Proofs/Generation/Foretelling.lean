import ForwardingProxy.Output.Files
import ForwardingProxy.Proofs.Generation.Accounting
import ForwardingProxy.Proofs.Registry.Registration

/-!
Contract: what the items of a pass tell about its report.

Owns: outputs that never fail, and the fact that a pass with such an output over a table rejects just
the items that ask for nothing and those whose request clashes with one that is registered before.

The output is any monad's: that a call succeeds is said by an equation, which a sequence of calls
inherits.
-/

namespace ForwardingProxy

open Classification (Item)

/-! ### Outputs that never fail -/

section Outputs

variable {m : Type → Type} [Monad m]

/-- Directories and files can always be made and written. -/
structure Environment.NeverFails (environment : Environment m) : Prop where
  makes : ∀ path, (fun _ => .ok ()) <$> environment.makeDirectories path =
    environment.makeDirectories path
  creates : ∀ path, (fun _ => .ok ()) <$> environment.createFile path =
    environment.createFile path
  appends : ∀ path text, (fun _ => .ok ()) <$> environment.appendText path text =
    environment.appendText path text

namespace Output

/-- Every call succeeds, whatever else it does. -/
def Sink.NeverFails (sink : Sink m) : Prop :=
  ∀ call, (fun _ => .ok ()) <$> sink.answer call = sink.answer call

variable [LawfulMonad m]

theorem Sink.NeverFails.firstFault {sink : Sink m} (never : sink.NeverFails)
    (calls : List Planned) :
    (fun _ => none) <$> sink.firstFault calls = sink.firstFault calls := by
  induction calls with
  | nil => simp [Sink.firstFault]
  | cons planned rest inductionHypothesis =>
      rw [Sink.firstFault, ← never planned.call]
      simp [inductionHypothesis]

theorem Memory.sink_neverFails : Memory.sink.NeverFails := by
  intro call
  cases call <;> rfl

theorem openFile_neverFails {environment : Environment m} (never : environment.NeverFails)
    (path : String) :
    (fun _ => .ok ()) <$> openFile environment path = openFile environment path := by
  unfold openFile
  cases Path.parent? path with
  | none => exact never.creates path
  | some parent =>
      dsimp only
      rw [← never.makes parent]
      simp [never.creates path]

theorem files_neverFails {environment : Environment m} (never : environment.NeverFails)
    (directory : String) : (files environment directory).NeverFails := by
  intro call
  apply StateT.ext
  intro opened
  cases call with
  | create package fileName =>
      simp only [Sink.answer, files]
      rw [← openFile_neverFails never (path directory package fileName)]
      simp
  | append text =>
      simp only [Sink.answer, files]
      cases isOpen : opened.getLast? with
      | none => simp [isOpen]
      | some file =>
          simp only [StateT.run_map, StateT.run_bind, StateT.run_get, pure_bind, isOpen]
          rw [← never.appends file text]
          simp [ofFileResult]
  | finish => simp [Sink.answer, files]

end Output

end Outputs

/-! ### Items and their verdicts -/

namespace Classification.Item

/-- The request that a declaration asks for, if nothing is wrong with it. -/
def request? (item : Item) : Option ProxyRequest :=
  match item.outcome with
  | .ok request => some request
  | .error _ => none

/-- What is wrong with a declaration, as an error about it. -/
def problem? (item : Item) : Option Diagnostic :=
  match item.outcome with
  | .ok _ => none
  | .error failure => some (.error failure.message item.declaration)

end Classification.Item

namespace Generation

/-- The request of an item that is rejected all the same: the registry refuses it. -/
def Judged.refused? (judged : Judged) : Option ProxyRequest :=
  match judged.verdict with
  | .ok _ => none
  | .error _ => judged.item.request?

/-- An item that asks for nothing is rejected, and a request is refused or accepted. -/
theorem verdict_cases (registry : Registry) (item : Item) :
    (∃ failure, item.outcome = .error failure ∧ verdict registry item = .error failure) ∨
      (∃ request refusal, item.outcome = .ok request ∧
        registry.refusal? request.entry = some refusal ∧
          verdict registry item = .error (.refused refusal)) ∨
      ∃ request, item.outcome = .ok request ∧ registry.refusal? request.entry = none ∧
        verdict registry item = .ok request := by
  unfold verdict
  cases asked : item.outcome with
  | error failure => exact .inl ⟨failure, rfl, rfl⟩
  | ok request =>
      cases refused : registry.refusal? request.entry with
      | some refusal => exact .inr (.inl ⟨request, refusal, rfl, refused, by simp [refused]⟩)
      | none => exact .inr (.inr ⟨request, rfl, refused, by simp [refused]⟩)

/-- What is wrong with the items is what is reported about those that the registry does not
refuse. -/
theorem judge_problems (registry : Registry) (items : List Item) :
    items.filterMap Item.problem? =
      diagnostics ((judge registry items).filter fun one => one.refused?.isNone) := by
  conv_lhs => rw [← judge_items registry items]
  rw [List.filterMap_map, diagnostics, List.filterMap_filter]
  refine List.filterMap_congr fun one member => ?_
  obtain ⟨-, before, judgedAfter⟩ := verdict_of_mem_judge member
  obtain ⟨failure, asked, isVerdict⟩ | ⟨request, refusal, asked, -, isVerdict⟩ |
    ⟨request, asked, -, isVerdict⟩ := verdict_cases before one.item <;>
      simp [Item.problem?, Item.request?, Judged.refused?, Judged.diagnostic?, asked,
        judgedAfter.trans isVerdict]

/-- The requests of the items are those that are accepted together with those that are refused. -/
theorem judge_requests (registry : Registry) (items : List Item) :
    items.filterMap Item.request? =
      (judge registry items).filterMap fun one => one.request?.or one.refused? := by
  conv_lhs => rw [← judge_items registry items]
  rw [List.filterMap_map]
  refine List.filterMap_congr fun one member => ?_
  obtain ⟨-, before, judgedAfter⟩ := verdict_of_mem_judge member
  obtain ⟨failure, asked, isVerdict⟩ | ⟨request, refusal, asked, -, isVerdict⟩ |
    ⟨request, asked, -, isVerdict⟩ := verdict_cases before one.item <;>
      simp [Item.request?, Judged.refused?, Judged.request?, asked, judgedAfter.trans isVerdict]

/-- An item is judged by the registry of those before it. -/
theorem verdict_of_judge_eq {registry : Registry} {items : List Item} {before after : List Judged}
    {one : Judged} (isJudged : judge registry items = before ++ one :: after) :
    one.verdict = verdict ⟨registry.entries ++ (registryOf before).entries⟩ one.item := by
  induction items generalizing registry before with
  | nil => simp [judge] at isJudged
  | cons item rest inductionHypothesis =>
      rw [judge] at isJudged
      cases before with
      | nil =>
          obtain ⟨rfl, -⟩ := List.cons.inj isJudged
          simp [registryOf, requests]
      | cons first others =>
          obtain ⟨rfl, isRest⟩ := List.cons.inj isJudged
          rw [inductionHypothesis isRest]
          cases judgedSo : verdict registry item with
          | error failure => simp [registryAfter, registryOf]
          | ok request => simp [registryAfter, registryOf]

theorem verdict_of_judge_empty {items : List Item} {before after : List Judged} {one : Judged}
    (isJudged : judge .empty items = before ++ one :: after) :
    one.verdict = verdict (registryOf before) one.item := by
  rw [verdict_of_judge_eq isJudged]
  rfl

/-- Nothing is rejected when all items have requests that are apart from what is registered and from
each other, and only then. -/
theorem diagnostics_judge_eq_nil_iff (registry : Registry) (items : List Item) :
    diagnostics (judge registry items) = [] ↔
      (∀ item ∈ items, ∃ request, item.outcome = .ok request) ∧
        (∀ existing ∈ registry.entries, ∀ request ∈ items.filterMap Item.request?,
          existing.Apart request.entry) ∧
        (items.filterMap Item.request?).Pairwise fun first second =>
          first.entry.Apart second.entry := by
  induction items generalizing registry with
  | nil => simp [judge]
  | cons item rest inductionHypothesis =>
      rw [judge]
      cases asked : item.outcome with
      | error failure => simp [verdict, asked]
      | ok request =>
          have isFirst : (item :: rest).filterMap Item.request? =
              request :: rest.filterMap Item.request? := by
            simp [Item.request?, asked]
          rw [isFirst]
          obtain ⟨refusal, refused, _, existing, stored, together⟩ | ⟨accepted, apart⟩ :=
            registry.refusal?_cases request.entry
          · have isVerdict : verdict registry item = .error (.refused refusal) := by
              simp [verdict, asked, refused]
            rw [isVerdict, diagnostics_cons_error]
            constructor
            · intro silent
              cases silent
            · rintro ⟨_, apart, _⟩
              exact absurd (apart existing stored request (List.mem_cons_self ..)) together
          · have isVerdict : verdict registry item = .ok request := by
              simp [verdict, asked, accepted]
            rw [isVerdict, diagnostics_cons_ok, inductionHypothesis]
            simp only [registryAfter, List.forall_mem_append, List.forall_mem_singleton,
              List.forall_mem_cons, List.pairwise_cons]
            constructor
            · rintro ⟨allAsk, ⟨fromStored, fromFirst⟩, fromEachOther⟩
              exact ⟨⟨⟨request, asked⟩, allAsk⟩,
                fun existing stored => ⟨apart existing stored, fromStored existing stored⟩,
                fromFirst, fromEachOther⟩
            · rintro ⟨⟨_, allAsk⟩, fromStored, fromFirst, fromEachOther⟩
              exact ⟨allAsk, ⟨fun existing stored => (fromStored existing stored).2, fromFirst⟩,
                fromEachOther⟩

/-! ### Passes -/

/-- What the items foretell of the report of a pass: one verdict for each of them, in their order. -/
structure Foretold (items : List Item) (judged : List Judged) (report : Report) : Prop where
  complete : judged.map Judged.item = items
  registered : report.outcome.registered = (requests judged).map ProxyRequest.entry
  reported : report.diagnostics = diagnostics judged
  errorsOnly : Diagnostic.errors report.diagnostics = report.diagnostics
  /-- What is wrong with the items is reported in order, and besides it refusals only. -/
  problems : items.filterMap Item.problem? =
    diagnostics (judged.filter fun one => one.refused?.isNone)
  /-- The requests of the items are in order those that are registered merged with those that are
  refused. -/
  requested : items.filterMap Item.request? =
    judged.filterMap fun one => one.request?.or one.refused?
  /-- A request is registered when it is apart from all that are registered before it. -/
  accepted : ∀ before one after request, judged = before ++ one :: after →
    one.request? = some request →
      ∀ existing ∈ (registryOf before).entries, existing.Apart request.entry
  /-- A request is refused for one that is registered before it. -/
  refused : ∀ before one after request, judged = before ++ one :: after →
    one.refused? = some request → ∃ refusal, one.verdict = .error (.refused refusal) ∧
      (registryOf before).Blames request.entry refusal
  /-- Nothing is reported if all items have requests and no two of them clash, and only then. -/
  silent : report.diagnostics = [] ↔
    (∀ item ∈ items, ∃ request, item.outcome = .ok request) ∧
      (items.filterMap Item.request?).Pairwise fun first second => first.entry.Apart second.entry

theorem foretold_of_judge {items : List Item} {report : Report}
    (registered : report.outcome.registered =
      (requests (judge .empty items)).map ProxyRequest.entry)
    (reported : report.diagnostics = diagnostics (judge .empty items)) :
    Foretold items (judge .empty items) report where
  complete := judge_items .empty items
  registered := registered
  reported := reported
  errorsOnly := by
    rw [Diagnostic.errors, reported, List.filter_eq_self]
    intro diagnostic isReported
    rw [Diagnostic.isError, severity_of_mem_diagnostics isReported]
    rfl
  problems := judge_problems .empty items
  requested := judge_requests .empty items
  accepted := by
    intro before one after request isJudged isRegistered
    have isVerdict := verdict_of_judge_empty isJudged
    obtain ⟨failure, -, rejected⟩ | ⟨_, refusal, -, -, rejected⟩ | ⟨found, asked, unrefused, isOk⟩ :=
      verdict_cases (registryOf before) one.item
    · simp [Judged.request?, isVerdict.trans rejected] at isRegistered
    · simp [Judged.request?, isVerdict.trans rejected] at isRegistered
    · obtain rfl : found = request := by
        simpa [Judged.request?, isVerdict.trans isOk] using isRegistered
      obtain ⟨refusal, refused, -⟩ | ⟨-, apart⟩ :=
        (registryOf before).refusal?_cases found.entry
      · cases refused.symm.trans unrefused
      · exact apart
  refused := by
    intro before one after request isJudged isRefused
    have isVerdict := verdict_of_judge_empty isJudged
    obtain ⟨failure, asked, rejected⟩ | ⟨found, refusal, asked, refused, rejected⟩ |
      ⟨found, asked, -, isOk⟩ := verdict_cases (registryOf before) one.item
    · simp [Judged.refused?, Item.request?, isVerdict.trans rejected, asked] at isRefused
    · obtain rfl : found = request := by
        simpa [Judged.refused?, Item.request?, isVerdict.trans rejected, asked] using isRefused
      refine ⟨refusal, isVerdict.trans rejected, ?_⟩
      obtain ⟨other, isOther, blames, -⟩ | ⟨unrefused, -⟩ :=
        (registryOf before).refusal?_cases found.entry
      · obtain rfl := Option.some.inj (isOther.symm.trans refused)
        exact blames
      · cases refused.symm.trans unrefused
    · simp [Judged.refused?, isVerdict.trans isOk] at isRefused
  silent := by
    rw [reported, diagnostics_judge_eq_nil_iff]
    simp [Registry.empty]

/-- Over a table the items foretell the report of any pass whose output never fails. -/
theorem run_foretold (table : SymbolTable) (config : Config) {m : Type → Type} [Monad m]
    [LawfulMonad m] {sink : Output.Sink m} (never : sink.NeverFails) :
    ∃ items judged report, Classification.classifyAll table.host config.markers = .ok items ∧
      Foretold items judged report ∧ run table.host config sink = (fun _ => report) <$>
        run table.host config sink := by
  obtain ⟨items, classified, found⟩ := exists_classified table config.markers
  refine ⟨items, judge .empty items, ?_⟩
  by_cases marked : items = []
  · have unmarked : Unmarked table config.markers := by
      rw [unmarked_iff, ← classified.ids, marked, List.map_nil]
    subst marked
    refine ⟨⟨.nothing, []⟩, classified.classified, foretold_of_judge rfl rfl, ?_⟩
    rw [run_unmarked sink unmarked, map_pure]
  · obtain ⟨deferred, unobstructed, ran⟩ := run_eq_script classified.classified marked
    refine ⟨conclude (.ok deferred) (judge .empty items) none, classified.classified, ?_, ?_⟩
    · simp only [conclude, unobstructed, Option.or_none]
      exact foretold_of_judge rfl rfl
    · rw [ran, ← never.firstFault]
      simp

end Generation

end ForwardingProxy
