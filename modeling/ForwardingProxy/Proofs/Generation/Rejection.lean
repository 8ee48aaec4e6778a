import ForwardingProxy.Proofs.Classification.Unmarking
import ForwardingProxy.Proofs.Generation.Accounting

/-!
Contract: what a rejected declaration leaves behind.

Owns: the fact that a pass over a table comes to the same file and the same registrations when
rejected items lose their markers, and that only the reports about these are gone.

Does not own: the names that wait for a later pass. A dispatch function is among them whether or not
it is rejected, so that list may become shorter.
-/

namespace ForwardingProxy.Generation

open Classification (Item MarkerRole)
open Output (Memory)

/-! ### Verdicts on fewer items -/

section Kept

variable (kept : Item → Bool)

/-- A rejected item has no influence on the verdicts after it. -/
theorem judge_filter {registry : Registry} {items : List Item}
    (rejected : ∀ one ∈ judge registry items, kept one.item = false →
      one.diagnostic?.isSome = true) :
    judge registry (items.filter kept) =
      (judge registry items).filter fun one => kept one.item := by
  induction items generalizing registry with
  | nil => rfl
  | cons item rest inductionHypothesis =>
      have later := inductionHypothesis fun one member =>
        rejected one (List.mem_cons_of_mem _ member)
      rw [judge]
      cases isKept : kept item with
      | true =>
          simp only [List.filter_cons, isKept, if_true]
          rw [judge, later]
      | false =>
          simp only [List.filter_cons, isKept, Bool.false_eq_true, if_false]
          rw [← later]
          -- the item registers nothing, so the next one meets the same registry
          have isRejected := rejected _ (List.mem_cons_self ..) isKept
          cases judgedSo : verdict registry item with
          | ok request =>
              rw [judgedSo] at isRejected
              cases isRejected
          | error failure => rfl

theorem requests_filter {judged : List Judged}
    (rejected : ∀ one ∈ judged, kept one.item = false → one.diagnostic?.isSome = true) :
    requests (judged.filter fun one => kept one.item) = requests judged := by
  rw [requests, List.filterMap_filter]
  refine List.filterMap_congr fun one member => ?_
  cases isKept : kept one.item with
  | true => rfl
  | false =>
      have isRejected := rejected one member isKept
      unfold Judged.diagnostic? at isRejected
      unfold Judged.request?
      cases judgedSo : one.verdict with
      | ok request =>
          rw [judgedSo] at isRejected
          cases isRejected
      | error failure => rfl

end Kept

/-! ### Passes -/

/-- A pass over a table with marked declarations finishes the file of its verdicts. -/
theorem run_into_memory {table : SymbolTable} {config : Config} {items : List Item}
    (classified : Classification.classifyAll table.host config.markers = .ok items)
    (marked : items ≠ []) (memory : Memory) :
    ∃ deferred, run table.host config Memory.sink memory =
      (⟨⟨(registryOf (judge .empty items)).entries, deferred, true⟩,
          diagnostics (judge .empty items)⟩,
        ⟨memory.files.filter (fun file =>
            file.1 != Output.key config.package config.fileName)
          ++ [(Output.key config.package config.fileName,
            fileText config (judge .empty items))], none⟩) := by
  obtain ⟨deferred, unobstructed, ran⟩ := run_eq_script classified marked
  refine ⟨deferred, ?_⟩
  rw [ran, Output.map_apply, firstFault_script_memory config unobstructed]
  simp only [conclude, unobstructed, Option.or_none]

/-- The second of two passes has lost the items that are not kept, and the first has rejected these:
both come to the same file and registrations, and what one reports more is about lost items. -/
structure SameOutput
    (judged : List Judged)
    (kept : Item → Bool)
    (before after : Report × Memory) : Prop where
  memory : after.2 = before.2
  registered : after.1.outcome.registered = before.1.outcome.registered
  fileWritten : after.1.outcome.fileWritten = true ∧ before.1.outcome.fileWritten = true
  reportedBefore : before.1.diagnostics = judged.filterMap Judged.diagnostic?
  reportedAfter : after.1.diagnostics =
    (judged.filter fun one => kept one.item).filterMap Judged.diagnostic?

/-- Rejected items leave no trace in the output. When they lose their markers and some item is left,
the pass comes to the same file and registrations and reports the same about the other items. -/
theorem rejected_leave_no_trace (table : SymbolTable) (config : Config)
    (differ : config.markers.dispatchFunction ≠ config.markers.handlerInterface)
    (dropped : Nat → MarkerRole → Bool) {items : List Item}
    (classified : Classification.classifyAll table.host config.markers = .ok items)
    (rejected : ∀ one ∈ judge .empty items, dropped one.item.id one.item.role = true →
      one.diagnostic?.isSome = true)
    (remains : ∃ item ∈ items, dropped item.id item.role = false) (memory : Memory) :
    SameOutput (judge .empty items) (fun item => !dropped item.id item.role)
      (run table.host config Memory.sink memory)
      (run (table.unmark config.markers dropped).host config Memory.sink memory) := by
  obtain ⟨left, isItem, isLeft⟩ := remains
  have classifiedAfter := Classification.classifyAll_unmark differ dropped classified
  have keptItem : left ∈ items.filter fun item => !dropped item.id item.role :=
    List.mem_filter.mpr ⟨isItem, by rw [isLeft]; rfl⟩
  obtain ⟨deferredBefore, ranBefore⟩ :=
    run_into_memory classified (List.ne_nil_of_mem isItem) memory
  obtain ⟨deferredAfter, ranAfter⟩ :=
    run_into_memory classifiedAfter (List.ne_nil_of_mem keptItem) memory
  have rejectedItems : ∀ one ∈ judge .empty items,
      (!dropped one.item.id one.item.role) = false → one.diagnostic?.isSome = true := by
    intro one member isDropped
    exact rejected one member (by simpa using isDropped)
  have sameRequests := requests_filter (fun item => !dropped item.id item.role) rejectedItems
  rw [judge_filter (fun item => !dropped item.id item.role) rejectedItems] at ranAfter
  rw [ranBefore, ranAfter]
  refine ⟨?_, ?_, ⟨rfl, rfl⟩, rfl, rfl⟩
  · simp only [fileText, registryOf, sameRequests]
  · simp only [registryOf, sameRequests]

/-- A dispatch function of that name. -/
def lampDispatch (name : String) : FunctionSignature :=
  let boxed := .path ["Box"] [.traitObject ["Any"]]
  ⟨name, none,
    [⟨some "call", .reference false (.path ["MethodCall"] [])⟩,
      ⟨some "arguments", .path ["Vec"] [boxed]⟩], some boxed, false, true⟩

/-- A trait that two functions and a marker of its own ask a proxy for, and a function of another
signature that carries both markers. -/
def lampTable : SymbolTable where
  scopes := [.new "crate" none]
  declarations := [
    ⟨"Lamp", "crate", 0,
      .trait ⟨false, [], [.method ⟨"switch", some .shared, [], none, false, false⟩]⟩,
      [⟨"with_proxy", some "Bulb"⟩], none, true⟩,
    ⟨"Bulb", "crate", 0, .unitStruct, [], none, true⟩,
    ⟨"light", "crate", 0, .function (lampDispatch "light"), [⟨"proxy_for", some "Lamp"⟩], none,
      true⟩,
    ⟨"dark", "crate", 0, .function (lampDispatch "dark"), [⟨"proxy_for", some "Lamp"⟩], none,
      true⟩,
    ⟨"dim", "crate", 0, .function ⟨"dim", none, [], none, false, true⟩,
      [⟨"proxy_for", some "Lamp"⟩, ⟨"with_proxy", some "Bulb"⟩], none, true⟩]
  facts := []
  announced := []

/-- The interface of the only trait. -/
def lamp : Interface :=
  ⟨"crate::Lamp", ["crate::Lamp"], [], [⟨"switch", .shared, [], .unit, "crate::Lamp"⟩]⟩

/-- What the marked declarations of the table ask for. -/
def lampItems : List Item :=
  [⟨2, "crate::light", .dispatchFunction, .ok (.new lamp (.function "crate::light") none)⟩,
    ⟨3, "crate::dark", .dispatchFunction, .ok (.new lamp (.function "crate::dark") none)⟩,
    ⟨4, "crate::dim", .dispatchFunction, .error (.signature "crate::dim" "dim")⟩,
    ⟨0, "crate::Lamp", .handlerInterface, .ok (.new lamp (.handler "&crate::Bulb") none)⟩,
    ⟨4, "crate::dim", .handlerInterface,
      .error (.notInterface "crate::dim" "a function")⟩]

/-- All rejected items but one are dropped; that one is of a declaration which keeps a marker. -/
def lampDropped : Nat → MarkerRole → Bool
  | 3, .dispatchFunction | 4, .dispatchFunction | 0, .handlerInterface => true
  | _, _ => false

theorem lampTable_leaves_no_trace :
    Classification.classifyAll lampTable.host .standard = .ok lampItems ∧
      (∀ one ∈ judge .empty lampItems, lampDropped one.item.id one.item.role = true →
        one.diagnostic?.isSome = true) ∧
      (∃ item ∈ lampItems, lampDropped item.id item.role = false) ∧
      SameOutput (judge .empty lampItems) (fun item => !lampDropped item.id item.role)
        (run lampTable.host .standard Memory.sink .empty)
        (run (lampTable.unmark .standard lampDropped).host .standard Memory.sink .empty) := by
  have differ : Markers.standard.dispatchFunction ≠ Markers.standard.handlerInterface := by decide
  have classified : Classification.classifyAll lampTable.host .standard = .ok lampItems := rfl
  have rejected : ∀ one ∈ judge .empty lampItems,
      lampDropped one.item.id one.item.role = true → one.diagnostic?.isSome = true := by
    decide
  have remains : ∃ item ∈ lampItems, lampDropped item.id item.role = false := by decide
  exact ⟨classified, rejected, remains,
    rejected_leave_no_trace lampTable .standard differ lampDropped classified rejected remains
      .empty⟩

end ForwardingProxy.Generation
