import ForwardingProxy.Generation
import ForwardingProxy.Proofs.Output.Calls

/-!
Contract: a generation pass as a plan of calls.

Owns: the verdict on each item, the calls that a pass plans to make and the report it comes to, and
the fact that the pass makes the planned calls until one fails and then gives that report.

Each call is marked with the number of items that are settled before it is made: accepted and
written, or rejected and reported. An obstacle, which is a failure that concerns more than one
declaration, ends the plan where it stands.
-/

namespace ForwardingProxy.Generation

open Classification (Item)
open Output (Call Planned)

/-! ### Verdicts -/

/-- An item and what becomes of it: the request that is written or the failure that prevents it. -/
structure Judged where
  item : Item
  verdict : Except Failure ProxyRequest

namespace Judged

/-- The request, when the item is accepted. -/
def request? (judged : Judged) : Option ProxyRequest :=
  match judged.verdict with
  | .ok request => some request
  | .error _ => none

/-- The report about the item, unless it is accepted. -/
def diagnostic? (judged : Judged) : Option Diagnostic :=
  match judged.verdict with
  | .ok _ => none
  | .error failure => some (.error failure.message judged.item.declaration)

/-- The failure that ends the pass at this item, if there is one. -/
def obstacle? (judged : Judged) : Option Failure :=
  match judged.verdict with
  | .ok _ => none
  | .error failure => if failure.isLocal then none else some failure

end Judged

theorem Judged.obstacle?_eq_none {judged : Judged} :
    judged.obstacle? = none ↔
      ∀ failure, judged.verdict = .error failure → failure.isLocal = true := by
  unfold Judged.obstacle?
  cases judged.verdict with
  | ok request => simp
  | error failure => simp

theorem Judged.obstacle?_eq_some {judged : Judged} {failure : Failure} :
    judged.obstacle? = some failure ↔
      judged.verdict = .error failure ∧ failure.isLocal = false := by
  unfold Judged.obstacle?
  cases judged.verdict with
  | ok request => simp
  | error own =>
      cases isLocal : own.isLocal with
      | true =>
          simp only [isLocal, if_true, reduceCtorEq, Except.error.injEq, false_iff, not_and]
          rintro rfl
          simp [isLocal]
      | false =>
          simp only [isLocal, Bool.false_eq_true, if_false, Option.some.injEq, Except.error.injEq]
          exact ⟨fun same => ⟨same, same ▸ isLocal⟩, fun both => both.1⟩

/-- The verdict on an item when others are registered before it. -/
def verdict (registry : Registry) (item : Item) : Except Failure ProxyRequest :=
  match item.outcome with
  | .error failure => .error failure
  | .ok request =>
      match registry.refusal? request.entry with
      | some refusal => .error (.refused refusal)
      | none => .ok request

/-- The registry after a verdict. -/
def registryAfter (registry : Registry) : Except Failure ProxyRequest → Registry
  | .ok request => ⟨registry.entries ++ [request.entry]⟩
  | .error _ => registry

/-- The verdicts on all items in order. -/
def judge : Registry → List Item → List Judged
  | _, [] => []
  | registry, item :: rest =>
      ⟨item, verdict registry item⟩ :: judge (registryAfter registry (verdict registry item)) rest

/-- The requests that are accepted. -/
def requests (judged : List Judged) : List ProxyRequest :=
  judged.filterMap Judged.request?

/-- The reports about the items that are not. -/
def diagnostics (judged : List Judged) : List Diagnostic :=
  judged.filterMap Judged.diagnostic?

section Lists

variable (item : Item) (request : ProxyRequest) (failure : Failure) (rest : List Judged)

@[simp] theorem requests_cons_ok :
    requests (⟨item, .ok request⟩ :: rest) = request :: requests rest := rfl

@[simp] theorem requests_cons_error :
    requests (⟨item, .error failure⟩ :: rest) = requests rest := rfl

@[simp] theorem diagnostics_nil : diagnostics [] = [] := rfl

@[simp] theorem diagnostics_cons_ok :
    diagnostics (⟨item, .ok request⟩ :: rest) = diagnostics rest := rfl

@[simp] theorem diagnostics_cons_error :
    diagnostics (⟨item, .error failure⟩ :: rest) =
      .error failure.message item.declaration :: diagnostics rest := rfl

theorem diagnostics_append (first second : List Judged) :
    diagnostics (first ++ second) = diagnostics first ++ diagnostics second :=
  List.filterMap_append

theorem severity_of_mem_diagnostics {judged : List Judged} {diagnostic : Diagnostic}
    (isReported : diagnostic ∈ diagnostics judged) : diagnostic.severity = .error := by
  obtain ⟨one, _, reports⟩ := List.mem_filterMap.mp isReported
  unfold Judged.diagnostic? at reports
  cases rejected : one.verdict with
  | ok request => rw [rejected] at reports; cases reports
  | error failure => rw [rejected] at reports; cases reports; rfl

end Lists

/-- The registry of the accepted requests. -/
def registryOf (judged : List Judged) : Registry :=
  ⟨(requests judged).map ProxyRequest.entry⟩

/-- The first obstacle, with the number of items before it. -/
def obstacle? : (settled : Nat) → List Judged → Option (Nat × Failure)
  | _, [] => none
  | settled, judged :: rest =>
      match judged.obstacle? with
      | some failure => some (settled, failure)
      | none => obstacle? (settled + 1) rest

/-! ### Plans -/

/-- The texts that an item adds to the file. -/
def itemTexts (runtimePath : String) (judged : Judged) : List String :=
  match judged.request? with
  | some request => [request.sourceText runtimePath, "\n"]
  | none => []

/-- The calls for the items up to the first obstacle. -/
def itemCalls (runtimePath : String) : (settled : Nat) → List Judged → List Planned
  | _, [] => []
  | settled, judged :: rest =>
      match judged.obstacle? with
      | some _ => []
      | none =>
          (itemTexts runtimePath judged).map (fun text => ⟨settled, .append text⟩)
            ++ itemCalls runtimePath (settled + 1) rest

/-- The calls that open the file. -/
def openingCalls (config : Config) : List Planned :=
  [⟨0, .create config.package config.fileName⟩, ⟨0, .append header⟩, ⟨0, .append "\n\n"⟩]

/-- The calls that complete the file, unless there is an obstacle. -/
def closingCalls (config : Config) (judged : List Judged) : List Planned :=
  match obstacle? 0 judged with
  | some _ => []
  | none =>
      [⟨judged.length, .append ((registryOf judged).sourceText config.runtimePath)⟩,
        ⟨judged.length, .finish⟩]

/-- All calls of a pass in order. -/
def script (config : Config) (judged : List Judged) : List Planned :=
  openingCalls config ++ itemCalls config.runtimePath 0 judged ++ closingCalls config judged

/-- The reports made by the time a pass stops. -/
def reported (judged : List Judged) : Option (Nat × Failure) → List Diagnostic
  | some (settled, _) => diagnostics (judged.take settled)
  | none => diagnostics judged

/-- The report of a pass, given the first call that failed and the names to wait for. -/
def conclude
    (deferral : Answer (List String))
    (judged : List Judged)
    (fault : Option (Nat × Failure)) : Report :=
  match fault.or (obstacle? 0 judged) with
  | some (settled, failure) => aborted (diagnostics (judged.take settled)) failure.message
  | none =>
      match deferral with
      | .error broken => aborted (diagnostics judged) broken.message
      | .ok deferred =>
          ⟨⟨(registryOf judged).entries, deferred, true⟩, diagnostics judged⟩

/-- A pass for which the marked declarations and the names to wait for are known, or questions about
them broke off. -/
def passOf {m : Type → Type} [Monad m]
    (discovered : Answer (Option (List Item)))
    (deferral : Answer (List String))
    (config : Config)
    (sink : Output.Sink m) : m Report :=
  match discovered with
  | .error fault => pure (aborted [] fault.message)
  | .ok none => pure ⟨.nothing, []⟩
  | .ok (some items) => do
      let judged := judge .empty items
      let fault ← sink.firstFault (script config judged)
      pure (conclude deferral judged fault)

/-! ### Passes follow their plans -/

/-- The events of a pass follow the verdicts: a refusal by the registry is one failure of many. -/
private theorem itemEvents_cons (runtimePath : String) (registry : Registry) (item : Item)
    (rest : List Item) :
    itemEvents runtimePath registry (item :: rest) =
      match verdict registry item with
      | .ok request =>
          let (events, ending) := itemEvents runtimePath (registryAfter registry (.ok request)) rest
          (.write (request.sourceText runtimePath) :: .write "\n" :: events, ending)
      | .error failure =>
          if failure.isLocal then
            let (events, ending) := itemEvents runtimePath registry rest
            (.report (.error failure.message item.declaration) :: events, ending)
          else ([], .error failure) := by
  rw [itemEvents, verdict]
  cases item.outcome with
  | error failure => rfl
  | ok request =>
      dsimp only
      rw [Registry.register]
      cases registry.refusal? request.entry with
      | some refusal => rfl
      | none => rfl

/-- How the events end: at the first obstacle, or with the registry of all accepted requests. -/
private theorem itemEvents_ending (runtimePath : String) (registry : Registry) (items : List Item)
    (settled : Nat) :
    (itemEvents runtimePath registry items).2 =
      match obstacle? settled (judge registry items) with
      | some (_, failure) => .error failure
      | none => .ok ⟨registry.entries ++ (registryOf (judge registry items)).entries⟩ := by
  induction items generalizing registry settled with
  | nil => simp [itemEvents, judge, obstacle?, registryOf, requests]
  | cons item rest inductionHypothesis =>
      rw [itemEvents_cons, judge, obstacle?]
      cases verdict registry item with
      | ok request =>
          simp only [Judged.obstacle?, inductionHypothesis _ (settled + 1), registryAfter]
          cases obstacle? (settled + 1) (judge _ rest) with
          | some stopped => rfl
          | none => simp [registryOf]
      | error failure =>
          cases isLocal : failure.isLocal with
          | false => simp [Judged.obstacle?, isLocal]
          | true =>
              simp only [Judged.obstacle?, isLocal, if_true, inductionHypothesis _ (settled + 1),
                registryAfter]
              cases obstacle? (settled + 1) (judge registry rest) with
              | some stopped => rfl
              | none => simp [registryOf]

variable {m : Type → Type} [Monad m] [LawfulMonad m]

/-- What playing the events of a pass comes to, after the items `before`. -/
private def played (judged : List Judged) (stopped : Option (Nat × Failure))
    (fault : Option (Nat × Failure)) : List Diagnostic × Except Failure Unit :=
  (reported judged (fault.or stopped), fault.elim (.ok ()) fun failed => .error failed.2)

/-- Playing the events of the items makes the planned calls. The induction is on the items that are
left; `before` holds those that are settled, so that marks count from the start of the pass. -/
private theorem play_itemEvents (sink : Output.Sink m) (runtimePath : String) (registry : Registry)
    (before : List Judged) (items : List Item) :
    (fun result => (diagnostics before ++ result.1, result.2)) <$>
        play sink (itemEvents runtimePath registry items).1 = (do
      let judged := judge registry items
      let fault ← sink.firstFault (itemCalls runtimePath before.length judged)
      pure (played (before ++ judged) (obstacle? before.length judged) fault)) := by
  induction items generalizing registry before with
  | nil =>
      simp [itemEvents, judge, obstacle?, itemCalls, play, Output.Sink.firstFault, played,
        reported]
  | cons item rest inductionHypothesis =>
      rw [itemEvents_cons, judge]
      dsimp only
      have later := inductionHypothesis (registryAfter registry (verdict registry item))
        (before ++ [⟨item, verdict registry item⟩])
      simp only [List.length_append, List.length_singleton, diagnostics_append, List.append_assoc,
        List.singleton_append] at later
      rw [obstacle?, itemCalls]
      have atFault : ∀ (judged : List Judged) (stopped : Option (Nat × Failure)) failure,
          played (before ++ judged) stopped (some (before.length, failure)) =
            (diagnostics before, .error failure) := by
        intro judged stopped failure
        simp [played, reported]
      cases isVerdict : verdict registry item with
      | ok request =>
          rw [isVerdict] at later
          simp only [Judged.obstacle?, itemTexts, Judged.request?, play, List.map_cons,
            List.map_nil, List.cons_append, List.nil_append, Output.Sink.firstFault,
            Output.Sink.answer, map_bind, bind_assoc]
          apply bind_congr
          intro written
          cases written with
          | error failure => simp [atFault]
          | ok done =>
              simp only [map_bind, bind_assoc]
              apply bind_congr
              intro ended
              cases ended with
              | error failure => simp [atFault]
              | ok done => simpa using later
      | error failure =>
          rw [isVerdict] at later
          cases isLocal : failure.isLocal with
          | false =>
              simp [Judged.obstacle?, isLocal, play, Output.Sink.firstFault, played, reported]
          | true =>
              simp only [Judged.obstacle?, isLocal, if_true, itemTexts, Judged.request?, play,
                List.map_nil, List.nil_append]
              rw [← later]
              simp [registryAfter]

private theorem play_events (sink : Output.Sink m) (runtimePath : String) (items : List Item) :
    play sink (events runtimePath items).1 = (do
      let judged := judge .empty items
      let fault ← sink.firstFault (⟨0, .append header⟩ :: ⟨0, .append "\n\n"⟩ ::
        itemCalls runtimePath 0 judged)
      pure (played judged (obstacle? 0 judged) fault)) := by
  have playedItems := play_itemEvents sink runtimePath .empty [] items
  simp only [diagnostics_nil, List.nil_append, id_map', List.length_nil] at playedItems
  have atStart : ∀ (judged : List Judged) (stopped : Option (Nat × Failure)) failure,
      played judged stopped (some (0, failure)) = ([], .error failure) := by
    intro judged stopped failure
    simp [played, reported]
  simp only [events, play, Output.Sink.firstFault, Output.Sink.answer, bind_assoc]
  apply bind_congr
  intro headed
  cases headed with
  | error failure => simp [atStart]
  | ok done =>
      simp only [bind_assoc]
      apply bind_congr
      intro separated
      cases separated with
      | error failure => simp [atStart]
      | ok done => exact playedItems

private theorem conclude_unstopped (host : Host) (markers : Markers) {judged : List Judged}
    (unobstructed : obstacle? 0 judged = none) :
    conclude (deferredFunctions host markers) judged none =
      completed host markers (diagnostics judged) (registryOf judged) := by
  cases asked : deferredFunctions host markers with
  | error fault => simp [conclude, completed, unobstructed, asked]
  | ok deferred => simp [conclude, completed, unobstructed, asked]

/-- What a pass that writes a file does is to make the calls of its plan until one fails. -/
theorem write_eq (host : Host) (config : Config) (sink : Output.Sink m) (items : List Item) :
    write host config sink items = (do
      let judged := judge .empty items
      let fault ← sink.firstFault (script config judged)
      pure (conclude (deferredFunctions host config.markers) judged fault)) := by
  have isScript : script config (judge .empty items) =
      ⟨0, .create config.package config.fileName⟩ ::
        ((⟨0, .append header⟩ :: ⟨0, .append "\n\n"⟩ ::
          itemCalls config.runtimePath 0 (judge .empty items))
            ++ closingCalls config (judge .empty items)) := rfl
  have isEnding : (events config.runtimePath items).2 =
      (itemEvents config.runtimePath .empty items).2 := rfl
  dsimp only
  rw [isScript, Output.Sink.firstFault, Output.Sink.firstFault_append]
  simp only [write, Output.Sink.answer, bind_assoc]
  apply bind_congr
  intro created
  cases created with
  | error failure => simp [conclude]
  | ok done =>
      rw [isEnding, itemEvents_ending config.runtimePath .empty items 0, play_events]
      simp only [bind_assoc, pure_bind]
      apply bind_congr
      intro fault
      cases fault with
      | some failed => simp [played, conclude, reported]
      | none =>
          cases stopped : obstacle? 0 (judge .empty items) with
          | some obstacle =>
              simp [played, conclude, reported, closingCalls, stopped, Output.Sink.firstFault]
          | none =>
              simp only [closingCalls, stopped, played, Option.elim_none, Option.or_none, reported,
                close, Output.Sink.firstFault, Output.Sink.answer, bind_assoc]
              apply bind_congr
              intro appended
              cases appended with
              | error failure => simp [conclude, stopped]
              | ok done =>
                  simp only [bind_assoc]
                  apply bind_congr
                  intro finished
                  cases finished with
                  | error failure => simp [conclude, stopped]
                  | ok done =>
                      have noEntries : Registry.empty.entries = [] := rfl
                      simp only [pure_bind, noEntries, List.nil_append]
                      rw [conclude_unstopped host config.markers stopped]

theorem run_eq (host : Host) (config : Config) (sink : Output.Sink m) :
    run host config sink =
      passOf (items? host config.markers) (deferredFunctions host config.markers) config sink := by
  unfold run passOf
  cases items? host config.markers with
  | error fault => rfl
  | ok found =>
      cases found with
      | none => rfl
      | some items => exact write_eq host config sink items

end ForwardingProxy.Generation
