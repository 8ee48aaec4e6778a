import ForwardingProxy.FaultInjection
import ForwardingProxy.Proofs.Generation.Accounting

/-!
Contract: passes whose surroundings fail.

Owns: what a pass reports when its sink fails on any call or an obstacle stands in its way, and when
the outcome of a pass into memory tells the truth about the file.

A pass that reaches its end asks the host once more, after the file is finished. A host that breaks
off then leaves a finished file behind an outcome that denies it; nothing else does.
-/

namespace ForwardingProxy.Generation

open Classification (Item)
open Output (Call Memory Planned Sink)

/-! ### Places in a plan -/

/-- None of the first items is an obstacle. -/
def Clear (judged : List Judged) (settled : Nat) : Prop :=
  ∀ one ∈ judged.take settled, one.obstacle? = none

theorem clear_succ_iff {first : Judged} {rest : List Judged} {settled : Nat} :
    Clear (first :: rest) (settled + 1) ↔ first.obstacle? = none ∧ Clear rest settled := by
  simp [Clear]

/-- The first obstacle stands behind items that are none. -/
theorem obstacle?_eq_some {start settled : Nat} {judged : List Judged} {failure : Failure}
    (stops : obstacle? start judged = some (settled, failure)) :
    ∃ place, settled = start + place ∧ Clear judged place ∧
      ∃ one, judged[place]? = some one ∧ one.obstacle? = some failure := by
  induction judged generalizing start with
  | nil => cases stops
  | cons first rest inductionHypothesis =>
      rw [obstacle?] at stops
      cases own : first.obstacle? with
      | some cause =>
          rw [own] at stops
          cases stops
          exact ⟨0, rfl, by simp [Clear], first, rfl, own⟩
      | none =>
          rw [own] at stops
          obtain ⟨place, isPlace, clear, one, isOne, cause⟩ := inductionHypothesis stops
          refine ⟨place + 1, by omega, clear_succ_iff.mpr ⟨own, clear⟩, one, ?_, cause⟩
          simpa using isOne

/-- A call for an item is made once the items before it are settled. -/
theorem clear_of_mem_itemCalls {runtimePath : String} {start : Nat} {judged : List Judged}
    {planned : Planned} (member : planned ∈ itemCalls runtimePath start judged) :
    ∃ place, planned.mark = start + place ∧ Clear judged place := by
  induction judged generalizing start with
  | nil => cases member
  | cons first rest inductionHypothesis =>
      rw [itemCalls] at member
      cases own : first.obstacle? with
      | some cause => rw [own] at member; cases member
      | none =>
          rw [own] at member
          rcases List.mem_append.mp member with isOwn | later
          · obtain ⟨text, _, rfl⟩ := List.mem_map.mp isOwn
            exact ⟨0, rfl, by simp [Clear]⟩
          · obtain ⟨place, isPlace, clear⟩ := inductionHypothesis later
            exact ⟨place + 1, by omega, clear_succ_iff.mpr ⟨own, clear⟩⟩

theorem clear_of_mem_script {config : Config} {judged : List Judged} {planned : Planned}
    (member : planned ∈ script config judged) : Clear judged planned.mark := by
  rw [script, List.mem_append, List.mem_append] at member
  rcases member with (isOpening | isItem) | isClosing
  · have atStart : planned.mark = 0 := by
      simp only [openingCalls, List.mem_cons, List.not_mem_nil, or_false] at isOpening
      rcases isOpening with rfl | rfl | rfl <;> rfl
    simp [Clear, atStart]
  · obtain ⟨place, isPlace, clear⟩ := clear_of_mem_itemCalls isItem
    rw [isPlace, Nat.zero_add]
    exact clear
  · unfold closingCalls at isClosing
    cases stops : obstacle? 0 judged with
    | some stopped => rw [stops] at isClosing; cases isClosing
    | none =>
        intro one isOne
        exact obstacle?_eq_none_iff.mp stops one (List.mem_of_mem_take isOne)

theorem finish_not_mem_itemCalls (runtimePath : String) (start : Nat) (judged : List Judged) :
    .finish ∉ (itemCalls runtimePath start judged).map Planned.call := by
  induction judged generalizing start with
  | nil => simp [itemCalls]
  | cons first rest inductionHypothesis =>
      rw [itemCalls]
      cases first.obstacle? with
      | some cause => simp
      | none =>
          rw [List.map_append, List.mem_append, not_or]
          exact ⟨by simp, inductionHypothesis (start + 1)⟩

/-- A plan finishes the file at its very end, and only when nothing stands in the way. -/
theorem script_finish (config : Config) (judged : List Judged) :
    ∃ start, .finish ∉ start.map Planned.call ∧
      script config judged = start ++
        if (obstacle? 0 judged).isSome then [] else [⟨judged.length, .finish⟩] := by
  have opening : .finish ∉ (openingCalls config).map Planned.call := by simp [openingCalls]
  have items := finish_not_mem_itemCalls config.runtimePath 0 judged
  unfold script closingCalls
  cases obstacle? 0 judged with
  | some stopped =>
      refine ⟨openingCalls config ++ itemCalls config.runtimePath 0 judged, ?_, rfl⟩
      rw [List.map_append, List.mem_append, not_or]
      exact ⟨opening, items⟩
  | none =>
      refine ⟨openingCalls config ++ itemCalls config.runtimePath 0 judged
        ++ [⟨judged.length, .append ((registryOf judged).sourceText config.runtimePath)⟩], ?_, ?_⟩
      · simp only [List.map_append, List.mem_append, not_or]
        exact ⟨⟨opening, items⟩, by simp⟩
      · simp [List.append_assoc]

theorem finish_mem_script_iff {config : Config} {judged : List Judged} :
    .finish ∈ (script config judged).map Planned.call ↔ obstacle? 0 judged = none := by
  obtain ⟨start, unfinished, isScript⟩ := script_finish config judged
  rw [isScript, List.map_append, List.mem_append]
  cases obstacle? 0 judged with
  | some stopped => simp [unfinished]
  | none => simp

/-- No call stands behind the one that finishes the file. -/
theorem finish_not_mem_before {config : Config} {judged : List Judged} {before later : List Planned}
    {planned : Planned} (place : script config judged = before ++ planned :: later) :
    .finish ∉ before.map Planned.call := by
  obtain ⟨start, unfinished, isScript⟩ := script_finish config judged
  have shorter : before.length ≤ start.length := by
    have sameLength := congrArg List.length (place.symm.trans isScript)
    split at sameLength <;> simp at sameLength <;> omega
  have within : before <+: start := by
    refine List.prefix_of_prefix_length_le ⟨planned :: later, place.symm⟩ ?_ shorter
    exact ⟨_, isScript.symm⟩
  exact fun member => unfinished ((within.map Planned.call).subset member)

/-! ### Logs of a pass -/

/-- A logged pass gives the report and the state of the pass, and its log traces the plan. -/
theorem passOf_recorded {σ : Type} {items : List Item} (deferral : Answer (List String))
    {config : Config} {sink : Sink (StateM σ)} {start after : σ} {fault : Option (Nat × Failure)}
    (ran : sink.firstFault (script config (judge .empty items)) start = (fault, after)) :
    ∃ trace, Sink.Traces (script config (judge .empty items)) fault trace ∧
      passOf (.ok (some items)) deferral config sink start =
        (conclude deferral (judge .empty items) fault, after) ∧
      passOf (.ok (some items)) deferral config sink.recorded (start, []) =
        (conclude deferral (judge .empty items) fault, after, trace) := by
  obtain ⟨trace, traces, logged⟩ :=
    sink.firstFault_recorded (script config (judge .empty items)) start []
  rw [ran] at traces logged
  refine ⟨trace, traces, ?_, ?_⟩
  · simp only [passOf, bind, StateT.bind, ran]
    rfl
  · simp only [passOf, bind, StateT.bind, logged]
    rfl

/-- The file is finished exactly when no call fails and nothing stands in the way. -/
theorem finished_iff {config : Config} {judged : List Judged} {fault : Option (Nat × Failure)}
    {trace : Sink.Log} (traces : Sink.Traces (script config judged) fault trace) :
    (Call.finish, .ok ()) ∈ trace ↔ fault = none ∧ obstacle? 0 judged = none := by
  have succeeded_iff : ∀ calls : List Planned,
      (Call.finish, .ok ()) ∈ Sink.succeeded calls ↔ .finish ∈ calls.map Planned.call := by
    intro calls
    simp [Sink.succeeded]
  cases traces with
  | complete => simp [succeeded_iff, finish_mem_script_iff]
  | cut before place =>
      have unfinished := finish_not_mem_before place
      rw [List.mem_append, succeeded_iff]
      simp [unfinished]

/-- Up to a place where nothing has stood in the way yet, a pass reports what it reports without
faults. -/
theorem reported_prefix {judged : List Judged} {settled : Nat} (clear : Clear judged settled)
    (deferred : List String) :
    diagnostics (judged.take settled) <+: (conclude (.ok deferred) judged none).diagnostics := by
  unfold conclude
  rw [Option.none_or]
  cases stops : obstacle? 0 judged with
  | none => exact (List.take_prefix settled judged).filterMap _
  | some stopped =>
      obtain ⟨reached, failure⟩ := stopped
      obtain ⟨place, isPlace, _, one, isOne, cause⟩ := obstacle?_eq_some stops
      have notBeyond : settled ≤ reached := by
        by_contra beyond
        have isEarly : one ∈ judged.take settled := by
          apply List.mem_of_getElem? (i := place)
          rw [List.getElem?_take_of_lt (by omega), isOne]
        rw [clear one isEarly] at cause
        cases cause
      have earlier := (List.take_prefix_take_left (l := judged) notBeyond).filterMap
        Judged.diagnostic?
      exact earlier.trans (List.prefix_append _ _)

/-! ### Sinks that fail -/

/-- The pass came to its end: nothing was marked and no call was made, or every call succeeded, the
file is finished, and there are errors but no warnings. -/
inductive Completes : Report → Sink.Log → Prop where
  | nothing : Completes ⟨.nothing, []⟩ []
  | finished {report : Report} {log : Sink.Log}
      (written : report.outcome.fileWritten = true)
      (finishes : (Call.finish, .ok ()) ∈ log)
      (succeeds : ∀ made ∈ log, made.2 = .ok ())
      (errorsOnly : ∀ diagnostic ∈ report.diagnostics, diagnostic.severity = .error) :
      Completes report log

/-- The pass ended early, after `settled` of its items, and for the reason `failure`. -/
structure Aborts
    (host : Host)
    (config : Config)
    (items : List Item)
    (settled : Nat)
    (failure : Failure)
    (report : Report)
    (log : Sink.Log) : Prop where
  classified : Classification.classifyAll host config.markers = .ok items
  /-- Either the last call that was made failed, or there is an obstacle after all calls. -/
  cause :
    (∃ before call later,
      script config (judge .empty items) = before ++ ⟨settled, call⟩ :: later ∧
        log = Sink.succeeded before ++ [(call, .error failure)]) ∨
    (∃ obstacle, (judge .empty items)[settled]? = some obstacle ∧
      obstacle.verdict = .error failure ∧ failure.isLocal = false ∧
      log = Sink.succeeded (script config (judge .empty items)))
  report : report = ⟨.nothing, diagnostics ((judge .empty items).take settled)
    ++ [.warning ("proxy generation aborted: " ++ failure.message)]⟩
  localOnly : ∀ one ∈ (judge .empty items).take settled, ∀ rejection,
    one.verdict = .error rejection → rejection.isLocal = true
  unfinished : (Call.finish, .ok ()) ∉ log
  faultless : diagnostics ((judge .empty items).take settled) <+:
    (run host config Memory.sink .empty).1.diagnostics

/-- A pass that stops at a place where nothing has stood in the way yet is aborted there. -/
private theorem aborts_of_clear {host : Host} {config : Config} {items : List Item} {settled : Nat}
    {failure : Failure} {deferred : List String} {fault : Option (Nat × Failure)} {log : Sink.Log}
    (classified : Classification.classifyAll host config.markers = .ok items)
    (faultless : (run host config Memory.sink .empty).1 =
      conclude (.ok deferred) (judge .empty items) none)
    (traces : Sink.Traces (script config (judge .empty items)) fault log)
    (stops : fault.or (obstacle? 0 (judge .empty items)) = some (settled, failure))
    (clear : Clear (judge .empty items) settled) :
    Aborts host config items settled failure
      (conclude (.ok deferred) (judge .empty items) fault) log where
  classified := classified
  cause := by
    cases traces with
    | complete =>
        right
        rw [Option.none_or] at stops
        obtain ⟨place, isPlace, _, obstacle, isObstacle, cause⟩ := obstacle?_eq_some stops
        rw [Nat.zero_add] at isPlace
        obtain ⟨rejected, notLocal⟩ := Judged.obstacle?_eq_some.mp cause
        exact ⟨obstacle, isPlace ▸ isObstacle, rejected, notLocal, rfl⟩
    | @cut before later planned own place =>
        left
        rw [Option.some_or] at stops
        cases stops
        exact ⟨before, planned.call, later, place, rfl⟩
  report := by
    rw [conclude, stops]
    rfl
  localOnly := fun one isSettled => Judged.obstacle?_eq_none.mp (clear one isSettled)
  unfinished := by
    rw [finished_iff traces]
    rintro ⟨rfl, unobstructed⟩
    rw [unobstructed] at stops
    cases stops
  faultless := by
    rw [faultless]
    exact reported_prefix clear deferred

private theorem conclude_completes_or_aborts {host : Host} {config : Config} {items : List Item}
    {deferred : List String} {fault : Option (Nat × Failure)} {log : Sink.Log}
    (classified : Classification.classifyAll host config.markers = .ok items)
    (faultless : (run host config Memory.sink .empty).1 =
      conclude (.ok deferred) (judge .empty items) none)
    (traces : Sink.Traces (script config (judge .empty items)) fault log) :
    Completes (conclude (.ok deferred) (judge .empty items) fault) log ∨
      ∃ settled failure, Aborts host config items settled failure
        (conclude (.ok deferred) (judge .empty items) fault) log := by
  cases stops : fault.or (obstacle? 0 (judge .empty items)) with
  | none =>
      obtain ⟨rfl, unobstructed⟩ := Option.or_eq_none_iff.mp stops
      left
      have report : conclude (.ok deferred) (judge .empty items) none =
          ⟨⟨(registryOf (judge .empty items)).entries, deferred, true⟩,
            diagnostics (judge .empty items)⟩ := by
        rw [conclude, stops]
      rw [report]
      refine .finished rfl ((finished_iff traces).mpr ⟨rfl, unobstructed⟩) ?_
        fun diagnostic isReported => severity_of_mem_diagnostics isReported
      cases traces with
      | complete => simp [Sink.succeeded]
  | some stopped =>
      obtain ⟨settled, failure⟩ := stopped
      right
      refine ⟨settled, failure, aborts_of_clear classified faultless traces stops ?_⟩
      cases traces with
      | complete =>
          rw [Option.none_or] at stops
          obtain ⟨place, isPlace, clear, _⟩ := obstacle?_eq_some stops
          rw [isPlace, Nat.zero_add]
          exact clear
      | @cut before later planned own place =>
          rw [Option.some_or] at stops
          cases stops
          exact clear_of_mem_script (by rw [place]; simp)

/-- What a pass into memory reports about its file, and what has become of the file. -/
structure FileReport
    (config : Config)
    (discovered : Answer (Option (List Item)))
    (deferral : Answer (List String))
    (before : Memory)
    (report : Report)
    (after : Memory)
    (log : Sink.Log) : Prop where
  /-- The file is finished when items are found and none of them is an obstacle. -/
  finished : (Call.finish, .ok ()) ∈ log ↔
    ∃ items, discovered = .ok (some items) ∧ obstacle? 0 (judge .empty items) = none
  /-- It is reported only when the names to wait for are known, too. -/
  reported : report.outcome.fileWritten = true ↔
    (Call.finish, .ok ()) ∈ log ∧ ∃ names, deferral = .ok names
  /-- So the report is wrong exactly when the host breaks off after the file is finished. -/
  wrong : ¬(report.outcome.fileWritten = true ↔ (Call.finish, .ok ()) ∈ log) ↔
    (Call.finish, .ok ()) ∈ log ∧ ∃ fault, deferral = .error fault
  /-- Then the pass is aborted like any other. -/
  aborted : ∀ fault, (Call.finish, .ok ()) ∈ log → deferral = .error fault →
    ∃ diagnostics, report = Generation.aborted diagnostics fault.message
  /-- A finished file stays, whatever is reported. -/
  kept : ∀ items, discovered = .ok (some items) → (Call.finish, .ok ()) ∈ log → after.files =
    before.files.filter (fun file => file.1 != Output.key config.package config.fileName)
      ++ [(Output.key config.package config.fileName, fileText config (judge .empty items))]
  untouched : (Call.finish, .ok ()) ∉ log → after.files = before.files

/-- A pass that plans no file. -/
private theorem fileReport_of_no_items {config : Config}
    {discovered : Answer (Option (List Item))} {deferral : Answer (List String)} {before : Memory}
    {report : Report} (unfound : ∀ items, discovered ≠ .ok (some items))
    (unwritten : report.outcome.fileWritten = false) :
    FileReport config discovered deferral before report before [] where
  finished := by simp [unfound]
  reported := by simp [unwritten]
  wrong := by simp [unwritten]
  aborted := by simp
  kept := by simp
  untouched := fun _ => rfl

/-- A pass that plans a file, which memory lets it write as far as there is no obstacle. -/
private theorem fileReport_of_items {config : Config} {items : List Item}
    {deferral : Answer (List String)} {before : Memory} {log : Sink.Log}
    (traces : Sink.Traces (script config (judge .empty items)) none log) :
    FileReport config (.ok (some items)) deferral before
      (conclude deferral (judge .empty items) none)
      (((script config (judge .empty items)).map Planned.call).foldl Memory.after before) log := by
  have finished : (Call.finish, .ok ()) ∈ log ↔ obstacle? 0 (judge .empty items) = none := by
    rw [finished_iff traces]
    simp
  have reported : (conclude deferral (judge .empty items) none).outcome.fileWritten = true ↔
      (Call.finish, .ok ()) ∈ log ∧ ∃ names, deferral = .ok names := by
    rw [finished]
    unfold conclude
    rw [Option.none_or]
    cases obstacle? 0 (judge .empty items) with
    | some stopped => simp [aborted, Outcome.nothing]
    | none => cases deferral <;> simp [aborted, Outcome.nothing]
  refine ⟨?_, reported, ?_, ?_, ?_, ?_⟩
  · rw [finished]
    simp
  · rw [reported]
    cases deferral <;> simp
  · rintro fault isFinished rfl
    refine ⟨diagnostics (judge .empty items), ?_⟩
    unfold conclude
    rw [Option.none_or, finished.mp isFinished]
  · rintro found ⟨⟩ isFinished
    have planned := Memory.firstFault_sink (script config (judge .empty items)) before
    rw [firstFault_script_memory config (finished.mp isFinished)] at planned
    exact congrArg Memory.files (congrArg Prod.snd planned).symm
  · intro unfinished
    refine Memory.files_foldl_after ?_ before
    rw [finish_mem_script_iff, ← finished]
    exact unfinished

/-- The dispatch function is refused for its signature. The types in that signature are looked up
once the file is finished, which this host does not survive. -/
example :
    let table : SymbolTable := {
      scopes := [.new "crate" none]
      declarations := [⟨"broken", "crate", 0,
        .function ⟨"broken", none, [⟨some "call", .path ["MethodCall"] []⟩], none, false, true⟩,
        [⟨"proxy_for", some "Shape"⟩], none, true⟩]
      facts := []
      announced := [] }
    let ran := run (FaultInjection.HostFault.resolving.host table) .standard Memory.sink .empty
    ran.1.outcome = .nothing ∧ ran.2.files.map Prod.fst = ["generated_proxies.rs"] := by
  decide

end ForwardingProxy.Generation
