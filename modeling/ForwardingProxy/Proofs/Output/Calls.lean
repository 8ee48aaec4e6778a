import ForwardingProxy.Output.Memory

/-!
Contract: the calls that a sink receives.

Owns: calls as data, `Sink.firstFault`, which makes calls in order until one fails, sinks that keep
a log of their calls, and what the calls of one file leave in memory.

A call is planned with a mark. The mark of the call that fails is all that is known about how far
the calls got, besides the failure.
-/

namespace ForwardingProxy.Output

theorem map_apply {σ α β : Type} (change : α → β) (action : StateM σ α) (state : σ) :
    (change <$> action) state = (change (action state).1, (action state).2) := rfl

/-- One call of a sink. -/
inductive Call where
  | create (package fileName : String)
  | append (text : String)
  | finish
deriving DecidableEq, Repr

/-- A call and a mark for the place where it is made. -/
structure Planned where
  mark : Nat
  call : Call

namespace Sink

section Monadic

variable {m : Type → Type} [Monad m]

/-- What the sink does on a call. -/
def answer (sink : Sink m) : Call → m (Except Failure Unit)
  | .create package fileName => sink.create package fileName
  | .append text => sink.append text
  | .finish => sink.finish

/-- Makes the calls in order until one fails; the result is the mark of that call and its failure,
or none when every call succeeds. -/
def firstFault (sink : Sink m) : List Planned → m (Option (Nat × Failure))
  | [] => pure none
  | planned :: rest => do
      match ← sink.answer planned.call with
      | .error failure => pure (some (planned.mark, failure))
      | .ok () => firstFault sink rest

theorem firstFault_append [LawfulMonad m] (sink : Sink m) (first second : List Planned) :
    sink.firstFault (first ++ second) = (do
      match ← sink.firstFault first with
      | some fault => pure (some fault)
      | none => sink.firstFault second) := by
  induction first with
  | nil => simp [firstFault]
  | cons planned rest inductionHypothesis =>
      simp only [List.cons_append, firstFault, inductionHypothesis, bind_assoc]
      apply bind_congr
      intro answered
      cases answered with
      | error failure => simp
      | ok done => rfl

end Monadic

/-! ### Logs -/

/-- Calls with their answers, in the order they were made. -/
abbrev Log := List (Call × Except Failure Unit)

/-- One call that is also put into the log. -/
def logged {σ : Type} (sink : Sink (StateM σ)) (call : Call) :
    StateM (σ × Log) (Except Failure Unit) :=
  fun (state, log) =>
    let (answered, after) := sink.answer call state
    (answered, after, log ++ [(call, answered)])

/-- The sink with a log of its calls. -/
def recorded {σ : Type} (sink : Sink (StateM σ)) : Sink (StateM (σ × Log)) where
  create := fun package fileName => sink.logged (.create package fileName)
  append := fun text => sink.logged (.append text)
  finish := sink.logged .finish

theorem answer_recorded {σ : Type} (sink : Sink (StateM σ)) (call : Call) :
    sink.recorded.answer call = sink.logged call := by
  cases call <;> rfl

/-- The log of planned calls that all succeed. -/
def succeeded (calls : List Planned) : Log :=
  calls.map fun planned => (planned.call, .ok ())

/-- The log holds the calls up to the first fault, of which only the last failed. -/
inductive Traces (calls : List Planned) : Option (Nat × Failure) → Log → Prop where
  | complete : Traces calls none (succeeded calls)
  | cut (before : List Planned) {later : List Planned} {planned : Planned} {failure : Failure}
      (place : calls = before ++ planned :: later) :
      Traces calls (some (planned.mark, failure))
        (succeeded before ++ [(planned.call, .error failure)])

/-- A call that succeeds stands before the trace of the others. -/
theorem Traces.cons {calls : List Planned} {fault : Option (Nat × Failure)} {trace : Log}
    (traces : Traces calls fault trace) (planned : Planned) :
    Traces (planned :: calls) fault ((planned.call, .ok ()) :: trace) := by
  cases traces with
  | complete => exact .complete
  | @cut before later failed failure place =>
      exact .cut (planned :: before) (by rw [place, List.cons_append])

/-- Recording changes neither the fault nor the state, and the log traces the calls. -/
theorem firstFault_recorded {σ : Type} (sink : Sink (StateM σ)) (calls : List Planned)
    (state : σ) (log : Log) :
    ∃ trace, Traces calls (sink.firstFault calls state).1 trace ∧
      sink.recorded.firstFault calls (state, log) =
        ((sink.firstFault calls state).1, (sink.firstFault calls state).2, log ++ trace) := by
  induction calls generalizing state log with
  | nil =>
      refine ⟨[], .complete, ?_⟩
      rw [List.append_nil]
      rfl
  | cons planned rest inductionHypothesis =>
      have once : sink.recorded.answer planned.call (state, log) =
          ((sink.answer planned.call state).1, (sink.answer planned.call state).2,
            log ++ [(planned.call, (sink.answer planned.call state).1)]) := by
        rw [answer_recorded]
        rfl
      simp only [firstFault, bind, StateT.bind, once]
      cases answered : sink.answer planned.call state with
      | mk given after =>
          cases given with
          | error failure =>
              exact ⟨[(planned.call, .error failure)], .cut [] rfl, rfl⟩
          | ok done =>
              obtain ⟨trace, traces, sameRest⟩ :=
                inductionHypothesis after (log ++ [(planned.call, .ok ())])
              exact ⟨_, traces.cons planned, by simpa using sameRest⟩

end Sink

/-! ### Memory -/

namespace Memory

/-- What a call leaves in memory. -/
def after (memory : Memory) : Call → Memory
  | .create package fileName => memory.start (key package fileName)
  | .append text => memory.extend text
  | .finish => memory.keep

/-- Memory never fails. -/
theorem firstFault_sink (calls : List Planned) (memory : Memory) :
    sink.firstFault calls memory = (none, (calls.map Planned.call).foldl after memory) := by
  have once : ∀ call memory, sink.answer call memory = (.ok (), after memory call) := by
    intro call memory
    cases call <;> rfl
  induction calls generalizing memory with
  | nil => rfl
  | cons planned rest inductionHypothesis =>
      simp only [Sink.firstFault, bind, StateT.bind, once, List.map_cons, List.foldl_cons]
      exact inductionHypothesis (after memory planned.call)

/-- Files are kept on finishing only. -/
theorem files_foldl_after {calls : List Call} (unfinished : .finish ∉ calls) (memory : Memory) :
    (calls.foldl after memory).files = memory.files := by
  induction calls generalizing memory with
  | nil => rfl
  | cons call rest inductionHypothesis =>
      rw [List.mem_cons, not_or] at unfinished
      obtain ⟨notFinish, unfinishedRest⟩ := unfinished
      rw [List.foldl_cons, inductionHypothesis unfinishedRest]
      cases call with
      | create package fileName => rfl
      | append text => rfl
      | finish => exact absurd rfl notFinish

/-- Texts that are added to an open file join what it has. -/
private theorem foldl_appends (texts : List String) (files : List (String × String))
    (key before : String) :
    (texts.map Call.append).foldl after ⟨files, some (key, before)⟩ =
      ⟨files, some (key, before ++ String.join texts)⟩ := by
  induction texts generalizing before with
  | nil => simp
  | cons text rest inductionHypothesis =>
      rw [List.map_cons, List.foldl_cons, String.join_cons, ← String.append_assoc]
      exact inductionHypothesis (before ++ text)

/-- A whole file is kept with all its texts; an earlier file of its key gives way. -/
theorem foldl_file (package fileName : String) (texts : List String) (memory : Memory) :
    (Call.create package fileName :: texts.map Call.append ++ [Call.finish]).foldl after memory =
      ⟨memory.files.filter (fun file => file.1 != key package fileName)
        ++ [(key package fileName, String.join texts)], none⟩ := by
  rw [List.cons_append, List.foldl_cons, List.foldl_append]
  simp only [after, start, foldl_appends, List.foldl_cons, List.foldl_nil, keep,
    String.empty_append]

end Memory

end ForwardingProxy.Output
