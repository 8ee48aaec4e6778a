import ForwardingProxy.Classification
import ForwardingProxy.Diagnostic
import ForwardingProxy.Output.Sink
import ForwardingProxy.ProxySource

/-!
Contract: one generation pass.

Owns: `Generation.run`, which classifies the marked declarations, writes the proxies of those that
are accepted and the registry after them into one file, and reports the others.

What concerns one declaration only is reported as an error and leaves the rest of the output intact.
Any other failure, of the host or of the sink, ends the pass: it is reported as a warning, and the
outcome is that of a pass that did nothing.
-/

namespace ForwardingProxy.Generation

/-- The first line of every generated file. -/
def header : String :=
  "// @generated by proxygen. DO NOT EDIT: this file is rebuilt on every build."

/-- What a pass has done. -/
structure Outcome where
  /-- The proxies in the output file, in their order. -/
  registered : List Registry.Entry
  /-- Dispatch functions whose signature mentions names without a meaning. -/
  deferred : List String
  fileWritten : Bool
deriving DecidableEq, Repr

/-- The outcome of a pass that did nothing. -/
def Outcome.nothing : Outcome := ⟨[], [], false⟩

/-- The outcome of a pass with everything it reported. -/
structure Report where
  outcome : Outcome
  diagnostics : List Diagnostic
deriving DecidableEq, Repr

/-- One thing that a pass does after its file is open. -/
inductive Event where
  | write (text : String)
  | report (diagnostic : Diagnostic)
deriving DecidableEq, Repr

/-- What the pass does for the items in order, given what is registered, and how this ends. -/
def itemEvents (runtimePath : String) :
    Registry → List Classification.Item → List Event × Except Failure Registry
  | registry, [] => ([], .ok registry)
  | registry, item :: rest =>
      match item.outcome with
      | .error failure =>
          if failure.isLocal then
            let (events, ending) := itemEvents runtimePath registry rest
            (.report (.error failure.message item.declaration) :: events, ending)
          else ([], .error failure)
      | .ok request =>
          match registry.register request.entry with
          | .error refusal =>
              let (events, ending) := itemEvents runtimePath registry rest
              (.report (.error refusal.message item.declaration) :: events, ending)
          | .ok extended =>
              let (events, ending) := itemEvents runtimePath extended rest
              (.write (request.sourceText runtimePath) :: .write "\n" :: events, ending)

/-- All that the pass does up to the registry. -/
def events (runtimePath : String) (items : List Classification.Item) :
    List Event × Except Failure Registry :=
  let (events, ending) := itemEvents runtimePath .empty items
  (.write header :: .write "\n\n" :: events, ending)

/-- Writes and reports in order until a write fails. -/
def play {m : Type → Type} [Monad m] (sink : Output.Sink m) :
    List Event → m (List Diagnostic × Except Failure Unit)
  | [] => pure ([], .ok ())
  | .write text :: rest => do
      match ← sink.append text with
      | .error failure => pure ([], .error failure)
      | .ok () => play sink rest
  | .report diagnostic :: rest => do
      let (diagnostics, ending) ← play sink rest
      pure (diagnostic :: diagnostics, ending)

/-- Whether some type in the signature has a name without a meaning. -/
def hasUnknownName (host : Host) (scope : Nat) : List TypeSyntax → Answer Bool
  | [] => pure false
  | type :: rest => do
      if ← Resolution.validate host scope type then hasUnknownName host scope rest
      else pure true

/-- The name of a listed function when it has to wait for names that have no meaning yet. -/
def deferred? (host : Host) (id : Nat) : Answer (Option String) := do
  match ← host.declaration? id with
  | none => pure none
  | some declaration =>
      match declaration.function? with
      | none => pure none
      | some signature =>
          if ← hasUnknownName host declaration.scope signature.types then
            pure (some declaration.qualifiedName)
          else pure none

/-- All dispatch functions that have to wait. -/
def deferredFunctions (host : Host) (markers : Markers) : Answer (List String) := do
  let functions ← host.marked markers.dispatchFunction
  let names ← functions.mapM (deferred? host)
  pure (names.filterMap id)

/-- The items of a pass; none when nothing is marked. -/
def items? (host : Host) (markers : Markers) : Answer (Option (List Classification.Item)) := do
  if ← Classification.anyMarked host markers then
    let items ← Classification.classifyAll host markers
    pure (some items)
  else pure none

/-- The report of a pass that ended early. -/
def aborted (diagnostics : List Diagnostic) (reason : String) : Report :=
  ⟨.nothing, diagnostics ++ [.warning ("proxy generation aborted: " ++ reason)]⟩

/-- The report of a pass whose file is finished. -/
def completed
    (host : Host)
    (markers : Markers)
    (diagnostics : List Diagnostic)
    (registry : Registry) : Report :=
  match deferredFunctions host markers with
  | .error fault => aborted diagnostics fault.message
  | .ok deferred => ⟨⟨registry.entries, deferred, true⟩, diagnostics⟩

/-- Writes the registry and completes the file. -/
def close {m : Type → Type} [Monad m]
    (sink : Output.Sink m)
    (text : String) : m (Except Failure Unit) := do
  match ← sink.append text with
  | .error failure => pure (.error failure)
  | .ok () => sink.finish

/-- Writes the file of the items. -/
def write {m : Type → Type} [Monad m]
    (host : Host)
    (config : Config)
    (sink : Output.Sink m)
    (items : List Classification.Item) : m Report := do
  match ← sink.create config.package config.fileName with
  | .error failure => pure (aborted [] failure.message)
  | .ok () =>
      let (events, ending) := events config.runtimePath items
      let (diagnostics, played) ← play sink events
      match played, ending with
      | .error failure, _ => pure (aborted diagnostics failure.message)
      | .ok (), .error failure => pure (aborted diagnostics failure.message)
      | .ok (), .ok registry =>
          match ← close sink (registry.sourceText config.runtimePath) with
          | .error failure => pure (aborted diagnostics failure.message)
          | .ok () => pure (completed host config.markers diagnostics registry)

/-- Runs one pass over the host's program. -/
def run {m : Type → Type} [Monad m]
    (host : Host)
    (config : Config)
    (sink : Output.Sink m) : m Report :=
  match items? host config.markers with
  | .error fault => pure (aborted [] fault.message)
  | .ok none => pure ⟨.nothing, []⟩
  | .ok (some items) => write host config sink items

end ForwardingProxy.Generation
