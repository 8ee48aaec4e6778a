import ForwardingProxy.Failure

/-!
Contract: destinations of generated text.

Owns: `Output.Sink`, which writes one file after the other: it opens one, takes text piece by piece,
and is told when the file is complete.
-/

namespace ForwardingProxy.Output

/-- A destination of generated files; each step may fail. -/
structure Sink (m : Type → Type) where
  /-- Opens a file in a package; an unfinished one before it is given up. -/
  create : (package fileName : String) → m (Except Failure Unit)
  /-- Adds text at the end of the open file. -/
  append : (text : String) → m (Except Failure Unit)
  /-- Completes the open file. -/
  finish : m (Except Failure Unit)

end ForwardingProxy.Output
