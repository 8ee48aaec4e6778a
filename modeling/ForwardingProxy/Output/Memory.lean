import ForwardingProxy.Output.Place
import ForwardingProxy.Output.Sink

/-!
Contract: generated files that are kept in memory.

Owns: `Output.Memory` and its sink. A file is kept once it is finished, under its key.
-/

namespace ForwardingProxy.Output

/-- Finished files with their keys, and the file that is being written. -/
structure Memory where
  files : List (String × String)
  draft : Option (String × String)
deriving DecidableEq, Repr

namespace Memory

/-- No files at all. -/
def empty : Memory := ⟨[], none⟩

/-- The text of a finished file. -/
def file? (memory : Memory) (key : String) : Option String :=
  memory.files.lookup key

/-- Starts a file anew. -/
def start (key : String) (memory : Memory) : Memory :=
  { memory with draft := some (key, "") }

/-- Adds text to the file that is being written. -/
def extend (text : String) (memory : Memory) : Memory :=
  { memory with draft := memory.draft.map fun (key, before) => (key, before ++ text) }

/-- Keeps the file that is being written; an earlier file of its key gives way. -/
def keep (memory : Memory) : Memory :=
  match memory.draft with
  | none => memory
  | some (key, text) =>
      ⟨memory.files.filter (fun file => file.1 != key) ++ [(key, text)], none⟩

/-- The sink that writes to memory and never fails. -/
def sink : Sink (StateM Memory) where
  create := fun package fileName => do
    modify (start (key package fileName))
    pure (.ok ())
  append := fun text => do
    modify (extend text)
    pure (.ok ())
  finish := do
    modify keep
    pure (.ok ())

end Memory

end ForwardingProxy.Output
