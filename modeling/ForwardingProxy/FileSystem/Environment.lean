import ForwardingProxy.FileSystem.Error

/-!
Contract: what a run can see and change outside itself.

Owns: `Environment`, the operations on files and directories together with the working directory and
the output directory that a build sets.

Paths that do not begin at the root are seen from the working directory. Links are followed,
except that `list` tells them apart.
-/

namespace ForwardingProxy

/-- What stands in a directory under a name. -/
inductive EntryKind where
  | file
  | directory
  | link
deriving DecidableEq, Repr

/-- The files, directories and settings around a run. -/
structure Environment (m : Type → Type) where
  workingDirectory : m String
  /-- The output directory that the surrounding build sets, if any. -/
  outputDirectory? : m (Option String)
  readText : (path : String) → m (Except FileError String)
  /-- Makes an empty file, or empties the one that is there. -/
  createFile : (path : String) → m (Except FileError Unit)
  appendText : (path text : String) → m (Except FileError Unit)
  /-- Makes a directory and those above it, unless they are there. -/
  makeDirectories : (path : String) → m (Except FileError Unit)
  isDirectory : (path : String) → m Bool
  doesExist : (path : String) → m Bool
  /-- The names in a directory, in any order. -/
  list : (path : String) → m (Except FileError (List (String × EntryKind)))

namespace Environment

/-- Makes a file with that text. -/
def writeText {m : Type → Type} [Monad m]
    (environment : Environment m)
    (path text : String) : m (Except FileError Unit) := do
  match ← environment.createFile path with
  | .error error => pure (.error error)
  | .ok () => environment.appendText path text

end Environment

end ForwardingProxy
