import ForwardingProxy.FileSystem.Environment
import ForwardingProxy.Output.Place
import ForwardingProxy.Output.Sink

/-!
Contract: generated files that are written to a directory.

Owns: the sink that writes below an output directory and remembers the paths of the files it opened.

Text reaches a file as soon as it is added, so an unfinished file stays with the text it has.
-/

namespace ForwardingProxy.Output

/-- The paths of the files opened so far, in their order. -/
abbrev Opened := List String

/-- The result of a file operation, as a failure of a sink. -/
def ofFileResult : Except FileError Unit → Except Failure Unit
  | .ok () => .ok ()
  | .error error => .error (.file error)

/-- Opens the file at a path, in a directory that is made if need be. -/
def openFile {m : Type → Type} [Monad m]
    (environment : Environment m)
    (path : String) : m (Except FileError Unit) := do
  match Path.parent? path with
  | none => environment.createFile path
  | some parent =>
      match ← environment.makeDirectories parent with
      | .error error => pure (.error error)
      | .ok () => environment.createFile path

/-- The sink that writes below a directory. -/
def files {m : Type → Type} [Monad m]
    (environment : Environment m)
    (directory : String) : Sink (StateT Opened m) where
  create := fun package fileName => do
    let file := path directory package fileName
    match ← liftM (openFile environment file) with
    | .error error => pure (.error (.file error))
    | .ok () =>
        modify fun opened => opened ++ [file]
        pure (.ok ())
  append := fun text => do
    match (← get).getLast? with
    | none => pure (.ok ())
    | some file =>
        let result ← environment.appendText file text
        pure (ofFileResult result)
  finish := pure (.ok ())

end ForwardingProxy.Output
