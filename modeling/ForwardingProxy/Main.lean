import ForwardingProxy.CommandLine.Message
import ForwardingProxy.CommandLine.Run

/-!
Contract: the program.

Owns: the environment of the running system, and `main`, which reads the arguments, carries the
command out and prints.
-/

namespace ForwardingProxy

namespace SystemEnvironment

/-- The number of an error as the system documents it; a negated one has wrapped around. -/
def errorNumber (code : UInt32) : Nat :=
  if code.toNat < Nat.pow 2 31 then code.toNat else Nat.pow 2 32 - code.toNat

/-- The number that the system gave an error, with its description. -/
def numbered? : IO.Error → Option (Nat × String)
  | .noFileOrDirectory _ code text => some (errorNumber code, text)
  | .noSuchThing _ code text => some (errorNumber code, text)
  | .alreadyExists _ code text => some (errorNumber code, text)
  | .inappropriateType _ code text => some (errorNumber code, text)
  | .invalidArgument _ code text => some (errorNumber code, text)
  | .permissionDenied _ code text => some (errorNumber code, text)
  | .resourceExhausted _ code text => some (errorNumber code, text)
  | .resourceBusy code text => some (errorNumber code, text)
  | .hardwareFault code text => some (errorNumber code, text)
  | .otherError code text => some (errorNumber code, text)
  | _ => none

/-- The cause of a failed operation. -/
def fileError (error : IO.Error) : FileError :=
  match numbered? error with
  | some (2, _) => .notFound
  | some (17, _) => .alreadyExists
  | some (20, _) => .notDirectory
  | some (21, _) => .isDirectory
  | some (36, _) => .nameTooLong
  | some (40, _) => .tooManyLinks
  | some (code, text) => .other (text ++ " (os error " ++ toString code ++ ")")
  | none => .other (toString error)

/-- The result of an operation that may fail. -/
def attempt {α : Type} (action : IO α) : IO (Except FileError α) := do
  try
    let value ← action
    pure (.ok value)
  catch error => pure (.error (fileError error))

/-- The text of a file. -/
def readText (path : String) : IO (Except FileError String) := do
  match ← attempt (IO.FS.readBinFile path) with
  | .error error => pure (.error error)
  | .ok content =>
      match String.fromUTF8? content with
      | some text => pure (.ok text)
      | none => pure (.error .notText)

/-- The names in a directory. -/
def list (path : String) : IO (List (String × EntryKind)) := do
  let entries ← ((← IO.currentDir) / path).readDir
  entries.toList.mapM fun entry => do
    let metadata ← entry.path.symlinkMetadata
    let kind :=
      match metadata.type with
      | .dir => EntryKind.directory
      | .symlink => EntryKind.link
      | _ => EntryKind.file
    pure (entry.fileName, kind)

/-- The files, directories and settings of the running system. -/
def environment : Environment IO where
  workingDirectory := do
    let directory ← IO.currentDir
    pure directory.toString
  outputDirectory? := IO.getEnv "OUT_DIR"
  readText := readText
  createFile := fun path => attempt (IO.FS.writeBinFile path .empty)
  appendText := fun path text =>
    attempt (IO.FS.withFile path .append fun handle => handle.putStr text)
  makeDirectories := fun path => attempt (IO.FS.createDirAll path)
  isDirectory := fun path => do
    if path.isEmpty then pure false else ((← IO.currentDir) / path).isDir
  doesExist := fun path => do
    if path.isEmpty then pure false else ((← IO.currentDir) / path).pathExists
  list := fun path => attempt (list path)

end SystemEnvironment

/-- Prints what a command has printed, and its failure; gives the exit code. -/
def report (finished : CommandLine.Finished) : IO UInt32 := do
  IO.print finished.output
  IO.eprint finished.errorOutput
  match finished.ending with
  | .ok () => pure 0
  | .error reasons => do
      IO.eprint (CommandLine.failureText reasons)
      pure 1

end ForwardingProxy

/-- Runs the program; its first argument may be the name under which a build tool calls it. -/
def main (arguments : List String) : IO UInt32 := do
  let grammar :=
    if arguments.head? = some "proxygen" then ForwardingProxy.CommandLine.Grammar.buildTool
    else ForwardingProxy.CommandLine.Grammar.tool
  match ForwardingProxy.CommandLine.read grammar ("proxygen" :: arguments) with
  | .error error =>
      if error.isAnswer then do
        IO.print error.text
        pure 0
      else do
        IO.eprint error.text
        pure 2
  | .ok command => do
      let finished ←
        ForwardingProxy.CommandLine.run ForwardingProxy.SystemEnvironment.environment command
      ForwardingProxy.report finished
