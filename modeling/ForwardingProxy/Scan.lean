import ForwardingProxy.Collection
import ForwardingProxy.Failure
import ForwardingProxy.FileSystem.Environment
import ForwardingProxy.ModulePath

/-!
Contract: the symbol table of a source directory.

Owns: `Scan.directory`, which collects every source file below a directory.

The names in a directory are visited in the order of their characters, and a directory is visited
where its own name comes. Hidden names are left out, and links are not followed.
-/

namespace ForwardingProxy.Scan

/-- The extension of source files. -/
def sourceExtension : String := "rs"

/-- How deep directories are searched; no path that a system accepts has more steps. -/
def depthLimit : Nat := 4096

/-- Whether a name is hidden. -/
def isHidden (name : String) : Bool :=
  name.toList.head? == some '.' && 1 < name.length

/-- The visible names in their order. -/
def visibleEntries (entries : List (String × EntryKind)) : List (String × EntryKind) :=
  (entries.filter fun entry => !isHidden entry.1).mergeSort fun left right =>
    decide (left.1 ≤ right.1)

/-- The paths of all regular files below a directory. -/
def filesBelow {m : Type → Type} [Monad m]
    (environment : Environment m) : (depth : Nat) → (path : String) → m (List String)
  | 0, _ => pure []
  | depth + 1, path => do
      match ← environment.list path with
      | .error _ => pure []
      | .ok entries =>
          let found ← (visibleEntries entries).mapM fun (name, kind) =>
            let entryPath := Path.join path name
            match kind with
            | .file => pure [entryPath]
            | .directory => filesBelow environment depth entryPath
            | .link => pure []
          pure found.flatten

/-- The source files among paths, with the modules they hold. -/
def sources (root : String) (paths : List String) : List (String × String) :=
  paths.filterMap fun path =>
    match (Path.components path).getLast? with
    | some (.name fileName) =>
        if Path.extension? fileName = some sourceExtension then
          (ModulePath.ofFile? root path).map fun modulePath => (path, modulePath)
        else none
    | _ => none

/-- Collects source files in their order. -/
def collectAll {m : Type → Type} [Monad m]
    (environment : Environment m) :
    List (String × String) → SymbolTable → m (Except Failure SymbolTable)
  | [], table => pure (.ok table)
  | (path, modulePath) :: rest, table => do
      match ← environment.readText path with
      | .error error => pure (.error (.file error))
      | .ok text =>
          collectAll environment rest (Collection.collect text modulePath (some path) table)

/-- Adds everything below a source directory to a table. -/
def directory {m : Type → Type} [Monad m]
    (environment : Environment m)
    (root : String)
    (table : SymbolTable) : m (Except Failure SymbolTable) := do
  if ← environment.isDirectory root then
    let paths ← filesBelow environment depthLimit root
    collectAll environment (sources root paths) table
  else pure (.error (.config (.noSourceDirectory root)))

/-- Adds everything below several source directories to a table. -/
def directories {m : Type → Type} [Monad m]
    (environment : Environment m) :
    List String → SymbolTable → m (Except Failure SymbolTable)
  | [], table => pure (.ok table)
  | root :: rest, table => do
      match ← directory environment root table with
      | .error failure => pure (.error failure)
      | .ok extended => directories environment rest extended

/-- The directories to scan: those given, else those of the settings, else `src`. -/
def sourceDirs (given : List String) (config : Config) : List String :=
  if !given.isEmpty then given
  else if !config.sourceDirs.isEmpty then config.sourceDirs
  else ["src"]

end ForwardingProxy.Scan
