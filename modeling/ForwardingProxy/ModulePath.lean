import ForwardingProxy.Name
import ForwardingProxy.Path

/-!
Contract: the module that a source file holds.

Owns: `ModulePath.ofFile?`, the module path implied by where a file lies below a source directory.

Directories are modules around the file's own. `lib.rs` and `main.rs` at the top hold the crate
itself, and `mod.rs` elsewhere holds the module of its directory.
-/

namespace ForwardingProxy.ModulePath

/-- The name of a step that is one. -/
def stepName? : Path.Component → Option String
  | .name text => some text
  | .root | .current | .parent => none

/-- The segments that the file's own name adds below the segments of its directories. -/
def fileSegments (directories : List String) (stem : String) : List String :=
  if directories.isEmpty then
    if stem = "lib" || stem = "main" then [] else [stem]
  else if stem = "mod" then [] else [stem]

/-- The module path of a file below a source directory. -/
def ofFile? (root file : String) : Option String := do
  let steps ← Path.below? root file
  let names ← steps.mapM stepName?
  let fileName ← names.getLast?
  let directories := names.dropLast
  pure (Name.join ("crate" :: directories ++ fileSegments directories (Path.stem fileName)))

end ForwardingProxy.ModulePath
