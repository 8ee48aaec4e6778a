import ForwardingProxy.Config.Basic
import ForwardingProxy.Path

/-!
Contract: where a generated file goes.

Owns: the key of a generated file, and its path below an output directory.
-/

namespace ForwardingProxy.Output

/-- The directories of a package and the file's name, with `/` between them. -/
def key (package fileName : String) : String :=
  "/".intercalate (Config.packageSegments package ++ [fileName ++ ".rs"])

/-- The path of the file in the package's directory below `directory`. -/
def path (directory package fileName : String) : String :=
  Path.join ((Config.packageSegments package).foldl Path.join directory) (fileName ++ ".rs")

end ForwardingProxy.Output
