/-!
Contract: what the tool can be asked to do.

Owns: `Command` with the settings of each of its forms.
-/

namespace ForwardingProxy.CommandLine

/-- The settings of `generate`. -/
structure GenerateOptions where
  /-- The directories to scan, instead of those of the settings file. -/
  sourceDirs : List String
  outputDirectory : Option String
  /-- The settings file to use, instead of the nearest one. -/
  configFile : Option String
  /-- Whether the generated file is printed and not written. -/
  printsFile : Bool
  /-- Whether rejected declarations are no failure. -/
  allowsErrors : Bool
deriving DecidableEq, Repr

/-- The settings of `analyze`. -/
structure AnalyzeOptions where
  sourceDirs : List String
  configFile : Option String
  asJson : Bool
deriving DecidableEq, Repr

/-- The settings of `init`. -/
structure InitOptions where
  /-- The directory of the new settings file, instead of the working directory. -/
  directory : Option String
  /-- Whether a settings file that is there is written anew. -/
  overwrites : Bool
deriving DecidableEq, Repr

/-- A request to the tool. -/
inductive Command where
  | generate (options : GenerateOptions)
  | analyze (options : AnalyzeOptions)
  | init (options : InitOptions)
deriving DecidableEq, Repr

end ForwardingProxy.CommandLine
