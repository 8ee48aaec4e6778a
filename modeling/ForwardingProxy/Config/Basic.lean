import ForwardingProxy.Json.Value
import ForwardingProxy.Name
import ForwardingProxy.Text.Identifier
import ForwardingProxy.Text.Split

/-!
Contract: the settings of the generator.

Owns: `Config` with its defaults, the values it accepts, and the directories that a package name
stands for.

Does not own: the text form of settings, which is in `Config.Text`.
-/

namespace ForwardingProxy

/-- The attribute names that mark declarations. -/
structure Markers where
  /-- Marks a dispatch function: `#[proxy_for(Trait)]`. -/
  dispatchFunction : String
  /-- Marks a trait: `#[with_proxy(Handler)]`. -/
  handlerInterface : String
deriving DecidableEq, Repr

/-- The standard markers. -/
def Markers.standard : Markers := ⟨"proxy_for", "with_proxy"⟩

/-- The settings of a generation pass. -/
structure Config where
  /-- The path by which generated code reaches the run-time library. -/
  runtimePath : String
  /-- The directories of the output file below the output root. -/
  package : String
  /-- The output file's name without its extension. -/
  fileName : String
  markers : Markers
  /-- Directories that are scanned when none are given. -/
  sourceDirs : List String
deriving DecidableEq, Repr

/-- Why settings are not accepted. -/
inductive Config.Invalid where
  | runtimePath (text : String)
  | fileName (text : String)
  | marker (text : String)
  | sameMarkers
  | package (text : String)
deriving DecidableEq, Repr

/-- The reason in words. -/
def Config.Invalid.message : Config.Invalid → String
  | .runtimePath text => "runtime_path `" ++ text ++ "` is not a Rust path"
  | .fileName text => "file_name `" ++ text ++ "` must be a plain identifier"
  | .marker text => "marker `" ++ text ++ "` must be a plain identifier"
  | .sameMarkers => "dispatch_function and handler_interface markers must differ"
  | .package text => "package `" ++ text ++ "` must be a dotted list of identifiers"

namespace Config

/-- The standard settings. -/
def standard : Config where
  runtimePath := "proxygen_runtime"
  package := ""
  fileName := "generated_proxies"
  markers := .standard
  sourceDirs := []

/-- The directories of a package: its pieces between dots and colons, empty ones dropped. -/
def packageSegments (package : String) : List String :=
  Text.fields (fun character => character == '.' || character == ':') package

/-- A path of identifiers, which may begin with `::`. -/
def isCodePath (text : String) : Bool :=
  let characters :=
    match text.toList with
    | ':' :: ':' :: rest => rest
    | all => all
  !characters.isEmpty && (Name.pieces characters).all Text.isIdentifierOf

/-- The first reason not to accept the settings. -/
def invalid? (config : Config) : Option Invalid :=
  if !isCodePath config.runtimePath then some (.runtimePath config.runtimePath)
  else if !Text.isIdentifier config.fileName then some (.fileName config.fileName)
  else if !Text.isIdentifier config.markers.dispatchFunction then
    some (.marker config.markers.dispatchFunction)
  else if !Text.isIdentifier config.markers.handlerInterface then
    some (.marker config.markers.handlerInterface)
  else if config.markers.dispatchFunction = config.markers.handlerInterface then some .sameMarkers
  else if !(packageSegments config.package).all Text.isIdentifier then
    some (.package config.package)
  else none

/-- Accepts settings that give code that compiles. -/
def validate (config : Config) : Except Invalid Unit :=
  match config.invalid? with
  | some reason => .error reason
  | none => .ok ()

end Config

end ForwardingProxy
