import ForwardingProxy.CommandLine.Command
import ForwardingProxy.Config.File
import ForwardingProxy.Generation
import ForwardingProxy.Output.Files
import ForwardingProxy.Output.Memory
import ForwardingProxy.Report
import ForwardingProxy.Scan

/-!
Contract: what the tool does and prints for each command.

Owns: `run`, which carries a command out in an environment and gives what is printed on both
outputs and how the command ended.

The generated file and analyses go to the standard output, and messages to the error output, so
that a printed file is not mixed with them.
-/

namespace ForwardingProxy.CommandLine

/-- What a command has printed, and its end: the reasons of a failure have the outermost first. -/
structure Finished where
  output : String
  errorOutput : String
  ending : Except (List String) Unit

/-- The end of a command that printed nothing before it failed. -/
def Finished.failed (reasons : List String) : Finished :=
  ⟨"", "", .error reasons⟩

/-- A text of lines, each with its line end. -/
def printed (lines : List String) : String :=
  String.join (lines.map fun line => line ++ "\n")

/-- A result, with what was attempted put before the reasons of a failure. -/
def within {α : Type} (attempted : String) : Except Failure α → Except (List String) α
  | .ok value => .ok value
  | .error failure => .error (attempted :: failure.chain)

/-- The settings in the given file, else in the nearest one, else the standard ones. -/
def loadSettings {m : Type → Type} [Monad m]
    (environment : Environment m)
    (configFile : Option String) : m (Except (List String) Config) := do
  let path ←
    match configFile with
    | some path => pure (some path)
    | none => do
        let start ← environment.workingDirectory
        Config.find? environment start
  match path with
  | none => pure (.ok .standard)
  | some path => do
      let result ← Config.load environment path
      pure (within ("Failed to load config from " ++ path) result)

/-- The symbol table of source directories. -/
def scanAll {m : Type → Type} [Monad m]
    (environment : Environment m) :
    List String → SymbolTable → m (Except (List String) SymbolTable)
  | [], table => pure (.ok table)
  | directory :: rest, table => do
      let result ← Scan.directory environment directory table
      match within ("Failed to scan " ++ directory) result with
      | .error reasons => pure (.error reasons)
      | .ok extended => scanAll environment rest extended

/-- The settings, the source directories and the table of the program in them. -/
structure Prepared where
  config : Config
  sourceDirs : List String
  table : SymbolTable

/-- Loads the settings and scans the program. -/
def prepare {m : Type → Type} [Monad m]
    (environment : Environment m)
    (configFile : Option String)
    (sourceDirs : List String) : m (Except (List String) Prepared) := do
  match ← loadSettings environment configFile with
  | .error reasons => pure (.error reasons)
  | .ok config => do
      let directories := Scan.sourceDirs sourceDirs config
      match ← scanAll environment directories .empty with
      | .error reasons => pure (.error reasons)
      | .ok table => pure (.ok ⟨config, directories, table⟩)

/-- The sign before a message of that severity. -/
def icon : Severity → String
  | .error => "❌"
  | .warning => "⚠️ "
  | .info => "ℹ️ "

/-- A message on a line of its own. -/
def messageLine (diagnostic : Diagnostic) : String :=
  icon diagnostic.severity ++ " " ++ diagnostic.describe

/-- The lines that tell what a pass has done. -/
def outcomeLines (outcome : Generation.Outcome) : List String :=
  if !outcome.fileWritten then ["ℹ️  No marked declarations found; nothing generated"]
  else
    ["📦 " ++ toString outcome.registered.length ++ " proxies generated"]
    ++ outcome.registered.map (fun entry => "   " ++ entry.interface ++ " -> " ++ entry.proxy)
    ++ outcome.deferred.map fun function =>
      "⏳ " ++ function ++ ": signature mentions types that are not in scope"

/-- The end of a pass: its errors are a failure unless they are allowed. -/
def passEnding (allowsErrors : Bool) (diagnostics : List Diagnostic) : Except (List String) Unit :=
  let errors := Diagnostic.errors diagnostics
  if errors.isEmpty || allowsErrors then .ok ()
  else
    .error [toString errors.length ++ " declaration(s) were rejected; see the errors above"]

/-- What `generate` prints for a pass, after the lines about opened files. -/
def generated
    (allowsErrors : Bool)
    (output : String)
    (opened : List String)
    (report : Generation.Report) : Finished where
  output := output
  errorOutput := printed (opened.map (fun path => "✅ Wrote " ++ path)
    ++ report.diagnostics.map messageLine ++ outcomeLines report.outcome)
  ending := passEnding allowsErrors report.diagnostics

/-- The directory for the generated file: the one given, else that of a surrounding build. -/
def outputDirectory {m : Type → Type} [Monad m]
    (environment : Environment m)
    (given : Option String) : m String := do
  match given with
  | some directory => pure directory
  | none =>
      let outer ← environment.outputDirectory?
      pure (outer.getD (Path.join "target" "proxygen"))

/-- Carries `generate` out. -/
def generate {m : Type → Type} [Monad m]
    (environment : Environment m)
    (options : GenerateOptions) : m Finished := do
  match ← prepare environment options.configFile options.sourceDirs with
  | .error reasons => pure (.failed reasons)
  | .ok prepared =>
      let host := prepared.table.host
      if options.printsFile then
        let pass := Generation.run host prepared.config Output.Memory.sink
        let (report, memory) := pass.run .empty
        let text := String.join (memory.files.map Prod.snd)
        pure (generated options.allowsErrors text [] report)
      else
        let directory ← outputDirectory environment options.outputDirectory
        let pass := Generation.run host prepared.config (Output.files environment directory)
        let (report, opened) ← pass.run []
        pure (generated options.allowsErrors "" opened report)

/-- The lines about one classified declaration. -/
def itemLines (item : Classification.Item) : List String :=
  let name := item.declaration ++ " (" ++ item.role.describe ++ ")"
  match item.outcome with
  | .ok request =>
      ["✅ " ++ name,
        "   " ++ request.proxy ++ " implements " ++ request.interface.name,
        "   🎯 Dispatch: " ++ request.target.describe,
        "   📋 " ++ request.interface.summary]
  | .error failure => ["❌ " ++ name, "   " ++ failure.message]

/-- The lines about all classified declarations. -/
def analysisLines (prepared : Prepared) (items : List Classification.Item) : List String :=
  let markers := prepared.config.markers
  ["🔍 Analyzing: " ++ ", ".intercalate prepared.sourceDirs,
    String.ofList (List.replicate 80 '=')]
  ++ if items.isEmpty then
      ["No declarations marked with #[" ++ markers.dispatchFunction ++ "] or #["
        ++ markers.handlerInterface ++ "]"]
    else items.flatMap itemLines

/-- Carries `analyze` out. -/
def analyze {m : Type → Type} [Monad m]
    (environment : Environment m)
    (options : AnalyzeOptions) : m Finished := do
  match ← prepare environment options.configFile options.sourceDirs with
  | .error reasons => pure (.failed reasons)
  | .ok prepared =>
      match Classification.classifyAll prepared.table.host prepared.config.markers with
      | .error fault => pure (.failed [fault.message])
      | .ok items =>
          let lines :=
            if options.asJson then [(Report.ofItems items).pretty]
            else analysisLines prepared items
          pure ⟨printed lines, "", .ok ()⟩

/-- What is printed when a settings file is there already. -/
def presentLines (path : String) : List String :=
  ["❌ Config already exists at: " ++ path, "   Use --force to overwrite"]

/-- What is printed for a new settings file. -/
def createdLines (path : String) (config : Config) : List String :=
  ["✅ Created config: " ++ path,
    "",
    "📌 Next steps:",
    "   Add `proxygen-core` to [build-dependencies] and call `Builder::new().generate()` "
      ++ "from build.rs",
    "   include!(concat!(env!(\"OUT_DIR\"), \"/" ++ config.fileName
      ++ ".rs\")) where the proxies should live"]

/-- The settings that a new file holds. -/
def initialSettings : Config :=
  { Config.standard with sourceDirs := ["src"] }

/-- Carries `init` out. -/
def init {m : Type → Type} [Monad m]
    (environment : Environment m)
    (options : InitOptions) : m Finished := do
  let directory ←
    match options.directory with
    | some directory => pure directory
    | none => environment.workingDirectory
  let path := Path.join directory Config.settingsFile
  if !options.overwrites && (← environment.doesExist path) then
    pure ⟨printed (presentLines path), "", .ok ()⟩
  else
    let result ← Config.save environment initialSettings path
    match within ("Failed to write config to " ++ path) result with
    | .error reasons => pure (.failed reasons)
    | .ok () => pure ⟨printed (createdLines path initialSettings), "", .ok ()⟩

/-- Carries a command out. -/
def run {m : Type → Type} [Monad m] (environment : Environment m) : Command → m Finished
  | .generate options => generate environment options
  | .analyze options => analyze environment options
  | .init options => init environment options

end ForwardingProxy.CommandLine
