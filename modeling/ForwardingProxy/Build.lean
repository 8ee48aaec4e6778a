import ForwardingProxy.Generation
import ForwardingProxy.Output.Files
import ForwardingProxy.Scan

/-!
Contract: generation as a step of a build.

Owns: `Build`, its settings, and `Build.run`, which scans the source directories, runs a
generation pass and sees to it that the output file is there even when nothing is marked.

What the build tool has to know is given as lines: which directories to watch, and every message
of the pass on one line.
-/

namespace ForwardingProxy

/-- What a build asks for. -/
structure Build where
  config : Config
  /-- The directories to scan, instead of those of the settings. -/
  sourceDirs : List String
  /-- The output directory, instead of the one that the surrounding build sets. -/
  outputDirectory : Option String
  /-- Whether lines for the build tool are written. -/
  tellsTool : Bool
  /-- Whether errors of the pass make the build fail. -/
  failsOnErrors : Bool

/-- What a build has done. -/
structure Build.Report where
  outcome : Generation.Outcome
  diagnostics : List Diagnostic
  /-- The generated file, when the pass ran to its end. -/
  outputPath : Option String

/-- The lines written for the build tool, and how the build ended. -/
structure Build.Result where
  lines : List String
  report : Except Failure Build.Report

namespace Build

/-- The build with the standard settings. -/
def standard : Build := ⟨.standard, [], none, true, true⟩

/-- Tells the tool to watch a directory. -/
def watchLine (directory : String) : String :=
  "cargo:rerun-if-changed=" ++ directory

/-- Tells the tool about a message; line feeds become spaces. -/
def warningLine (diagnostic : Diagnostic) : String :=
  "cargo:warning=" ++ String.ofList (diagnostic.describe.toList.map fun character =>
    if character = '\n' then ' ' else character)

/-- The lines, when the build writes any. -/
def told (build : Build) (lines : List String) : List String :=
  if build.tellsTool then lines else []

/-- Scans the directories up to the first that fails; also gives those that were reached. -/
def scanAll {m : Type → Type} [Monad m]
    (environment : Environment m) :
    List String → SymbolTable → m (List String × Except Failure SymbolTable)
  | [], table => pure ([], .ok table)
  | root :: rest, table => do
      match ← Scan.directory environment root table with
      | .error failure => pure ([root], .error failure)
      | .ok extended => do
          let (reached, result) ← scanAll environment rest extended
          pure (root :: reached, result)

/-- Writes texts one after the other into a new file. -/
def writeFile {m : Type → Type} [Monad m]
    (config : Config)
    (sink : Output.Sink m)
    (texts : List String) : m (Except Failure Unit) := do
  match ← sink.create config.package config.fileName with
  | .error failure => pure (.error failure)
  | .ok () =>
      match ← Generation.play sink (texts.map .write) with
      | (_, .error failure) => pure (.error failure)
      | (_, .ok ()) => sink.finish

/-- The texts of a file without proxies. -/
def emptyFile (config : Config) : List String :=
  [Generation.header, "\n\n", Registry.empty.sourceText config.runtimePath]

/-- The path of the generated file; writes one without proxies when nothing is marked. -/
def outputPath {m : Type → Type} [Monad m]
    (environment : Environment m)
    (config : Config)
    (directory : String)
    (report : Generation.Report)
    (opened : Output.Opened) : m (Except Failure (Option String)) := do
  if report.outcome.fileWritten then pure (.ok opened.head?)
  else if report.diagnostics.isEmpty then
    match ← (writeFile config (Output.files environment directory) (emptyFile config)).run [] with
    | (.error failure, _) => pure (.error failure)
    | (.ok (), _) => pure (.ok (some (Output.path directory config.package config.fileName)))
  else pure (.ok none)

/-- The failure that the errors of a pass amount to, if they make the build fail. -/
def rejection? (build : Build) (diagnostics : List Diagnostic) : Option Failure :=
  let errors := Diagnostic.errors diagnostics
  if build.failsOnErrors && !errors.isEmpty then
    some (.rejected (errors.map Diagnostic.describe))
  else none

/-- Runs the pass over a scanned program and writes below the directory. -/
def generate {m : Type → Type} [Monad m]
    (environment : Environment m)
    (build : Build)
    (directory : String)
    (table : SymbolTable) : m Result := do
  let pass := Generation.run table.host build.config (Output.files environment directory)
  let (report, opened) ← pass.run []
  match ← outputPath environment build.config directory report opened with
  | .error failure => pure ⟨[], .error failure⟩
  | .ok path =>
      let lines := build.told (report.diagnostics.map warningLine)
      match build.rejection? report.diagnostics with
      | some failure => pure ⟨lines, .error failure⟩
      | none => pure ⟨lines, .ok ⟨report.outcome, report.diagnostics, path⟩⟩

/-- The output directory of a build. -/
def directory? {m : Type → Type} [Monad m]
    (environment : Environment m)
    (build : Build) : m (Option String) :=
  match build.outputDirectory with
  | some directory => pure (some directory)
  | none => environment.outputDirectory?

/-- Runs the whole build. -/
def run {m : Type → Type} [Monad m]
    (environment : Environment m)
    (build : Build) : m Result := do
  match build.config.invalid? with
  | some reason => pure ⟨[], .error (.config (.invalid reason))⟩
  | none =>
      match ← build.directory? environment with
      | none => pure ⟨[], .error (.config .noOutputDirectory)⟩
      | some directory =>
          let roots := Scan.sourceDirs build.sourceDirs build.config
          let (reached, scanned) ← scanAll environment roots .empty
          let lines := build.told (reached.map watchLine)
          match scanned with
          | .error failure => pure ⟨lines, .error failure⟩
          | .ok table =>
              let result ← generate environment build directory table
              pure ⟨lines ++ result.lines, result.report⟩

end Build

end ForwardingProxy
