import ForwardingProxy.CommandLine.Run
import ForwardingProxy.Proofs.Generation.Foretelling
import Mathlib

/-!
Contract: the analysis of a program as a forecast of its generation.

Owns: the fact that the two commands, asked about the same program with the same settings, come to
the same verdicts: what `analyze` prints tells how `generate` ends and what it reports.

The output that `generate` writes never fails. When the file is printed, none is written.
-/

namespace ForwardingProxy.CommandLine

open Classification (Item)
open Generation (Foretold)

variable {σ : Type} {environment : Environment (StateM σ)}

/-- Once the program is scanned, `generate` tells the report of its pass. -/
theorem generate_eq_generated (options : GenerateOptions) {state after : σ} {prepared : Prepared}
    (isPrepared : prepare environment options.configFile options.sourceDirs state =
      (.ok prepared, after))
    (never : options.printsFile = true ∨ environment.NeverFails) :
    ∃ items judged report output opened,
      Classification.classifyAll prepared.table.host prepared.config.markers = .ok items ∧
        Foretold items judged report ∧
          (generate environment options state).1 =
            generated options.allowsErrors output opened report := by
  by_cases prints : options.printsFile = true
  · obtain ⟨items, judged, report, classified, foretold, constant⟩ :=
      Generation.run_foretold prepared.table prepared.config Output.Memory.sink_neverFails
    let pass := Generation.run prepared.table.host prepared.config Output.Memory.sink
    have reported : (pass.run .empty).1 = report := by
      have ran : pass = (fun _ => report) <$> pass := constant
      rw [ran]
      rfl
    refine ⟨items, judged, report, String.join ((pass.run .empty).2.files.map Prod.snd), [],
      classified, foretold, ?_⟩
    rw [generate]
    simp only [bind, StateT.bind, isPrepared, prints, if_true]
    rw [← reported]
    rfl
  · let started := outputDirectory environment options.outputDirectory after
    obtain ⟨items, judged, report, classified, foretold, constant⟩ :=
      Generation.run_foretold prepared.table prepared.config
        (Output.files_neverFails (never.resolve_left prints) started.1)
    let pass := Generation.run prepared.table.host prepared.config
      (Output.files environment started.1)
    have reported : (pass.run [] started.2).1.1 = report := by
      have ran : pass = (fun _ => report) <$> pass := constant
      rw [ran]
      rfl
    refine ⟨items, judged, report, "", (pass.run [] started.2).1.2, classified, foretold, ?_⟩
    rw [generate]
    simp only [bind, StateT.bind, isPrepared, prints, if_false, Bool.false_eq_true]
    rw [← reported]
    rfl

theorem passEnding_eq_ok_iff {allowsErrors : Bool} {diagnostics : List Diagnostic}
    (errorsOnly : Diagnostic.errors diagnostics = diagnostics) :
    passEnding allowsErrors diagnostics = .ok () ↔ allowsErrors = true ∨ diagnostics = [] := by
  unfold passEnding
  rw [errorsOnly]
  cases allowsErrors <;> cases diagnostics <;> simp

/-- Three functions that ask for a proxy of one trait; the last has another signature. -/
def lampSource : String :=
  let dispatch := "(call: &MethodCall, args: Vec<Box<dyn Any>>) -> Box<dyn Any> \x7b\x7d\n"
  "pub trait Lamp \x7b fn switch(&self); \x7d\n"
    ++ "#[proxy_for(Lamp)] pub fn light" ++ dispatch
    ++ "#[proxy_for(Lamp)] pub fn dark" ++ dispatch
    ++ "#[proxy_for(Lamp)] pub fn dim() \x7b\x7d\n"

/-- One source file and no settings file, and nothing that is written is kept. -/
def lampEnvironment : Environment (StateM Unit) where
  workingDirectory := pure "/"
  outputDirectory? := pure none
  readText := fun _ => pure (.ok lampSource)
  createFile := fun _ => pure (.ok ())
  appendText := fun _ _ => pure (.ok ())
  makeDirectories := fun _ => pure (.ok ())
  isDirectory := fun _ => pure true
  doesExist := fun _ => pure false
  list := fun _ => pure (.ok [("lib.rs", .file)])

/-- The program of that file. -/
def lampPrepared : Prepared :=
  ⟨.standard, ["src"], Collection.collect lampSource "crate" (some "src/lib.rs") .empty⟩

/-- No directory above the working directory has settings. -/
theorem loadSettings_lampEnvironment :
    loadSettings lampEnvironment none = pure (.ok .standard) := by
  have noParent : Path.parent? "/" = none := by decide +kernel
  have unfound : Config.find? lampEnvironment "/" = pure none := by
    funext state
    simp [Config.find?, Config.findWithin?, noParent, lampEnvironment]
  have working : lampEnvironment.workingDirectory = pure "/" := rfl
  simp [loadSettings, working, unfound]

theorem scan_lampEnvironment :
    Scan.directory lampEnvironment "src" .empty = pure (.ok lampPrepared.table) := by
  have isDirectory : lampEnvironment.isDirectory "src" = pure true := rfl
  have found : Scan.filesBelow lampEnvironment Scan.depthLimit "src" = pure ["src/lib.rs"] := by
    funext state
    cbv
  have areSources : Scan.sources "src" ["src/lib.rs"] = [("src/lib.rs", "crate")] := by cbv
  have readText : lampEnvironment.readText "src/lib.rs" = pure (.ok lampSource) := rfl
  simp only [Scan.directory, isDirectory, pure_bind, if_true, found, areSources, Scan.collectAll,
    readText, lampPrepared]

end ForwardingProxy.CommandLine
