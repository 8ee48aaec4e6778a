import ForwardingProxy.Proofs.Build.Scanning
import ForwardingProxy.Proofs.FileSystem.Writing
import ForwardingProxy.Proofs.Generation.Accounting

/-!
Contract: the output file of a build over a tree of files.

Owns: the fact that a file which can be opened takes every text of a pass, that a build leaves its
file whether or not anything is marked, and when a build is rejected.

Nothing is assumed of the tree but that the output file can be opened: a build that does not get as
far as its pass fails with an error of its own.
-/

namespace ForwardingProxy

open FileTree (environment)
open Output (Call Memory Opened Planned Sink)

/-! ### Writing -/

namespace Output

/-- A file that is opened is there and is empty. -/
theorem holds_of_openFile {path : String} {tree after : FileTree}
    (opens : openFile environment path tree = (.ok (), after)) : after.Holds path "" := by
  have created : ∀ start : FileTree, environment.createFile path start = (.ok (), after) →
      after.Holds path "" := fun start made =>
    FileTree.holds_of_createFile (FileTree.environment_createFile made)
  unfold openFile at opens
  cases isBelow : Path.parent? path with
  | none =>
      rw [isBelow] at opens
      exact created tree opens
  | some parent =>
      simp only [isBelow, bind, StateT.bind] at opens
      cases made : environment.makeDirectories parent tree with
      | mk result middle =>
          rw [made] at opens
          cases result with
          | error error => cases opens
          | ok done => exact created middle opens

section Calls

variable {m : Type → Type} [Monad m] [LawfulMonad m] {environment : Environment m}
  (directory : String)

theorem files_create (package fileName : String) (opened : Opened) :
    (files environment directory).create package fileName opened =
      (fun
        | .error error => (.error (.file error), opened)
        | .ok () => (.ok (), opened ++ [path directory package fileName])) <$>
          openFile environment (path directory package fileName) := by
  change ((files environment directory).create package fileName).run opened = _
  simp only [files, StateT.run_bind, StateT.run_monadLift, map_eq_pure_bind, bind_assoc, pure_bind]
  apply bind_congr
  intro made
  cases made <;> simp

theorem files_append {file : String} {opened : Opened} (isOpen : opened.getLast? = some file)
    (text : String) :
    (files environment directory).append text opened =
      (fun written => (ofFileResult written, opened)) <$> environment.appendText file text := by
  change ((files environment directory).append text).run opened = _
  simp [files, isOpen]

end Calls

/-- Texts that are added to the open file come behind what it holds. -/
theorem firstFault_appends (directory : String) {file : String} {opened : Opened}
    (isOpen : opened.getLast? = some file) {calls : List Planned} {texts : List String}
    (areCalls : calls.map Planned.call = texts.map Call.append ++ [Call.finish]) {tree : FileTree}
    {before : String} (holds : tree.Holds file before) :
    ∃ after, (files environment directory).firstFault calls opened tree = ((none, opened), after) ∧
      after.Holds file (before ++ String.join texts) := by
  induction texts generalizing calls tree before with
  | nil =>
      obtain ⟨planned, rfl, isFinish⟩ := List.map_eq_singleton_iff.mp areCalls
      refine ⟨tree, ?_, by simpa using holds⟩
      simp only [Sink.firstFault, isFinish, Sink.answer]
      rfl
  | cons text rest inductionHypothesis =>
      obtain ⟨planned, others, rfl, isAppend, areOthers⟩ := List.map_eq_cons_iff.mp areCalls
      obtain ⟨longer, isLonger, holdsMore⟩ := holds.appendText text
      obtain ⟨after, played, holdsAll⟩ := inductionHypothesis areOthers holdsMore
      refine ⟨after, ?_, by simpa [String.append_assoc] using holdsAll⟩
      have appended : (files environment directory).append text opened tree =
          ((.ok (), opened), longer) := by
        refine (congrFun (files_append directory isOpen text) tree).trans ?_
        rw [map_apply, FileTree.environment_appendText isLonger]
        rfl
      simp only [Sink.firstFault, isAppend, Sink.answer, bind, StateT.bind, appended]
      exact played

/-- A whole file is written where it can be opened, and all its texts are in it. -/
theorem firstFault_file {directory package fileName : String} {calls : List Planned}
    {texts : List String}
    (areCalls : calls.map Planned.call =
      Call.create package fileName :: texts.map Call.append ++ [Call.finish]) {tree : FileTree}
    (opens : (openFile environment (path directory package fileName) tree).1 = .ok ())
    (opened : Opened) :
    ∃ after, ((files environment directory).firstFault calls).run opened tree =
        ((none, opened ++ [path directory package fileName]), after) ∧
      after.Holds (path directory package fileName) (String.join texts) := by
  obtain ⟨planned, others, rfl, isCreate, areOthers⟩ := List.map_eq_cons_iff.mp areCalls
  let created := (openFile environment (path directory package fileName) tree).2
  have isCreated : openFile environment (path directory package fileName) tree = (.ok (), created) :=
    Prod.ext opens rfl
  obtain ⟨after, played, holds⟩ := firstFault_appends directory
    (List.getLast?_concat (l := opened)) areOthers (holds_of_openFile isCreated)
  rw [String.empty_append] at holds
  refine ⟨after, ?_, holds⟩
  have answered : (files environment directory).create package fileName opened tree =
      ((.ok (), opened ++ [path directory package fileName]), created) := by
    refine (congrFun (files_create directory package fileName opened) tree).trans ?_
    rw [map_apply, isCreated]
  simp only [Sink.firstFault, isCreate, Sink.answer, StateT.run, bind, StateT.bind, answered]
  exact played

end Output

/-! ### Passes -/

namespace Generation

/-- What the answer to planned calls amounts to. -/
def ended (fault : Option (Nat × Failure)) : Except Failure Unit :=
  fault.elim (.ok ()) fun failed => .error failed.2

section Monadic

variable {m : Type → Type} [Monad m] [LawfulMonad m]

theorem play_writes (sink : Sink m) (texts : List String) :
    play sink (texts.map .write) =
      (fun fault => ([], ended fault)) <$>
        sink.firstFault (texts.map fun text => ⟨0, .append text⟩) := by
  induction texts with
  | nil => simp [play, Sink.firstFault, ended]
  | cons text rest inductionHypothesis =>
      simp only [List.map_cons, play, Sink.firstFault, Sink.answer, map_eq_pure_bind, bind_assoc]
      apply bind_congr
      intro answered
      cases answered with
      | error failure => simp [ended]
      | ok done => simp [inductionHypothesis]

end Monadic

end Generation

/-! ### Builds -/

theorem Failure.message_rejected (messages : List String) :
    (Failure.rejected messages).message =
      "Proxy generation failed with " ++ toString messages.length ++ " error(s):\n"
        ++ "\n".intercalate messages := rfl

namespace Build

open Generation (Unmarked)

variable (build : Build) (directory : String) (table : SymbolTable) (tree : FileTree)

/-- The path of the output file. -/
def file : String :=
  Output.path directory build.config.package build.config.fileName

/-- The pass of the build, with its file kept in memory. -/
def pass : Generation.Report × Memory :=
  Generation.run table.host build.config Memory.sink .empty

/-- The output file can be opened. -/
def Opens : Prop :=
  ∀ directory, (build.directory? environment tree).1 = some directory →
    (Output.openFile environment (build.file directory) tree).1 = .ok ()

/-- The build gets as far as its pass: its settings are valid, its output directory is known, and its
sources can be read and make up the table. -/
structure Starts : Prop where
  valid : build.config.invalid? = none
  directory : (build.directory? environment tree).1 = some directory
  scanned : (scanAll environment (Scan.sourceDirs build.sourceDirs build.config) .empty tree).1.2 =
    .ok table

/-- What stands in the output file: what the pass leaves in memory, and where nothing is marked a
registry without entries. -/
structure FileText (text : String) : Prop where
  marked : ¬Unmarked table build.config.markers →
    (build.pass table).2.file? (Output.key build.config.package build.config.fileName) = some text
  unmarked : Unmarked table build.config.markers →
    text = Generation.header ++ "\n\n" ++ Registry.empty.sourceText build.config.runtimePath

theorem emptyFile_text (config : Config) :
    String.join (emptyFile config) =
      Generation.header ++ "\n\n" ++ Registry.empty.sourceText config.runtimePath := by
  simp [emptyFile, String.append_assoc]

variable {build directory table tree}

/-- The calls that write a file of these texts. -/
def fileCalls (config : Config) (texts : List String) : List Planned :=
  ⟨0, .create config.package config.fileName⟩
    :: (texts.map fun text => ⟨0, .append text⟩) ++ [⟨0, .finish⟩]

theorem writeFile_eq {m : Type → Type} [Monad m] [LawfulMonad m] (config : Config) (sink : Sink m)
    (texts : List String) :
    writeFile config sink texts =
      Generation.ended <$> sink.firstFault (fileCalls config texts) := by
  rw [fileCalls, List.cons_append, Sink.firstFault, Sink.firstFault_append]
  simp only [writeFile, Generation.play_writes, Sink.answer, map_eq_pure_bind, bind_assoc]
  apply bind_congr
  intro created
  cases created with
  | error failure => simp [Generation.ended]
  | ok done =>
      simp only [bind_assoc, pure_bind]
      apply bind_congr
      intro fault
      cases fault with
      | some failed => simp [Generation.ended]
      | none =>
          simp only [Generation.ended, Sink.firstFault, Sink.answer, Option.elim_none, bind_assoc]
          conv_lhs => rw [← bind_pure sink.finish]
          apply bind_congr
          intro finished
          cases finished <;> simp

/-- A file can be written where it can be opened. -/
theorem writeFile_files (texts : List String)
    (opens : (Output.openFile environment (build.file directory) tree).1 = .ok ()) :
    ∃ opened after, (writeFile build.config (Output.files environment directory) texts).run [] tree =
        ((.ok (), opened), after) ∧ after.Holds (build.file directory) (String.join texts) := by
  have areCalls : (fileCalls build.config texts).map Planned.call =
      Call.create build.config.package build.config.fileName
        :: texts.map Call.append ++ [Call.finish] := by
    simp [fileCalls]
  obtain ⟨after, written, holds⟩ := Output.firstFault_file areCalls opens []
  refine ⟨[build.file directory], after, ?_, holds⟩
  rw [writeFile_eq, StateT.run_map, Output.map_apply, written]
  rfl

/-- Where the output file can be opened, the pass writes there what it writes into memory and reports
the same. -/
theorem run_files_marked (marked : ¬Unmarked table build.config.markers)
    (opens : (Output.openFile environment (build.file directory) tree).1 = .ok ()) :
    ∃ after text,
      (Generation.run table.host build.config (Output.files environment directory)).run [] tree =
          (((build.pass table).1, [build.file directory]), after) ∧
        (build.pass table).1.outcome.fileWritten = true ∧
        (build.pass table).2.file? (Output.key build.config.package build.config.fileName) =
          some text ∧
        after.Holds (build.file directory) text := by
  obtain ⟨items, classified, -⟩ := Generation.exists_classified table build.config.markers
  have someItems : items ≠ [] := by
    rwa [Generation.unmarked_iff, ← classified.ids, List.map_eq_nil_iff] at marked
  obtain ⟨deferred, unobstructed, ran⟩ := Generation.run_eq_script classified.classified someItems
  let judged := Generation.judge .empty items
  have inMemory : build.pass table = (Generation.conclude (.ok deferred) judged none,
      ⟨[(Output.key build.config.package build.config.fileName,
        Generation.fileText build.config judged)], none⟩) := by
    rw [pass, ran, Output.map_apply, Generation.firstFault_script_memory build.config unobstructed]
    rfl
  obtain ⟨after, written, holds⟩ := Output.firstFault_file
    (Generation.script_calls build.config unobstructed) opens []
  rw [Generation.join_fileTexts] at holds
  refine ⟨after, Generation.fileText build.config judged, ?_, ?_, ?_, holds⟩
  · rw [inMemory, ran, StateT.run_map, Output.map_apply, written]
    rfl
  · rw [inMemory, Generation.conclude, unobstructed]
    rfl
  · rw [inMemory]
    simp [Memory.file?]

/-- What a build tells about a pass, once its output file is there. -/
def concluded (build : Build) (report : Generation.Report) (path : Option String) : Result :=
  ⟨build.told (report.diagnostics.map warningLine),
    match build.rejection? report.diagnostics with
    | some failure => .error failure
    | none => .ok ⟨report.outcome, report.diagnostics, path⟩⟩

theorem generate_eq_concluded {report : Generation.Report} {opened : Opened}
    {path : Option String} {middle after : FileTree}
    (ran : (Generation.run table.host build.config (Output.files environment directory)).run [] tree =
      ((report, opened), middle))
    (isThere : outputPath environment build.config directory report opened middle =
      (.ok path, after)) :
    generate environment build directory table tree = (build.concluded report path, after) := by
  simp only [generate, bind, StateT.bind, ran, isThere, concluded]
  cases build.rejection? report.diagnostics <;> rfl

/-- Whether or not anything is marked, a build that has scanned its sources leaves its file. -/
theorem generate_leaves_file (table : SymbolTable)
    (opens : (Output.openFile environment (build.file directory) tree).1 = .ok ()) :
    ∃ after text,
      generate environment build directory table tree =
        (build.concluded (build.pass table).1 (some (build.file directory)), after) ∧
        build.FileText table text ∧ after.readText (build.file directory) = .ok text := by
  by_cases unmarked : Unmarked table build.config.markers
  · obtain ⟨opened, after, written, holds⟩ := writeFile_files (emptyFile build.config) opens
    rw [emptyFile_text] at holds
    have inMemory : build.pass table = (⟨.nothing, []⟩, .empty) := by
      rw [pass, Generation.run_unmarked _ unmarked]
      rfl
    refine ⟨after, _, ?_, ⟨fun marked => absurd unmarked marked, fun _ => rfl⟩, holds.readText⟩
    rw [inMemory]
    have ran : (Generation.run table.host build.config
        (Output.files environment directory)).run [] tree = ((⟨.nothing, []⟩, []), tree) := by
      rw [Generation.run_unmarked _ unmarked]
      rfl
    refine generate_eq_concluded ran ?_
    rw [outputPath, if_neg (by decide), if_pos (by rfl)]
    simp only [bind, StateT.bind, written]
    rfl
  · obtain ⟨after, text, ran, written, kept, holds⟩ := run_files_marked unmarked opens
    refine ⟨after, text, generate_eq_concluded ran ?_,
      ⟨fun _ => kept, fun isUnmarked => absurd isUnmarked unmarked⟩, holds.readText⟩
    rw [outputPath, if_pos written]
    rfl

/-- What a build comes to. -/
structure Delivers (build : Build) (tree : FileTree) (result : Result) (after : FileTree) : Prop where
  /-- Wherever the pass writes, it reports the same. -/
  passes : ∀ directory table, build.Starts directory table tree →
    ((Generation.run table.host build.config (Output.files environment directory)).run [] tree).1.1 =
      (build.pass table).1
  /-- A build that starts succeeds or is rejected. -/
  ends : ∀ directory table, build.Starts directory table tree →
    (∃ report, result.report = .ok report) ∨
      ∃ messages, result.report = .error (.rejected messages)
  /-- A build that succeeds has started, and leaves its file. -/
  succeeds : ∀ report, result.report = .ok report → ∃ directory table text,
    build.Starts directory table tree ∧ report.outcome = (build.pass table).1.outcome ∧
      report.diagnostics = (build.pass table).1.diagnostics ∧
      report.outputPath = some (build.file directory) ∧
      after.readText (build.file directory) = .ok text ∧ build.FileText table text
  rejected_iff : (∃ messages, result.report = .error (.rejected messages)) ↔
    build.failsOnErrors = true ∧ ∃ directory table, build.Starts directory table tree ∧
      Diagnostic.errors (build.pass table).1.diagnostics ≠ []
  /-- A rejection counts the errors and tells them in the order of the report. -/
  told : ∀ messages, result.report = .error (.rejected messages) →
    ∃ directory table, build.Starts directory table tree ∧
      (Failure.rejected messages).message =
        "Proxy generation failed with "
          ++ toString (Diagnostic.errors (build.pass table).1.diagnostics).length
          ++ " error(s):\n"
          ++ "\n".intercalate
            ((Diagnostic.errors (build.pass table).1.diagnostics).map Diagnostic.describe)

/-- A build that starts runs its pass on the tree as it was. -/
theorem run_of_starts (starts : build.Starts directory table tree) :
    ∃ lines, build.run environment tree =
      (⟨lines ++ (generate environment build directory table tree).1.lines,
          (generate environment build directory table tree).1.report⟩,
        (generate environment build directory table tree).2) := by
  have known : build.directory? environment tree = (some directory, tree) :=
    Prod.ext starts.directory (build.directory?_reads tree)
  let roots := Scan.sourceDirs build.sourceDirs build.config
  have scanned : scanAll environment roots .empty tree =
      (((scanAll environment roots .empty tree).1.1, .ok table), tree) :=
    Prod.ext (Prod.ext rfl starts.scanned) (scanAll_reads roots .empty tree)
  refine ⟨build.told ((scanAll environment roots .empty tree).1.1.map watchLine), ?_⟩
  simp only [run, starts.valid, bind, StateT.bind, known]
  rw [scanned]
  rfl

/-- A build that does not start fails on the way, and not because anything is rejected. -/
theorem run_of_not_starts (stuck : ∀ directory table, ¬build.Starts directory table tree) :
    ∃ failure, (build.run environment tree).1.report = .error failure ∧
      ∀ messages, failure ≠ .rejected messages := by
  cases valid : build.config.invalid? with
  | some reason =>
      refine ⟨.config (.invalid reason), ?_, nofun⟩
      simp only [run, valid]
      rfl
  | none =>
      cases known : build.directory? environment tree with
      | mk found after =>
          obtain rfl : after = tree := by
            have unchanged := build.directory?_reads tree
            rwa [known] at unchanged
          cases found with
          | none =>
              refine ⟨.config .noOutputDirectory, ?_, nofun⟩
              simp only [run, valid, bind, StateT.bind, known]
              rfl
          | some directory =>
              let roots := Scan.sourceDirs build.sourceDirs build.config
              have unrejected := scanAll_not_rejected roots .empty after
              cases scanned : scanAll environment roots .empty after with
              | mk result middle =>
                  obtain ⟨reached, result⟩ := result
                  rw [scanned] at unrejected
                  cases result with
                  | ok table =>
                      exact absurd ⟨valid, by rw [known], by rw [scanned]⟩ (stuck directory table)
                  | error failure =>
                      refine ⟨failure, ?_, fun messages isRejected =>
                        unrejected messages (congrArg Except.error isRejected)⟩
                      simp only [run, valid, bind, StateT.bind, known]
                      rw [scanned]
                      rfl

theorem rejection?_eq_some {diagnostics : List Diagnostic} {failure : Failure} :
    build.rejection? diagnostics = some failure ↔ build.failsOnErrors = true ∧
      Diagnostic.errors diagnostics ≠ [] ∧
      failure = .rejected ((Diagnostic.errors diagnostics).map Diagnostic.describe) := by
  unfold rejection?
  cases build.failsOnErrors <;> cases Diagnostic.errors diagnostics <;> simp [eq_comm]

/-- Only one table is scanned, for one output directory. -/
theorem Starts.unique {otherDirectory : String} {otherTable : SymbolTable}
    (starts : build.Starts directory table tree)
    (other : build.Starts otherDirectory otherTable tree) :
    otherDirectory = directory ∧ otherTable = table :=
  ⟨Option.some.inj (other.directory.symm.trans starts.directory),
    Except.ok.inj (other.scanned.symm.trans starts.scanned)⟩

theorem report_files_eq (opens : (Output.openFile environment (build.file directory) tree).1 = .ok ()) :
    ((Generation.run table.host build.config (Output.files environment directory)).run [] tree).1.1 =
      (build.pass table).1 := by
  by_cases unmarked : Unmarked table build.config.markers
  · rw [pass, Generation.run_unmarked _ unmarked, Generation.run_unmarked _ unmarked]
    rfl
  · obtain ⟨after, text, ran, -⟩ := run_files_marked unmarked opens
    rw [ran]

section Ends

variable {result : Result} {after : FileTree} (starts : build.Starts directory table tree)
  (opens : (Output.openFile environment (build.file directory) tree).1 = .ok ())

include starts opens

theorem delivers_of_rejected (fails : build.failsOnErrors = true)
    (someErrors : Diagnostic.errors (build.pass table).1.diagnostics ≠ [])
    (isReport : result.report = .error (.rejected
      ((Diagnostic.errors (build.pass table).1.diagnostics).map Diagnostic.describe))) :
    build.Delivers tree result after where
  passes := by
    intro otherDirectory otherTable others
    obtain ⟨rfl, rfl⟩ := starts.unique others
    exact report_files_eq opens
  ends := fun _ _ _ => .inr ⟨_, isReport⟩
  succeeds := by
    intro report isOk
    rw [isReport] at isOk
    cases isOk
  rejected_iff := ⟨fun _ => ⟨fails, directory, table, starts, someErrors⟩, fun _ => ⟨_, isReport⟩⟩
  told := by
    intro messages rejected
    rw [isReport, Except.error.injEq, Failure.rejected.injEq] at rejected
    refine ⟨directory, table, starts, ?_⟩
    rw [← rejected, Failure.message_rejected, List.length_map]

theorem delivers_of_accepted {text : String}
    (accepts : ¬(build.failsOnErrors = true ∧
      Diagnostic.errors (build.pass table).1.diagnostics ≠ []))
    (isReport : result.report = .ok ⟨(build.pass table).1.outcome,
      (build.pass table).1.diagnostics, some (build.file directory)⟩)
    (isRead : after.readText (build.file directory) = .ok text)
    (isText : build.FileText table text) :
    build.Delivers tree result after where
  passes := by
    intro otherDirectory otherTable others
    obtain ⟨rfl, rfl⟩ := starts.unique others
    exact report_files_eq opens
  ends := fun _ _ _ => .inl ⟨_, isReport⟩
  succeeds := by
    intro report isOk
    rw [isReport, Except.ok.injEq] at isOk
    subst isOk
    exact ⟨directory, table, text, starts, rfl, rfl, rfl, isRead, isText⟩
  rejected_iff := by
    constructor
    · rintro ⟨messages, rejected⟩
      rw [isReport] at rejected
      cases rejected
    · rintro ⟨fails, otherDirectory, otherTable, others, someErrors⟩
      obtain ⟨rfl, rfl⟩ := starts.unique others
      exact absurd ⟨fails, someErrors⟩ accepts
  told := by
    intro messages rejected
    rw [isReport] at rejected
    cases rejected

end Ends

theorem delivers_of_starts (starts : build.Starts directory table tree)
    (opens : (Output.openFile environment (build.file directory) tree).1 = .ok ()) :
    build.Delivers tree (build.run environment tree).1 (build.run environment tree).2 := by
  obtain ⟨lines, ran⟩ := run_of_starts starts
  obtain ⟨after, text, generated, isText, isRead⟩ := generate_leaves_file table opens
  rw [generated, concluded] at ran
  rw [ran]
  cases rejects : build.rejection? (build.pass table).1.diagnostics with
  | some failure =>
      obtain ⟨fails, someErrors, rfl⟩ := rejection?_eq_some.mp rejects
      exact delivers_of_rejected starts opens fails someErrors rfl
  | none =>
      refine delivers_of_accepted starts opens (fun ⟨fails, someErrors⟩ => ?_) rfl isRead isText
      cases (rejection?_eq_some.mpr ⟨fails, someErrors, rfl⟩).symm.trans rejects

/-- Over a tree where its output file can be opened, a build leaves this file when it succeeds, and it
is rejected for the errors of its pass and for nothing else. -/
theorem run_delivers (build : Build) (tree : FileTree) (opens : build.Opens tree) :
    build.Delivers tree (build.run environment tree).1 (build.run environment tree).2 := by
  by_cases started : ∃ directory table, build.Starts directory table tree
  · obtain ⟨directory, table, starts⟩ := started
    exact delivers_of_starts starts (opens directory starts.directory)
  · have stuck : ∀ directory table, ¬build.Starts directory table tree :=
      fun directory table starts => started ⟨directory, table, starts⟩
    obtain ⟨failure, failed, unrejected⟩ := run_of_not_starts stuck
    constructor
    case passes | ends => exact fun directory table starts => absurd starts (stuck directory table)
    case succeeds => exact fun report isOk => nomatch failed.symm.trans isOk
    case rejected_iff =>
      constructor
      · rintro ⟨messages, rejected⟩
        exact absurd (Except.error.inj (failed.symm.trans rejected)) (unrejected messages)
      · rintro ⟨-, directory, table, starts, -⟩
        exact absurd starts (stuck directory table)
    case told =>
      intro messages rejected
      exact absurd (Except.error.inj (failed.symm.trans rejected)) (unrejected messages)

/-- A function that is marked for the one trait of the file, and has another signature. -/
def lampSource : String :=
  "#[proxy_for(Lamp)] pub fn light() \x7b\x7d\npub trait Lamp \x7b fn switch(&self); \x7d\n"

/-- One source file below the root, which is the output directory, too. -/
def lampTree : FileTree where
  entries := [(["src"], .directory), (["src", "lib.rs"], .file lampSource.toUTF8)]
  workingPlace := []
  outputDirectory := some "/"

theorem standard_opens_lampTree : standard.Opens lampTree := by
  rintro directory ⟨⟩
  have isFile : standard.file "/" = "/generated_proxies.rs" := by decide +kernel
  have isBelow : Path.parent? "/generated_proxies.rs" = some "/" := by decide +kernel
  have isThere : environment.makeDirectories "/" lampTree = (.ok (), lampTree) := by cbv
  have areSteps : FileTree.steps "/generated_proxies.rs" = ["generated_proxies.rs"] := by
    decide +kernel
  have isAbsolute : Path.isAbsolute "/generated_proxies.rs" = true := by decide +kernel
  have pathSize : "/generated_proxies.rs".utf8ByteSize = 21 := by decide +kernel
  have nameSize : "generated_proxies.rs".utf8ByteSize = 20 := by decide +kernel
  have isFree : lampTree.entry? ["generated_proxies.rs"] = none := rfl
  have located : lampTree.locate .create "/generated_proxies.rs" =
      .ok ⟨["generated_proxies.rs"], none⟩ := by
    simp [FileTree.locate, FileTree.locateBy, FileTree.pathLimit, pathSize, isAbsolute, areSteps,
      FileTree.walk, FileTree.nameLimit, nameSize, isFree]
  have isMade : environment.createFile "/generated_proxies.rs" lampTree =
      (.ok (), lampTree.withEntry ["generated_proxies.rs"] (.file .empty)) := by
    refine (FileTree.attempt_eq (fun tree => tree.createFile _) lampTree).trans ?_
    simp only [FileTree.createFile, located, bind, Except.bind]
  simp only [isFile, Output.openFile, isBelow, bind, StateT.bind, isThere, isMade]

theorem lampTree_starts : standard.Starts "/"
    (Collection.collect lampSource "crate" (some "src/lib.rs") .empty) lampTree where
  valid := by decide +kernel
  directory := rfl
  scanned := by
    have dirs : Scan.sourceDirs standard.sourceDirs standard.config = ["src"] := rfl
    have isDirectory : environment.isDirectory "src" lampTree = (true, lampTree) := by cbv
    have found : Scan.filesBelow environment Scan.depthLimit "src" lampTree =
        (["src/lib.rs"], lampTree) := by cbv
    have areSources : Scan.sources "src" ["src/lib.rs"] = [("src/lib.rs", "crate")] := by cbv
    have areSteps : FileTree.steps "src/lib.rs" = ["src", "lib.rs"] := by decide +kernel
    have isRelative : Path.isAbsolute "src/lib.rs" = false := by decide +kernel
    have pathSize : "src/lib.rs".utf8ByteSize = 10 := by decide +kernel
    have directorySize : "src".utf8ByteSize = 3 := by decide +kernel
    have nameSize : "lib.rs".utf8ByteSize = 6 := by decide +kernel
    have above : lampTree.entry? ["src"] = some .directory := rfl
    have isEntry : lampTree.entry? ["src", "lib.rs"] = some (.file lampSource.toUTF8) := rfl
    have workingPlace : lampTree.workingPlace = [] := rfl
    have holds : lampTree.Holds "src/lib.rs" lampSource := by
      refine ⟨["src", "lib.rs"], ?_⟩
      simp [FileTree.locate, FileTree.locateBy, FileTree.pathLimit, pathSize, isRelative, areSteps,
        workingPlace, FileTree.walk, FileTree.nameLimit, directorySize, nameSize, above, isEntry]
    have isRead : environment.readText "src/lib.rs" lampTree = (.ok lampSource, lampTree) :=
      congrArg (·, lampTree) holds.readText
    simp only [dirs, scanAll, Scan.directory, bind, StateT.bind, isDirectory, found, areSources,
      Scan.collectAll, isRead, if_true]
    rfl

/-- The build gets as far as its pass, which rejects the function. -/
theorem lampTree_delivers :
    standard.Opens lampTree ∧
      standard.Starts "/" (Collection.collect lampSource "crate" (some "src/lib.rs") .empty)
        lampTree ∧
      standard.Delivers lampTree (standard.run environment lampTree).1
        (standard.run environment lampTree).2 :=
  ⟨standard_opens_lampTree, lampTree_starts, run_delivers standard lampTree standard_opens_lampTree⟩

end Build

end ForwardingProxy
