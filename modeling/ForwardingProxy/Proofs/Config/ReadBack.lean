import ForwardingProxy.Config.File
import ForwardingProxy.Proofs.Config.Validity
import ForwardingProxy.Proofs.FileSystem.Writing
import ForwardingProxy.Proofs.Json.ReadBack

/-!
Contract: settings that are written to a file and loaded again.

Owns: settings files from which keys are taken out, the settings that such a file stands for, and
what is loaded from a file that holds them.

Does not own: the form of the text, which is in `Proofs.Json.ReadBack`, and files, which are in
`Proofs.FileSystem.Writing`.
-/

namespace ForwardingProxy

/-! ### Objects with fewer keys -/

namespace Json

/-- The object without the fields under the given keys. -/
def Value.without (keys : List String) : Value → Value
  | .object fields => .object (fields.filter fun field => field.1 ∉ keys)
  | other => other

/-- The object with another value under the key. -/
def Value.changedAt (key : String) (change : Value → Value) : Value → Value
  | .object fields =>
      .object (fields.map fun field =>
        if field.1 = key then (field.1, change field.2) else field)
  | other => other

theorem Fits.without {shape : Shape} {value : Value} (fits : Fits shape value)
    (keys : List String) : Fits shape (value.without keys) := by
  cases fits with
  | text expected text => exact .text expected text
  | list each => exact .list each
  | record expected distinct known each =>
      refine .record expected (distinct.sublist (List.filter_sublist.map Prod.fst)) ?_ ?_
      · exact fun field isField => known field (List.mem_of_mem_filter isField)
      · exact fun field isField => each field (List.mem_of_mem_filter isField)

theorem Fits.changedAt {shape : Shape} {value : Value} (fits : Fits shape value) (key : String)
    {change : Value → Value}
    (keepsFitting : ∀ inner content, Fits inner content → Fits inner (change content)) :
    Fits shape (value.changedAt key change) := by
  cases fits with
  | text expected text => exact .text expected text
  | list each => exact .list each
  | @record expected shapes fields distinct known each =>
      have sameKeys : (fields.map fun field =>
          if field.1 = key then (field.1, change field.2) else field).map Prod.fst =
            fields.map Prod.fst := by
        rw [List.map_map]
        refine List.map_congr_left fun field _ => ?_
        simp only [Function.comp]
        split <;> rfl
      refine .record expected (by rwa [sameKeys]) ?_ ?_
      · intro changed isChanged
        obtain ⟨field, isField, rfl⟩ := List.mem_map.mp isChanged
        have isKnown := known field isField
        split <;> exact isKnown
      · intro changed isChanged
        obtain ⟨field, isField, rfl⟩ := List.mem_map.mp isChanged
        have fitsField := each field isField
        split
        · exact fun inner isInner => keepsFitting inner field.2 (fitsField inner isInner)
        · exact fitsField

theorem get?_without (keys : List String) (value : Value) (key : String) :
    (value.without keys).get? key = if key ∈ keys then none else value.get? key := by
  cases value with
  | boolean _ | text _ | list _ => simp [Value.without, Value.get?]
  | object fields =>
      simp only [Value.without, Value.get?]
      induction fields with
      | nil => simp
      | cons field fields inductionHypothesis =>
          obtain ⟨name, content⟩ := field
          by_cases isKept : name ∉ keys
          · rw [List.filter_cons_of_pos (by simpa using isKept), List.lookup_cons,
              List.lookup_cons, inductionHypothesis]
            by_cases isName : key = name
            · subst isName
              simp [isKept]
            · simp [beq_eq_false_iff_ne.mpr isName]
          · rw [List.filter_cons_of_neg (by simpa using isKept), inductionHypothesis,
              List.lookup_cons]
            by_cases isName : key = name
            · subst isName
              simp [not_not.mp isKept]
            · simp [beq_eq_false_iff_ne.mpr isName]

theorem get?_changedAt (key : String) (change : Value → Value) (value : Value) (other : String) :
    (value.changedAt key change).get? other =
      if other = key then (value.get? key).map change else value.get? other := by
  cases value with
  | boolean _ | text _ | list _ => simp [Value.changedAt, Value.get?]
  | object fields =>
      simp only [Value.changedAt, Value.get?]
      induction fields with
      | nil => simp
      | cons field fields inductionHypothesis =>
          obtain ⟨name, content⟩ := field
          rw [List.map_cons, List.lookup_cons, List.lookup_cons]
          by_cases isName : name = key
          · subst isName
            by_cases isSame : other = name
            · subst isSame
              simp
            · simp [List.lookup_cons, beq_eq_false_iff_ne.mpr isSame, inductionHypothesis, isSame]
          · rw [if_neg isName]
            by_cases isSame : other = key
            · subst isSame
              simp [beq_eq_false_iff_ne.mpr (Ne.symm isName), inductionHypothesis]
            · simp [List.lookup_cons, inductionHypothesis, isSame]

theorem without_nil (value : Value) : value.without [] = value := by
  cases value <;> simp [Value.without]

theorem changedAt_self (key : String) (value : Value) :
    value.changedAt key (fun inner => inner) = value := by
  cases value <;> simp [Value.changedAt]

end Json

namespace Config

open Json (Fits)

/-! ### Settings with fewer keys -/

/-- The shape of the markers in a settings file. -/
def markersShape : Json.Shape :=
  .record "struct MarkerConfig" [
    ("dispatch_function", .text "a string"), ("handler_interface", .text "a string")]

theorem fits_markersToValue (markers : Markers) : Fits markersShape (markersToValue markers) := by
  refine .record "struct MarkerConfig" (by simp) (by simp) ?_
  intro field isField inner isInner
  simp only [List.mem_cons, List.not_mem_nil, or_false] at isField
  rcases isField with rfl | rfl <;> cases isInner <;> exact .text "a string" _

theorem fits_toValue (config : Config) : Fits shape config.toValue := by
  have fitsDirs : Fits (.list (.text "path string")) (.list (config.sourceDirs.map .text)) := by
    refine .list fun value isValue => ?_
    obtain ⟨directory, _, rfl⟩ := List.mem_map.mp isValue
    exact .text "path string" directory
  refine .record "struct Config" ?_ ?_ ?_
  · split <;> simp
  · split <;> simp
  · intro field isField inner isInner
    rw [List.mem_append] at isField
    rcases isField with isField | isField
    · simp only [List.mem_cons, List.not_mem_nil, or_false] at isField
      rcases isField with rfl | rfl | rfl | rfl <;> cases isInner
      · exact .text "a string" config.runtimePath
      · exact .text "a string" config.package
      · exact .text "a string" config.fileName
      · exact fits_markersToValue config.markers
    · split at isField
      · simp at isField
      · rw [List.mem_singleton] at isField
        subst isField
        cases isInner
        exact fitsDirs

/-- The text under a key that may have been taken out. -/
theorem textAt_without (keys : List String) (value : Json.Value) (key standard : String) :
    textAt (value.without keys) key standard =
      if key ∈ keys then standard else textAt value key standard := by
  rw [textAt, Json.get?_without]
  split <;> rfl

theorem textAt_changedAt {key other : String} (differs : other ≠ key)
    (change : Json.Value → Json.Value) (value : Json.Value) (standard : String) :
    textAt (value.changedAt key change) other standard = textAt value other standard := by
  rw [textAt, Json.get?_changedAt, if_neg differs, textAt]

theorem get?_sourceDirs (config : Config) :
    config.toValue.get? "source_dirs" =
      if config.sourceDirs.isEmpty then none
      else some (.list (config.sourceDirs.map .text)) := by
  unfold toValue
  split <;> rfl

theorem texts?_list (texts : List String) :
    (Json.Value.list (texts.map .text)).texts? = some texts := by
  rw [Json.Value.texts?, List.mapM_map]
  induction texts with
  | nil => rfl
  | cons text texts inductionHypothesis =>
      rw [List.mapM_cons, inductionHypothesis]
      rfl

/-- The settings as JSON, less some keys of their own and some keys of their markers. -/
def reducedValue (config : Config) (keys markerKeys : List String) : Json.Value :=
  (config.toValue.changedAt "markers" (Json.Value.without markerKeys)).without keys

/-- The settings with the standard ones in place of those under the keys. -/
def withStandard (config : Config) (keys markerKeys : List String) : Config where
  runtimePath := if "runtime_path" ∈ keys then standard.runtimePath else config.runtimePath
  package := if "package" ∈ keys then standard.package else config.package
  fileName := if "file_name" ∈ keys then standard.fileName else config.fileName
  markers :=
    if "markers" ∈ keys then standard.markers
    else {
      dispatchFunction :=
        if "dispatch_function" ∈ markerKeys then standard.markers.dispatchFunction
        else config.markers.dispatchFunction
      handlerInterface :=
        if "handler_interface" ∈ markerKeys then standard.markers.handlerInterface
        else config.markers.handlerInterface }
  sourceDirs := if "source_dirs" ∈ keys then standard.sourceDirs else config.sourceDirs

theorem markersOfValue_without (markers : Markers) (keys : List String) :
    markersOfValue ((markersToValue markers).without keys) = {
      dispatchFunction :=
        if "dispatch_function" ∈ keys then Markers.standard.dispatchFunction
        else markers.dispatchFunction
      handlerInterface :=
        if "handler_interface" ∈ keys then Markers.standard.handlerInterface
        else markers.handlerInterface } := by
  rw [markersOfValue, textAt_without, textAt_without]
  rfl

/-- Every key that is taken out leaves its field at the standard, and every other field is kept. -/
theorem ofValue_reducedValue (config : Config) (keys markerKeys : List String) :
    ofValue (config.reducedValue keys markerKeys) = config.withStandard keys markerKeys := by
  have markers : ((config.reducedValue keys markerKeys).get? "markers").map markersOfValue =
      if "markers" ∈ keys then none
      else some (markersOfValue ((markersToValue config.markers).without markerKeys)) := by
    rw [reducedValue, Json.get?_without, Json.get?_changedAt, if_pos rfl]
    split <;> rfl
  have sourceDirs : ((config.reducedValue keys markerKeys).get? "source_dirs").bind
      Json.Value.texts? =
        if "source_dirs" ∈ keys ∨ config.sourceDirs = [] then none
        else some config.sourceDirs := by
    have isOther : "source_dirs" ≠ "markers" := by decide
    rw [reducedValue, Json.get?_without, Json.get?_changedAt, if_neg isOther, get?_sourceDirs]
    by_cases isRemoved : "source_dirs" ∈ keys
    · rw [if_pos isRemoved, if_pos (.inl isRemoved)]
      rfl
    · by_cases isEmpty : config.sourceDirs = []
      · simp [isRemoved, isEmpty]
      · simp [isRemoved, isEmpty, texts?_list]
  rw [ofValue, markers, sourceDirs]
  simp only [reducedValue, textAt_without]
  rw [textAt_changedAt (by decide), textAt_changedAt (by decide), textAt_changedAt (by decide),
    markersOfValue_without]
  simp only [withStandard]
  congr 1
  · split <;> rfl
  · by_cases isRemoved : "source_dirs" ∈ keys
    · simp [isRemoved]
    · by_cases isEmpty : config.sourceDirs = []
      · simp [isRemoved, isEmpty, standard]
      · simp [isRemoved, isEmpty]

/-- The text of settings less some keys writes the settings with the standard in their place. -/
theorem read_reducedValue (config : Config) (keys markerKeys : List String) :
    read (config.reducedValue keys markerKeys).pretty =
      .ok (config.withStandard keys markerKeys) := by
  have fits : Fits shape (config.reducedValue keys markerKeys) :=
    (config.fits_toValue.changedAt "markers" fun _ _ fitsInner => fitsInner.without markerKeys)
      |>.without keys
  rw [read, Json.read_pretty fits, Except.map, ofValue_reducedValue]

theorem reducedValue_nil (config : Config) : config.reducedValue [] [] = config.toValue := by
  rw [reducedValue, Json.without_nil, funext Json.without_nil, Json.changedAt_self]

theorem withStandard_nil (config : Config) : config.withStandard [] [] = config := by
  simp [withStandard]

/-! ### Files -/

theorem ofText_reducedValue (config : Config) (keys markerKeys : List String) :
    ofText (config.reducedValue keys markerKeys).pretty =
      match (config.withStandard keys markerKeys).validate with
      | .ok () => .ok (config.withStandard keys markerKeys)
      | .error reason => .error (.config (.invalid reason)) := by
  simp only [ofText, read_reducedValue, validate]
  cases (config.withStandard keys markerKeys).invalid? <;> rfl

open FileTree (environment)

theorem load_of_holds {file text : String} {tree : FileTree} (holds : tree.Holds file text) :
    load environment file tree = (ofText text, tree) := by
  have isRead : environment.readText file tree = (.ok text, tree) :=
    congrArg (Prod.mk · tree) holds.readText
  simp only [load, bind, StateT.bind, isRead]
  rfl

theorem holds_of_save {config : Config} {file : String} {tree after : FileTree}
    (saved : save environment config file tree = (.ok (), after)) :
    after.Holds file config.text := by
  unfold save at saved
  simp only [bind, StateT.bind] at saved
  cases written : environment.writeText file config.text tree with
  | mk result longer =>
      rw [written] at saved
      cases result with
      | error error => cases saved
      | ok done =>
          cases saved
          exact FileTree.holds_of_writeText written

/-- Settings are saved wherever a file can be made. -/
theorem save_of_createFile (config : Config) {file : String} {tree created : FileTree}
    (made : environment.createFile file tree = (.ok (), created)) :
    ∃ after, save environment config file tree = (.ok (), after) := by
  have isEmpty := FileTree.holds_of_createFile (FileTree.environment_createFile made)
  obtain ⟨after, appended, _⟩ := isEmpty.appendText config.text
  refine ⟨after, ?_⟩
  simp only [save, Environment.writeText, bind, StateT.bind, made,
    FileTree.environment_appendText appended]
  rfl

/-- Saved settings are loaded as they were. With keys of the settings or of their markers taken out
of the file, the settings with the standard in place of these are loaded, or refused for the first
reason against them. -/
theorem load_saved (config : Config) (accepted : config.validate = .ok ()) {file : String}
    {tree after : FileTree} (saved : save environment config file tree = (.ok (), after)) :
    load environment file after = (.ok config, after) ∧
      ∀ (keys markerKeys : List String) (place : String) (other : FileTree),
        other.Holds place (config.reducedValue keys markerKeys).pretty →
          load environment place other =
            (match (config.withStandard keys markerKeys).validate with
              | .ok () => .ok (config.withStandard keys markerKeys)
              | .error reason => .error (.config (.invalid reason)), other) := by
  constructor
  · have isText := ofText_reducedValue config [] []
    rw [reducedValue_nil, withStandard_nil, accepted] at isText
    rw [load_of_holds (holds_of_save saved), text, isText]
  · intro keys markerKeys place other holds
    rw [load_of_holds holds, ofText_reducedValue]

/-- Each marker has the standard name of the other one. -/
def crossedConfig : Config where
  runtimePath := "::support::proxies"
  package := "out.gen"
  fileName := "proxies"
  markers := ⟨"with_proxy", "proxy_for"⟩
  sourceDirs := ["lib \"old\"", "täglich\n"]

/-- A settings file of the crossed markers without the first of them. -/
def crossedTree : FileTree where
  entries := [(["proxygen.json"],
    .file (crossedConfig.reducedValue ["package"] ["dispatch_function"]).pretty.toUTF8)]
  workingPlace := []
  outputDirectory := none

theorem locate_settingsFile (last : FileTree.LastStep) {tree : FileTree} {entry : Option FileTree.Entry}
    (isEntry : tree.entry? ["proxygen.json"] = entry)
    (isFile : ∀ found, entry = some found → ∃ content, found = .file content)
    (workingPlace : tree.workingPlace = []) :
    tree.locate last "proxygen.json" = .ok ⟨["proxygen.json"], entry⟩ := by
  have areSteps : FileTree.steps "proxygen.json" = ["proxygen.json"] := by decide +kernel
  have isRelative : Path.isAbsolute "proxygen.json" = false := by decide +kernel
  have pathSize : "proxygen.json".utf8ByteSize = 13 := by decide +kernel
  cases entry with
  | none =>
      simp [FileTree.locate, FileTree.locateBy, FileTree.pathLimit, pathSize, isRelative, areSteps,
        FileTree.walk, FileTree.nameLimit, isEntry, workingPlace]
  | some found =>
      obtain ⟨content, rfl⟩ := isFile found rfl
      simp [FileTree.locate, FileTree.locateBy, FileTree.pathLimit, pathSize, isRelative, areSteps,
        FileTree.walk, FileTree.nameLimit, isEntry, workingPlace]

/-- Without its own name for dispatch functions the file gives two markers of one name. -/
theorem crossedConfig_load_saved :
    crossedConfig.validate = .ok () ∧
      (∃ after, save environment crossedConfig "proxygen.json" (.empty []) = (.ok (), after) ∧
        load environment "proxygen.json" after = (.ok crossedConfig, after)) ∧
      load environment "proxygen.json" crossedTree =
        (.error (.config (.invalid .sameMarkers)), crossedTree) := by
  have accepted : crossedConfig.validate = .ok () := by decide +kernel
  have isFree : FileTree.entry? (.empty []) ["proxygen.json"] = none := rfl
  have located := locate_settingsFile .create isFree nofun rfl
  have made : environment.createFile "proxygen.json" (.empty []) =
      (.ok (), (FileTree.empty []).withEntry ["proxygen.json"] (.file .empty)) := by
    refine (FileTree.attempt_eq (fun tree => tree.createFile _) (.empty [])).trans ?_
    simp only [FileTree.createFile, located, bind, Except.bind]
  obtain ⟨after, saved⟩ := save_of_createFile crossedConfig made
  have loaded := load_saved crossedConfig accepted saved
  have holds : crossedTree.Holds "proxygen.json"
      (crossedConfig.reducedValue ["package"] ["dispatch_function"]).pretty :=
    ⟨["proxygen.json"], locate_settingsFile .follow rfl (by rintro _ ⟨⟩; exact ⟨_, rfl⟩) rfl⟩
  have isRefused : (crossedConfig.withStandard ["package"] ["dispatch_function"]).validate =
      .error .sameMarkers := by decide +kernel
  have refused := loaded.2 ["package"] ["dispatch_function"] "proxygen.json" crossedTree holds
  rw [isRefused] at refused
  exact ⟨accepted, ⟨after, saved, loaded.1⟩, refused⟩

end Config

end ForwardingProxy
