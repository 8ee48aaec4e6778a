import ForwardingProxy.Output.Place
import ForwardingProxy.Proofs.Config.Validity
import ForwardingProxy.Proofs.Path

/-!
Contract: where generated files go when the settings are valid.

Owns: the fact that the package and the file name of valid settings are names of a path, and that the
file then lies below the output directory, under the key that it has in memory.
-/

namespace ForwardingProxy.Output

/-- Nothing that separates steps or stays in place is part of an identifier. -/
theorem notMem_of_isIdentifier {text : String} (isIdentifier : Text.isIdentifier text = true)
    {mark : Char} (isMark : Text.continuesIdentifier mark = false) : mark ∉ text.toList := by
  intro member
  have continues := Text.continuesIdentifier_of_isIdentifierOf isIdentifier member
  exact Bool.noConfusion (continues.symm.trans isMark)

theorem isName_of_isIdentifier {text : String} (isIdentifier : Text.isIdentifier text = true) :
    Path.IsName text := by
  have noDot : '.' ∉ text.toList := notMem_of_isIdentifier isIdentifier (by decide +kernel)
  have nonempty : text.toList ≠ [] := by
    intro isEmpty
    rw [Text.isIdentifier, isEmpty] at isIdentifier
    cases isIdentifier
  refine ⟨notMem_of_isIdentifier isIdentifier (by decide +kernel), ?_, ?_⟩
  · have noCurrent : text.toList ≠ ['.'] := by
      intro same
      rw [same] at noDot
      exact noDot (List.mem_cons_self ..)
    simp [Path.isSkipped, nonempty, noCurrent]
  · intro same
    rw [same] at noDot
    exact noDot (List.mem_cons_self ..)

theorem isName_file {fileName : String} (isIdentifier : Text.isIdentifier fileName = true) :
    Path.IsName (fileName ++ ".rs") := by
  have noSeparator : '/' ∉ fileName.toList :=
    notMem_of_isIdentifier isIdentifier (by decide +kernel)
  have isLong : 3 ≤ (fileName ++ ".rs").toList.length := by simp
  have differs : ∀ short : List Char, short.length < 3 → (fileName ++ ".rs").toList ≠ short := by
    rintro short isShort rfl
    omega
  refine ⟨by simpa using noSeparator, ?_, differs _ (by decide)⟩
  rw [Path.isSkipped, Bool.or_eq_false_iff, beq_eq_false_iff_ne]
  exact ⟨by simp, differs _ (by decide)⟩

/-- The directories of the package and the file's name. -/
def names (config : Config) : List String :=
  Config.packageSegments config.package ++ [config.fileName ++ ".rs"]

theorem isName_of_mem_names {config : Config} (accepted : config.validate = .ok ()) :
    ∀ name ∈ names config, Path.IsName name := by
  have valid := Config.validate_eq_ok.mp accepted
  intro name member
  rcases List.mem_append.mp member with isSegment | isFile
  · exact isName_of_isIdentifier (List.all_eq_true.mp valid.package name isSegment)
  · rw [List.mem_singleton.mp isFile]
    exact isName_file valid.fileName

theorem path_eq_foldl (directory : String) (config : Config) :
    path directory config.package config.fileName = (names config).foldl Path.join directory := by
  rw [path, names, List.foldl_append]
  rfl

/-- With valid settings the file lies strictly below the output directory, whatever that is: behind
the directory's own steps come names only, at least one, and with `/` between them they are the key
that the file has in memory. -/
theorem path_below_directory {config : Config} (accepted : config.validate = .ok ())
    (directory : String) :
    ∃ steps : List String, steps ≠ [] ∧ (∀ step ∈ steps, Path.IsName step) ∧
      Path.below? directory (path directory config.package config.fileName) =
        some (steps.map .name) ∧
      "/".intercalate steps = key config.package config.fileName ∧
      path directory config.package config.fileName =
        Path.join directory (key config.package config.fileName) := by
  have areNames := isName_of_mem_names accepted
  have nonempty : names config ≠ [] := List.concat_ne_nil _ _
  refine ⟨names config, nonempty, areNames, ?_, rfl, ?_⟩
  · have steps := Path.components_foldl_join areNames directory
    have isPrefix : (Path.components directory).isPrefixOf
        (Path.components directory ++ (names config).map .name) = true := by
      rw [List.isPrefixOf_iff_prefix]
      exact List.prefix_append ..
    rw [path_eq_foldl, Path.below?, steps]
    simp only [isPrefix, if_true, List.drop_left]
  · rw [path_eq_foldl, Path.foldl_join areNames nonempty]
    rfl

/-- Settings with a package of several forms, joined by both separators. -/
def nestedConfig : Config :=
  { Config.standard with package := "gen..proxies::übung", fileName := "_out" }

theorem nestedConfig_below_directory :
    nestedConfig.validate = .ok () ∧
      path "/tmp/../out/" nestedConfig.package nestedConfig.fileName =
        "/tmp/../out/gen/proxies/übung/_out.rs" ∧
      path "" nestedConfig.package nestedConfig.fileName = "gen/proxies/übung/_out.rs" := by
  have accepted : nestedConfig.validate = .ok () := by decide +kernel
  have isKey : key nestedConfig.package nestedConfig.fileName = "gen/proxies/übung/_out.rs" := by
    decide +kernel
  obtain ⟨_, _, _, _, _, joined⟩ := path_below_directory accepted "/tmp/../out/"
  obtain ⟨_, _, _, _, _, alone⟩ := path_below_directory accepted ""
  rw [isKey] at joined alone
  exact ⟨accepted, joined.trans (by decide +kernel), alone⟩

end ForwardingProxy.Output
