import ForwardingProxy.Proofs.Collection.Modules

/-!
Contract: the table of several source files does not depend on the order they are collected in.

Owns: `Collection.collectFiles`, which collects source files one after the other, and the theorem
that in any other order the same names are found, every path has the same meaning in every scope,
and every name has the same interface or the same failure.

Only numbers depend on the order, so distinct names are needed where a name could be found under
several numbers.
-/

namespace ForwardingProxy

open Declaration (qualifiedName)

/-- A source text with the path of the module it holds. -/
structure SourceFile where
  source : String
  modulePath : String
  file : Option String

namespace Collection

/-- The table of source files. -/
def collectFiles (files : List SourceFile) : SymbolTable :=
  files.foldl (fun table file => collect file.source file.modulePath file.file table) .empty

/-- The table of one source file. -/
def fileTable (file : SourceFile) : SymbolTable :=
  moduleTable file.file file.modulePath (Source.readItems file.source)

theorem collectFiles_append (before after : List SourceFile) :
    collectFiles (before ++ after) = (collectFiles before).append (collectFiles after) := by
  have behind : ∀ table : SymbolTable,
      after.foldl (fun table file => collect file.source file.modulePath file.file table) table =
        table.append (collectFiles after) := by
    unfold collectFiles
    induction after with
    | nil => exact fun table => (SymbolTable.append_empty table).symm
    | cons file rest inductionHypothesis =>
        intro table
        rw [List.foldl_cons, List.foldl_cons, inductionHypothesis,
          inductionHypothesis (collect _ _ _ .empty), collect_eq_append, collect_eq_append,
          SymbolTable.empty_append, SymbolTable.append_assoc]
  rw [collectFiles, List.foldl_append, behind]
  rfl

theorem collectFiles_singleton (file : SourceFile) : collectFiles [file] = fileTable file := by
  rw [collectFiles, List.foldl_cons, List.foldl_nil, collect_eq_append, SymbolTable.empty_append]
  rfl

theorem collectFiles_cons (file : SourceFile) (files : List SourceFile) :
    collectFiles (file :: files) = (fileTable file).append (collectFiles files) := by
  rw [← List.singleton_append, collectFiles_append, collectFiles_singleton]

theorem closed_fileTable (file : SourceFile) : (fileTable file).Closed :=
  closed_moduleTable _ _ _

theorem closed_collectFiles (files : List SourceFile) : (collectFiles files).Closed := by
  induction files with
  | nil => exact SymbolTable.closed_empty
  | cons file rest inductionHypothesis =>
      rw [collectFiles_cons]
      exact (closed_fileTable file).append inductionHypothesis

/-- In another order the same is collected. -/
theorem matches_of_perm {files reordered : List SourceFile} (same : files.Perm reordered) :
    (collectFiles files).Matches (collectFiles reordered) := by
  induction same with
  | nil => exact .refl _
  | cons file same inductionHypothesis =>
      rw [collectFiles_cons, collectFiles_cons]
      exact .append (closed_fileTable _) (closed_collectFiles _) (closed_fileTable _)
        (closed_collectFiles _) (.refl _) inductionHypothesis
  | swap first second rest =>
      rw [collectFiles_cons, collectFiles_cons, collectFiles_cons, collectFiles_cons,
        ← SymbolTable.append_assoc, ← SymbolTable.append_assoc]
      exact .append ((closed_fileTable _).append (closed_fileTable _)) (closed_collectFiles _)
        ((closed_fileTable _).append (closed_fileTable _)) (closed_collectFiles _)
        (SymbolTable.matches_append_comm (closed_fileTable _) (closed_fileTable _)) (.refl _)
  | trans first second ofFirst ofSecond => exact ofFirst.trans ofSecond

/-- The scopes of a file stand behind those of the files before it. -/
theorem scope?_collectFiles (before : List SourceFile) (file : SourceFile)
    (after : List SourceFile) {scope : Nat}
    (inFile : scope < (collectFiles [file]).scopes.length) :
    (collectFiles (before ++ file :: after)).scope? ((collectFiles before).scopes.length + scope) =
      (collectFiles [file]).scope? scope := by
  rw [collectFiles_append, SymbolTable.scope?_append_right, ← List.singleton_append,
    collectFiles_append, SymbolTable.scope?_append_left inFile]

/-- The order in which files are collected changes nothing but numbers: the same names are found,
each scope of each file holds the same and gives every path the same meaning, and each name has the
same interface or the same failure. -/
theorem collectFiles_reordered {files reordered : List SourceFile} (same : files.Perm reordered)
    (distinct : ((collectFiles files).declarations.map qualifiedName).Nodup) :
    (∀ name, ((collectFiles files).find? name).isSome =
        ((collectFiles reordered).find? name).isSome) ∧
      (∀ before file after beforeThere afterThere, files = before ++ file :: after →
        reordered = beforeThere ++ file :: afterThere →
        ∀ scope < (collectFiles [file]).scopes.length,
          let here := (collectFiles before).scopes.length + scope
          let there := (collectFiles beforeThere).scopes.length + scope
          (collectFiles files).scope? here = (collectFiles reordered).scope? there ∧
            ∀ path, (collectFiles files).resolve? here path =
              (collectFiles reordered).resolve? there path) ∧
      ∀ name, (collectFiles files).interfaceOf? name = (collectFiles reordered).interfaceOf? name := by
  have sameHeld := matches_of_perm same
  refine ⟨sameHeld.find?_isSome, ?_, sameHeld.interfaceOf? distinct⟩
  rintro before file after beforeThere afterThere rfl rfl scope inFile
  have sameScope := (scope?_collectFiles before file after inFile).trans
    (scope?_collectFiles beforeThere file afterThere inFile).symm
  exact ⟨sameScope, sameHeld.resolve? (congrArg (Option.map Scope.unfiled) sameScope)⟩

/-- A trait, and a module with another one that has supertraits in both files. -/
def circleFile : SourceFile where
  source := "pub trait Shape \x7b\n    fn area(&self) -> f64;\n\x7d\n\n" ++
    "pub mod round \x7b\n    use crate::names::*;\n\n" ++
    "    pub trait Circle: super::Shape + Named \x7b\n" ++
    "        fn radius(&self) -> f64;\n    \x7d\n\x7d\n"
  modulePath := "crate"
  file := some "src/lib.rs"

/-- A trait that the other file imports. -/
def namedFile : SourceFile where
  source := "pub trait Named \x7b\n    fn name(&self) -> String;\n\x7d\n"
  modulePath := "crate::names"
  file := some "src/names.rs"

theorem circleFile_first_or_last :
    (collectFiles [circleFile, namedFile]).resolve? 1 ["Named"] = some "crate::names::Named" ∧
      (collectFiles [namedFile, circleFile]).resolve? 2 ["Named"] = some "crate::names::Named" ∧
      (collectFiles [circleFile, namedFile]).interfaceOf? "crate::round::Circle" =
        (collectFiles [namedFile, circleFile]).interfaceOf? "crate::round::Circle" := by
  have ofCircle : Source.tokens circleFile.source = _ :=
    Source.tokens_of_toList (Source.toList_append_of_eq (Source.toList_append_of_eq
      (Source.toList_append_of_eq String.toList_ofList String.toList_ofList)
      String.toList_ofList) String.toList_ofList)
  have ofNamed : Source.tokens namedFile.source = _ :=
    Source.tokens_of_toList String.toList_ofList
  have distinct :
      ((collectFiles [circleFile, namedFile]).declarations.map qualifiedName).Nodup := by
    rw [collectFiles_cons, collectFiles_singleton, fileTable, fileTable, Source.readItems,
      Source.readItems, ofCircle, ofNamed]
    decide +kernel
  obtain ⟨_, sameMeanings, sameInterfaces⟩ :=
    collectFiles_reordered (List.Perm.swap namedFile circleFile []) distinct
  have hasModule : 1 < (collectFiles [circleFile]).scopes.length := by
    rw [collectFiles_singleton, fileTable, Source.readItems, ofCircle]
    decide +kernel
  have resolved :
      (collectFiles [circleFile, namedFile]).resolve? 1 ["Named"] = some "crate::names::Named" := by
    rw [collectFiles_cons, collectFiles_singleton, fileTable, fileTable, Source.readItems,
      Source.readItems, ofCircle, ofNamed]
    decide +kernel
  refine ⟨resolved, ?_, sameInterfaces _⟩
  have sameMeaning :=
    (sameMeanings [] circleFile [namedFile] [namedFile] [] rfl rfl 1 hasModule).2 ["Named"]
  have oneBefore : (collectFiles [namedFile]).scopes.length = 1 := by
    rw [collectFiles_singleton, fileTable, Source.readItems, ofNamed]
    decide +kernel
  rw [oneBefore] at sameMeaning
  exact sameMeaning.symm.trans resolved

end Collection

end ForwardingProxy
