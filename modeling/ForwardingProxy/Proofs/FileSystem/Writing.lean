import ForwardingProxy.FileSystem.Tree
import ForwardingProxy.Proofs.Association
import Mathlib

/-!
Contract: files of a tree that are written and read back.

Owns: the fact that a path leads to the same place once a file stands there, and what is read from a
file after it is created and after text is added to it.
-/

namespace ForwardingProxy.FileTree

/-! ### Places -/

theorem entry?_withEntry (tree : FileTree) {place : List String} (belowRoot : place ≠ [])
    (entry : Entry) (other : List String) :
    FileTree.entry? (tree.withEntry place entry) other =
      if other = place then some entry else tree.entry? other := by
  have replaced := lookup_replaced tree.entries place other entry
  unfold entry? withEntry
  by_cases same : other = place
  · subst same
    simpa [belowRoot] using replaced
  · rw [if_neg same] at replaced ⊢
    simp only [replaced]

/-- What stands at a place that a path leads to, unless it is a directory. -/
theorem walk_found {tree : FileTree} {last : LastStep} {links : Nat} {here steps : List String}
    {located : Located} (found : tree.walk last links here steps = .ok located)
    (noDirectory : located.entry ≠ some .directory) :
    located.place ≠ [] ∧ tree.entry? located.place = located.entry := by
  fun_induction walk tree last links here steps with
  | case1 =>
      cases found
      exact absurd rfl noDirectory
  | case2 links here step rest isSkipped inductionHypothesis => exact inductionHypothesis found
  | case3 links here rest notSkipped inductionHypothesis => exact inductionHypothesis found
  | case6 links here step rest _ _ _ _ place isEntry =>
      cases found
      exact ⟨List.concat_ne_nil _ _, isEntry⟩
  | case8 links here step rest _ _ _ _ place isDirectory inductionHypothesis =>
      exact inductionHypothesis found
  | case9 links here step rest _ _ _ _ place content isEntry =>
      cases found
      exact ⟨List.concat_ne_nil _ _, isEntry⟩
  | case11 links here step rest _ _ _ _ place target isEntry =>
      cases found
      exact ⟨List.concat_ne_nil _ _, isEntry⟩
  | case13 here step rest _ _ _ _ place target isLink _ fewer inductionHypothesis =>
      exact inductionHypothesis found
  | case4 | case5 | case7 | case10 | case12 => cases found

/-- A link at the end of a path is kept only where this is asked for. -/
theorem walk_unlinked {tree : FileTree} {last : LastStep} {links : Nat} {here steps : List String}
    {located : Located} (found : tree.walk last links here steps = .ok located)
    (walks : last ≠ .keep) (target : String) : located.entry ≠ some (.link target) := by
  fun_induction walk tree last links here steps with
  | case1 | case6 | case9 => cases found; nofun
  | case2 links here step rest isSkipped inductionHypothesis => exact inductionHypothesis found
  | case3 links here rest notSkipped inductionHypothesis => exact inductionHypothesis found
  | case8 links here step rest _ _ _ _ place isDirectory inductionHypothesis =>
      exact inductionHypothesis found
  | case11 links here step rest _ _ _ _ place target isLink keeps =>
      rw [Bool.and_eq_true, decide_eq_true_eq] at keeps
      exact absurd keeps.2 walks
  | case13 here step rest _ _ _ _ place target isLink _ fewer inductionHypothesis =>
      exact inductionHypothesis found
  | case4 | case5 | case7 | case10 | case12 => cases found

/-- A step to a name below, where links are followed. -/
theorem walk_name (tree : FileTree) (links : Nat) (here rest : List String) {step : String}
    (notSkipped : ¬(step = "" || step = ".") = true) (notParent : step ≠ "..")
    (short : ¬nameLimit < step.utf8ByteSize) :
    tree.walk .follow links here (step :: rest) =
      match tree.entry? (here ++ [step]), links with
      | none, _ => if rest.isEmpty then .ok ⟨here ++ [step], none⟩ else .error .notFound
      | some .directory, links => tree.walk .follow links (here ++ [step]) rest
      | some (.file content), _ =>
          if rest.isEmpty then .ok ⟨here ++ [step], some (.file content)⟩
          else .error .notDirectory
      | some (.link _), 0 => .error .tooManyLinks
      | some (.link target), fewer + 1 =>
          tree.walk .follow fewer (if Path.isAbsolute target then [] else here)
            (FileTree.steps target ++ rest) := by
  rw [walk, if_neg notSkipped, if_neg notParent, if_neg (by simp), if_neg short]
  dsimp only
  cases tree.entry? (here ++ [step]) with
  | none => rfl
  | some entry =>
      cases entry with
      | directory => rfl
      | file content => rfl
      | link target => cases links <;> simp

/-- A path to a file, or to where one can be made, leads there once another file stands there. -/
theorem walk_withEntry {tree : FileTree} {last : LastStep} {links : Nat} {here steps : List String}
    {located : Located} (found : tree.walk last links here steps = .ok located)
    (walks : last ≠ .keep)
    (isFile : ∀ entry, located.entry = some entry → ∃ content, entry = .file content)
    (content : ByteArray) :
    (tree.withEntry located.place (.file content)).walk .follow links here steps =
      .ok ⟨located.place, some (.file content)⟩ := by
  have noDirectory : located.entry ≠ some .directory := by
    intro isDirectory
    obtain ⟨_, impossible⟩ := isFile _ isDirectory
    cases impossible
  obtain ⟨belowRoot, isEntry⟩ := walk_found found noDirectory
  have entries := entry?_withEntry tree belowRoot (.file content)
  -- directories and links on the way stand at other places
  have differs : ∀ {place : List String} {entry : Entry}, tree.entry? place = some entry →
      (∀ content, entry ≠ .file content) → place ≠ located.place := by
    rintro place entry stands noFile rfl
    obtain ⟨_, isFile⟩ := isFile entry (isEntry.symm.trans stands)
    exact noFile _ isFile
  fun_induction walk tree last links here steps with
  | case1 =>
      cases found
      exact absurd rfl noDirectory
  | case2 links here step rest isSkipped inductionHypothesis =>
      rw [walk, if_pos isSkipped]
      exact inductionHypothesis found
  | case3 links here rest notSkipped inductionHypothesis =>
      rw [walk, if_neg notSkipped, if_pos rfl]
      exact inductionHypothesis found
  | case6 links here step rest notSkipped notParent _ short place unused isLast =>
      cases found
      rw [walk_name _ links here rest notSkipped notParent short, entries, if_pos rfl]
      exact if_pos isLast
  | case8 links here step rest notSkipped notParent _ short place isDirectory inductionHypothesis =>
      rw [walk_name _ links here rest notSkipped notParent short, entries,
        if_neg (differs isDirectory fun _ => nofun), isDirectory]
      exact inductionHypothesis found
  | case9 links here step rest notSkipped notParent _ short place before isBefore isLast =>
      cases found
      rw [walk_name _ links here rest notSkipped notParent short, entries, if_pos rfl]
      exact if_pos isLast
  | case11 links here step rest _ _ _ _ place target isLink keeps =>
      rw [Bool.and_eq_true, decide_eq_true_eq] at keeps
      exact absurd keeps.2 walks
  | case13 here step rest notSkipped notParent _ short place target isLink _ fewer
      inductionHypothesis =>
      rw [walk_name _ (fewer + 1) here rest notSkipped notParent short, entries,
        if_neg (differs isLink fun _ => nofun), isLink]
      exact inductionHypothesis found
  | case4 | case5 | case7 | case10 | case12 => cases found

/-! ### Files -/

variable {tree : FileTree} {file : String}

/-- Every path that is walked is walked from the same place with the same steps. -/
theorem locate_eq_walk {last : LastStep} {located : Located}
    (found : tree.locate last file = .ok located) :
    ∀ (other : FileTree) (otherLast : LastStep), other.workingPlace = tree.workingPlace →
      other.locate otherLast file = other.walk otherLast linkLimit
        (if Path.isAbsolute file then [] else tree.workingPlace) (steps file) := by
  intro other otherLast sameWorkingPlace
  unfold locate locateBy at *
  by_cases holdsNul : file.toList.contains '\x00' = true
  · rw [if_pos holdsNul] at found
    cases found
  by_cases long : pathLimit ≤ file.utf8ByteSize
  · rw [if_neg holdsNul, if_pos long] at found
    cases found
  by_cases isEmpty : file.isEmpty = true
  · rw [if_neg holdsNul, if_neg long, if_pos isEmpty] at found
    cases found
  rw [if_neg holdsNul, if_neg long, if_neg isEmpty, sameWorkingPlace]

/-- The path leads to a file with that text. -/
def Holds (tree : FileTree) (file text : String) : Prop :=
  ∃ place, tree.locate .follow file = .ok ⟨place, some (.file text.toUTF8)⟩

/-- A file that is put where a path leads is found by that path. -/
theorem holds_withEntry {last : LastStep} {located : Located}
    (found : tree.locate last file = .ok located) (walks : last ≠ .keep)
    (noDirectory : located.entry ≠ some .directory) (text : String) :
    (tree.withEntry located.place (.file text.toUTF8)).Holds file text := by
  refine ⟨located.place, ?_⟩
  have walked := found
  rw [locate_eq_walk found tree last rfl] at walked
  rw [locate_eq_walk found (tree.withEntry located.place (.file text.toUTF8)) .follow rfl]
  refine walk_withEntry walked walks (fun entry isEntry => ?_) text.toUTF8
  cases entry with
  | directory => exact absurd isEntry noDirectory
  | file before => exact ⟨before, rfl⟩
  | link target => exact absurd isEntry (walk_unlinked walked walks target)

theorem Holds.readText {text : String} (holds : tree.Holds file text) :
    tree.readText file = .ok text := by
  obtain ⟨place, located⟩ := holds
  have decoded : String.fromUTF8? text.toUTF8 = some text := by
    rw [String.fromUTF8?]
    exact dif_pos text.isValidUTF8
  simp only [FileTree.readText, find, located, bind, Except.bind, decoded]

/-- A file that is made is empty. -/
theorem holds_of_createFile {after : FileTree} (created : tree.createFile file = .ok after) :
    after.Holds file "" := by
  unfold createFile at created
  cases found : tree.locate .create file with
  | error error =>
      rw [found] at created
      cases created
  | ok located =>
      rw [found] at created
      obtain ⟨place, entry⟩ := located
      cases entry with
      | none =>
          cases created
          exact holds_withEntry found (by decide) nofun ""
      | some entry =>
          cases entry with
          | directory => cases created
          | file before | link target =>
              cases created
              exact holds_withEntry found (by decide) nofun ""

/-- Text can be added to every file, and it is added at the end. -/
theorem Holds.appendText {before : String} (holds : tree.Holds file before) (text : String) :
    ∃ after, tree.appendText file text = .ok after ∧ after.Holds file (before ++ text) := by
  obtain ⟨place, located⟩ := holds
  have joined : before.toUTF8 ++ text.toUTF8 = (before ++ text).toUTF8 :=
    String.toByteArray_append.symm
  refine ⟨tree.withEntry place (.file (before ++ text).toUTF8), ?_,
    holds_withEntry located (by decide) nofun _⟩
  simp only [FileTree.appendText, located, bind, Except.bind, joined]

theorem attempt_eq (change : FileTree → Except FileError FileTree) (tree : FileTree) :
    attempt change tree =
      match change tree with
      | .ok changed => (.ok (), changed)
      | .error error => (.error error, tree) := by
  change (match change tree with | .ok changed => _ | .error error => _ : StateM FileTree _) tree = _
  cases change tree <;> rfl

theorem environment_createFile {after : FileTree}
    (made : environment.createFile file tree = (.ok (), after)) :
    tree.createFile file = .ok after := by
  have changed := (attempt_eq (fun tree => tree.createFile file) tree).symm.trans made
  cases isMade : tree.createFile file with
  | error error =>
      rw [isMade] at changed
      cases changed
  | ok longer =>
      rw [isMade] at changed
      cases changed
      rfl

theorem environment_appendText {text : String} {after : FileTree}
    (changed : tree.appendText file text = .ok after) :
    environment.appendText file text tree = (.ok (), after) := by
  refine (attempt_eq (fun tree => tree.appendText file text) tree).trans ?_
  rw [changed]

/-- A file that is written holds the whole text. -/
theorem holds_of_writeText {text : String} {after : FileTree}
    (written : environment.writeText file text tree = (.ok (), after)) :
    after.Holds file text := by
  unfold Environment.writeText at written
  simp only [bind, StateT.bind] at written
  cases made : environment.createFile file tree with
  | mk result created =>
      rw [made] at written
      cases result with
      | error error => cases written
      | ok done =>
          have isEmpty := holds_of_createFile (environment_createFile made)
          obtain ⟨longer, appended, holds⟩ := isEmpty.appendText text
          have same := (environment_appendText appended).symm.trans written
          rw [← (Prod.mk.inj same).2]
          simpa using holds

end ForwardingProxy.FileTree
