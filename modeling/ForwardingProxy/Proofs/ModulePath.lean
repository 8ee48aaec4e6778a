import ForwardingProxy.ModulePath
import ForwardingProxy.Proofs.Path
import ForwardingProxy.Proofs.Segments

/-!
Contract: which source files hold which module.

Owns: `SourcePlace`, where a source file lies below a directory, which two places hold one module,
the spellings of one path, and the theorem that all other places hold modules of their own, however
the paths to them are spelled.

Does not own: the components of a path; see `Path`.
-/

namespace ForwardingProxy

namespace Path

/-! ### Spellings -/

/-- The second text is the first one with a piece more that is no step. -/
inductive SpellsLonger : List Char → List Char → Prop where
  | separator (before after : List Char) :
      SpellsLonger (before ++ '/' :: after) (before ++ '/' :: '/' :: after)
  | current (before after : List Char) :
      SpellsLonger (before ++ '/' :: after) (before ++ '/' :: '.' :: '/' :: after)
  | closing {path : List Char} (notEmpty : path ≠ []) : SpellsLonger path (path ++ ['/'])
  | closingCurrent (before : List Char) :
      SpellsLonger (before ++ ['/']) (before ++ ['/', '.'])

/-- The paths differ in repeated separators, in `.` behind separators and in separators at the end,
and in nothing else. -/
def Respells (path other : String) : Prop :=
  Relation.EqvGen SpellsLonger path.toList other.toList

theorem piecesOf_separator (before after : List Char) :
    piecesOf (before ++ '/' :: after) = piecesOf before ++ piecesOf after :=
  Text.splitAt_append_mark rfl before after

/-- The steps of a path that is cut at a separator. -/
theorem components_separator (before after : List Char) :
    components (String.ofList (before ++ '/' :: after)) =
      startOf (piecesOf before ++ [[]]) ++ stepsOf (piecesOf before) ++
        stepsOf (piecesOf after) := by
  obtain ⟨piece, pieces, cut⟩ :=
    List.exists_cons_of_ne_nil (Text.splitAt_ne_nil (· == '/') before)
  obtain ⟨next, others, behind⟩ :=
    List.exists_cons_of_ne_nil (Text.splitAt_ne_nil (· == '/') after)
  -- where a path begins does not depend on what stands behind its first separator
  have sameStart :
      startOf (piecesOf before ++ piecesOf after) = startOf (piecesOf before ++ [[]]) := by
    rw [piecesOf, piecesOf, cut, behind]
    cases pieces <;> exact startOf_cons_cons piece _ _ _ _
  rw [components_eq, String.toList_ofList, piecesOf_separator, sameStart, stepsOf_append,
    List.append_assoc]

theorem SpellsLonger.components_eq {path longer : List Char} (spells : SpellsLonger path longer) :
    components (String.ofList path) = components (String.ofList longer) := by
  cases spells with
  | separator before after =>
      rw [components_separator, components_separator]
      rfl
  | current before after =>
      rw [components_separator, components_separator]
      rfl
  | closing notEmpty =>
      obtain ⟨first, rest, cut, further⟩ := exists_pieces notEmpty
      rw [Path.components_eq, components_separator, String.toList_ofList, cut,
        startOf_append further]
      exact (List.append_nil _).symm
  | closingCurrent before =>
      rw [components_separator, components_separator]
      rfl

/-- The steps of a path do not depend on its spelling. -/
theorem Respells.components_eq {path other : String} (respells : Respells path other) :
    components path = components other := by
  have same : ∀ {text longer : List Char}, Relation.EqvGen SpellsLonger text longer →
      components (String.ofList text) = components (String.ofList longer) := by
    intro text longer related
    induction related with
    | rel _ _ spells => exact spells.components_eq
    | refl _ => rfl
    | symm _ _ _ inductionHypothesis => exact inductionHypothesis.symm
    | trans _ _ _ _ _ first second => exact first.trans second
  have ofLists := same respells
  rwa [String.ofList_toList, String.ofList_toList] at ofLists

/-- A file name is cut before an extension that is put behind it. -/
theorem stem_append_rs {text : String} (notEmpty : text ≠ "") : stem (text ++ ".rs") = text := by
  obtain ⟨last, before, reversed⟩ := List.exists_cons_of_ne_nil
    (List.reverse_ne_nil_iff.mpr (mt String.toList_eq_nil_iff.mp notEmpty))
  have isName : (text ++ ".rs").toList.reverse = 's' :: 'r' :: '.' :: last :: before := by
    rw [String.toList_append, List.reverse_append, reversed]
    rfl
  have isText : String.ofList (last :: before).reverse = text := by
    rw [← reversed, List.reverse_reverse, String.ofList_toList]
  rw [stem, cutExtension, isName]
  exact isText

end Path

namespace ModulePath

open ForwardingProxy.Path (components Respells)

/-- Where a source file lies below a directory: the directories between, and its name without the
extension. No name has a colon. -/
structure SourcePlace where
  directories : List String
  stem : String
  notEmpty : stem ≠ ""
  noColon : ∀ name ∈ directories ++ [stem], ':' ∉ name.toList

namespace SourcePlace

/-- The names below the directory, the last of which is the file's. -/
def names (place : SourcePlace) : List String :=
  place.directories ++ [place.stem ++ ".rs"]

/-- The path leads to the place below `root`. -/
def HeldBy (place : SourcePlace) (root file : String) : Prop :=
  components file = components root ++ place.names.map .name

/-- The file's own name is the name of a module. -/
def NamesModule (place : SourcePlace) : Prop :=
  if place.directories = [] then place.stem ≠ "lib" ∧ place.stem ≠ "main" else place.stem ≠ "mod"

/-- The places are `lib.rs` and `main.rs` at the top, or a file that names a module and the `mod.rs`
in the directory of this name beside it. -/
def Clashes (place other : SourcePlace) : Prop :=
  (place.directories = [] ∧ other.directories = [] ∧ place.stem = "lib" ∧ other.stem = "main") ∨
    (place.NamesModule ∧ other.directories = place.directories ++ [place.stem] ∧
      other.stem = "mod")

/-- The segments of the module below `crate`. -/
def segments (place : SourcePlace) : List String :=
  place.directories ++ fileSegments place.directories place.stem

variable {place other : SourcePlace}

theorem segments_of_names (names : place.NamesModule) :
    place.segments = place.directories ++ [place.stem] := by
  unfold NamesModule at names
  unfold segments fileSegments
  split at names <;> simp_all

theorem segments_of_not_names (unnamed : ¬place.NamesModule) :
    place.segments = place.directories := by
  unfold NamesModule at unnamed
  unfold segments fileSegments
  split at unnamed <;> simp_all

theorem ext_names (sameDirectories : place.directories = other.directories)
    (sameStem : place.stem = other.stem) : place = other := by
  cases place
  cases other
  cases sameDirectories
  cases sameStem
  rfl

/-- A file that names no module is `lib.rs` or `main.rs` at the top, or a `mod.rs` below. -/
theorem not_namesModule_iff : ¬place.NamesModule ↔
    if place.directories = [] then place.stem = "lib" ∨ place.stem = "main"
    else place.stem = "mod" := by
  unfold NamesModule
  split
  · rw [not_and_or, not_not, not_not]
  · rw [not_not]

theorem clashes_of_segments_eq (same : place.segments = other.segments)
    (names : place.NamesModule) (unnamed : ¬other.NamesModule) : place.Clashes other := by
  rw [segments_of_names names, segments_of_not_names unnamed] at same
  rw [not_namesModule_iff, if_neg (same ▸ List.append_ne_nil_of_right_ne_nil _ (by simp))]
    at unnamed
  exact .inr ⟨names, same.symm, unnamed⟩

/-- Files without a module of their own in one directory are one file, or `lib.rs` and `main.rs`. -/
theorem eq_or_clashes_of_unnamed (same : place.directories = other.directories)
    (unnamed : ¬place.NamesModule) (alsoUnnamed : ¬other.NamesModule) :
    place = other ∨ place.Clashes other ∨ other.Clashes place := by
  rw [not_namesModule_iff] at unnamed alsoUnnamed
  rw [← same] at alsoUnnamed
  by_cases atTop : place.directories = []
  · rw [if_pos atTop] at unnamed alsoUnnamed
    have alsoAtTop := same ▸ atTop
    rcases unnamed with isStem | isStem <;> rcases alsoUnnamed with isOther | isOther
    · exact .inl (ext_names same (isStem.trans isOther.symm))
    · exact .inr (.inl (.inl ⟨atTop, alsoAtTop, isStem, isOther⟩))
    · exact .inr (.inr (.inl ⟨alsoAtTop, atTop, isOther, isStem⟩))
    · exact .inl (ext_names same (isStem.trans isOther.symm))
  · rw [if_neg atTop] at unnamed alsoUnnamed
    exact .inl (ext_names same (unnamed.trans alsoUnnamed.symm))

theorem segments_eq_of_clashes (clashes : place.Clashes other) :
    place.segments = other.segments := by
  rcases clashes with ⟨atTop, alsoAtTop, isLib, isMain⟩ | ⟨names, below, isMod⟩
  · rw [segments, segments, atTop, alsoAtTop, isLib, isMain]
    rfl
  · have unnamed : ¬other.NamesModule := by
      rw [not_namesModule_iff, if_neg (below ▸ List.append_ne_nil_of_right_ne_nil _ (by simp))]
      exact isMod
    rw [segments_of_names names, segments_of_not_names unnamed, below]

/-- Two places hold one module when they are one place or clash. -/
theorem segments_eq_iff : place.segments = other.segments ↔
    place = other ∨ place.Clashes other ∨ other.Clashes place := by
  constructor
  · intro same
    by_cases names : place.NamesModule <;> by_cases alsoNames : other.NamesModule
    · rw [segments_of_names names, segments_of_names alsoNames] at same
      obtain ⟨sameDirectories, sameStem⟩ := List.append_inj' same rfl
      exact .inl (ext_names sameDirectories (List.singleton_inj.mp sameStem))
    · exact .inr (.inl (clashes_of_segments_eq same names alsoNames))
    · exact .inr (.inr (clashes_of_segments_eq same.symm alsoNames names))
    · rw [segments_of_not_names names, segments_of_not_names alsoNames] at same
      exact eq_or_clashes_of_unnamed same names alsoNames
  · rintro (rfl | clashes | clashes)
    · rfl
    · exact segments_eq_of_clashes clashes
    · exact (segments_eq_of_clashes clashes).symm

theorem noColon_segments : ∀ segment ∈ "crate" :: place.segments, ':' ∉ segment.toList := by
  rw [List.forall_mem_cons]
  refine ⟨by decide, fun segment member => ?_⟩
  have noColon := place.noColon
  by_cases names : place.NamesModule
  · rw [segments_of_names names] at member
    exact noColon segment member
  · rw [segments_of_not_names names] at member
    exact noColon segment (List.mem_append_left _ member)

/-- The module path that the place implies. -/
def modulePath (place : SourcePlace) : String :=
  Name.join ("crate" :: place.segments)

theorem modulePath_inj (same : place.modulePath = other.modulePath) :
    place.segments = other.segments := by
  have cut := congrArg Name.segments same
  rw [modulePath, modulePath, Name.segments_join (List.cons_ne_nil _ _) noColon_segments,
    Name.segments_join (List.cons_ne_nil _ _) noColon_segments] at cut
  exact List.tail_eq_of_cons_eq cut

end SourcePlace

/-! ### Files -/

theorem below?_eq_some {root file : String} {steps : List Path.Component} :
    Path.below? root file = some steps ↔ components file = components root ++ steps := by
  simp only [Path.below?, Option.ite_none_right_eq_some, Option.some.injEq,
    List.isPrefixOf_iff_prefix]
  constructor
  · rintro ⟨below, rfl⟩
    exact List.prefix_append_drop below
  · intro below
    rw [below, List.drop_left]
    exact ⟨List.prefix_append _ _, rfl⟩

/-- Steps have names when they are names. -/
theorem mapM_stepName? {steps : List Path.Component} {names : List String} :
    steps.mapM stepName? = some names ↔ steps = names.map .name := by
  induction steps generalizing names with
  | nil => cases names <;> simp
  | cons step rest inductionHypothesis =>
      rw [List.mapM_cons]
      cases names with
      | nil => cases step <;> simp [stepName?, Option.bind_eq_some_iff]
      | cons name others =>
          cases step <;> simp [stepName?, Option.bind_eq_some_iff, inductionHypothesis, and_comm]

theorem ofFile?_of_heldBy {place : SourcePlace} {root file : String}
    (holds : place.HeldBy root file) : ofFile? root file = some place.modulePath := by
  rw [ofFile?, below?_eq_some.mpr holds, Option.bind_eq_bind, Option.bind_some,
    mapM_stepName?.mpr rfl]
  simp only [SourcePlace.names, Option.bind_eq_bind, Option.bind_some, List.getLast?_concat,
    List.dropLast_concat, Path.stem_append_rs place.notEmpty]
  rfl

/-- A file has no module path unless names, one at least, lead to it. -/
theorem ofFile?_eq_none {root file : String}
    (noNames : ∀ names : List String, names ≠ [] →
      components file ≠ components root ++ names.map .name) : ofFile? root file = none := by
  unfold ofFile?
  cases isBelow : Path.below? root file with
  | none => rfl
  | some steps =>
      rw [Option.bind_eq_bind, Option.bind_some]
      cases areNames : steps.mapM stepName? with
      | none => rfl
      | some names =>
          rw [below?_eq_some, mapM_stepName?.mp areNames] at isBelow
          have isEmpty : names = [] := by_contra fun notEmpty => noNames names notEmpty isBelow
          rw [isEmpty]
          rfl

/-- Source files at two places below a directory have module paths, which differ unless the places
are `lib.rs` and `main.rs` at the top or a file beside the `mod.rs` of the same module. Neither path
counts as it is spelled. A file has no module path unless it is below the directory, and none when
`..` leads to it. -/
theorem ofFile?_separates (root : String) :
    (∀ (place other : SourcePlace) (file otherFile : String), place.HeldBy root file →
        other.HeldBy root otherFile → ∃ path otherPath, ofFile? root file = some path ∧
          ofFile? root otherFile = some otherPath ∧
          (path = otherPath ↔ place = other ∨ place.Clashes other ∨ other.Clashes place)) ∧
      (∀ file otherRoot otherFile, Respells root otherRoot → Respells file otherFile →
        ofFile? root file = ofFile? otherRoot otherFile) ∧
      (∀ file, (∀ steps, steps ≠ [] → components file ≠ components root ++ steps) →
        ofFile? root file = none) ∧
      ∀ file steps, components file = components root ++ steps → .parent ∈ steps →
        ofFile? root file = none := by
  refine ⟨fun place other file otherFile holds alsoHolds => ?_,
    fun file otherRoot otherFile sameRoot sameFile => ?_,
    fun file notBelow => ?_, fun file steps below through => ?_⟩
  · refine ⟨_, _, ofFile?_of_heldBy holds, ofFile?_of_heldBy alsoHolds, ?_⟩
    rw [← SourcePlace.segments_eq_iff]
    exact ⟨SourcePlace.modulePath_inj, congrArg fun segments => Name.join ("crate" :: segments)⟩
  · rw [ofFile?, ofFile?, Path.below?, Path.below?, sameRoot.components_eq, sameFile.components_eq]
  · exact ofFile?_eq_none fun names notEmpty => notBelow _ (mt List.map_eq_nil_iff.mp notEmpty)
  · refine ofFile?_eq_none fun names _ isBelow => ?_
    rw [isBelow, List.append_cancel_left_eq] at below
    rw [← below] at through
    simp at through

example : ofFile? "/project/src" "/project//src/./shapes/mod.rs/" = some "crate::shapes" := by
  decide

end ModulePath

end ForwardingProxy
