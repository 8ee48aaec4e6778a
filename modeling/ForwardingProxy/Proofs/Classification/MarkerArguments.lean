import ForwardingProxy.Proofs.Classification.MarkerPath

/-!
Contract: which arguments a marker may have, and what is wrong with others.

Owns: `CutAtCommas`, the pieces of a text between its commas, and the theorem that a marker is
accepted exactly when its arguments are one path, with a problem for every other text.

Does not own: what writes a path; see `SpellsPath` and `OnlyPath`.
-/

namespace ForwardingProxy.Classification

open Text (AllBlank dropOuterBlanks)

/-- The text is these pieces with commas between them, and no comma stands in a piece. -/
structure CutAtCommas (text : List Char) (pieces : List (List Char)) : Prop where
  joined : [','].intercalate pieces = text
  notEmpty : pieces ≠ []
  noComma : ∀ piece ∈ pieces, ',' ∉ piece

/-- The pieces that are more than blanks. -/
def filled (pieces : List (List Char)) : List (List Char) :=
  pieces.filter fun piece => !decide (AllBlank piece)

theorem cutAtCommas_splitAt (text : List Char) :
    CutAtCommas text (Text.splitAt (· == ',') text) where
  joined := Text.intercalate_splitAt ',' text
  notEmpty := Text.splitAt_ne_nil (· == ',') text
  noComma := by
    induction text with
    | nil => simp [Text.splitAt]
    | cons character rest inductionHypothesis =>
        obtain ⟨piece, pieces, cut⟩ :=
          List.exists_cons_of_ne_nil (Text.splitAt_ne_nil (· == ',') rest)
        rw [cut, List.forall_mem_cons] at inductionHypothesis
        rw [Text.splitAt, cut]
        split
        · exact List.forall_mem_cons.mpr
            ⟨List.not_mem_nil, List.forall_mem_cons.mpr inductionHypothesis⟩
        next notMark =>
          refine List.forall_mem_cons.mpr ⟨?_, inductionHypothesis.2⟩
          rw [List.mem_cons, not_or]
          exact ⟨fun isComma => notMark (by rw [← isComma]; rfl), inductionHypothesis.1⟩

/-- A text is cut at its commas in one way. -/
theorem cutAtCommas_iff {text : List Char} {pieces : List (List Char)} :
    CutAtCommas text pieces ↔ pieces = Text.splitAt (· == ',') text := by
  refine ⟨?_, fun isCut => isCut ▸ cutAtCommas_splitAt text⟩
  rintro ⟨rfl, notEmpty, noComma⟩
  have noMark : ∀ {piece : List Char}, ',' ∉ piece →
      ∀ character ∈ piece, (character == ',') = false := fun notIn character member =>
    beq_eq_false_iff_ne.mpr fun isComma => notIn (isComma ▸ member)
  induction pieces with
  | nil => exact absurd rfl notEmpty
  | cons piece rest inductionHypothesis =>
      rw [List.forall_mem_cons] at noComma
      cases rest with
      | nil => rw [List.intercalate_singleton, Text.splitAt_of_none (noMark noComma.1)]
      | cons next others =>
          rw [List.intercalate_cons_cons, List.append_assoc, List.singleton_append,
            Text.splitAt_append (noMark noComma.1) rfl,
            ← inductionHypothesis (List.cons_ne_nil _ _) noComma.2]

theorem trimmedPieces_filled (pieces : List (List Char)) :
    trimmedPieces pieces = (filled pieces).map dropOuterBlanks := by
  induction pieces with
  | nil => rfl
  | cons piece rest inductionHypothesis =>
      by_cases areBlank : AllBlank piece
      · rw [trimmedPieces_cons_blank areBlank, filled, List.filter_cons_of_neg (by simpa),
          inductionHypothesis, filled]
      · rw [trimmedPieces_cons (mt Text.dropOuterBlanks_eq_nil_iff.mp areBlank), filled,
          List.filter_cons_of_pos (by simpa), List.map_cons, inductionHypothesis, filled]

/-! ### Problems -/

theorem markerPath_of_length_ne_one {arguments : String}
    (notOne : (argumentPieces arguments).length ≠ 1) :
    markerPath arguments = .error (.argumentCount (argumentPieces arguments).length) := by
  unfold markerPath
  split
  next isOne => exact absurd (congrArg List.length isOne) notOne
  next => rfl

theorem markerPath_of_not_path {arguments : String} {piece : List Char}
    (isOne : argumentPieces arguments = [piece]) (noPath : ∀ path, ¬OnlyPath arguments path) :
    markerPath arguments = .error (.notPath (String.ofList piece)) := by
  cases isPath : markerPath arguments with
  | ok path => exact absurd (markerPath_eq_ok.mp isPath) (noPath path)
  | error problem =>
      rw [markerPath, isOne] at isPath
      dsimp only at isPath
      split at isPath
      · cases isPath
      · rw [isPath]

/-! ### Paths -/

theorem SpellsPath.areIdentifiers {path : List String} {text : List Char}
    (spells : SpellsPath path text) :
    path ≠ [] ∧ ∀ segment ∈ path, Text.isIdentifier segment = true := by
  induction spells with
  | last isIdentifier => exact ⟨List.cons_ne_nil _ _, List.forall_mem_singleton.mpr isIdentifier⟩
  | more isIdentifier _ _ _ inductionHypothesis =>
      exact ⟨List.cons_ne_nil _ _, List.forall_mem_cons.mpr ⟨isIdentifier, inductionHypothesis.2⟩⟩

/-- A path joined by `::` is spelled without blanks. -/
theorem spellsPath_join {path : List String} (notEmpty : path ≠ [])
    (areIdentifiers : ∀ segment ∈ path, Text.isIdentifier segment = true) :
    SpellsPath path (Name.join path).toList := by
  induction path with
  | nil => exact absurd rfl notEmpty
  | cons segment rest inductionHypothesis =>
      rw [List.forall_mem_cons] at areIdentifiers
      cases rest with
      | nil =>
          rw [Name.join, String.intercalate_singleton]
          exact .last areIdentifiers.1
      | cons next others =>
          have joined : (Name.join (segment :: next :: others)).toList = segment.toList ++ [] ++
              ':' :: ':' :: ([] ++ (Name.join (next :: others)).toList) := by
            rw [Name.join, String.intercalate_cons_cons]
            simp [Name.join]
          rw [joined]
          exact .more areIdentifiers.1 .nil .nil
            (inductionHypothesis (List.cons_ne_nil _ _) areIdentifiers.2)

/-- A path joined by `::` is the only path of its text. -/
theorem OnlyPath.joined {arguments : String} {path : List String}
    (isPath : OnlyPath arguments path) : OnlyPath (Name.join path) path := by
  obtain ⟨_, _, _, _, _, _, spells⟩ := isPath
  obtain ⟨notEmpty, areIdentifiers⟩ := spells.areIdentifiers
  exact ⟨[], _, [], by simp, .ofBlanks .nil, .ofBlanks .nil,
    spellsPath_join notEmpty areIdentifiers⟩

/-- A marker is accepted exactly when its arguments are one path, which it then gives. Otherwise the
arguments between its commas that are not blank are counted, and reported when they are not one; the
only one is reported as it stands, without the blanks around it. A path that was given is given
again when its segments are joined by `::`. -/
theorem attributePath_eq_ok_iff_only_path (marker declaration : String) (written : Attribute) :
    (∀ path, attributePath marker declaration written = .ok path ↔
        OnlyPath (argumentsOf written) path) ∧
      (∃ pieces, (∀ cut, CutAtCommas (argumentsOf written).toList cut ↔ cut = pieces) ∧
        ((filled pieces).length ≠ 1 → attributePath marker declaration written =
          Attempt.fail (.marker marker declaration (.argumentCount (filled pieces).length))) ∧
        ∀ piece, filled pieces = [piece] → (∀ path, ¬OnlyPath (argumentsOf written) path) →
          attributePath marker declaration written =
            Attempt.fail (.marker marker declaration
              (.notPath (String.ofList (dropOuterBlanks piece))))) ∧
      ∀ path, attributePath marker declaration written = .ok path →
        attributePath marker declaration { written with arguments := some (Name.join path) } =
          .ok path := by
  have counted : argumentPieces (argumentsOf written) =
      (filled (Text.splitAt (· == ',') (argumentsOf written).toList)).map dropOuterBlanks := by
    rw [argumentPieces_eq, trimmedPieces_filled]
  refine ⟨fun path => attributePath_eq_ok, ⟨_, fun _ => cutAtCommas_iff, ?_, ?_⟩, ?_⟩
  · intro notOne
    rw [← List.length_map (f := dropOuterBlanks), ← counted] at notOne ⊢
    exact attributePath_eq_error (markerPath_of_length_ne_one notOne)
  · intro piece isOne noPath
    rw [isOne] at counted
    exact attributePath_eq_error (markerPath_of_not_path counted noPath)
  · intro path isPath
    exact attributePath_eq_ok.mpr (attributePath_eq_ok.mp isPath).joined

end ForwardingProxy.Classification
