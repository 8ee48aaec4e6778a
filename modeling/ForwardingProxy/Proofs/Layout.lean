import ForwardingProxy.Layout

/-!
Contract: layout programs as lists of lines.

Owns: the lines that a program stands for, the fact that its text consists of them, and the fact
that a text is cut into its lines again where none of them holds a line end.
-/

namespace ForwardingProxy

namespace Layout

/-- A line at that depth, without its line end. -/
def lineAt (depth : Nat) (text : String) : String :=
  if text.isEmpty then "" else indentation depth ++ text

mutual

/-- The lines of one step at that depth. -/
def stepLines (depth : Nat) : Step → List String
  | .line text => [lineAt depth text]
  | .lines text => ((Text.lines text).map Text.trimEnd).map (lineAt depth)
  | .blank => [""]
  | .block header body =>
      lineAt depth (header ++ " \x7b") :: (programLines (depth + 1) body ++ [lineAt depth "\x7d"])

/-- The lines of a program at that depth. -/
def programLines (depth : Nat) : List Step → List String
  | [] => []
  | step :: rest => stepLines depth step ++ programLines depth rest

end

/-- The text of lines, each with its line end. -/
def joinLines (lines : List String) : String :=
  String.join (lines.map (· ++ "\n"))

theorem joinLines_append (first second : List String) :
    joinLines (first ++ second) = joinLines first ++ joinLines second := by
  rw [joinLines, List.map_append, String.join_append]
  rfl

theorem joinLines_cons (line : String) (rest : List String) :
    joinLines (line :: rest) = line ++ "\n" ++ joinLines rest := by
  rw [joinLines, List.map_cons, String.join_cons]
  rfl

theorem joinLines_singleton (line : String) : joinLines [line] = line ++ "\n" := by
  rw [joinLines_cons]
  simp [joinLines]

theorem renderLine_eq (depth : Nat) (text : String) :
    renderLine depth text = lineAt depth text ++ "\n" := by
  unfold renderLine lineAt
  cases text.isEmpty with
  | true => rfl
  | false => rfl

theorem lineAt_zero (text : String) : lineAt 0 text = text := by
  unfold lineAt
  cases isEmpty : text.isEmpty with
  | true => exact (String.isEmpty_iff.mp isEmpty).symm
  | false => simp [indentation]

mutual

theorem render_eq_joinLines (depth : Nat) :
    ∀ step, render depth step = joinLines (stepLines depth step)
  | .line text => by
      rw [render, stepLines, joinLines_singleton, renderLine_eq]
  | .lines text => by
      rw [render, stepLines, renderLines, joinLines, List.map_map (f := lineAt depth)]
      exact congrArg String.join (List.map_congr_left fun line _ => renderLine_eq depth line)
  | .blank => by
      rw [render, stepLines, joinLines_singleton, renderLine_eq]
      rfl
  | .block header body => by
      rw [render, stepLines, joinLines_cons, joinLines_append, joinLines_singleton,
        renderLine_eq, renderLine_eq, renderAll_eq_joinLines (depth + 1) body]
      simp only [String.append_assoc]

theorem renderAll_eq_joinLines (depth : Nat) :
    ∀ steps, renderAll depth steps = joinLines (programLines depth steps)
  | [] => rfl
  | step :: rest => by
      rw [renderAll, programLines, joinLines_append, render_eq_joinLines depth step,
        renderAll_eq_joinLines depth rest]

end

section Programs

variable {depth : Nat}

theorem programLines_append (first second : List Step) :
    programLines depth (first ++ second) =
      programLines depth first ++ programLines depth second := by
  induction first with
  | nil => rfl
  | cons step rest inductionHypothesis =>
      rw [List.cons_append, programLines, programLines, inductionHypothesis, List.append_assoc]

theorem programLines_flatMap {α : Type} (inputs : List α) (program : α → List Step) :
    programLines depth (inputs.flatMap program) =
      inputs.flatMap fun input => programLines depth (program input) := by
  induction inputs with
  | nil => rfl
  | cons input rest inductionHypothesis =>
      rw [List.flatMap_cons, programLines_append, inductionHypothesis, List.flatMap_cons]

theorem programLines_map_line {α : Type} (inputs : List α) (text : α → String) :
    programLines depth (inputs.map fun input => .line (text input)) =
      inputs.map fun input => lineAt depth (text input) := by
  induction inputs with
  | nil => rfl
  | cons input rest inductionHypothesis =>
      rw [List.map_cons, programLines, inductionHypothesis, stepLines, List.map_cons]
      rfl

/-- A line that begins with some text is not empty. -/
theorem lineAt_append {start : String} (notEmpty : start ≠ "") (ending : String) :
    lineAt depth (start ++ ending) = indentation depth ++ start ++ ending := by
  have isText : (start ++ ending).isEmpty = false := by
    simp [String.append_eq_empty_iff, notEmpty]
  rw [lineAt, isText, String.append_assoc]
  rfl

end Programs

end Layout

/-! ### Cutting into lines -/

namespace Text

/-- The text has no line end. -/
def IsOneLine (text : String) : Prop :=
  '\n' ∉ text.toList

instance (text : String) : Decidable (IsOneLine text) :=
  inferInstanceAs (Decidable ('\n' ∉ text.toList))

@[simp]
theorem isOneLine_append {first second : String} :
    IsOneLine (first ++ second) ↔ IsOneLine first ∧ IsOneLine second := by
  unfold IsOneLine
  rw [String.toList_append, List.mem_append, not_or]

theorem isOneLine_ofList {characters : List Char} (noEnd : '\n' ∉ characters) :
    IsOneLine (String.ofList characters) := by
  rwa [IsOneLine, String.toList_ofList]

theorem isOneLine_indentation (depth : Nat) : IsOneLine (Layout.indentation depth) := by
  refine isOneLine_ofList fun isSpace => ?_
  cases List.eq_of_mem_replicate isSpace

theorem isOneLine_lineAt {depth : Nat} {text : String} (oneLine : IsOneLine text) :
    IsOneLine (Layout.lineAt depth text) := by
  unfold Layout.lineAt
  cases text.isEmpty with
  | true => exact List.not_mem_nil
  | false => exact isOneLine_append.mpr ⟨isOneLine_indentation depth, oneLine⟩

theorem linePieces_line {line : List Char} (oneLine : '\n' ∉ line) (rest : List Char) :
    linePieces (line ++ '\n' :: rest) = line :: linePieces rest := by
  induction line with
  | nil => rfl
  | cons character line inductionHypothesis =>
      rw [List.mem_cons, not_or] at oneLine
      rw [List.cons_append, linePieces, if_neg (Ne.symm oneLine.1),
        inductionHypothesis oneLine.2]

theorem linePieces_joinLines {lines : List String}
    (oneLine : ∀ line ∈ lines, IsOneLine line) (rest : String) :
    linePieces (Layout.joinLines lines ++ rest).toList =
      lines.map String.toList ++ linePieces rest.toList := by
  induction lines with
  | nil => simp [Layout.joinLines]
  | cons line lines inductionHypothesis =>
      have isCons : (Layout.joinLines (line :: lines) ++ rest).toList =
          line.toList ++ '\n' :: (Layout.joinLines lines ++ rest).toList := by
        rw [Layout.joinLines_cons]
        simp
      rw [isCons, linePieces_line (oneLine line (by simp)),
        inductionHypothesis fun other later => oneLine other (List.mem_cons_of_mem line later)]
      rfl

end Text

end ForwardingProxy
