import ForwardingProxy.Proofs.Layout
import Mathlib

/-!
Contract: what a writer adds for a program, and how a block indents it.

Owns: `Layout.textAt`, the text that a program adds at a depth, `Layout.indented`, a text with four
spaces before its lines, and the theorem that programs are carried out one after the other without
a trace but their texts, where a block indents the text of its body.

A text is indented as a text: it is cut at its line feeds. So the programs in question write no line
feed within a line.
-/

namespace ForwardingProxy

namespace Text

/-- The pieces between line feeds have none. -/
theorem newline_notMem_linePieces {text : List Char} : ∀ piece ∈ linePieces text,
    '\n' ∉ piece := by
  intro piece member
  fun_induction linePieces text generalizing piece with
  | case1 =>
      rw [List.mem_singleton.mp member]
      exact List.not_mem_nil
  | case2 rest inductionHypothesis =>
      rcases List.mem_cons.mp member with rfl | later
      · exact List.not_mem_nil
      · exact inductionHypothesis piece later
  | case3 character rest noEnd _ inductionHypothesis =>
      rw [List.mem_singleton.mp member, List.mem_singleton]
      exact Ne.symm noEnd
  | case4 character rest noEnd first others cut inductionHypothesis =>
      rw [cut] at inductionHypothesis
      rcases List.mem_cons.mp member with rfl | later
      · rw [List.mem_cons, not_or]
        exact ⟨Ne.symm noEnd, inductionHypothesis first List.mem_cons_self⟩
      · exact inductionHypothesis piece (List.mem_cons_of_mem first later)

/-- Every line is part of a piece. -/
theorem exists_piece_of_mem_linesOfPieces {pieces : List (List Char)} {line : List Char}
    (member : line ∈ linesOfPieces pieces) : ∃ piece ∈ pieces, line ⊆ piece := by
  fun_induction linesOfPieces pieces with
  | case1 => cases member
  | case2 piece isEmpty => cases member
  | case3 piece notEmpty =>
      rw [List.mem_singleton.mp member]
      exact ⟨piece, List.mem_singleton_self piece, List.Subset.refl piece⟩
  | case4 piece pieces _ inductionHypothesis =>
      rcases List.mem_cons.mp member with rfl | later
      · refine ⟨piece, List.mem_cons_self, ?_⟩
        unfold dropCarriageReturn
        split
        · exact (List.dropLast_sublist piece).subset
        · exact List.Subset.refl piece
      · obtain ⟨other, isPiece, isPart⟩ := inductionHypothesis later
        exact ⟨other, List.mem_cons_of_mem piece isPiece, isPart⟩

/-- A line of a text is one line, also without the blanks at its end. -/
theorem isOneLine_trimEnd {text line : String} (member : line ∈ lines text) :
    IsOneLine (trimEnd line) := by
  obtain ⟨characters, isLine, rfl⟩ := List.mem_map.mp member
  obtain ⟨piece, isPiece, isPart⟩ := exists_piece_of_mem_linesOfPieces isLine
  refine isOneLine_ofList fun inLine => newline_notMem_linePieces piece isPiece (isPart ?_)
  rw [String.toList_ofList] at inLine
  exact List.mem_reverse.mp ((List.dropWhile_sublist _).subset (List.mem_reverse.mp inLine))

end Text

namespace Layout

open Text (IsOneLine linePieces)

mutual

/-- No line that the step writes has a line feed. -/
def Step.IsOneLined : Step → Prop
  | .line text => IsOneLine text
  | .lines _ => True
  | .blank => True
  | .block header body => IsOneLine header ∧ AreOneLined body

/-- No line that the program writes has a line feed. -/
def AreOneLined : List Step → Prop
  | [] => True
  | step :: rest => step.IsOneLined ∧ AreOneLined rest

end

/-- The text that a writer of that depth adds for a program. -/
def textAt (depth : Nat) (program : List Step) : String :=
  ((⟨"", depth⟩ : Writer).performAll program).text

theorem textAt_eq (depth : Nat) (program : List Step) :
    textAt depth program = renderAll depth program := by
  rw [textAt, Writer.performAll_eq]
  exact String.empty_append

/-- A line with four spaces before it; an empty line stays empty. -/
def indentedLine (line : List Char) : List Char :=
  if line.isEmpty then [] else List.replicate 4 ' ' ++ line

/-- A text with four spaces before each of its lines that is not empty. -/
def indented (text : String) : String :=
  String.ofList (['\n'].intercalate ((linePieces text.toList).map indentedLine))

theorem indentation_succ (depth : Nat) :
    indentation (depth + 1) = String.ofList (List.replicate 4 ' ') ++ indentation depth := by
  rw [indentation, indentation, Nat.mul_succ, Nat.add_comm, List.replicate_add,
    String.ofList_append]

theorem lineAt_succ (depth : Nat) (text : String) :
    lineAt (depth + 1) text = String.ofList (indentedLine (lineAt depth text).toList) := by
  unfold lineAt
  cases isEmpty : text.isEmpty with
  | true => rfl
  | false =>
      have notEmpty : ¬(indentation depth ++ text).toList.isEmpty = true := by
        rw [List.isEmpty_iff, String.toList_eq_nil_iff, String.append_eq_empty_iff]
        exact fun empty => by simp [empty.2] at isEmpty
      rw [if_neg Bool.false_ne_true, if_neg Bool.false_ne_true, indentedLine, if_neg notEmpty,
        String.ofList_append, String.ofList_toList, indentation_succ, String.append_assoc]

mutual

theorem stepLines_succ (depth : Nat) : ∀ step, stepLines (depth + 1) step =
    (stepLines depth step).map fun line => String.ofList (indentedLine line.toList)
  | .line text => by
      rw [stepLines, stepLines, List.map_singleton, lineAt_succ]
  | .lines text => by
      rw [stepLines, stepLines, List.map_map (f := lineAt depth)]
      exact List.map_congr_left fun line _ => lineAt_succ depth line
  | .blank => rfl
  | .block header body => by
      rw [stepLines, stepLines, programLines_succ (depth + 1) body, List.map_cons, List.map_append,
        List.map_singleton, lineAt_succ, lineAt_succ]

/-- One level deeper, every line of a program is indented. -/
theorem programLines_succ (depth : Nat) : ∀ program, programLines (depth + 1) program =
    (programLines depth program).map fun line => String.ofList (indentedLine line.toList)
  | [] => rfl
  | step :: rest => by
      rw [programLines, programLines, List.map_append, stepLines_succ depth step,
        programLines_succ depth rest]

end

mutual

theorem isOneLine_of_mem_stepLines {depth : Nat} : ∀ {step : Step}, step.IsOneLined →
    ∀ line ∈ stepLines depth step, IsOneLine line
  | .line text, oneLine => by
      rw [Step.IsOneLined] at oneLine
      rw [stepLines, List.forall_mem_singleton]
      exact Text.isOneLine_lineAt oneLine
  | .lines text, _ => by
      rw [stepLines, List.map_map, List.forall_mem_map]
      exact fun line member => Text.isOneLine_lineAt (Text.isOneLine_trimEnd member)
  | .blank, _ => by
      rw [stepLines, List.forall_mem_singleton]
      exact List.not_mem_nil
  | .block header body, oneLined => by
      rw [Step.IsOneLined] at oneLined
      rw [stepLines, List.forall_mem_cons, List.forall_mem_append, List.forall_mem_singleton]
      have opening : IsOneLine (header ++ " \x7b") :=
        Text.isOneLine_append.mpr ⟨oneLined.1, by decide⟩
      exact ⟨Text.isOneLine_lineAt opening, isOneLine_of_mem_programLines oneLined.2,
        Text.isOneLine_lineAt (by decide)⟩

theorem isOneLine_of_mem_programLines {depth : Nat} : ∀ {program : List Step},
    AreOneLined program → ∀ line ∈ programLines depth program, IsOneLine line
  | [], _ => fun _ member => nomatch member
  | step :: rest, oneLined => by
      rw [AreOneLined] at oneLined
      rw [programLines, List.forall_mem_append]
      exact ⟨isOneLine_of_mem_stepLines oneLined.1, isOneLine_of_mem_programLines oneLined.2⟩

end

/-- Lines are indented one by one. -/
theorem indented_joinLines {lines : List String} (oneLine : ∀ line ∈ lines, IsOneLine line) :
    indented (joinLines lines) =
      joinLines (lines.map fun line => String.ofList (indentedLine line.toList)) := by
  have cut := Text.linePieces_joinLines oneLine ""
  rw [String.append_empty] at cut
  rw [indented, cut]
  clear cut oneLine
  induction lines with
  | nil => rfl
  | cons line rest inductionHypothesis =>
      rw [List.map_cons, List.map_cons, joinLines_cons, ← inductionHypothesis]
      -- behind the last line feed stands an empty piece
      obtain ⟨next, others, behind⟩ : ∃ next others,
          (rest.map String.toList ++ linePieces "".toList).map indentedLine = next :: others := by
        refine List.exists_cons_of_ne_nil ?_
        simp [linePieces]
      rw [List.cons_append, List.map_cons, behind, List.intercalate_cons_cons]
      simp [String.ofList_append, String.append_assoc]

/-- One level deeper, the text of a program is indented. -/
theorem textAt_succ {program : List Step} (oneLined : AreOneLined program) (depth : Nat) :
    textAt (depth + 1) program = indented (textAt depth program) := by
  rw [textAt_eq, textAt_eq, renderAll_eq_joinLines, renderAll_eq_joinLines,
    indented_joinLines (isOneLine_of_mem_programLines oneLined), programLines_succ]

theorem Writer.performAll_append (writer : Writer) (program further : List Step) :
    writer.performAll (program ++ further) = (writer.performAll program).performAll further := by
  induction program generalizing writer with
  | nil => rw [List.nil_append, performAll]
  | cons step rest inductionHypothesis =>
      rw [List.cons_append, performAll, performAll, inductionHypothesis]

theorem Writer.performAll_lines (writer : Writer) (lines : List String) :
    writer.performAll (lines.map Step.line) = lines.foldl line writer := by
  induction lines generalizing writer with
  | nil => rw [List.map_nil, performAll, List.foldl_nil]
  | cons first rest inductionHypothesis =>
      rw [List.map_cons, performAll, perform, List.foldl_cons, inductionHypothesis]

theorem textAt_line {text : String} (notEmpty : text ≠ "") (depth : Nat) :
    textAt depth [.line text] = indentation depth ++ text ++ "\n" := by
  rw [textAt_eq, renderAll, render, renderAll, String.append_empty, renderLine,
    if_neg (by simpa using notEmpty)]

/-- A program leaves the depth of a writer as it was and adds its text, so a program behind another
adds its text behind the other's. A block is its header with a brace, the text of its body, every
line of which is indented unless it is empty, and the closing brace. The lines of a text are lines
without the blanks at their ends. -/
theorem Writer.performAll_composes (writer : Writer) (program further : List Step)
    (header text : String) :
    (writer.performAll program).depth = writer.depth ∧
      (writer.performAll program).text = writer.text ++ textAt writer.depth program ∧
      writer.performAll (program ++ further) = (writer.performAll program).performAll further ∧
      ((writer.performAll program).performAll further).text =
        writer.text ++ textAt writer.depth program ++ textAt writer.depth further ∧
      (AreOneLined program → ∀ depth, textAt depth [.block header program] =
        indentation depth ++ (header ++ " \x7b") ++ "\n" ++ indented (textAt depth program) ++
          (indentation depth ++ "\x7d" ++ "\n")) ∧
      writer.performAll [.lines text] =
        writer.performAll ((Text.lines text).map fun line => .line (Text.trimEnd line)) := by
  have added (writer : Writer) (steps : List Step) :
      writer.performAll steps = ⟨writer.text ++ textAt writer.depth steps, writer.depth⟩ := by
    rw [performAll_eq, textAt_eq]
  refine ⟨?_, ?_, performAll_append writer program further, ?_, fun oneLined depth => ?_, ?_⟩
  · rw [added]
  · rw [added]
  · rw [added, added]
  · have notEmpty : header ++ " \x7b" ≠ "" := fun isEmpty =>
      absurd (String.append_eq_empty_iff.mp isEmpty).2 (by decide)
    rw [← textAt_line notEmpty, ← textAt_line (by decide), ← textAt_succ oneLined]
    simp only [textAt_eq, renderAll, render, String.append_empty]
  · have sameLines : (Text.lines text).map (fun line => Step.line (Text.trimEnd line)) =
        ((Text.lines text).map Text.trimEnd).map Step.line := by
      rw [List.map_map]
      rfl
    rw [sameLines, performAll_lines, performAll, perform, performAll, lines]

end Layout

end ForwardingProxy
