import ForwardingProxy.Text.Blank
import ForwardingProxy.Text.Line

/-!
Contract: programs of layout steps and the indented text they stand for.

Owns: `Layout.Step`, `Layout.Writer`, which carries out the steps one after the other, and
`Layout.render` and `Layout.renderAll`, the text that a writer adds for a step or a program.

A line is indented by four spaces for each block around it, and an empty line by none. A block is
its header line, its body one level deeper, and a closing line.
-/

namespace ForwardingProxy.Layout

/-- One step of a layout program. -/
inductive Step where
  /-- One line of text. -/
  | line (text : String)
  /-- Every line of a text, without the blanks at its end. -/
  | lines (text : String)
  /-- An empty line. -/
  | blank
  /-- A header, an indented body and a closing brace. -/
  | block (header : String) (body : List Step)

/-- The spaces before a line at that depth. -/
def indentation (depth : Nat) : String :=
  String.ofList (List.replicate (4 * depth) ' ')

/-- One line with its line end. -/
def renderLine (depth : Nat) (text : String) : String :=
  if text.isEmpty then "\n" else indentation depth ++ text ++ "\n"

/-- Lines one after the other. -/
def renderLines (depth : Nat) (lines : List String) : String :=
  String.join (lines.map (renderLine depth))

mutual

/-- Text of one step at that depth. -/
def render (depth : Nat) : Step → String
  | .line text => renderLine depth text
  | .lines text => renderLines depth ((Text.lines text).map Text.trimEnd)
  | .blank => renderLine depth ""
  | .block header body =>
      renderLine depth (header ++ " \x7b") ++ renderAll (depth + 1) body ++ renderLine depth "\x7d"

/-- Text of a program at that depth. -/
def renderAll (depth : Nat) : List Step → String
  | [] => ""
  | step :: rest => render depth step ++ renderAll depth rest

end

/-- The text so far, and how many blocks the next line stands in. -/
structure Writer where
  text : String
  depth : Nat
deriving DecidableEq, Repr

namespace Writer

/-- Nothing is written yet. -/
def empty : Writer := ⟨"", 0⟩

/-- Writes a line at the depth of the writer. -/
def line (writer : Writer) (text : String) : Writer :=
  { writer with text := writer.text ++ renderLine writer.depth text }

/-- Writes every line of a text, without the blanks at its end. -/
def lines (writer : Writer) (text : String) : Writer :=
  ((Text.lines text).map Text.trimEnd).foldl line writer

mutual

/-- Carries out one step. -/
def perform (writer : Writer) : Step → Writer
  | .line text => writer.line text
  | .lines text => writer.lines text
  | .blank => writer.line ""
  | .block header body =>
      let opened := writer.line (header ++ " \x7b")
      let filled := performAll { opened with depth := opened.depth + 1 } body
      { filled with depth := filled.depth - 1 }.line "\x7d"

/-- Carries out the steps of a program. -/
def performAll (writer : Writer) : List Step → Writer
  | [] => writer
  | step :: rest => performAll (perform writer step) rest

end

theorem lines_foldl (writer : Writer) (lines : List String) :
    lines.foldl line writer = ⟨writer.text ++ renderLines writer.depth lines, writer.depth⟩ := by
  induction lines generalizing writer with
  | nil => simp [renderLines]
  | cons first rest inductionHypothesis =>
      rw [List.foldl_cons, inductionHypothesis]
      simp [line, renderLines, String.append_assoc]

mutual

theorem perform_eq (writer : Writer) :
    ∀ step, writer.perform step = ⟨writer.text ++ render writer.depth step, writer.depth⟩
  | .line text => by
      rw [perform, line, render]
  | .lines text => by
      rw [perform, lines, lines_foldl, render]
  | .blank => by
      rw [perform, line, render]
  | .block header body => by
      rw [perform, performAll_eq, render]
      simp only [line, Nat.add_sub_cancel, String.append_assoc]

/-- A program adds its text and leaves the depth as it was. -/
theorem performAll_eq (writer : Writer) :
    ∀ program, writer.performAll program =
      ⟨writer.text ++ renderAll writer.depth program, writer.depth⟩
  | [] => by
      rw [performAll, renderAll, String.append_empty]
  | step :: rest => by
      rw [performAll, performAll_eq, perform_eq, renderAll, String.append_assoc]

end

end Writer

/-- Text of a whole program. -/
def text (program : List Step) : String :=
  (Writer.empty.performAll program).text

theorem text_eq (program : List Step) : text program = renderAll 0 program := by
  rw [text, Writer.performAll_eq]
  exact String.empty_append

end ForwardingProxy.Layout
