import ForwardingProxy.ProxySource

/-!
Contract: the source text of a proxy, written out.

Owns: the text of an overriding function, of a trait block and of what stands before the blocks, and
the fact that a proxy's layout program stands for these texts one after the other.

Does not own: which members a block has; see `Overrides`.
-/

namespace ForwardingProxy

namespace Layout

/-! ### Programs in parts -/

theorem renderAll_append {depth : Nat} (first second : List Step) :
    renderAll depth (first ++ second) = renderAll depth first ++ renderAll depth second := by
  induction first with
  | nil => rw [List.nil_append, renderAll, String.empty_append]
  | cons step rest inductionHypothesis =>
      rw [List.cons_append, renderAll, renderAll, inductionHypothesis, String.append_assoc]

theorem renderAll_flatMap {α : Type} {depth : Nat} (inputs : List α) (program : α → List Step) :
    renderAll depth (inputs.flatMap program) =
      String.join (inputs.map fun input => renderAll depth (program input)) := by
  induction inputs with
  | nil => rw [List.flatMap_nil, renderAll, List.map_nil, String.join_nil]
  | cons input rest inductionHypothesis =>
      rw [List.flatMap_cons, renderAll_append, inductionHypothesis, List.map_cons, String.join_cons]

theorem renderAll_separated {depth : Nat} (steps : List Step) :
    renderAll depth (separated steps) = "\n".intercalate (steps.map (render depth)) := by
  have separated_cons : ∀ first second rest, separated (first :: second :: rest) =
      [first, .blank] ++ separated (second :: rest) := fun _ _ _ => rfl
  induction steps with
  | nil => rfl
  | cons first rest inductionHypothesis =>
      cases rest with
      | nil => simp [separated, renderAll]
      | cons second rest =>
          rw [separated_cons, renderAll_append, inductionHypothesis]
          simp [renderAll, render, renderLine, String.append_assoc]

theorem renderLine_of_ne_empty {depth : Nat} {text : String} (notEmpty : text ≠ "") :
    renderLine depth text = indentation depth ++ text ++ "\n" := by
  rw [renderLine, if_neg (by simpa using notEmpty)]

/-- A line that ends in some text is not empty. -/
theorem renderLine_append {depth : Nat} (start : String) {ending : String}
    (notEmpty : ending ≠ "") :
    renderLine depth (start ++ ending) = indentation depth ++ (start ++ ending) ++ "\n" :=
  renderLine_of_ne_empty fun same => notEmpty (String.append_eq_empty_iff.mp same).2

theorem renderLine_outermost (start ending : String) (notEmpty : ending ≠ "") :
    renderLine 0 (start ++ ending) = start ++ (ending ++ "\n") := by
  have notIndented : indentation 0 = "" := by decide
  rw [renderLine_append start notEmpty, notIndented, String.empty_append, String.append_assoc]

theorem renderLine_outermost_closing : renderLine 0 "\x7d" = "\x7d\n" := by
  decide

end Layout

/-! ### Functions and blocks -/

/-- The text of an overriding function inside a trait block. -/
def ForwardedMember.functionText
    (runtimePath : String)
    (target : Target)
    (member : ForwardedMember) : String :=
  "    " ++ member.signature ++ " \x7b\n"
    ++ ("        " ++ member.callConstant runtimePath ++ "\n")
    ++ ("        " ++ member.forwardExpression runtimePath target ++ "\n")
    ++ "    \x7d\n"

/-- The text of a trait block. -/
def TraitBlock.implText
    (runtimePath proxy : String)
    (target : Target)
    (traitBlock : TraitBlock) : String :=
  let header := "impl " ++ traitBlock.owner ++ " for " ++ proxy
  if traitBlock.members.isEmpty then header ++ " \x7b\x7d\n"
  else
    header ++ " \x7b\n"
      ++ "\n".intercalate (traitBlock.members.map (ForwardedMember.functionText runtimePath target))
      ++ "\x7d\n"

/-- The text of the proxy's type and of its own `impl` block. -/
def ProxyRequest.openingText (request : ProxyRequest) : String :=
  let declared :=
    ("/// Generated proxy for `" ++ request.interface.name ++ "`.\n")
      ++ ("#[derive(Debug, Clone, Copy, Default)]\n"
        ++ ("pub struct " ++ request.proxy ++ ";\n"))
  match request.inherentItems with
  | none => declared
  | some items =>
      declared
        ++ ("\n" ++ ("impl " ++ request.proxy ++ " \x7b\n")
          ++ Layout.render 1 (.lines items) ++ "\x7d\n")

theorem ForwardedMember.render_layout (runtimePath : String) (target : Target)
    (member : ForwardedMember) :
    Layout.render 1 (member.layout runtimePath target) =
      member.functionText runtimePath target := by
  have once : Layout.indentation 1 = "    " := by decide
  have twice : Layout.indentation 2 = "        " := by decide
  have header : Layout.renderLine 1 (member.signature ++ " \x7b") =
      "    " ++ member.signature ++ " \x7b\n" := by
    rw [Layout.renderLine_append _ (by decide), once]
    simp [String.append_assoc]
  have constant : Layout.renderLine 2 (member.callConstant runtimePath) =
      "        " ++ member.callConstant runtimePath ++ "\n" := by
    unfold callConstant
    rw [Layout.renderLine_append _ (by decide), twice]
  have expression : Layout.renderLine 2 (member.forwardExpression runtimePath target) =
      "        " ++ member.forwardExpression runtimePath target ++ "\n" := by
    unfold forwardExpression
    rw [Layout.renderLine_append _ (by decide), twice]
  have closing : Layout.renderLine 1 "\x7d" = "    \x7d\n" := by decide
  simp only [ForwardedMember.layout, Layout.render, Layout.renderAll, header, constant, expression,
    closing, functionText, String.append_empty, String.append_assoc]

theorem TraitBlock.render_layout (runtimePath proxy : String) (target : Target)
    (traitBlock : TraitBlock) :
    Layout.render 0 (traitBlock.layout runtimePath proxy target) =
      traitBlock.implText runtimePath proxy target := by
  have functions : (traitBlock.members.map (ForwardedMember.layout runtimePath target)).map
      (Layout.render 1) =
        traitBlock.members.map (ForwardedMember.functionText runtimePath target) := by
    rw [List.map_map]
    exact List.map_congr_left fun member _ => member.render_layout runtimePath target
  unfold TraitBlock.layout TraitBlock.implText
  cases traitBlock.members.isEmpty with
  | true =>
      rw [if_pos rfl, if_pos rfl, Layout.render, Layout.renderLine_outermost _ _ (by decide)]
      simp [String.append_assoc]
  | false =>
      rw [if_neg (by decide), if_neg (by decide), Layout.render, Layout.renderAll_separated,
        functions, Layout.renderLine_outermost _ _ (by decide), Layout.renderLine_outermost_closing]
      simp [String.append_assoc]

/-- The steps before the trait blocks. -/
private theorem ProxyRequest.renderAll_opening (request : ProxyRequest) :
    Layout.renderAll 0
      ([.line ("/// Generated proxy for `" ++ request.interface.name ++ "`."),
        .line "#[derive(Debug, Clone, Copy, Default)]",
        .line ("pub struct " ++ request.proxy ++ ";")] ++ request.inherentLayout) =
      request.openingText := by
  have derived : Layout.renderLine 0 "#[derive(Debug, Clone, Copy, Default)]" =
      "#[derive(Debug, Clone, Copy, Default)]\n" := by decide
  have blank : Layout.renderLine 0 "" = "\n" := by decide
  have heading := Layout.renderLine_outermost
    ("/// Generated proxy for `" ++ request.interface.name) "`." (by decide)
  have declared := Layout.renderLine_outermost ("pub struct " ++ request.proxy) ";" (by decide)
  have opened := Layout.renderLine_outermost ("impl " ++ request.proxy) " \x7b" (by decide)
  unfold openingText inherentLayout
  cases request.inherentItems with
  | none =>
      simp only [List.append_nil, Layout.renderAll, Layout.render, derived, heading, declared]
      simp [String.append_assoc]
  | some items =>
      simp only [List.cons_append, List.nil_append, Layout.renderAll, Layout.render, derived, blank,
        heading, declared, opened, Layout.renderLine_outermost_closing]
      simp [String.append_assoc]

/-- The text of a proxy is its opening and then its trait blocks, each after an empty line. -/
theorem ProxyRequest.sourceText_eq (runtimePath : String) (request : ProxyRequest) :
    request.sourceText runtimePath =
      request.openingText ++ String.join (request.interface.traitBlocks.map fun traitBlock =>
        "\n" ++ traitBlock.implText runtimePath request.proxy request.target) := by
  have blocks : ∀ traitBlock : TraitBlock,
      Layout.renderAll 0 [.blank, traitBlock.layout runtimePath request.proxy request.target] =
        "\n" ++ traitBlock.implText runtimePath request.proxy request.target := by
    intro traitBlock
    simp [Layout.renderAll, Layout.render, Layout.renderLine, traitBlock.render_layout]
  rw [sourceText, Layout.text_eq, layout, Layout.renderAll_append, request.renderAll_opening,
    Layout.renderAll_flatMap]
  simp only [blocks]

end ForwardingProxy
