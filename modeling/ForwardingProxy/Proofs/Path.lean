import ForwardingProxy.Path
import ForwardingProxy.Proofs.Text.Trimming
import Mathlib

/-!
Contract: paths that names are joined to.

Owns: `Path.IsName`, the texts that are one step of a path, and the components of a path that such
names are joined to, one by one or as one text with `/` between them.

Does not own: the pieces of a text between separators; see `Text.Trimming`.
-/

namespace ForwardingProxy.Path

/-! ### Components -/

/-- The step that a path begins with by itself, before any name. -/
def startOf : List (List Char) → List Component
  | [] :: _ :: _ => [.root]
  | ['.'] :: _ => [.current]
  | _ => []

/-- The steps that pieces between separators stand for. -/
def stepsOf (pieces : List (List Char)) : List Component :=
  (pieces.filter fun piece => !isSkipped piece).map stepOf

theorem components_eq (path : String) :
    components path = startOf (piecesOf path.toList) ++ stepsOf (piecesOf path.toList) := by
  simp only [components, startOf, stepsOf]
  split <;> simp_all

theorem stepsOf_append (first second : List (List Char)) :
    stepsOf (first ++ second) = stepsOf first ++ stepsOf second := by
  rw [stepsOf, List.filter_append, List.map_append]
  rfl

/-- Behind the first of several pieces nothing tells how a path begins. -/
theorem startOf_cons_cons (first second other : List Char) (rest others : List (List Char)) :
    startOf (first :: second :: rest) = startOf (first :: other :: others) := by
  by_cases isEmpty : first = []
  · rw [isEmpty]
    rfl
  · by_cases isCurrent : first = ['.']
    · rw [isCurrent]
      rfl
    · simp [startOf, isEmpty, isCurrent]

/-- Nor does it behind a single piece that is not empty. -/
theorem startOf_append {first : List Char} {rest more : List (List Char)}
    (further : first ≠ [] ∨ rest ≠ []) :
    startOf (first :: rest ++ more) = startOf (first :: rest) := by
  cases rest with
  | cons second others => exact startOf_cons_cons first second second _ _
  | nil =>
      have nonempty : first ≠ [] := further.resolve_right fun some => some rfl
      by_cases isCurrent : first = ['.']
      · rw [isCurrent]
        rfl
      · simp [startOf, nonempty, isCurrent]

/-- A path that is not empty has a piece that is not, or several. -/
theorem exists_pieces {path : List Char} (notEmpty : path ≠ []) :
    ∃ first rest, piecesOf path = first :: rest ∧ (first ≠ [] ∨ rest ≠ []) := by
  obtain ⟨first, rest, cut⟩ := List.exists_cons_of_ne_nil (Text.splitAt_ne_nil (· == '/') path)
  refine ⟨first, rest, cut, ?_⟩
  by_contra alone
  rw [not_or, not_not, not_not] at alone
  have isPath := Text.intercalate_splitAt '/' path
  rw [cut, alone.1, alone.2] at isPath
  exact notEmpty (by simpa using isPath.symm)

/-! ### Names -/

/-- The text is one step of a path, which leads to a name below. -/
structure IsName (name : String) : Prop where
  noSeparator : '/' ∉ name.toList
  noSkip : isSkipped name.toList = false
  noParent : name.toList ≠ ['.', '.']

variable {name : String}

theorem IsName.nonempty (isName : IsName name) : name.toList ≠ [] := by
  intro isEmpty
  have noSkip := isName.noSkip
  rw [isEmpty] at noSkip
  cases noSkip

theorem IsName.piecesOf (isName : IsName name) : piecesOf name.toList = [name.toList] := by
  refine Text.splitAt_of_none fun character member => ?_
  rw [beq_eq_false_iff_ne]
  rintro rfl
  exact isName.noSeparator member

theorem IsName.stepsOf (isName : IsName name) : stepsOf [name.toList] = [.name name] := by
  simp [Path.stepsOf, isName.noSkip, stepOf, isName.noParent]

theorem IsName.getLast?_ne (isName : IsName name) (before : String) :
    (before ++ name).toList.getLast? ≠ some '/' := by
  rw [String.toList_append, List.getLast?_append_of_ne_nil _ isName.nonempty]
  exact fun isLast => isName.noSeparator (List.mem_of_getLast? isLast)

theorem IsName.not_absolute (isName : IsName name) (rest : String) :
    isAbsolute (name ++ rest) = false := by
  obtain ⟨first, others, isText⟩ := List.exists_cons_of_ne_nil isName.nonempty
  have differs : first ≠ '/' := by
    rintro rfl
    exact isName.noSeparator (isText ▸ List.mem_cons_self ..)
  simp [isAbsolute, isText, differs]

/-- What is put before a text that is joined to a path. -/
def lead (base : String) : String :=
  if base.isEmpty || base.toList.getLast? = some '/' then base else base ++ "/"

theorem join_eq {added : String} (noAbsolute : isAbsolute added = false) (base : String) :
    join base added = lead base ++ added := by
  unfold join lead
  rw [noAbsolute, Bool.false_or]
  by_cases isEmpty : base.isEmpty = true
  · have isNothing : base = "" := by simpa using isEmpty
    simp [isNothing]
  · by_cases isClosed : base.toList.getLast? = some '/'
    · simp [isEmpty, isClosed]
    · simp [isEmpty, isClosed]

theorem IsName.piecesOf_append (isName : IsName name) (text : List Char) :
    Path.piecesOf (text ++ '/' :: name.toList) = Path.piecesOf text ++ [name.toList] := by
  rw [← isName.piecesOf]
  exact Text.splitAt_append_mark rfl text name.toList

/-- A name alone is a path of one component. -/
theorem IsName.components (isName : IsName name) : components name = [.name name] := by
  have atStart : startOf [name.toList] = [] := by
    have noSkip := isName.noSkip
    rw [isSkipped, Bool.or_eq_false_iff, beq_eq_false_iff_ne] at noSkip
    simp [startOf, noSkip.2]
  rw [components_eq, isName.piecesOf, isName.stepsOf, atStart]
  rfl

/-- Behind a separator a name is the last component. -/
theorem components_append_of_closed (isName : IsName name) {base : String}
    (isClosed : base.toList.getLast? = some '/') :
    components (base ++ name) = components base ++ [.name name] := by
  -- the empty piece behind the last separator gives way to the name
  obtain ⟨before, isBase⟩ := List.getLast?_eq_some_iff.mp isClosed
  obtain ⟨first, rest, isBefore⟩ := List.exists_cons_of_ne_nil
    (Text.splitAt_ne_nil (· == '/') before)
  have ofBase : piecesOf base.toList = first :: rest ++ [[]] := by
    rw [isBase, ← isBefore]
    exact Text.splitAt_append_mark rfl before []
  have ofJoined : piecesOf (base ++ name).toList = first :: rest ++ [name.toList] := by
    rw [String.toList_append, isBase, List.append_assoc, List.singleton_append,
      isName.piecesOf_append, ← isBefore]
    rfl
  have sameStart : startOf (first :: rest ++ [name.toList]) = startOf (first :: rest ++ [[]]) := by
    cases rest <;> exact startOf_cons_cons first _ _ _ _
  rw [components_eq, components_eq, ofBase, ofJoined, sameStart, stepsOf_append, stepsOf_append,
    isName.stepsOf, List.append_assoc, List.append_assoc]
  rfl

/-- Behind a path and a separator a name is the last component. -/
theorem components_append_separator (isName : IsName name) {base : String}
    (nonempty : base.toList ≠ []) :
    components (base ++ "/" ++ name) = components base ++ [.name name] := by
  obtain ⟨first, rest, ofBase, further⟩ := exists_pieces nonempty
  have ofJoined : piecesOf (base ++ "/" ++ name).toList = first :: rest ++ [name.toList] := by
    have isText : (base ++ "/" ++ name).toList = base.toList ++ '/' :: name.toList := by simp
    rw [isText, isName.piecesOf_append, ofBase]
  rw [components_eq, components_eq, ofBase, ofJoined, startOf_append further, stepsOf_append,
    isName.stepsOf, List.append_assoc]

/-- A name is joined to a path as its last component. -/
theorem components_join (isName : IsName name) (base : String) :
    components (join base name) = components base ++ [.name name] := by
  have noAbsolute := isName.not_absolute ""
  rw [String.append_empty] at noAbsolute
  unfold join
  by_cases isEmpty : base.isEmpty = true
  · have isNothing : base = "" := by simpa using isEmpty
    rw [isEmpty, Bool.or_true, if_pos rfl, isName.components, isNothing]
    rfl
  · rw [noAbsolute, Bool.false_or, if_neg isEmpty]
    by_cases isClosed : base.toList.getLast? = some '/'
    · rw [if_pos isClosed]
      exact components_append_of_closed isName isClosed
    · rw [if_neg isClosed]
      refine components_append_separator isName ?_
      rw [Ne, String.toList_eq_nil_iff]
      simpa using isEmpty

theorem components_foldl_join {names : List String} (areNames : ∀ name ∈ names, IsName name)
    (base : String) :
    components (names.foldl join base) = components base ++ names.map .name := by
  induction names generalizing base with
  | nil => simp
  | cons name rest inductionHypothesis =>
      rw [List.forall_mem_cons] at areNames
      rw [List.foldl_cons, inductionHypothesis areNames.2, components_join areNames.1,
        List.map_cons, List.append_assoc, List.singleton_append]

/-- Names are joined one by one or as one text. -/
theorem foldl_join {names : List String} (areNames : ∀ name ∈ names, IsName name)
    (nonempty : names ≠ []) (base : String) :
    names.foldl join base = join base ("/".intercalate names) := by
  induction names generalizing base with
  | nil => exact absurd rfl nonempty
  | cons first rest inductionHypothesis =>
      rw [List.forall_mem_cons] at areNames
      cases rest with
      | nil => simp
      | cons second others =>
          have areOthers := areNames.2
          rw [List.forall_mem_cons] at areOthers
          rw [List.foldl_cons, inductionHypothesis areNames.2 (List.cons_ne_nil _ _),
            String.intercalate_cons_cons]
          have noAbsolute : isAbsolute ("/".intercalate (second :: others)) = false := by
            cases others with
            | nil => simpa using areOthers.1.not_absolute ""
            | cons third others =>
                rw [String.intercalate_cons_cons, String.append_assoc]
                exact areOthers.1.not_absolute _
          have noAbsoluteFirst := areNames.1.not_absolute ""
          have noAbsoluteWhole :=
            areNames.1.not_absolute ("/" ++ "/".intercalate (second :: others))
          rw [String.append_empty] at noAbsoluteFirst
          rw [← String.append_assoc] at noAbsoluteWhole
          -- behind a name comes a separator
          have behind : lead (lead base ++ first) = lead base ++ first ++ "/" := by
            have nonempty : ¬(lead base ++ first).isEmpty = true := by
              simp [← String.toList_eq_nil_iff, areNames.1.nonempty]
            have unclosed := areNames.1.getLast?_ne (lead base)
            rw [lead, if_neg (by simp only [nonempty, unclosed, decide_false, Bool.or_false,
              not_false_eq_true, Bool.false_eq_true])]
          rw [join_eq noAbsoluteFirst, join_eq noAbsolute, join_eq noAbsoluteWhole, behind,
            String.append_assoc, String.append_assoc, String.append_assoc]

end ForwardingProxy.Path
