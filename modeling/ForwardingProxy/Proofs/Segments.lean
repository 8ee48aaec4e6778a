import ForwardingProxy.Name
import Mathlib.Data.List.Basic

/-!
Contract: names that are joined from segments.

Owns: the segments of such a name, and what it is extended to.

Does not own: its last segment and its parent; see `Name`, which cuts at the rightmost separator.
-/

namespace ForwardingProxy.Name

theorem pieces_of_notMem {piece : List Char} (noColon : ':' ∉ piece) : pieces piece = [piece] := by
  induction piece with
  | nil => rfl
  | cons character rest inductionHypothesis =>
      rw [List.mem_cons, not_or] at noColon
      rw [pieces, inductionHypothesis noColon.2]
      rintro _ rfl
      exact absurd rfl noColon.1

theorem pieces_append {piece : List Char} (noColon : ':' ∉ piece) (rest : List Char) :
    pieces (piece ++ ':' :: ':' :: rest) = piece :: pieces rest := by
  induction piece with
  | nil => rfl
  | cons character piece inductionHypothesis =>
      rw [List.mem_cons, not_or] at noColon
      rw [List.cons_append, pieces, inductionHypothesis noColon.2]
      rintro _ rfl
      exact absurd rfl noColon.1

theorem pieces_ne_nil (text : List Char) : pieces text ≠ [] := by
  fun_cases pieces text <;> simp_all

/-- The pieces with `::` between them are the text. -/
theorem intercalate_pieces (text : List Char) : [':', ':'].intercalate (pieces text) = text := by
  fun_induction pieces text with
  | case1 => rfl
  | case2 rest inductionHypothesis =>
      obtain ⟨piece, others, cut⟩ := List.exists_cons_of_ne_nil (pieces_ne_nil rest)
      rw [cut] at inductionHypothesis ⊢
      rw [List.intercalate_cons_cons, inductionHypothesis]
      rfl
  | case3 first rest _ none inductionHypothesis => exact absurd none (pieces_ne_nil rest)
  | case4 first rest _ piece tail cut inductionHypothesis =>
      rw [cut] at inductionHypothesis
      cases tail with
      | nil => simpa using inductionHypothesis
      | cons next others =>
          rw [List.intercalate_cons_cons] at inductionHypothesis ⊢
          rw [← inductionHypothesis]
          rfl

/-- A joined name has the segments that it was joined from. -/
theorem segments_join {parts : List String} (notEmpty : parts ≠ [])
    (noColon : ∀ part ∈ parts, ':' ∉ part.toList) : segments (join parts) = parts := by
  induction parts with
  | nil => exact absurd rfl notEmpty
  | cons first rest inductionHypothesis =>
      rw [List.forall_mem_cons] at noColon
      cases rest with
      | nil =>
          rw [join, String.intercalate_singleton, segments, pieces_of_notMem noColon.1]
          simp
      | cons second others =>
          have joined : (join (first :: second :: others)).toList =
              first.toList ++ ':' :: ':' :: (join (second :: others)).toList := by
            rw [join, String.intercalate_cons_cons]
            simp [join]
          rw [segments, joined, pieces_append noColon.1, List.map_cons, String.ofList_toList]
          exact congrArg (first :: ·) (inductionHypothesis (List.cons_ne_nil _ _) noColon.2)

theorem extend_join {base : List String} (notEmpty : base ≠ []) (rest : List String) :
    extend (join base) rest = join (base ++ rest) := by
  cases rest with
  | nil => rw [extend, List.append_nil]; rfl
  | cons first others =>
      unfold join
      rw [String.intercalate_append_of_ne_nil notEmpty (List.cons_ne_nil _ _)]
      rfl

end ForwardingProxy.Name
