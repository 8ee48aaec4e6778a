import ForwardingProxy.Source.Signature
import Mathlib

/-!
Contract: a group of braces is passed over as a whole.

Owns: `Source.closesBraces`, which tells whether braces are balanced, and the fact that every scan
for the end of something goes on behind such a group as it stood before it, whatever the group holds.

The tokens in the group may hold any other brackets, closed or not.
-/

namespace ForwardingProxy.Source

/-- Whether the tokens close all braces that they open, that many others, and none besides. -/
def closesBraces : (others : Nat) → List Token → Bool
  | others, [] => others == 0
  | others, token :: rest =>
      if token.isMark "\x7b" then closesBraces (others + 1) rest
      else if token.isMark "\x7d" then others != 0 && closesBraces (others - 1) rest
      else closesBraces others rest

/-- Balanced braces, token by token. -/
theorem closesBraces_induction
    {motive : (others : Nat) → (tokens : List Token) → closesBraces others tokens = true → Prop}
    (nil : ∀ closes, motive 0 [] closes)
    (opening : ∀ others token rest closes further, token.isMark "\x7b" = true →
      token.isMark "\x7d" = false → motive (others + 1) rest further →
      motive others (token :: rest) closes)
    (closing : ∀ others token rest closes further, token.isMark "\x7b" = false →
      token.isMark "\x7d" = true → motive others rest further →
      motive (others + 1) (token :: rest) closes)
    (other : ∀ others token rest closes further, token.isMark "\x7b" = false →
      token.isMark "\x7d" = false → motive others rest further →
      motive others (token :: rest) closes)
    (others : Nat) (tokens : List Token) (closes : closesBraces others tokens = true) :
    motive others tokens closes := by
  induction tokens generalizing others with
  | nil =>
      obtain rfl := beq_iff_eq.mp closes
      exact nil closes
  | cons token rest inductionHypothesis =>
      have further := closes
      rw [closesBraces] at further
      by_cases isOpening : token.isMark "\x7b" = true
      · have noClosing : token.isMark "\x7d" = false := by
          simp_all [Token.isMark]
        rw [if_pos isOpening] at further
        exact opening others token rest closes further isOpening noClosing
          (inductionHypothesis _ further)
      · have noOpening := Bool.eq_false_of_not_eq_true isOpening
        rw [if_neg isOpening] at further
        by_cases isClosing : token.isMark "\x7d" = true
        · rw [if_pos isClosing, Bool.and_eq_true, bne_iff_ne] at further
          obtain ⟨fewer, rfl⟩ := Nat.exists_eq_succ_of_ne_zero further.1
          exact closing fewer token rest closes further.2 noOpening isClosing
            (inductionHypothesis _ further.2)
        · rw [if_neg isClosing] at further
          exact other others token rest closes further noOpening
            (Bool.eq_false_of_not_eq_true isClosing) (inductionHypothesis _ further)

/-! ### The tokens behind an opening brace -/

section Inside

variable {inside : List Token} {others : Nat} {closing : Token}

theorem Depth.behind_braces (brackets braces : Nat) (token : Token) :
    Depth.behind ⟨brackets, braces + 1⟩ token = ⟨brackets, bracesBehind (braces + 1) token⟩ := by
  simp [Depth.behind]

theorem Depth.ne_outside (brackets braces : Nat) :
    (⟨brackets, braces + 1⟩ : Depth) ≠ .outside := by
  simp [Depth.outside]

/-- A group ends with the brace that closes it. -/
theorem cutGroup_inside (closes : closesBraces others inside = true)
    (isClosing : closing.isMark "\x7d" = true) (rest : List Token) :
    cutGroup "\x7b" "\x7d" (others + 1) (inside ++ closing :: rest) = (inside, rest) := by
  induction others, inside, closes using closesBraces_induction with
  | nil _ => simp [cutGroup, isClosing]
  | opening others token tail _ _ isOpening noClosing inductionHypothesis =>
      simp [cutGroup, isOpening, noClosing, inductionHypothesis]
  | closing others token tail _ _ noOpening isClosing inductionHypothesis =>
      simp [cutGroup, isClosing, inductionHypothesis]
  | other others token tail _ _ noOpening noClosing inductionHypothesis =>
      simp [cutGroup, noOpening, noClosing, inductionHypothesis]

theorem cutGroup_past (closes : closesBraces others inside = true)
    (isClosing : closing.isMark "\x7d" = true) (depth : Nat) (rest : List Token) :
    cutGroup "\x7b" "\x7d" (depth + 1 + (others + 1)) (inside ++ closing :: rest) =
      (inside ++ closing :: (cutGroup "\x7b" "\x7d" (depth + 1) rest).1,
        (cutGroup "\x7b" "\x7d" (depth + 1) rest).2) := by
  induction others, inside, closes using closesBraces_induction with
  | nil _ => simp [cutGroup, isClosing]
  | opening others token tail _ _ isOpening noClosing inductionHypothesis =>
      rw [← Nat.add_assoc] at inductionHypothesis
      simp [cutGroup, isOpening, noClosing, inductionHypothesis]
  | closing others token tail _ _ noOpening isClosing inductionHypothesis =>
      rw [← Nat.add_assoc]
      simp [cutGroup, isClosing, inductionHypothesis]
  | other others token tail _ _ noOpening noClosing inductionHypothesis =>
      simp [cutGroup, noOpening, noClosing, inductionHypothesis]

theorem cutOutside_past (closes : closesBraces others inside = true)
    (isClosing : closing.isMark "\x7d" = true) (left right : String) (depth braces : Nat)
    (rest : List Token) :
    cutOutside left right depth (braces + others + 1) (inside ++ closing :: rest) =
      (inside ++ closing :: (cutOutside left right depth braces rest).1,
        (cutOutside left right depth braces rest).2) := by
  have noOpening : closing.isMark "\x7b" = false := by
    simp_all [Token.isMark]
  induction others, inside, closes using closesBraces_induction with
  | nil _ => simp [cutOutside, bracesBehind, isClosing, noOpening]
  | opening others token tail _ _ isOpening noClosing inductionHypothesis =>
      rw [← Nat.add_assoc] at inductionHypothesis
      simp [cutOutside, bracesBehind, isOpening, inductionHypothesis]
  | closing others token tail _ _ noOpening isClosing inductionHypothesis =>
      rw [← Nat.add_assoc]
      simp [cutOutside, bracesBehind, noOpening, isClosing, inductionHypothesis]
  | other others token tail _ _ noOpening noClosing inductionHypothesis =>
      simp [cutOutside, bracesBehind, noOpening, noClosing, inductionHypothesis]

theorem dropAngles_past (closes : closesBraces others inside = true)
    (isClosing : closing.isMark "\x7d" = true) (angles brackets braces : Nat)
    (rest : List Token) :
    dropAngles angles ⟨brackets, braces + others + 1⟩ (inside ++ closing :: rest) =
      dropAngles angles ⟨brackets, braces⟩ rest := by
  have noOpening : closing.isMark "\x7b" = false := by
    simp_all [Token.isMark]
  induction others, inside, closes using closesBraces_induction with
  | nil _ =>
      simp [dropAngles, Depth.ne_outside, Depth.behind_braces, bracesBehind, isClosing, noOpening]
  | opening others token tail _ _ isOpening noClosing inductionHypothesis =>
      rw [← Nat.add_assoc] at inductionHypothesis
      simp [dropAngles, Depth.ne_outside, Depth.behind_braces, bracesBehind, isOpening,
        inductionHypothesis]
  | closing others token tail _ _ noOpening isClosing inductionHypothesis =>
      rw [← Nat.add_assoc]
      simp [dropAngles, Depth.ne_outside, Depth.behind_braces, bracesBehind, noOpening, isClosing,
        inductionHypothesis]
  | other others token tail _ _ noOpening noClosing inductionHypothesis =>
      simp [dropAngles, Depth.ne_outside, Depth.behind_braces, bracesBehind, noOpening, noClosing,
        inductionHypothesis]

theorem dropUntil_past (closes : closesBraces others inside = true)
    (isClosing : closing.isMark "\x7d" = true) (stops : Token → Bool) (brackets braces : Nat)
    (rest : List Token) :
    dropUntil stops ⟨brackets, braces + others + 1⟩ (inside ++ closing :: rest) =
      dropUntil stops ⟨brackets, braces⟩ rest := by
  have noOpening : closing.isMark "\x7b" = false := by
    simp_all [Token.isMark]
  induction others, inside, closes using closesBraces_induction with
  | nil _ =>
      simp [dropUntil, Depth.ne_outside, Depth.behind_braces, bracesBehind, isClosing, noOpening]
  | opening others token tail _ _ isOpening noClosing inductionHypothesis =>
      rw [← Nat.add_assoc] at inductionHypothesis
      simp [dropUntil, Depth.ne_outside, Depth.behind_braces, bracesBehind, isOpening,
        inductionHypothesis]
  | closing others token tail _ _ noOpening isClosing inductionHypothesis =>
      rw [← Nat.add_assoc]
      simp [dropUntil, Depth.ne_outside, Depth.behind_braces, bracesBehind, noOpening, isClosing,
        inductionHypothesis]
  | other others token tail _ _ noOpening noClosing inductionHypothesis =>
      simp [dropUntil, Depth.ne_outside, Depth.behind_braces, bracesBehind, noOpening, noClosing,
        inductionHypothesis]

theorem cutEntry_past (closes : closesBraces others inside = true)
    (isClosing : closing.isMark "\x7d" = true) (angles brackets braces : Nat)
    (rest : List Token) :
    cutEntry angles ⟨brackets, braces + others + 1⟩ (inside ++ closing :: rest) =
      (inside ++ closing :: (cutEntry angles ⟨brackets, braces⟩ rest).1,
        (cutEntry angles ⟨brackets, braces⟩ rest).2) := by
  have noOpening : closing.isMark "\x7b" = false := by
    simp_all [Token.isMark]
  induction others, inside, closes using closesBraces_induction with
  | nil _ =>
      simp [cutEntry, Depth.ne_outside, Depth.behind_braces, bracesBehind, isClosing, noOpening]
  | opening others token tail _ _ isOpening noClosing inductionHypothesis =>
      rw [← Nat.add_assoc] at inductionHypothesis
      simp [cutEntry, Depth.ne_outside, Depth.behind_braces, bracesBehind, isOpening,
        inductionHypothesis]
  | closing others token tail _ _ noOpening isClosing inductionHypothesis =>
      rw [← Nat.add_assoc]
      simp [cutEntry, Depth.ne_outside, Depth.behind_braces, bracesBehind, noOpening, isClosing,
        inductionHypothesis]
  | other others token tail _ _ noOpening noClosing inductionHypothesis =>
      simp [cutEntry, Depth.ne_outside, Depth.behind_braces, bracesBehind, noOpening, noClosing,
        inductionHypothesis]

theorem closesBraces_past (closes : closesBraces others inside = true)
    (isClosing : closing.isMark "\x7d" = true) (depth : Nat) (rest : List Token) :
    closesBraces (depth + others + 1) (inside ++ closing :: rest) = closesBraces depth rest := by
  have noOpening : closing.isMark "\x7b" = false := by
    simp_all [Token.isMark]
  induction others, inside, closes using closesBraces_induction with
  | nil _ => simp [closesBraces, isClosing, noOpening]
  | opening others token tail _ _ isOpening noClosing inductionHypothesis =>
      rw [← Nat.add_assoc] at inductionHypothesis
      simp [closesBraces, isOpening, inductionHypothesis]
  | closing others token tail _ _ noOpening isClosing inductionHypothesis =>
      rw [← Nat.add_assoc]
      simp [closesBraces, noOpening, isClosing, inductionHypothesis]
  | other others token tail _ _ noOpening noClosing inductionHypothesis =>
      simp [closesBraces, noOpening, noClosing, inductionHypothesis]

end Inside

/-! ### Whole groups -/

/-- The braces belong together. -/
structure Encloses (opening : Token) (inside : List Token) (closing : Token) : Prop where
  isOpening : opening.isMark "\x7b" = true
  closes : closesBraces 0 inside = true
  isClosing : closing.isMark "\x7d" = true

namespace Encloses

variable {opening closing : Token} {inside : List Token}

theorem noOther (encloses : Encloses opening inside closing) (text : String)
    (differs : text ≠ "\x7b") : opening.isMark text = false := by
  have isText := (Bool.and_eq_true_iff.mp encloses.isOpening).2
  rw [Token.isMark, beq_iff_eq.mp isText, beq_false_of_ne differs.symm, Bool.and_false]

theorem depth_behind (encloses : Encloses opening inside closing) (depth : Depth) :
    depth.behind opening = ⟨depth.brackets, depth.braces + 0 + 1⟩ := by
  simp [Depth.behind, bracesBehind, encloses.isOpening]

theorem group? (encloses : Encloses opening inside closing) (rest : List Token) :
    Source.group? (opening :: (inside ++ closing :: rest)) = some (inside, rest) := by
  have isOpening := encloses.isOpening
  have cut := cutGroup_inside encloses.closes encloses.isClosing rest
  simp_all [Source.group?, closingMark?, Token.isMark]

theorem groupOf? (encloses : Encloses opening inside closing) (rest : List Token) :
    Source.groupOf? "\x7b" (opening :: (inside ++ closing :: rest)) = some (inside, rest) := by
  rw [Source.groupOf?, if_pos (by simp [encloses.isOpening]), encloses.group?]

theorem cutGroup (encloses : Encloses opening inside closing) (depth : Nat) (rest : List Token) :
    Source.cutGroup "\x7b" "\x7d" (depth + 1) (opening :: (inside ++ closing :: rest)) =
      (opening :: (inside ++ closing :: (Source.cutGroup "\x7b" "\x7d" (depth + 1) rest).1),
        (Source.cutGroup "\x7b" "\x7d" (depth + 1) rest).2) := by
  have past := cutGroup_past encloses.closes encloses.isClosing depth rest
  simp only [Nat.zero_add] at past
  simp [Source.cutGroup, encloses.isOpening, encloses.noOther, past]

theorem cutOutside (encloses : Encloses opening inside closing) {left right : String}
    (noLeft : left ≠ "\x7b") (noRight : right ≠ "\x7b") (depth braces : Nat) (rest : List Token) :
    Source.cutOutside left right depth braces (opening :: (inside ++ closing :: rest)) =
      (opening :: (inside ++ closing :: (Source.cutOutside left right depth braces rest).1),
        (Source.cutOutside left right depth braces rest).2) := by
  have past := cutOutside_past encloses.closes encloses.isClosing left right depth braces rest
  simp only [Nat.add_zero] at past
  simp [Source.cutOutside, bracesBehind, encloses.isOpening, encloses.noOther left noLeft,
    encloses.noOther right noRight, past]

theorem dropAngles (encloses : Encloses opening inside closing) (angles : Nat) (depth : Depth)
    (rest : List Token) :
    Source.dropAngles angles depth (opening :: (inside ++ closing :: rest)) =
      Source.dropAngles angles depth rest := by
  have past := dropAngles_past encloses.closes encloses.isClosing angles depth.brackets depth.braces
    rest
  simp [Source.dropAngles, encloses.noOther, encloses.depth_behind, past]

theorem dropUntil (encloses : Encloses opening inside closing) {stops : Token → Bool}
    (noStop : stops opening = false) (depth : Depth) (rest : List Token) :
    Source.dropUntil stops depth (opening :: (inside ++ closing :: rest)) =
      Source.dropUntil stops depth rest := by
  have past := dropUntil_past encloses.closes encloses.isClosing stops depth.brackets depth.braces
    rest
  simp [Source.dropUntil, noStop, encloses.depth_behind, past]

theorem cutEntry (encloses : Encloses opening inside closing) (angles : Nat) (depth : Depth)
    (rest : List Token) :
    Source.cutEntry angles depth (opening :: (inside ++ closing :: rest)) =
      (opening :: (inside ++ closing :: (Source.cutEntry angles depth rest).1),
        (Source.cutEntry angles depth rest).2) := by
  have past := cutEntry_past encloses.closes encloses.isClosing angles depth.brackets depth.braces
    rest
  simp [Source.cutEntry, encloses.noOther, encloses.depth_behind, past]

theorem closesBraces (encloses : Encloses opening inside closing) (depth : Nat)
    (rest : List Token) :
    Source.closesBraces depth (opening :: (inside ++ closing :: rest)) =
      Source.closesBraces depth rest := by
  have past := closesBraces_past encloses.closes encloses.isClosing depth rest
  rw [Nat.add_zero] at past
  rw [Source.closesBraces, if_pos encloses.isOpening, past]

end Encloses

end ForwardingProxy.Source
