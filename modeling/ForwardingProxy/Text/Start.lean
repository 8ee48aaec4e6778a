/-!
Contract: what follows a fixed beginning of a text.

Owns: `afterStart?`, over characters and strings, and when it finds something.
-/

namespace ForwardingProxy.Text

/-- The rest of the characters after `start`, when they begin with it. -/
def afterStartOf? : (start characters : List Char) → Option (List Char)
  | [], characters => some characters
  | _ :: _, [] => none
  | expected :: start, character :: characters =>
      if expected = character then afterStartOf? start characters else none

/-- `afterStartOf?` on strings. -/
def afterStart? (start text : String) : Option String :=
  (afterStartOf? start.toList text.toList).map String.ofList

theorem afterStartOf?_eq_some {start characters rest : List Char} :
    afterStartOf? start characters = some rest ↔ characters = start ++ rest := by
  induction start generalizing characters with
  | nil => simp [afterStartOf?]
  | cons expected start inductionHypothesis =>
      cases characters with
      | nil => simp [afterStartOf?]
      | cons character characters =>
          by_cases same : expected = character
          · simp [afterStartOf?, same, inductionHypothesis]
          · simp [afterStartOf?, same, Ne.symm same]

theorem afterStart?_eq_some {start text rest : String} :
    afterStart? start text = some rest ↔ text = start ++ rest := by
  simp only [afterStart?, Option.map_eq_some_iff, afterStartOf?_eq_some]
  constructor
  · rintro ⟨characters, isText, rfl⟩
    rw [← String.ofList_toList (s := text), isText]
    simp
  · rintro rfl
    exact ⟨rest.toList, by simp, by simp⟩

end ForwardingProxy.Text
