import Mathlib.Data.List.Basic

/-!
Contract: lists of keys with their values.

Owns: the look-up in a list where some keys are left out, and in one where the value of a key was
replaced. Trees of files and scopes keep their entries in such lists, and both replace an entry by
leaving it out and adding the new one behind the others.
-/

namespace ForwardingProxy

variable {α β : Type} [BEq α] [LawfulBEq α] [DecidableEq α]

/-- The keys that are kept have the values that they had. -/
theorem lookup_filter_key (entries : List (α × β)) (keep : α → Bool) (key : α) :
    (entries.filter fun entry => keep entry.1).lookup key =
      if keep key then entries.lookup key else none := by
  induction entries with
  | nil => simp
  | cons entry rest inductionHypothesis =>
      obtain ⟨entryKey, value⟩ := entry
      rw [List.filter_cons, List.lookup_cons]
      by_cases same : key = entryKey
      · subst same
        cases kept : keep key with
        | true => simp
        | false => simp [inductionHypothesis, kept]
      · have differs : (key == entryKey) = false := beq_false_of_ne same
        cases keep entryKey with
        | true => simp [List.lookup_cons, differs, inductionHypothesis]
        | false => simp [differs, inductionHypothesis]

/-- Where the value of a key was replaced, that key has the new value and every other its own. -/
theorem lookup_replaced (entries : List (α × β)) (key other : α) (value : β) :
    ((entries.filter fun entry => entry.1 != key) ++ [(key, value)]).lookup other =
      if other = key then some value else entries.lookup other := by
  have kept := lookup_filter_key entries (· != key) other
  rw [List.lookup_append, kept]
  by_cases same : other = key
  · subst same
    simp
  · have unlisted : [(key, value)].lookup other = none := by
      rw [List.lookup_cons, beq_false_of_ne same]
      rfl
    rw [if_pos (by simpa using same), if_neg same, unlisted, Option.or_none]

end ForwardingProxy
