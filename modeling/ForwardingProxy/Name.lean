/-!
Contract: qualified names, written as segments joined by `::`.

Owns: joining and extending names, their last segment, their parent, their cut into segments, and
the names of the types that are built in.

A name is kept as its text. Cutting from the left takes the leftmost `::` each time, while the last
segment and the parent are cut at the rightmost one.
-/

namespace ForwardingProxy.Name

/-- The segments with `::` between them. -/
def join (segments : List String) : String :=
  "::".intercalate segments

/-- The name of what `rest` denotes below `base`. -/
def extend (base : String) (rest : List String) : String :=
  if rest.isEmpty then base else base ++ "::" ++ join rest

/-- The pieces of a text between its leftmost separators; at least one. -/
def pieces : List Char → List (List Char)
  | [] => [[]]
  | ':' :: ':' :: rest => [] :: pieces rest
  | character :: rest =>
      match pieces rest with
      | [] => [[character]]
      | piece :: tail => (character :: piece) :: tail

/-- The segments of a name. -/
def segments (name : String) : List String :=
  (pieces name.toList).map String.ofList

/-- Cuts a reversed text at its first separator: what stands before it and what follows. -/
private def cutReversed : List Char → List Char × Option (List Char)
  | [] => ([], none)
  | ':' :: ':' :: rest => ([], some rest)
  | character :: rest =>
      let (before, after) := cutReversed rest
      (character :: before, after)

/-- The text after the rightmost `::`; the whole text when there is none. -/
def last (name : String) : String :=
  String.ofList (cutReversed name.toList.reverse).1.reverse

/-- The text before the rightmost `::`. -/
def parent? (name : String) : Option String :=
  (cutReversed name.toList.reverse).2.map fun before => String.ofList before.reverse

private theorem cutReversed_of_not_mem {piece : List Char} (noColon : ':' ∉ piece) :
    cutReversed piece = (piece, none) := by
  induction piece with
  | nil => rfl
  | cons character rest inductionHypothesis =>
      rw [List.mem_cons, not_or] at noColon
      rw [cutReversed, inductionHypothesis noColon.2]
      rintro _ rfl
      exact absurd rfl noColon.1

private theorem cutReversed_append {piece : List Char} (noColon : ':' ∉ piece)
    (rest : List Char) : cutReversed (piece ++ ':' :: ':' :: rest) = (piece, some rest) := by
  induction piece with
  | nil => rfl
  | cons character piece inductionHypothesis =>
      rw [List.mem_cons, not_or] at noColon
      rw [List.cons_append, cutReversed, inductionHypothesis noColon.2]
      rintro _ rfl
      exact absurd rfl noColon.1

private theorem cutReversed_join (before : List String) {segment : String}
    (noColon : ':' ∉ segment.toList) :
    cutReversed (join (before ++ [segment])).toList.reverse =
      (segment.toList.reverse,
        if before = [] then none else some (join before).toList.reverse) := by
  have noColonReversed : ':' ∉ segment.toList.reverse := by simpa using noColon
  by_cases alone : before = []
  · have isAlone : join (before ++ [segment]) = segment := by simp [join, alone]
    rw [isAlone, cutReversed_of_not_mem noColonReversed, if_pos alone]
  · have joined : join (before ++ [segment]) = join before ++ "::" ++ segment := by
      unfold join
      rw [String.intercalate_append_of_ne_nil alone (List.cons_ne_nil _ _),
        String.intercalate_singleton]
    have reversed : (join before ++ "::" ++ segment).toList.reverse =
        segment.toList.reverse ++ ':' :: ':' :: (join before).toList.reverse := by
      simp
    rw [joined, reversed, cutReversed_append noColonReversed, if_neg alone]

/-- The last of joined segments, if it has no colon. -/
theorem last_join (before : List String) {segment : String} (noColon : ':' ∉ segment.toList) :
    last (join (before ++ [segment])) = segment := by
  rw [last, cutReversed_join before noColon]
  simp

/-- What joined segments are below, if the last one has no colon; a single segment has no parent. -/
theorem parent?_join (before : List String) {segment : String} (noColon : ':' ∉ segment.toList) :
    parent? (join (before ++ [segment])) = if before = [] then none else some (join before) := by
  rw [parent?, cutReversed_join before noColon]
  by_cases alone : before = []
  · rw [if_pos alone, if_pos alone]
    rfl
  · rw [if_neg alone, if_neg alone]
    simp

/-- The names of the types of numbers. -/
def numericTypes : List String :=
  ["i8", "i16", "i32", "i64", "i128", "isize", "u8", "u16", "u32", "u64", "u128", "usize", "f32",
    "f64"]

/-- The names of the types that need no declaration and have no module. -/
def primitiveTypes : List String :=
  ["bool", "char", "str"] ++ numericTypes

end ForwardingProxy.Name
