import ForwardingProxy.Proofs.Layout
import ForwardingProxy.Proofs.Text.StringLiteral
import ForwardingProxy.Text.Start
import Mathlib.Algebra.BigOperators.Group.List.Basic

/-!
Contract: readers of a text that go line by line.

Owns: `LineReader`, which takes a line apart from the left, `Reader`, which takes whole lines from
the top, and for each of their steps the law that it reads what is written for it.
-/

namespace ForwardingProxy.Text

/-! ### Reading a line -/

/-- Reads the characters of a line from the left. -/
abbrev LineReader (α : Type) := StateT (List Char) Option α

/-- A text that has to stand there. -/
def expect (fixed : String) : LineReader Unit := fun characters =>
  (afterStartOf? fixed.toList characters).map fun rest => ((), rest)

/-- All characters of that kind, of which there has to be one. -/
def readWhile (allowed : Char → Bool) : LineReader String := fun characters =>
  let name := characters.takeWhile allowed
  if name.isEmpty then none
  else some (String.ofList name, characters.dropWhile allowed)

/-- The text of a string literal. -/
def readQuoted : LineReader String := do
  expect "\""
  fun characters => (readLiteral .plain characters).map (Prod.map String.ofList id)

/-- A name of such characters between two fixed texts. -/
def readBetween (allowed : Char → Bool) (start ending : String) : LineReader String := do
  expect start
  let name ← readWhile allowed
  expect ending
  pure name

/-- A whole line. -/
def wholeLine? {α : Type} (reader : LineReader α) (line : List Char) : Option α :=
  match reader line with
  | some (value, []) => some value
  | _ => none

/-- A step that succeeds hands its value and what is left to the next one. -/
theorem read_bind {σ α β : Type} {first : StateT σ Option α} {next : α → StateT σ Option β}
    {state rest : σ} {value : α} (read : first state = some (value, rest)) :
    (first >>= next) state = next value rest := by
  show first state >>= (fun answer => next answer.1 answer.2) = _
  rw [read]
  rfl

theorem read_bind_none {σ α β : Type} {first : StateT σ Option α} {next : α → StateT σ Option β}
    {state : σ} (unread : first state = none) : (first >>= next) state = none := by
  show first state >>= (fun answer => next answer.1 answer.2) = _
  rw [unread]
  rfl

theorem expect_append (fixed : String) (rest : List Char) :
    expect fixed (fixed.toList ++ rest) = some ((), rest) := by
  rw [expect, afterStartOf?_eq_some.mpr rfl]
  rfl

/-- A name is read up to a text that begins with a character of another kind. -/
theorem readWhile_append {allowed : Char → Bool} {name fixed : String} (notEmpty : name ≠ "")
    (inside : ∀ character ∈ name.toList, allowed character = true)
    (stops : fixed.toList.head?.map allowed = some false) (rest : List Char) :
    readWhile allowed (name.toList ++ (fixed.toList ++ rest)) =
      some (name, fixed.toList ++ rest) := by
  obtain ⟨mark, ending, isFixed⟩ : ∃ mark ending, fixed.toList = mark :: ending := by
    cases isFixed : fixed.toList with
    | nil =>
        rw [isFixed] at stops
        cases stops
    | cons mark ending => exact ⟨mark, ending, rfl⟩
  rw [isFixed] at stops ⊢
  have isMark : ¬allowed mark = true := by
    rw [Option.some.inj stops]
    decide
  have taken : (name.toList ++ (mark :: ending ++ rest)).takeWhile allowed = name.toList := by
    rw [List.takeWhile_append_of_pos inside, List.cons_append, List.takeWhile_cons_of_neg isMark,
      List.append_nil]
  have left : (name.toList ++ (mark :: ending ++ rest)).dropWhile allowed =
      mark :: ending ++ rest := by
    rw [List.dropWhile_append_of_pos inside, List.cons_append, List.dropWhile_cons_of_neg isMark]
  have isName : name.toList.isEmpty = false := by simpa using notEmpty
  rw [readWhile, taken, left, isName, String.ofList_toList]
  rfl

theorem readQuoted_append (text : String) (rest : List Char) :
    readQuoted ((quoted text).toList ++ rest) = some (text, rest) := by
  have isQuoted : (quoted text).toList ++ rest =
      "\"".toList ++ (text.toList.flatMap quotedCharacter ++ '"' :: rest) := by
    rw [quoted, quotedOf, String.toList_ofList]
    simp
  rw [isQuoted, readQuoted, read_bind (expect_append _ _), readLiteral_quoted]
  simp

/-! ### Reading lists in a line -/

/-- Pieces that are not empty are no more than what they make up. -/
theorem length_le_length_flatMap {α β : Type} {inputs : List α} (pieces : α → List β)
    (notEmpty : ∀ input ∈ inputs, pieces input ≠ []) :
    inputs.length ≤ (inputs.flatMap pieces).length := by
  induction inputs with
  | nil => exact Nat.zero_le _
  | cons input inputs inductionHypothesis =>
      have fewer := inductionHypothesis fun other later =>
        notEmpty other (List.mem_cons_of_mem input later)
      have some := List.length_pos_iff.mpr (notEmpty input List.mem_cons_self)
      rw [List.flatMap_cons, List.length_append, List.length_cons]
      omega

/-- Items that stand behind a separator each, at most as many as the number says. -/
def readMore {α : Type} (separator : String) (item : LineReader α) :
    (most : Nat) → (characters : List Char) → List α × List Char
  | 0, characters => ([], characters)
  | most + 1, characters =>
      match (do expect separator; item : LineReader α) characters with
      | none => ([], characters)
      | some (value, rest) => Prod.map (value :: ·) id (readMore separator item most rest)

/-- Items with the separator between each two, for as long as there are any. -/
def readList {α : Type} (separator : String) (item : LineReader α) : LineReader (List α) :=
  fun characters =>
    match item characters with
    | none => some ([], characters)
    | some (value, rest) =>
        some (Prod.map (value :: ·) id (readMore separator item rest.length rest))

theorem toList_intercalate_cons (separator first : String) (others : List String) :
    (separator.intercalate (first :: others)).toList =
      first.toList ++ others.flatMap fun text => separator.toList ++ text.toList := by
  induction others generalizing first with
  | nil => simp
  | cons second others inductionHypothesis =>
      rw [String.intercalate_cons_cons, String.toList_append, inductionHypothesis]
      simp

section Lists

variable {α β : Type} {separator : String} {item : LineReader α} {inputs : List β}
  {written : β → String} {value : β → α} {rest : List Char}

theorem readMore_flatMap {most : Nat}
    (reads : ∀ input ∈ inputs, ∀ more,
      item ((written input).toList ++ more) = some (value input, more))
    (ends : expect separator rest = none) (enough : inputs.length ≤ most) :
    readMore separator item most
        (inputs.flatMap (fun input => separator.toList ++ (written input).toList) ++ rest) =
      (inputs.map value, rest) := by
  induction inputs generalizing most with
  | nil =>
      cases most with
      | zero => rfl
      | succ most =>
          rw [List.flatMap_nil, List.nil_append, readMore, read_bind_none ends]
          rfl
  | cons input inputs inductionHypothesis =>
      cases most with
      | zero => cases enough
      | succ most =>
          have readsRest := fun other later => reads other (List.mem_cons_of_mem input later)
          rw [List.flatMap_cons, List.append_assoc, List.append_assoc, readMore,
            read_bind (expect_append _ _), reads input List.mem_cons_self]
          show Prod.map (value input :: ·) id (readMore separator item most _) = _
          rw [inductionHypothesis readsRest (Nat.le_of_succ_le_succ enough)]
          rfl

/-- A list is read with all its items, if what follows it is neither an item nor a separator. -/
theorem readList_append
    (reads : ∀ input ∈ inputs, ∀ more,
      item ((written input).toList ++ more) = some (value input, more))
    (stops : item rest = none) (ends : expect separator rest = none) :
    readList separator item ((separator.intercalate (inputs.map written)).toList ++ rest) =
      some (inputs.map value, rest) := by
  cases inputs with
  | nil =>
      rw [List.map_nil, String.intercalate_nil, String.toList_empty, List.nil_append, readList,
        stops]
      rfl
  | cons input inputs =>
      have readsRest := fun other later => reads other (List.mem_cons_of_mem input later)
      -- an empty separator would stand before `rest`, too
      have notEmpty : separator.toList ≠ [] := by
        intro isEmpty
        have readAnyway := expect_append separator rest
        rw [isEmpty, List.nil_append, ends] at readAnyway
        cases readAnyway
      have enough : inputs.length ≤ (inputs.flatMap
          (fun input => separator.toList ++ (written input).toList) ++ rest).length := by
        have someText : ∀ input ∈ inputs, separator.toList ++ (written input).toList ≠ [] := by
          simp [notEmpty]
        have atMost := length_le_length_flatMap _ someText
        rw [List.length_append]
        omega
      rw [List.map_cons, toList_intercalate_cons, List.flatMap_map, List.append_assoc, readList,
        reads input List.mem_cons_self]
      show some (Prod.map (value input :: ·) id (readMore separator item _ _)) = _
      rw [readMore_flatMap readsRest ends enough]
      rfl

end Lists

theorem isOneLine_quoted (text : String) : IsOneLine (quoted text) :=
  isOneLine_ofList (newline_not_mem_quotedOf text.toList)

theorem isOneLine_intercalate {separator : String} (between : IsOneLine separator)
    {texts : List String} (each : ∀ text ∈ texts, IsOneLine text) :
    IsOneLine (separator.intercalate texts) := by
  cases texts with
  | nil => exact List.not_mem_nil
  | cons first others =>
      rw [IsOneLine, toList_intercalate_cons, List.mem_append, List.mem_flatMap]
      rintro (inFirst | ⟨text, isText, inside⟩)
      · exact each first List.mem_cons_self inFirst
      · rcases List.mem_append.mp inside with inSeparator | inText
        · exact between inSeparator
        · exact each text (List.mem_cons_of_mem first isText) inText

theorem wholeLine?_of_unread {α : Type} {reader : LineReader α} {line : List Char}
    (unread : reader line = none) : wholeLine? reader line = none := by
  rw [wholeLine?, unread]

theorem wholeLine?_of_read {α : Type} {reader : LineReader α} {line : List Char} {value : α}
    (read : reader line = some (value, [])) : wholeLine? reader line = some value := by
  rw [wholeLine?, read]

theorem wholeLine?_readBetween {allowed : Char → Bool} {name ending : String}
    (notEmpty : name ≠ "") (inside : ∀ character ∈ name.toList, allowed character = true)
    (stops : ending.toList.head?.map allowed = some false) (start : String) :
    wholeLine? (readBetween allowed start ending) (start ++ (name ++ ending)).toList =
      some name := by
  have isLine : (start ++ (name ++ ending)).toList =
      start.toList ++ (name.toList ++ (ending.toList ++ [])) := by
    simp only [String.toList_append, List.append_nil]
  apply wholeLine?_of_read
  rw [isLine, readBetween, read_bind (expect_append _ _),
    read_bind (readWhile_append notEmpty inside stops _), read_bind (expect_append _ _)]
  rfl

/-! ### Reading lines -/

/-- Reads the lines of a text from the top. -/
abbrev Reader (α : Type) := StateT (List (List Char)) Option α

/-- Goes on behind the next line that reads so. -/
def skipPast (heading : String) : Reader Unit := fun lines =>
  match lines.dropWhile fun line => line != heading.toList with
  | [] => none
  | _ :: rest => some ((), rest)

/-- A line that has to read so. -/
def expectLine (fixed : String) : Reader Unit
  | [] => none
  | line :: rest => if line = fixed.toList then some ((), rest) else none

/-- Lines that have to read so, one after the other. -/
def expectLines : List String → Reader Unit
  | [] => pure ()
  | line :: rest => do
      expectLine line
      expectLines rest

/-- One line of that form. -/
def row {α : Type} (reader : LineReader α) : Reader α
  | [] => none
  | line :: rest => (wholeLine? reader line).map fun value => (value, rest)

/-- As many pieces as there are, at most as many as the number says. -/
def many {α : Type} (piece : Reader α) : Nat → List (List Char) → List α × List (List Char)
  | 0, lines => ([], lines)
  | most + 1, lines =>
      match piece lines with
      | none => ([], lines)
      | some (value, rest) => Prod.map (value :: ·) id (many piece most rest)

/-- Pieces for as long as there are any; each takes a line away at least. -/
def pieces {α : Type} (piece : Reader α) : Reader (List α) := fun lines =>
  some (many piece lines.length lines)

/-- The rows of a table with its heading and its closing line. -/
def table {α : Type} (heading closing : String) (reader : LineReader α) : Reader (List α) := do
  skipPast heading
  let rows ← pieces (row reader)
  expectLine closing
  pure rows


theorem skipPast_append {heading : String} {before : List String} (notBefore : heading ∉ before)
    (after : List String) (rest : List (List Char)) :
    skipPast heading ((before ++ heading :: after).map String.toList ++ rest) =
      some ((), after.map String.toList ++ rest) := by
  have others : ∀ line ∈ before.map String.toList, (line != heading.toList) = true := by
    intro line isBefore
    obtain ⟨text, inBefore, rfl⟩ := List.mem_map.mp isBefore
    rw [bne_iff_ne, Ne, String.toList_inj]
    rintro rfl
    exact notBefore inBefore
  have atHeading : (heading.toList :: (after.map String.toList ++ rest)).dropWhile
      (fun line => line != heading.toList) =
        heading.toList :: (after.map String.toList ++ rest) := by
    rw [List.dropWhile_cons_of_neg]
    simp
  rw [skipPast, List.map_append, List.append_assoc, List.dropWhile_append_of_pos others,
    List.map_cons, List.cons_append, atHeading]

theorem expectLine_cons (fixed : String) (rest : List (List Char)) :
    expectLine fixed (fixed.toList :: rest) = some ((), rest) :=
  if_pos rfl

theorem expectLines_append (fixed : List String) (rest : List (List Char)) :
    expectLines fixed (fixed.map String.toList ++ rest) = some ((), rest) := by
  induction fixed with
  | nil => rfl
  | cons line fixed inductionHypothesis =>
      rw [expectLines, List.map_cons, List.cons_append, read_bind (expectLine_cons _ _),
        inductionHypothesis]

theorem row_cons {α : Type} {reader : LineReader α} {line : List Char} {value : α}
    (read : wholeLine? reader line = some value) (rest : List (List Char)) :
    row reader (line :: rest) = some (value, rest) := by
  rw [row, read]
  rfl

theorem row_cons_none {α : Type} {reader : LineReader α} {line : List Char}
    (unread : wholeLine? reader line = none) (rest : List (List Char)) :
    row reader (line :: rest) = none := by
  rw [row, unread]
  rfl

section Pieces

variable {α β : Type} {piece : Reader α} {inputs : List β} {written : β → List String}
  {value : β → α} {rest : List (List Char)}

theorem many_flatMap {most : Nat}
    (reads : ∀ input ∈ inputs, ∀ more,
      piece ((written input).map String.toList ++ more) = some (value input, more))
    (stops : piece rest = none) (enough : inputs.length ≤ most) :
    many piece most ((inputs.flatMap written).map String.toList ++ rest) =
      (inputs.map value, rest) := by
  induction inputs generalizing most with
  | nil =>
      cases most with
      | zero => rfl
      | succ most =>
          show many piece (most + 1) rest = _
          rw [many, stops]
          rfl
  | cons input inputs inductionHypothesis =>
      cases most with
      | zero => cases enough
      | succ most =>
          have readsRest := fun other later => reads other (List.mem_cons_of_mem input later)
          rw [List.flatMap_cons, List.map_append, List.append_assoc, many,
            reads input List.mem_cons_self]
          show Prod.map (value input :: ·) id (many piece most _) = _
          rw [inductionHypothesis readsRest (Nat.le_of_succ_le_succ enough)]
          rfl

/-- All pieces are read that are written, if what follows them is none. -/
theorem pieces_flatMap
    (reads : ∀ input ∈ inputs, ∀ more,
      piece ((written input).map String.toList ++ more) = some (value input, more))
    (stops : piece rest = none) :
    pieces piece ((inputs.flatMap written).map String.toList ++ rest) =
      some (inputs.map value, rest) := by
  -- a piece without lines would be read off `rest`, too
  have someLine : ∀ input ∈ inputs, written input ≠ [] := by
    intro input isInput isWritten
    have read := reads input isInput rest
    rw [isWritten, List.map_nil, List.nil_append, stops] at read
    cases read
  have enough : inputs.length ≤ ((inputs.flatMap written).map String.toList ++ rest).length := by
    have atMost := length_le_length_flatMap written someLine
    rw [List.length_append, List.length_map]
    omega
  rw [pieces, many_flatMap reads stops enough]

end Pieces

/-- A table is read with all its rows, whatever stands before its heading. -/
theorem table_read {α β : Type} {heading closing : String} {reader : LineReader α}
    {inputs : List β} {line : β → String} {value : β → α} {before : List String}
    (notBefore : heading ∉ before)
    (reads : ∀ input ∈ inputs, wholeLine? reader (line input).toList = some (value input))
    (stops : wholeLine? reader closing.toList = none) (rest : List (List Char)) :
    table heading closing reader
        ((before ++ heading :: (inputs.map line ++ [closing])).map String.toList ++ rest) =
      some (inputs.map value, rest) := by
  have rowsRead : pieces (row reader)
      ((inputs.flatMap fun input => [line input]).map String.toList ++ closing.toList :: rest) =
        some (inputs.map value, closing.toList :: rest) := by
    apply pieces_flatMap
    · intro input isInput more
      exact row_cons (reads input isInput) more
    · exact row_cons_none stops rest
  have isText : (inputs.map line ++ [closing]).map String.toList ++ rest =
      (inputs.flatMap fun input => [line input]).map String.toList ++ closing.toList :: rest := by
    rw [← List.map_eq_flatMap]
    simp
  rw [table, read_bind (skipPast_append notBefore _ _), isText, read_bind rowsRead,
    read_bind (expectLine_cons _ _)]
  rfl

/-- The lines of a table are lines if its rows are. -/
theorem isOneLine_of_mem_table {α : Type} {before : List String} {heading closing : String}
    {inputs : List α} {row : α → String}
    (fixed : (before ++ [heading, closing]).Forall IsOneLine)
    (rows : ∀ input ∈ inputs, IsOneLine (row input)) :
    ∀ line ∈ before ++ heading :: (inputs.map row ++ [closing]), IsOneLine line := by
  rw [List.forall_iff_forall_mem] at fixed
  simp only [List.forall_mem_append, List.forall_mem_cons, List.forall_mem_map] at fixed ⊢
  exact ⟨fixed.1, fixed.2.1, rows, fixed.2.2⟩

end ForwardingProxy.Text
