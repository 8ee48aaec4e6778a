import ForwardingProxy.Json.Record
import ForwardingProxy.Proofs.Json.Literals
import Mathlib

/-!
Contract: reading back JSON values from their indented text.

Owns: the values that fit a shape, the bytes of their indented text, and the fact that a value that
fits a shape is read back from its text against that shape.
-/

namespace ForwardingProxy.Json

/-- The value is one that the shape asks for; a record may lack any of its fields. -/
inductive Fits : Shape → Value → Prop where
  | text (expected value : String) : Fits (.text expected) (.text value)
  | list {element : Shape} {elements : List Value}
      (each : ∀ value ∈ elements, Fits element value) : Fits (.list element) (.list elements)
  | record (expected : String) {shapes : List (String × Shape)} {fields : List (String × Value)}
      (distinct : (fields.map Prod.fst).Nodup)
      (known : ∀ field ∈ fields, (shapes.lookup field.1).isSome)
      (each : ∀ field ∈ fields, ∀ shape, shapes.lookup field.1 = some shape →
        Fits shape field.2) :
      Fits (.record expected shapes) (.object fields)

/-! ### Indented texts -/

/-- The bytes of pieces on lines of their own, with a comma before each that is not the first. -/
def linesOf (depth : Nat) : (first : Bool) → List String → List UInt8
  | _, [] => []
  | first, piece :: pieces =>
      (if first then [] else [44]) ++ (bytesOf (newLine depth) ++
        (bytesOf piece ++ linesOf depth false pieces))

theorem bytesOf_intercalate (depth : Nat) (piece : String) (pieces : List String) :
    bytesOf (newLine depth ++ ("," ++ newLine depth).intercalate (piece :: pieces)) =
      linesOf depth true (piece :: pieces) := by
  induction pieces generalizing piece with
  | nil =>
      rw [String.intercalate_singleton, bytesOf_append]
      simp [linesOf]
  | cons next pieces inductionHypothesis =>
      have others := inductionHypothesis next
      rw [bytesOf_append] at others
      rw [String.intercalate_cons_cons]
      simp only [bytesOf_append, linesOf] at others ⊢
      simp only [if_true, List.nil_append, Bool.false_eq_true, if_false] at others ⊢
      rw [List.append_cancel_left_eq] at others
      rw [others, show bytesOf "," = [44] from by rw [bytesOf_eq]; rfl]
      simp only [List.append_assoc]

/-- The bytes of pieces between two brackets. -/
theorem bytesOf_bracketed (opening closing : String) (depth : Nat) (pieces : List String) :
    bytesOf (bracketed opening closing depth pieces) =
      bytesOf opening ++ (linesOf (depth + 1) true pieces ++
        ((if pieces.isEmpty then [] else bytesOf (newLine depth)) ++ bytesOf closing)) := by
  cases pieces with
  | nil => simp [bracketed, linesOf, bytesOf_append]
  | cons piece pieces =>
      rw [← bytesOf_intercalate]
      simp [bracketed, bytesOf_append]

theorem isBlank_newLine (depth : Nat) : ∀ byte ∈ bytesOf (newLine depth), Reader.IsBlank byte := by
  intro byte isByte
  have isByte : byte = 10 ∨ byte = 32 := by
    rw [newLine, bytesOf_ofList] at isByte
    simp only [List.flatMap_cons, List.mem_append, List.mem_flatMap, List.mem_replicate] at isByte
    rcases isByte with isLineEnd | ⟨space, ⟨_, rfl⟩, isSpace⟩
    · exact .inl (List.mem_singleton.mp isLineEnd)
    · exact .inr (List.mem_singleton.mp isSpace)
  rcases isByte with rfl | rfl <;> decide

theorem isBlank_closing (depth : Nat) (pieces : List String) :
    ∀ byte ∈ if pieces.isEmpty then [] else bytesOf (newLine depth), Reader.IsBlank byte := by
  split
  · simp
  · exact isBlank_newLine depth

/-- How the text of a value that fits a shape begins. -/
theorem Fits.bytesOf_prettyAt {shape : Shape} {value : Value} (fits : Fits shape value)
    (depth : Nat) : ∃ byte bytes, bytesOf (value.prettyAt depth) = byte :: bytes ∧
      (byte = 34 ∨ byte = 91 ∨ byte = 123) := by
  cases fits with
  | text expected text =>
      rw [Value.prettyAt, bytesOf_literal]
      exact ⟨34, _, rfl, .inl rfl⟩
  | list each =>
      rw [Value.prettyAt, bytesOf_bracketed, bytesOf_eq "["]
      exact ⟨91, _, rfl, .inr (.inl rfl)⟩
  | record expected distinct known each =>
      rw [Value.prettyAt, bytesOf_bracketed, bytesOf_eq "\x7b"]
      exact ⟨123, _, rfl, .inr (.inr rfl)⟩

namespace Reader

variable {blanks left : List UInt8}

/-! ### Brackets, commas and colons -/

theorem takes_nextElement_closing (first : Bool) (areBlank : ∀ byte ∈ blanks, IsBlank byte) :
    Takes (nextElement first) (blanks ++ 93 :: left) (93 :: left) false :=
  (takes_peekPastBlanks areBlank (by decide) left).bind (Takes.pure false _)

theorem takes_nextElement (first : Bool) (areBlank : ∀ byte ∈ blanks, IsBlank byte) {byte : UInt8}
    (opens : byte = 34 ∨ byte = 91 ∨ byte = 123) :
    Takes (nextElement first) ((if first then [] else [44]) ++ (blanks ++ byte :: left))
      (byte :: left) true := by
  have notBlank : ¬IsBlank byte := by
    rcases opens with rfl | rfl | rfl <;> decide
  have isNext := takes_peekPastBlanks areBlank notBlank left
  cases first with
  | true =>
      refine isNext.bind ?_
      rcases opens with rfl | rfl | rfl <;> exact Takes.pure true _
  | false =>
      have comma := takes_peek (show ¬IsBlank 44 by decide)
        (blanks ++ byte :: left)
      refine comma.bind ((takes_advance 44 _).bind (isNext.bind ?_))
      rcases opens with rfl | rfl | rfl <;> exact Takes.pure true _

theorem takes_closeList : Takes closeList (93 :: left) left () :=
  (takes_peek (show ¬IsBlank 93 by decide) left).bind
    (takes_advance 93 left)

theorem takes_nextKey_closing (first : Bool) (areBlank : ∀ byte ∈ blanks, IsBlank byte) :
    Takes (nextKey first) (blanks ++ 125 :: left) (125 :: left) false :=
  (takes_peekPastBlanks areBlank (by decide) left).bind (Takes.pure false _)

theorem takes_nextKey (first : Bool) (areBlank : ∀ byte ∈ blanks, IsBlank byte) :
    Takes (nextKey first) ((if first then [] else [44]) ++ (blanks ++ 34 :: left)) left true := by
  have isNext := takes_peekPastBlanks areBlank (show ¬IsBlank 34 by decide) left
  cases first with
  | true => exact isNext.bind ((takes_advance 34 left).bind (Takes.pure true left))
  | false =>
      have comma := takes_peek (show ¬IsBlank 44 by decide)
        (blanks ++ 34 :: left)
      exact comma.bind ((takes_advance 44 _).bind
        (isNext.bind ((takes_advance 34 left).bind (Takes.pure true left))))

theorem takes_takeColon : Takes takeColon (58 :: left) left () :=
  (takes_peek (show ¬IsBlank 58 by decide) left).bind
    (takes_advance 58 left)

/-! ### Values -/

/-- With enough fuel for its text, the value is read back wherever and however deep it stands. -/
def IsReadBack (shape : Shape) (value : Value) : Prop :=
  ∀ depth fuel blanks, (∀ byte ∈ blanks, IsBlank byte) →
    (bytesOf (value.prettyAt depth)).length ≤ fuel →
      Takes (readShape fuel shape) (blanks ++ bytesOf (value.prettyAt depth)) [] value

theorem isReadBack_text (expected text : String) : IsReadBack (.text expected) (.text text) := by
  intro depth fuel blanks areBlank enough
  rw [Value.prettyAt, bytesOf_literal] at enough ⊢
  cases fuel with
  | zero => exact absurd enough (by simp)
  | succ fuel =>
      rw [readShape]
      refine (takes_peekPastBlanks areBlank (by decide) _).bind ?_
      refine (takes_advance 34 _).bind ?_
      exact (takes_readLiteral text []).bind (Takes.pure (Value.text text) [])

/-- Elements on lines of their own are read up to the bracket that closes their list. -/
theorem takes_readElements {element : Shape} {depth : Nat} {elements : List Value}
    (fit : ∀ value ∈ elements, Fits element value)
    (each : ∀ value ∈ elements, IsReadBack element value)
    (areBlank : ∀ byte ∈ blanks, IsBlank byte) (first : Bool) (fuel : Nat)
    (enough : (linesOf depth first (prettyElements depth elements) ++
      (blanks ++ 93 :: left)).length ≤ fuel) :
    Takes (readElements fuel element first)
      (linesOf depth first (prettyElements depth elements) ++ (blanks ++ 93 :: left))
      (93 :: left) elements := by
  induction elements generalizing first fuel with
  | nil =>
      cases fuel with
      | zero => exact absurd enough (by simp [prettyElements, linesOf])
      | succ fuel =>
          rw [readElements]
          exact (takes_nextElement_closing first areBlank).bind (Takes.pure [] _)
  | cons value elements inductionHypothesis =>
      rw [prettyElements, linesOf] at enough ⊢
      obtain ⟨byte, bytes, isText, opens⟩ :=
        (fit value List.mem_cons_self).bytesOf_prettyAt depth
      have isRead := each value List.mem_cons_self depth
      have others := inductionHypothesis
        (fun other isMember => fit other (List.mem_cons_of_mem value isMember))
        (fun other isMember => each other (List.mem_cons_of_mem value isMember)) false
      rw [isText] at isRead enough ⊢
      simp only [List.length_append, List.length_cons] at enough others
      cases fuel with
      | zero => omega
      | succ fuel =>
          rw [readElements]
          simp only [List.append_assoc, List.cons_append]
          refine (takes_nextElement first (isBlank_newLine depth) opens).bind ?_
          have isValue := (isRead fuel [] (by simp) (by simp only [List.length_cons]; omega)).append
            (linesOf depth false (prettyElements depth elements) ++ (blanks ++ 93 :: left))
          refine isValue.bind ?_
          exact (others fuel (by omega)).bind (Takes.pure (value :: elements) _)

theorem bytesOf_field (key : String) (value : String) :
    bytesOf (literal key ++ ": " ++ value) =
      34 :: (writtenIn key ++ 34 :: 58 :: 32 :: bytesOf value) := by
  rw [bytesOf_append, bytesOf_append, bytesOf_literal, bytesOf_eq ": "]
  simp only [List.append_assoc, List.cons_append]
  rfl

theorem lookup_of_nodup {known fields : List (String × Value)} {key : String} {value : Value}
    (distinct : ((known ++ (key, value) :: fields).map Prod.fst).Nodup) :
    (known.lookup key).isSome = false := by
  rw [Option.isSome_eq_false_iff, Option.isNone_iff_eq_none, List.lookup_eq_none_iff]
  intro earlier isEarlier
  rw [List.map_append, List.nodup_append] at distinct
  have differs := distinct.2.2 earlier.1 (List.mem_map_of_mem isEarlier) key (by simp)
  simpa using differs.symm

/-- Fields on lines of their own are read up to the bracket that closes their object. -/
theorem takes_readMembers {shapes : List (String × Shape)} {depth : Nat}
    (known : List (String × Value)) {fields : List (String × Value)}
    (distinct : ((known ++ fields).map Prod.fst).Nodup)
    (areKnown : ∀ field ∈ fields, (shapes.lookup field.1).isSome)
    (each : ∀ field ∈ fields, ∀ shape, shapes.lookup field.1 = some shape →
      IsReadBack shape field.2)
    (areBlank : ∀ byte ∈ blanks, IsBlank byte) (first : Bool) (fuel : Nat)
    (enough : (linesOf depth first (prettyFields depth fields) ++
      (blanks ++ 125 :: left)).length ≤ fuel) :
    Takes (readMembers fuel shapes known first)
      (linesOf depth first (prettyFields depth fields) ++ (blanks ++ 125 :: left))
      (125 :: left) (known ++ fields) := by
  induction fields generalizing known first fuel with
  | nil =>
      cases fuel with
      | zero => exact absurd enough (by simp [prettyFields, linesOf])
      | succ fuel =>
          rw [readMembers, List.append_nil]
          exact (takes_nextKey_closing first areBlank).bind (Takes.pure known _)
  | cons field fields inductionHypothesis =>
      obtain ⟨key, value⟩ := field
      obtain ⟨shape, isShape⟩ := Option.isSome_iff_exists.mp (areKnown _ List.mem_cons_self)
      have isRead : IsReadBack shape value := each _ List.mem_cons_self shape isShape
      have isSpace : ∀ byte ∈ [(32 : UInt8)], IsBlank byte := by
        intro byte isByte
        rw [List.mem_singleton.mp isByte]
        decide
      have isNew := lookup_of_nodup distinct
      have others := inductionHypothesis (known ++ [(key, value)])
        (by rwa [List.append_assoc, List.singleton_append])
        (fun other isMember => areKnown other (List.mem_cons_of_mem _ isMember))
        (fun other isMember => each other (List.mem_cons_of_mem _ isMember)) false
      rw [prettyFields, linesOf, bytesOf_field] at enough ⊢
      rw [List.append_assoc, List.singleton_append] at others
      simp only [List.length_append, List.length_cons] at enough others
      cases fuel with
      | zero => omega
      | succ fuel =>
          rw [readMembers]
          simp only [List.append_assoc, List.cons_append]
          refine (takes_nextKey first (isBlank_newLine depth)).bind ?_
          simp only [if_true]
          refine (takes_readLiteral key _).bind ?_
          simp only [isShape, isNew, Bool.false_eq_true, if_false]
          refine takes_takeColon.bind ?_
          have isValue := (isRead depth fuel [32] isSpace (by omega)).append
            (linesOf depth false (prettyFields depth fields) ++ (blanks ++ 125 :: left))
          refine isValue.bind ?_
          exact others fuel (by omega)

/-- A value that fits a shape is read back from its indented text. -/
theorem isReadBack_of_fits {shape : Shape} {value : Value} (fits : Fits shape value) :
    IsReadBack shape value := by
  induction fits with
  | text expected text => exact isReadBack_text expected text
  | @list element elements fit each =>
      intro depth fuel blanks areBlank enough
      rw [Value.prettyAt, bytesOf_bracketed, bytesOf_eq "[", bytesOf_eq "]"] at enough ⊢
      change Takes _ (blanks ++ 91 :: (_ ++ (_ ++ [93]))) [] _
      change (91 :: (_ ++ (_ ++ [93]))).length ≤ fuel at enough
      cases fuel with
      | zero => exact absurd enough (by simp)
      | succ fuel =>
          rw [readShape]
          refine (takes_peekPastBlanks areBlank (by decide) _).bind ?_
          refine (takes_advance 91 _).bind ?_
          rw [List.length_cons] at enough
          refine (takes_readElements fit each (isBlank_closing depth _) true fuel
            (Nat.le_of_succ_le_succ enough)).bind ?_
          exact takes_closeList.bind (Takes.pure (Value.list elements) [])
  | record expected distinct known fit each =>
      intro depth fuel blanks areBlank enough
      rw [Value.prettyAt, bytesOf_bracketed, bytesOf_eq "\x7b", bytesOf_eq "\x7d"] at enough ⊢
      change Takes _ (blanks ++ 123 :: (_ ++ (_ ++ [125]))) [] _
      change (123 :: (_ ++ (_ ++ [125]))).length ≤ fuel at enough
      cases fuel with
      | zero => exact absurd enough (by simp)
      | succ fuel =>
          rw [readShape]
          refine (takes_peekPastBlanks areBlank (by decide) _).bind ?_
          refine (takes_advance 123 _).bind ?_
          rw [List.length_cons] at enough
          refine (takes_readMembers [] distinct known each (isBlank_closing depth _) true fuel
            (Nat.le_of_succ_le_succ enough)).bind ?_
          exact (takes_advance 125 []).bind (Takes.pure (Value.object _) [])

end Reader

/-- Reading a whole text gives the value that was written to it. -/
theorem read_pretty {shape : Shape} {value : Value} (fits : Fits shape value) :
    read shape value.pretty = .ok value := by
  obtain ⟨after, isValue⟩ := Reader.isReadBack_of_fits fits 0
    (2 * (bytesOf value.pretty).length + 4) [] (by simp) (by rw [Value.pretty]; omega) [] ⟨1, 0⟩
  rw [List.nil_append, List.append_nil] at isValue
  have isDocument : Reader.readDocument shape (Cursor.start value.pretty) =
      .ok (value, ⟨[], after⟩) := by
    change (Reader.readShape (2 * (bytesOf value.pretty).length + 4) shape
      ⟨bytesOf (value.prettyAt 0), ⟨1, 0⟩⟩ >>= fun pair => _) = _
    rw [isValue]
    rfl
  change (fun pair : Value × Cursor => pair.1) <$>
    Reader.readDocument shape (Cursor.start value.pretty) = _
  rw [isDocument]
  rfl

end ForwardingProxy.Json
