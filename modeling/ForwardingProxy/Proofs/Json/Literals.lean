import ForwardingProxy.Json.Literal
import ForwardingProxy.Json.Value
import Mathlib

/-!
Contract: reading back the string literals of a JSON text.

Owns: the bytes of a text, what it means that a reader takes bytes off the text that is left, the
rules by which this is found for a sequence of readers, and the fact that every text is read back
from its literal.

Does not own: lists and objects, which are in `Proofs.Json.ReadBack`.
-/

namespace ForwardingProxy.Json

/-! ### Bytes -/

/-- The bytes of a text. -/
def bytesOf (text : String) : List UInt8 :=
  text.toUTF8.toList

theorem toList_loop (bytes : ByteArray) (index : Nat) (reversed : List UInt8) :
    ByteArray.toList.loop bytes index reversed =
      reversed.reverse ++ bytes.data.toList.drop index := by
  fun_induction ByteArray.toList.loop bytes index reversed with
  | case1 index reversed isInside inductionHypothesis =>
      have inside : index < bytes.data.toList.length := by
        rw [Array.length_toList]
        exact isInside
      have isNext : bytes.get! index = bytes.data.toList[index] := by
        rw [Array.getElem_toList]
        exact getElem!_pos bytes.data index isInside
      rw [inductionHypothesis, List.drop_eq_getElem_cons inside, isNext]
      simp only [List.reverse_cons, List.append_assoc, List.singleton_append]
  | case2 index reversed isOutside =>
      have outside : bytes.data.toList.length ≤ index := by
        rw [Array.length_toList]
        exact Nat.le_of_not_lt isOutside
      rw [List.drop_eq_nil_of_le outside, List.append_nil]

theorem toList_eq_data (bytes : ByteArray) : bytes.toList = bytes.data.toList := by
  rw [ByteArray.toList, toList_loop, List.drop_zero, List.reverse_nil, List.nil_append]

theorem bytesOf_append (left right : String) :
    bytesOf (left ++ right) = bytesOf left ++ bytesOf right := by
  simp only [bytesOf, toList_eq_data, String.toUTF8_eq_toByteArray, String.toByteArray_append,
    ByteArray.data_append, Array.toList_append]

theorem bytesOf_ofList (characters : List Char) :
    bytesOf (String.ofList characters) = characters.flatMap String.utf8EncodeChar := by
  rw [bytesOf, toList_eq_data, String.toUTF8_eq_toByteArray, String.toByteArray_ofList,
    List.utf8Encode, List.toList_data_toByteArray]

theorem bytesOf_eq (text : String) :
    bytesOf text = text.toList.flatMap String.utf8EncodeChar := by
  rw [← bytesOf_ofList, String.ofList_toList]

/-- The text whose bytes are known. -/
theorem fromUTF8?_bytesOf (text : String) :
    String.fromUTF8? (ByteArray.mk (bytesOf text).toArray) = some text := by
  have sameBytes : ByteArray.mk (bytesOf text).toArray = text.toUTF8 := by
    rw [bytesOf, toList_eq_data, Array.toArray_toList]
  rw [sameBytes, String.fromUTF8?]
  exact dif_pos text.isValidUTF8

/-- A byte of a character from the second half of the code table on is none of the first half. -/
theorem le_of_mem_utf8EncodeChar {character : Char} (isHigh : 128 ≤ character.toNat)
    {byte : UInt8} (isByte : byte ∈ String.utf8EncodeChar character) : 128 ≤ byte := by
  have notShort : ¬character.val.toNat ≤ 0x7f := by
    change ¬character.toNat ≤ 0x7f
    omega
  have high : ∀ rest base : Nat, 128 ≤ base → base + rest < 256 →
      (128 : UInt8) ≤ UInt8.ofNat (rest + base) := by
    intro rest base isBase fits
    rw [UInt8.le_iff_toNat_le, UInt8.toNat_ofNat']
    simp only [UInt8.reduceToNat]
    omega
  unfold String.utf8EncodeChar at isByte
  simp only [notShort, if_false] at isByte
  split_ifs at isByte <;> simp only [List.mem_cons, List.not_mem_nil, or_false] at isByte <;>
    rcases isByte with rfl | rfl | rfl | rfl <;> exact high _ _ (by omega) (by omega)

/-- The bytes between the quotes of a literal. -/
def writtenIn (text : String) : List UInt8 :=
  (text.toList.flatMap literalCharacter).flatMap String.utf8EncodeChar

theorem bytesOf_literal (text : String) :
    bytesOf (literal text) = 34 :: (writtenIn text ++ [34]) := by
  rw [literal, bytesOf_ofList, List.flatMap_cons, List.flatMap_append]
  rfl

namespace Reader

/-! ### Taking bytes off a text -/

/-- From the given bytes, whatever follows them and wherever they stand, the reader gets to the
bytes that are left and gives the value. -/
def Takes {α : Type} (reader : Reader α) (given left : List UInt8) (value : α) : Prop :=
  ∀ rest position, ∃ after,
    reader ⟨given ++ rest, position⟩ = .ok (value, ⟨left ++ rest, after⟩)

variable {α β : Type}

theorem Takes.pure (value : α) (bytes : List UInt8) :
    Takes (pure value) bytes bytes value := by
  intro rest position
  exact ⟨position, rfl⟩

theorem Takes.bind {reader : Reader α} {further : α → Reader β} {given between left : List UInt8}
    {value : α} {result : β} (first : Takes reader given between value)
    (second : Takes (further value) between left result) :
    Takes (reader >>= further) given left result := by
  intro rest position
  obtain ⟨middle, isFirst⟩ := first rest position
  obtain ⟨after, isSecond⟩ := second rest middle
  refine ⟨after, ?_⟩
  change (reader ⟨given ++ rest, position⟩ >>= fun pair => further pair.1 pair.2) = _
  rw [isFirst]
  exact isSecond

/-- What follows the bytes that a reader takes is left as it is. -/
theorem Takes.append {reader : Reader α} {given left : List UInt8} {value : α}
    (takes : Takes reader given left value) (more : List UInt8) :
    Takes reader (given ++ more) (left ++ more) value := by
  intro rest position
  rw [List.append_assoc, List.append_assoc]
  exact takes (more ++ rest) position

theorem takes_advance (byte : UInt8) (left : List UInt8) :
    Takes advance (byte :: left) left () := by
  intro rest position
  exact ⟨Cursor.positionAfter position byte, rfl⟩

/-- The byte is one that readers pass over between the parts of a text. -/
def IsBlank (byte : UInt8) : Prop :=
  (byte = 32 || byte = 9 || byte = 10 || byte = 13) = true

instance (byte : UInt8) : Decidable (IsBlank byte) :=
  inferInstanceAs (Decidable (_ = true))

theorem takes_peekPastBlanks {blanks : List UInt8} (areBlank : ∀ byte ∈ blanks, IsBlank byte)
    {byte : UInt8} (notBlank : ¬IsBlank byte) (left : List UInt8) :
    Takes peekPastBlanks? (blanks ++ byte :: left) (byte :: left) (some byte) := by
  intro rest position
  have passed : ∃ after, Cursor.afterBlanks ⟨blanks ++ byte :: (left ++ rest), position⟩ =
      ⟨byte :: (left ++ rest), after⟩ := by
    unfold Cursor.afterBlanks
    induction blanks generalizing position with
    | nil =>
        refine ⟨position, ?_⟩
        exact if_neg notBlank
    | cons blank blanks inductionHypothesis =>
        have isBlank := areBlank blank List.mem_cons_self
        obtain ⟨after, isAfter⟩ := inductionHypothesis
          (fun byte isMember => areBlank byte (List.mem_cons_of_mem _ isMember))
          (Cursor.positionAfter position blank)
        exact ⟨after, (if_pos isBlank).trans isAfter⟩
  obtain ⟨after, isAfter⟩ := passed
  refine ⟨after, ?_⟩
  rw [List.append_assoc]
  change Except.ok (_, _) = _
  rw [List.cons_append, isAfter]
  rfl

theorem takes_peek {byte : UInt8} (notBlank : ¬IsBlank byte) (left : List UInt8) :
    Takes peekPastBlanks? (byte :: left) (byte :: left) (some byte) :=
  takes_peekPastBlanks (List.forall_mem_nil _) notBlank left

/-! ### String literals -/

/-- The loop goes on from a state that reads the bytes of one character. -/
def PutsBack (written meant : List UInt8) : Prop :=
  ∀ fuel reversed rest position, (written ++ rest).length < fuel →
    ∃ fewer after, rest.length < fewer ∧
      literalLoop fuel reversed ⟨written ++ rest, position⟩ =
        literalLoop fewer (meant.reverse ++ reversed) ⟨rest, after⟩

theorem PutsBack.append {written meant moreWritten moreMeant : List UInt8}
    (first : PutsBack written meant) (second : PutsBack moreWritten moreMeant) :
    PutsBack (written ++ moreWritten) (meant ++ moreMeant) := by
  intro fuel reversed rest position enough
  rw [List.append_assoc] at enough ⊢
  obtain ⟨middleFuel, middle, stillEnough, isFirst⟩ :=
    first fuel reversed (moreWritten ++ rest) position enough
  obtain ⟨fewer, after, enoughLeft, isSecond⟩ :=
    second middleFuel (meant.reverse ++ reversed) rest middle stillEnough
  refine ⟨fewer, after, enoughLeft, ?_⟩
  rw [isFirst, isSecond, List.reverse_append, List.append_assoc]

theorem putsBack_nil : PutsBack [] [] := by
  intro fuel reversed rest position enough
  exact ⟨fuel, position, enough, rfl⟩

/-- An escape stands for the character that is read after its backslash. -/
theorem putsBack_escape {written : List UInt8} {character : Char}
    (isEscape : Takes takeEscape written [] character) :
    PutsBack (92 :: written) (String.utf8EncodeChar character) := by
  intro fuel reversed rest position enough
  cases fuel with
  | zero => exact absurd enough (Nat.not_lt_zero _)
  | succ fuel =>
      obtain ⟨after, isRead⟩ := isEscape rest (Cursor.positionAfter position 92)
      have bytes : character.toString.toUTF8.toList = String.utf8EncodeChar character := by
        have single := bytesOf_eq character.toString
        simpa [bytesOf] using single
      refine ⟨fuel, after, ?_, ?_⟩
      · simp only [List.length_append, List.length_cons] at enough
        omega
      rw [literalLoop]
      change (takeEscape ⟨written ++ rest, Cursor.positionAfter position 92⟩ >>= fun pair =>
        literalLoop fuel (pair.1.toString.toUTF8.toList.reverse ++ reversed) pair.2) = _
      rw [isRead, ← bytes]
      rfl

theorem takes_take (byte : UInt8) (left : List UInt8) :
    Takes take? (byte :: left) left (some byte) := by
  intro rest position
  exact ⟨Cursor.positionAfter position byte, rfl⟩

theorem takes_takeBytes (bytes left : List UInt8) :
    Takes (takeBytes bytes.length) (bytes ++ left) left bytes := by
  induction bytes with
  | nil => exact Takes.pure [] left
  | cons byte bytes inductionHypothesis =>
      refine (takes_take byte (bytes ++ left)).bind ?_
      exact inductionHypothesis.bind (Takes.pure (byte :: bytes) left)

theorem takes_shortEscape (letter : UInt8) {character : Char}
    (isShort : shortEscape? letter = some character) :
    Takes takeEscape [letter] [] character := by
  have noCodePoint : letter ≠ 117 := by
    rintro rfl
    cases isShort
  refine (takes_take letter []).bind ?_
  simp only [if_neg noCodePoint, isShort]
  exact Takes.pure character []

/-- The digit of a number below sixteen is read as that number. -/
theorem hexValue?_digitChar : ∀ digit < 16,
    String.utf8EncodeChar (Nat.digitChar digit) = [UInt8.ofNat (Nat.digitChar digit).toNat] ∧
      hexValue? (UInt8.ofNat (Nat.digitChar digit).toNat) = some digit := by
  decide

/-- A control character is read from its number in four digits. -/
theorem takes_controlEscape {character : Char} (isControl : character.toNat < 32) :
    Takes takeEscape (117 :: 48 :: 48 ::
      (String.utf8EncodeChar (Nat.digitChar (character.toNat / 16)) ++
        String.utf8EncodeChar (Nat.digitChar (character.toNat % 16)))) [] character := by
  obtain ⟨highBytes, isHigh⟩ := hexValue?_digitChar (character.toNat / 16) (by omega)
  obtain ⟨lowBytes, isLow⟩ := hexValue?_digitChar (character.toNat % 16) (by omega)
  rw [highBytes, lowBytes]
  generalize UInt8.ofNat (Nat.digitChar (character.toNat / 16)).toNat = high at *
  generalize UInt8.ofNat (Nat.digitChar (character.toNat % 16)).toNat = low at *
  have isZero : hexValue? 48 = some 0 := by decide
  have isNumber : hexNumber? [48, 48, high, low] = some character.toNat := by
    simp only [hexNumber?, List.foldl_cons, List.foldl_nil, isZero, isHigh, isLow, Option.some.injEq]
    omega
  have number : Takes takeHexEscape [48, 48, high, low] [] character.toNat := by
    refine (takes_takeBytes [48, 48, high, low] []).bind ?_
    simp only [List.length_cons, List.length_nil, Nat.reduceAdd, Nat.lt_irrefl, if_false, isNumber]
    exact Takes.pure character.toNat []
  have codePoint : Takes takeCodePoint [48, 48, high, low] [] character.toNat := by
    refine number.bind ?_
    have noTrailing : isTrailingSurrogate character.toNat = false := by
      simp only [isTrailingSurrogate, Bool.and_eq_false_iff, decide_eq_false_iff_not]
      omega
    have noLeading : isLeadingSurrogate character.toNat = false := by
      simp only [isLeadingSurrogate, Bool.and_eq_false_iff, decide_eq_false_iff_not]
      omega
    simp only [noTrailing, noLeading, Bool.false_eq_true, if_false]
    exact Takes.pure character.toNat []
  refine (takes_take 117 _).bind ?_
  simp only [if_true]
  refine codePoint.bind ?_
  rw [Char.ofNat_toNat]
  exact Takes.pure character []

/-- The byte neither ends a literal nor begins an escape, and it may stand in a literal. -/
def IsPlain (byte : UInt8) : Prop :=
  byte ≠ 34 ∧ byte ≠ 92 ∧ ¬byte < 32

/-- A byte that neither ends a literal nor begins an escape stands for itself. -/
theorem putsBack_plain {byte : UInt8} (isPlain : IsPlain byte) : PutsBack [byte] [byte] := by
  obtain ⟨noQuote, noEscape, noControl⟩ := isPlain
  intro fuel reversed rest position enough
  cases fuel with
  | zero => exact absurd enough (Nat.not_lt_zero _)
  | succ fuel =>
      refine ⟨fuel, Cursor.positionAfter position byte, by simpa using enough, ?_⟩
      rw [literalLoop]
      change (if byte = 34 then _ else if byte = 92 then _ else if byte < 32 then _ else _ :
        Reader (List UInt8)) _ = _
      rw [if_neg noQuote, if_neg noEscape, if_neg noControl]
      rfl

theorem putsBack_bytes {bytes : List UInt8} (arePlain : ∀ byte ∈ bytes, IsPlain byte) :
    PutsBack bytes bytes := by
  induction bytes with
  | nil => exact putsBack_nil
  | cons byte bytes inductionHypothesis =>
      have first := putsBack_plain (arePlain byte List.mem_cons_self)
      exact first.append (inductionHypothesis fun byte isMember =>
        arePlain byte (List.mem_cons_of_mem _ isMember))

theorem isPlain_of_mem {character : Char} (noQuote : character ≠ '"') (noEscape : character ≠ '\\')
    (noControl : ¬character.toNat < 32) {byte : UInt8}
    (isByte : byte ∈ String.utf8EncodeChar character) : IsPlain byte := by
  by_cases isHigh : 128 ≤ character.toNat
  · have high : (128 : UInt8).toNat ≤ byte.toNat :=
      UInt8.le_iff_toNat_le.mp (le_of_mem_utf8EncodeChar isHigh isByte)
    refine ⟨?_, ?_, ?_⟩
    · rintro rfl
      exact absurd high (by decide)
    · rintro rfl
      exact absurd high (by decide)
    · intro isLow
      have low : byte.toNat < (32 : UInt8).toNat := UInt8.lt_iff_toNat_lt.mp isLow
      simp only [UInt8.reduceToNat] at high low
      omega
  · have short : character.utf8Size = 1 := by
      rw [Char.utf8Size_eq_one_iff, UInt32.le_iff_toNat_le]
      change character.toNat ≤ 127
      omega
    have number : byte.toNat = character.toNat := by
      rw [String.utf8EncodeChar_eq_singleton short, List.mem_singleton] at isByte
      rw [isByte, UInt32.toNat_toUInt8]
      exact Nat.mod_eq_of_lt (by change character.toNat < 2 ^ 8; omega)
    refine ⟨?_, ?_, ?_⟩
    · rintro rfl
      exact noQuote (Char.toNat_inj.mp number.symm)
    · rintro rfl
      exact noEscape (Char.toNat_inj.mp number.symm)
    · intro isLow
      have low : byte.toNat < (32 : UInt8).toNat := UInt8.lt_iff_toNat_lt.mp isLow
      rw [number] at low
      exact noControl low

/-- Every character is read back from the way it is written in a literal. -/
theorem putsBack_character (character : Char) :
    PutsBack ((literalCharacter character).flatMap String.utf8EncodeChar)
      (String.utf8EncodeChar character) := by
  unfold literalCharacter
  split_ifs with isQuote isBackslash isBackspace isFeed isLine isReturn isTab isControl
  · subst isQuote
    exact putsBack_escape (takes_shortEscape 34 rfl)
  · subst isBackslash
    exact putsBack_escape (takes_shortEscape 92 rfl)
  · subst isBackspace
    exact putsBack_escape (takes_shortEscape 98 rfl)
  · subst isFeed
    exact putsBack_escape (takes_shortEscape 102 rfl)
  · subst isLine
    exact putsBack_escape (takes_shortEscape 110 rfl)
  · subst isReturn
    exact putsBack_escape (takes_shortEscape 114 rfl)
  · subst isTab
    exact putsBack_escape (takes_shortEscape 116 rfl)
  · simp only [List.flatMap_cons, List.flatMap_nil, List.append_nil]
    exact putsBack_escape (takes_controlEscape isControl)
  · rw [List.flatMap_singleton]
    refine putsBack_bytes fun byte isByte => ?_
    exact isPlain_of_mem isQuote isBackslash isControl isByte

theorem putsBack_text (text : String) : PutsBack (writtenIn text) (bytesOf text) := by
  rw [bytesOf_eq, writtenIn]
  induction text.toList with
  | nil => exact putsBack_nil
  | cons character characters inductionHypothesis =>
      rw [List.flatMap_cons, List.flatMap_cons, List.flatMap_append]
      exact (putsBack_character character).append inductionHypothesis

theorem literalLoop_closing (fuel : Nat) (reversed rest : List UInt8) (position : Position)
    (enough : (34 :: rest).length < fuel) :
    literalLoop fuel reversed ⟨34 :: rest, position⟩ =
      .ok (reversed, ⟨rest, Cursor.positionAfter position 34⟩) := by
  cases fuel with
  | zero => exact absurd enough (Nat.not_lt_zero _)
  | succ fuel => rfl

theorem readLiteral_eq (bytes : List UInt8) (position : Position) {reversed : List UInt8}
    {after : Cursor}
    (isRead : literalLoop (bytes.length + 1) [] ⟨bytes, position⟩ = .ok (reversed, after)) :
    readLiteral ⟨bytes, position⟩ =
      .ok ((String.fromUTF8? (ByteArray.mk reversed.reverse.toArray)).getD "", after) := by
  change (literalLoop (bytes.length + 1) [] ⟨bytes, position⟩ >>= fun pair => _) = _
  rw [isRead]
  rfl

/-- Every text is read back from its literal. -/
theorem takes_readLiteral (text : String) (left : List UInt8) :
    Takes readLiteral (writtenIn text ++ 34 :: left) left text := by
  intro rest position
  rw [List.append_assoc, List.cons_append]
  obtain ⟨fewer, after, enough, isRead⟩ := putsBack_text text
    ((writtenIn text ++ 34 :: (left ++ rest)).length + 1) [] (34 :: (left ++ rest)) position
    (Nat.lt_succ_self _)
  have ends := literalLoop_closing fewer ((bytesOf text).reverse ++ []) (left ++ rest) after enough
  have isText := readLiteral_eq _ _ (isRead.trans ends)
  rw [List.append_nil, List.reverse_reverse, fromUTF8?_bytesOf] at isText
  exact ⟨_, isText⟩

end Reader

end ForwardingProxy.Json
