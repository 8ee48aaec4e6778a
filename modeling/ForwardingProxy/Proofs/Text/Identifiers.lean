import ForwardingProxy.Proofs.ProxySource.ParameterNames
import ForwardingProxy.Proofs.Source.TypeSpelling
import ForwardingProxy.Text.Casing

/-!
Contract: identifiers of the generated code, raw or not.

Owns: `WordRules`, which leaves open what letters there are beyond ASCII and which words are
reserved; plain and raw identifiers under such rules; and which texts made from an identifier are
identifiers again.

Names are made by a text put before a name and by lower case. The first keeps a word a word, and so
does the second since lower case does not lead out of the letters. The mark of a raw identifier is
no letter, so it may stand nowhere but at the beginning.
-/

namespace ForwardingProxy.Text

/-- Which characters begin words and which go on with them, and the words that are reserved. The
Unicode properties `XID_Start` and `XID_Continue` are of that kind, with the keywords of any
edition. -/
structure WordRules where
  begins : Char → Bool
  continues : Char → Bool
  keywords : List String
  continues_of_begins : ∀ {character}, begins character = true → continues character = true
  begins_ascii : ∀ character : Char, character.toNat < 128 → begins character = character.isAlpha
  continues_ascii : ∀ character : Char, character.toNat < 128 →
    continues character = (character.isAlphanum || character == '_')
  continues_toLowercase : ∀ {character image}, continues character = true →
    image ∈ toLowercase character → continues image = true
  keywords_known : ∀ word ∈ keywords, word ∈ TypeSyntax.keywords

namespace WordRules

variable {rules : WordRules}

/-- The text is a word; `_` alone is none. -/
def Spells (rules : WordRules) (word : String) : Prop :=
  ∃ first rest, word.toList = first :: rest ∧
    (rules.begins first = true ∨ first = '_' ∧ rest ≠ []) ∧
    ∀ character ∈ rest, rules.continues character = true

/-- A word that is not reserved. -/
structure IsPlain (rules : WordRules) (name : String) : Prop where
  spells : rules.Spells name
  notKeyword : name ∉ rules.keywords

/-- A word behind `r#`; four keywords are none even so. -/
def IsRaw (rules : WordRules) (name : String) : Prop :=
  ∃ word, name = "r#" ++ word ∧ rules.Spells word ∧ word ∉ ["crate", "self", "super", "Self"]

/-- A name that may be given to an item. -/
def IsIdentifier (rules : WordRules) (name : String) : Prop :=
  rules.IsPlain name ∨ rules.IsRaw name

/-- A letter, a digit or `_`, in ASCII. -/
def isAsciiWord (character : Char) : Bool :=
  character.isAlphanum || character == '_'

theorem toNat_lt_of_isAsciiWord {character : Char} (isWord : isAsciiWord character = true) :
    character.toNat < 128 := by
  simp only [isAsciiWord, Char.isAlphanum, Char.isAlpha, Char.isUpper, Char.isLower, Char.isDigit,
    Bool.or_eq_true, Bool.and_eq_true, decide_eq_true_eq, beq_iff_eq, UInt32.le_iff_toNat_le]
    at isWord
  rcases isWord with ((isUpper | isLower) | isDigit) | rfl
  · exact Nat.lt_of_le_of_lt isUpper.2 (by decide)
  · exact Nat.lt_of_le_of_lt isLower.2 (by decide)
  · exact Nat.lt_of_le_of_lt isDigit.2 (by decide)
  · decide

theorem isAsciiWord_toLowercase {character image : Char} (isWord : isAsciiWord character = true)
    (isImage : image ∈ toLowercase character) : isAsciiWord image = true := by
  rcases toLowercase_ascii (toNat_lt_of_isAsciiWord isWord) isImage with rfl | ⟨offset, isLetter, rfl⟩
  · exact isWord
  · have letters : ∀ offset < 26, isAsciiWord (Char.ofNat (0x61 + offset)) = true := by
      decide +kernel
    exact letters offset isLetter

/-- The rules without letters beyond ASCII. -/
def ascii : WordRules where
  begins := Char.isAlpha
  continues := isAsciiWord
  keywords := TypeSyntax.keywords
  continues_of_begins := by
    intro character begins
    simp [isAsciiWord, Char.isAlphanum, begins]
  begins_ascii := fun _ _ => rfl
  continues_ascii := fun _ _ => rfl
  continues_toLowercase := isAsciiWord_toLowercase
  keywords_known := fun _ member => member

theorem Spells.continues {word : String} (spells : rules.Spells word) :
    ∀ character ∈ word.toList, rules.continues character = true := by
  obtain ⟨first, rest, isWord, begins, continues⟩ := spells
  intro character member
  rw [isWord] at member
  rcases List.mem_cons.mp member with rfl | later
  · rcases begins with isLetter | ⟨rfl, _⟩
    · exact rules.continues_of_begins isLetter
    · exact rules.continues_ascii '_' (by decide)
  · exact continues character later

/-- The mark of raw identifiers is in no word. -/
theorem Spells.noMark {word : String} (spells : rules.Spells word) : '#' ∉ word.toList := by
  intro member
  have continues := spells.continues '#' member
  rw [rules.continues_ascii '#' (by decide)] at continues
  cases continues

theorem Spells.noColon {word : String} (spells : rules.Spells word) : ':' ∉ word.toList := by
  intro member
  have continues := spells.continues ':' member
  rw [rules.continues_ascii ':' (by decide)] at continues
  cases continues

theorem mark_mem_raw (word : String) : '#' ∈ ("r#" ++ word).toList := by
  rw [String.toList_append]
  exact List.mem_append_left _ (by decide)

/-- An identifier is raw just when it has the mark. -/
theorem IsIdentifier.isRaw_iff {name : String} (isIdentifier : rules.IsIdentifier name) :
    rules.IsRaw name ↔ '#' ∈ name.toList := by
  constructor
  · rintro ⟨word, rfl, _⟩
    exact mark_mem_raw word
  · intro hasMark
    rcases isIdentifier with isPlain | isRaw
    · exact absurd hasMark isPlain.spells.noMark
    · exact isRaw

theorem IsIdentifier.noColon {name : String} (isIdentifier : rules.IsIdentifier name) :
    ':' ∉ name.toList := by
  rcases isIdentifier with isPlain | ⟨word, rfl, spells, _⟩
  · exact isPlain.spells.noColon
  · rw [String.toList_append, List.mem_append, not_or]
    exact ⟨by decide, spells.noColon⟩

/-- Only the mark keeps the characters of an identifier from being those of a word. -/
theorem IsIdentifier.continues_iff {name : String} (isIdentifier : rules.IsIdentifier name) :
    (∀ character ∈ name.toList, rules.continues character = true) ↔ ¬rules.IsRaw name := by
  constructor
  · rintro continues ⟨word, rfl, _⟩
    have isMark := continues '#' (mark_mem_raw word)
    rw [rules.continues_ascii '#' (by decide)] at isMark
    cases isMark
  · intro notRaw
    exact (isIdentifier.resolve_right notRaw).spells.continues

/-! ### Names made from a name -/

/-- A text in ASCII that begins words, but neither keywords nor raw identifiers. -/
structure IsStart (start : String) : Prop where
  begins : ∃ first rest, start.toList = first :: rest ∧ first.isAlpha = true ∧ first ≠ 'r' ∧
    ∀ word ∈ TypeSyntax.keywords, word.toList.head? ≠ some first
  continues : start.toList.all isAsciiWord = true

theorem IsStart.isIdentifier_append {start tail : String} (isStart : IsStart start) :
    rules.IsIdentifier (start ++ tail) ↔
      ∀ character ∈ tail.toList, rules.continues character = true := by
  obtain ⟨first, rest, isText, isLetter, notMark, noKeyword⟩ := isStart.begins
  have inStart : ∀ character ∈ first :: rest, isAsciiWord character = true :=
    isText ▸ List.all_eq_true.mp isStart.continues
  constructor
  · rintro (isPlain | ⟨word, isRaw, _⟩) character member
    · refine isPlain.spells.continues character ?_
      rw [String.toList_append]
      exact List.mem_append_right _ member
    · have sameFirst := congrArg (fun text => text.toList.head?) isRaw
      simp only [String.toList_append, isText, List.cons_append, List.head?_cons] at sameFirst
      exact absurd (Option.some.inj sameFirst) notMark
  · intro continues
    refine .inl ⟨⟨first, rest ++ tail.toList, ?_, .inl ?_, ?_⟩, ?_⟩
    · rw [String.toList_append, isText, List.cons_append]
    · rw [rules.begins_ascii first (toNat_lt_of_isAsciiWord (inStart first (.head _))), isLetter]
    · intro character member
      rcases List.mem_append.mp member with inRest | inTail
      · have isWord := inStart character (.tail _ inRest)
        rw [rules.continues_ascii character (toNat_lt_of_isAsciiWord isWord)]
        exact isWord
      · exact continues character inTail
    · intro isKeyword
      refine noKeyword _ (rules.keywords_known _ isKeyword) ?_
      rw [String.toList_append, isText, List.cons_append, List.head?_cons]

/-- Behind such a start no name is raw. -/
theorem IsStart.identifier_append {start : String} (isStart : IsStart start) (tail : String) :
    identifier (start ++ tail) = start ++ tail := by
  obtain ⟨first, rest, isText, _, notMark, _⟩ := isStart.begins
  have notRaw : afterStart? "r#" (start ++ tail) = none := by
    rw [Option.eq_none_iff_forall_ne_some]
    intro word isRaw
    have sameFirst := congrArg (fun text => text.toList.head?) (afterStart?_eq_some.mp isRaw)
    simp only [String.toList_append, isText, List.cons_append, List.head?_cons] at sameFirst
    exact absurd (Option.some.inj sameFirst) notMark
  rw [identifier, notRaw]
  rfl

theorem continues_snakeCaseOf {characters : List Char} {afterWord : Bool}
    (continues : ∀ character ∈ characters, rules.continues character = true) :
    ∀ character ∈ snakeCaseOf afterWord characters, rules.continues character = true := by
  induction characters generalizing afterWord with
  | nil => exact nofun
  | cons first rest inductionHypothesis =>
      have ofFirst := continues first List.mem_cons_self
      have ofRest := fun {afterWord} => @inductionHypothesis afterWord
        fun character later => continues character (.tail _ later)
      intro character member
      rw [snakeCaseOf] at member
      split at member
      · rcases List.mem_append.mp member with before | later
        · rcases List.mem_append.mp before with isSeparator | isImage
          · obtain rfl : character = '_' := by cases afterWord <;> simp_all
            exact rules.continues_ascii '_' (by decide)
          · exact rules.continues_toLowercase ofFirst isImage
        · exact ofRest character later
      · rcases List.mem_cons.mp member with rfl | later
        · exact ofFirst
        · exact ofRest character later

theorem mark_mem_snakeCaseOf {characters : List Char} {afterWord : Bool}
    (member : '#' ∈ characters) : '#' ∈ snakeCaseOf afterWord characters := by
  have notUpper : isUppercase '#' = false := by decide +kernel
  induction characters generalizing afterWord with
  | nil => cases member
  | cons first rest inductionHypothesis =>
      rw [snakeCaseOf]
      rcases List.mem_cons.mp member with rfl | later
      · rw [if_neg (by rw [notUpper]; decide)]
        exact .head _
      · split
        · exact List.mem_append_right _ (inductionHypothesis later)
        · exact .tail _ (inductionHypothesis later)

/-- Snake case keeps the mark, and keeps a word a word. -/
theorem IsIdentifier.continues_snakeCase_iff {name : String}
    (isIdentifier : rules.IsIdentifier name) :
    (∀ character ∈ (snakeCase name).toList, rules.continues character = true) ↔
      ¬rules.IsRaw name := by
  rw [snakeCase, String.toList_ofList]
  constructor
  · rintro continues ⟨word, rfl, _⟩
    have isMark := continues '#' (mark_mem_snakeCaseOf (mark_mem_raw word))
    rw [rules.continues_ascii '#' (by decide)] at isMark
    cases isMark
  · intro notRaw
    exact continues_snakeCaseOf (isIdentifier.continues_iff.mpr notRaw)

/-! ### Equal identifiers -/

theorem identifier_raw (word : String) : identifier ("r#" ++ word) = word := by
  rw [identifier, afterStart?_eq_some.mpr rfl]
  rfl

theorem IsPlain.identifier_eq {name : String} (isPlain : rules.IsPlain name) :
    identifier name = name := by
  have notRaw : afterStart? "r#" name = none := by
    rw [Option.eq_none_iff_forall_ne_some]
    intro word isRaw
    refine isPlain.spells.noMark ?_
    rw [afterStart?_eq_some.mp isRaw]
    exact mark_mem_raw word
  rw [identifier, notRaw]
  rfl

/-- An identifier behind the mark is the same one, since it has no mark itself. -/
theorem IsIdentifier.identifier_of_marked {name : String}
    (isMarked : rules.IsIdentifier ("r#" ++ name)) (isIdentifier : rules.IsIdentifier name) :
    identifier name = name := by
  have isRaw := isMarked.isRaw_iff.mpr (mark_mem_raw name)
  obtain ⟨word, sameText, spells, _⟩ := isRaw
  obtain rfl := (String.append_right_inj _).mp sameText
  rcases isIdentifier with isPlain | isRaw
  · exact isPlain.identifier_eq
  · exact absurd ((IsIdentifier.isRaw_iff (.inr isRaw)).mp isRaw) spells.noMark

/-- Two names stand for one identifier when they are the same but for the mark of one of them. -/
theorem IsIdentifier.identifier_eq_iff {name other : String} (isName : rules.IsIdentifier name)
    (isOther : rules.IsIdentifier other) :
    identifier name = identifier other ↔
      name = other ∨ name = "r#" ++ other ∨ other = "r#" ++ name := by
  constructor
  · intro same
    rcases isName with isPlain | ⟨word, rfl, _⟩ <;>
      rcases isOther with isOtherPlain | ⟨otherWord, rfl, _⟩
    · rw [isPlain.identifier_eq, isOtherPlain.identifier_eq] at same
      exact .inl same
    · rw [isPlain.identifier_eq, identifier_raw] at same
      exact .inr (.inr (by rw [same]))
    · rw [isOtherPlain.identifier_eq, identifier_raw] at same
      exact .inr (.inl (by rw [same]))
    · rw [identifier_raw, identifier_raw] at same
      exact .inl (by rw [same])
  · rintro (rfl | rfl | rfl)
    · rfl
    · rw [identifier_raw, isName.identifier_of_marked isOther]
    · rw [identifier_raw, isOther.identifier_of_marked isName]

end WordRules

end ForwardingProxy.Text
