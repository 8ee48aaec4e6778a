import ForwardingProxy.Proofs.Config.Validity
import ForwardingProxy.Proofs.Registry.Tables
import ForwardingProxy.Proofs.Segments
import ForwardingProxy.Registry

/-!
Contract: names that can be read back from generated code.

Owns: words, of which identifiers of any kind are an example, names that are joined from words, and
the fact that all generated names of an entry are words when its own names are.
-/

namespace ForwardingProxy.Registry

/-- A name without blanks, line ends and the marks that stand beside names in generated code. -/
structure IsWord (text : String) : Prop where
  notEmpty : text ≠ ""
  characters : ∀ character ∈ text.toList, isWordCharacter character = true

instance (text : String) : Decidable (IsWord text) :=
  decidable_of_iff (text ≠ "" ∧ text.toList.all isWordCharacter = true)
    ⟨fun both => ⟨both.1, List.all_eq_true.mp both.2⟩,
      fun isWord => ⟨isWord.notEmpty, List.all_eq_true.mpr isWord.characters⟩⟩

/-- The entry's interface is joined from words, and its proxy is a word. -/
structure Entry.Named (entry : Entry) : Prop where
  interface : ∃ before last, entry.interface = Name.join (before ++ [last]) ∧
    ∀ segment ∈ before ++ [last], IsWord segment
  proxy : IsWord entry.proxy

/-! ### Identifiers -/

/-- A character is one of a word if it passes a test that each mark fails. -/
theorem isWordCharacter_of_test {test : Char → Bool}
    (marksFail : ([' ', '\n', ',', ':', ';', '(', ')', '>'].all fun mark => !test mark) = true)
    {character : Char} (passes : test character = true) : isWordCharacter character = true := by
  unfold isWordCharacter
  rw [Bool.not_eq_true']
  refine Bool.eq_false_iff.mpr fun isMark => ?_
  have fails := List.all_eq_true.mp marksFail character (List.contains_iff_mem.mp isMark)
  rw [passes] at fails
  cases fails

theorem isWordCharacter_of_continuesIdentifier {character : Char}
    (continues : Text.continuesIdentifier character = true) : isWordCharacter character = true :=
  isWordCharacter_of_test (by decide +kernel) continues

theorem isWord_of_isIdentifier {text : String} (isIdentifier : Text.isIdentifier text = true) :
    IsWord text where
  notEmpty := by
    rintro rfl
    cases isIdentifier
  characters := fun _ member => isWordCharacter_of_continuesIdentifier
    (Text.continuesIdentifier_of_isIdentifierOf isIdentifier member)

/-- An entry that is named by identifiers, its interface by some with `::` between them. -/
theorem Entry.named_of_isIdentifier {before : List String} {last proxy : String}
    (segments : ∀ segment ∈ before ++ [last], Text.isIdentifier segment = true)
    (isProxy : Text.isIdentifier proxy = true) :
    Entry.Named ⟨Name.join (before ++ [last]), proxy⟩ where
  interface := ⟨before, last, rfl, fun segment isSegment =>
    isWord_of_isIdentifier (segments segment isSegment)⟩
  proxy := isWord_of_isIdentifier isProxy

/-- Raw identifiers are words, too. -/
example : IsWord "r#type" := by decide

/-- A character that is in no piece belongs to a separator. -/
theorem mem_pieces {characters : List Char} {character : Char} (member : character ∈ characters) :
    character = ':' ∨ ∃ piece ∈ Name.pieces characters, character ∈ piece := by
  fun_induction Name.pieces characters with
  | case1 => cases member
  | case2 rest inductionHypothesis =>
      rcases List.mem_cons.mp member with isColon | member
      · exact .inl isColon
      rcases List.mem_cons.mp member with isColon | later
      · exact .inl isColon
      obtain isColon | ⟨piece, isPiece, inside⟩ := inductionHypothesis later
      · exact .inl isColon
      · exact .inr ⟨piece, List.mem_cons_of_mem _ isPiece, inside⟩
  | case3 first rest _ none inductionHypothesis =>
      rcases List.mem_cons.mp member with rfl | later
      · exact .inr ⟨[character], List.mem_singleton.mpr rfl, List.mem_singleton.mpr rfl⟩
      obtain isColon | ⟨piece, isPiece, _⟩ := inductionHypothesis later
      · exact .inl isColon
      · rw [none] at isPiece
        cases isPiece
  | case4 first rest _ piece tail cut inductionHypothesis =>
      rcases List.mem_cons.mp member with rfl | later
      · exact .inr ⟨_, List.mem_cons_self, List.mem_cons_self⟩
      obtain isColon | ⟨found, isPiece, inside⟩ := inductionHypothesis later
      · exact .inl isColon
      rw [cut] at isPiece
      rcases List.mem_cons.mp isPiece with rfl | inTail
      · exact .inr ⟨_, List.mem_cons_self, List.mem_cons_of_mem _ inside⟩
      · exact .inr ⟨found, List.mem_cons_of_mem _ inTail, inside⟩

/-- A path of identifiers is not empty and has the characters of a path. -/
theorem pathCharacters_of_isCodePath {text : String} (isPath : Config.isCodePath text = true) :
    text ≠ "" ∧ ∀ character ∈ text.toList, isPathCharacter character = true := by
  have inPath : ∀ characters : List Char,
      (!characters.isEmpty && (Name.pieces characters).all Text.isIdentifierOf) = true →
        characters ≠ [] ∧ ∀ character ∈ characters, isPathCharacter character = true := by
    intro characters isPath
    rw [Bool.and_eq_true, Bool.not_eq_true', List.isEmpty_eq_false_iff] at isPath
    refine ⟨isPath.1, fun character member => ?_⟩
    obtain rfl | ⟨piece, isPiece, inside⟩ := mem_pieces member
    · rfl
    have isIdentifier := List.all_eq_true.mp isPath.2 piece isPiece
    have isWord := isWordCharacter_of_continuesIdentifier
      (Text.continuesIdentifier_of_isIdentifierOf isIdentifier inside)
    rw [isPathCharacter, isWord, Bool.true_or]
  have isColon : isPathCharacter ':' = true := rfl
  unfold Config.isCodePath at isPath
  rw [Ne, ← String.toList_eq_nil_iff]
  split at isPath
  next rest isText =>
    rw [isText]
    simpa [isColon] using (inPath rest isPath).2
  next => exact inPath text.toList isPath

/-- A path of identifiers stands on one line. -/
theorem isOneLine_of_isCodePath {text : String} (isPath : Config.isCodePath text = true) :
    Text.IsOneLine text := by
  intro member
  cases (pathCharacters_of_isCodePath isPath).2 _ member

theorem isCodePath_of_validate {config : Config} (accepted : config.validate = .ok ()) :
    Config.isCodePath config.runtimePath = true :=
  (Config.validate_eq_ok.mp accepted).runtimePath

/-! ### Names of entries -/

/-- What a word character becomes in lower case is a word character. -/
theorem isWordCharacter_of_mem_toLowercase {character image : Char}
    (isWord : isWordCharacter character = true) (isImage : image ∈ Text.toLowercase character) :
    isWordCharacter image = true := by
  obtain rfl | ⟨code, rfl, above⟩ := Text.toLowercase_image isImage
  · exact isWord
  unfold isWordCharacter
  rw [Bool.not_eq_true']
  refine Bool.eq_false_iff.mpr fun isMark => ?_
  have isMember := List.contains_iff_mem.mp isMark
  -- marks are below `a`, and a code that is no character counts as 0
  have below : ([' ', '\n', ',', ':', ';', '(', ')', '>'].all fun mark =>
      decide (mark.toNat ≠ 0 ∧ mark.toNat < 0x61)) = true := by decide
  have isCode := of_decide_eq_true (List.all_eq_true.mp below _ isMember)
  by_cases isValid : code.isValidChar
  · have sameCode : (Char.ofNat code).toNat = code := by
      rw [Char.ofNat, dif_pos isValid]
      rfl
    omega
  · have noCode : (Char.ofNat code).toNat = 0 := by
      rw [Char.ofNat, dif_neg isValid]
      rfl
    exact isCode.1 noCode

theorem snakeCaseOf_wordCharacters {afterWord : Bool} {characters : List Char}
    (areWord : ∀ character ∈ characters, isWordCharacter character = true) :
    ∀ character ∈ Text.snakeCaseOf afterWord characters, isWordCharacter character = true := by
  induction characters generalizing afterWord with
  | nil =>
      intro character member
      cases member
  | cons first rest inductionHypothesis =>
      have firstIsWord := areWord first List.mem_cons_self
      have restAreWord := fun character later =>
        areWord character (List.mem_cons_of_mem first later)
      intro character member
      rw [Text.snakeCaseOf] at member
      split at member
      · rcases List.mem_append.mp member with before | later
        · rcases List.mem_append.mp before with isMark | isImage
          · cases afterWord with
            | false => cases isMark
            | true =>
                rw [List.mem_singleton.mp isMark]
                decide
          · exact isWordCharacter_of_mem_toLowercase firstIsWord isImage
        · exact inductionHypothesis restAreWord character later
      · rcases List.mem_cons.mp member with rfl | later
        · exact firstIsWord
        · exact inductionHypothesis restAreWord character later

/-- A word with more characters of words behind it. -/
theorem IsWord.append {text ending : String} (isWord : IsWord text)
    (areWord : ∀ character ∈ ending.toList, isWordCharacter character = true) :
    IsWord (text ++ ending) where
  notEmpty := by simp [String.append_eq_empty_iff, isWord.notEmpty]
  characters := by
    intro character member
    rw [String.toList_append, List.mem_append] at member
    rcases member with inText | inEnding
    · exact isWord.characters character inText
    · exact areWord character inEnding

theorem IsWord.factoryName {entry : Entry} (isWord : IsWord entry.simpleName) :
    IsWord entry.factoryName := by
  refine IsWord.append (by decide) fun character member => ?_
  rw [Text.snakeCase, String.toList_ofList] at member
  exact snakeCaseOf_wordCharacters isWord.characters character member

theorem IsWord.noColon {text : String} (isWord : IsWord text) : ':' ∉ text.toList := by
  intro isMember
  cases isWord.characters _ isMember

theorem IsWord.isOneLine {text : String} (isWord : IsWord text) : Text.IsOneLine text := by
  intro isMember
  cases isWord.characters _ isMember

theorem IsWord.readBetween {text ending : String} (isWord : IsWord text)
    (stops : ending.toList.head?.map isWordCharacter = some false) (start : String) :
    Text.wholeLine? (Text.readBetween isWordCharacter start ending)
      (start ++ (text ++ ending)).toList = some text :=
  Text.wholeLine?_readBetween isWord.notEmpty isWord.characters stops start

/-- A word is read up to a text that begins with a mark. -/
theorem IsWord.read {text fixed : String} (isWord : IsWord text)
    (stops : fixed.toList.head?.map isWordCharacter = some false) (rest : List Char) :
    Text.readWhile isWordCharacter (text.toList ++ (fixed.toList ++ rest)) =
      some (text, fixed.toList ++ rest) :=
  Text.readWhile_append isWord.notEmpty isWord.characters stops rest

/-- A name that is joined from words has the characters of a path. -/
theorem isPathCharacter_of_mem_join {segments : List String}
    (areWords : ∀ segment ∈ segments, IsWord segment) :
    ∀ character ∈ (Name.join segments).toList, isPathCharacter character = true := by
  induction segments with
  | nil =>
      intro character member
      cases member
  | cons first rest inductionHypothesis =>
      have firstIsWord := areWords first List.mem_cons_self
      have inFirst : ∀ character ∈ first.toList, isPathCharacter character = true :=
        fun character inside =>
          Bool.or_eq_true_iff.mpr (.inl (firstIsWord.characters character inside))
      have inRest := inductionHypothesis fun segment later =>
        areWords segment (List.mem_cons_of_mem first later)
      cases rest with
      | nil => simpa [Name.join] using inFirst
      | cons second rest =>
          have inSeparator : "::".toList.all isPathCharacter = true := by decide
          intro character member
          rw [Name.join, String.intercalate_cons_cons, String.toList_append, String.toList_append,
            List.mem_append, List.mem_append] at member
          rcases member with (inside | between) | later
          · exact inFirst character inside
          · exact List.all_eq_true.mp inSeparator character between
          · exact inRest character later

section Names

variable {entry : Entry} (named : entry.Named)
include named

theorem Entry.Named.simpleName : IsWord entry.simpleName := by
  obtain ⟨before, last, isJoined, areWords⟩ := named.interface
  have isWord : IsWord last := areWords last (by simp)
  rw [Entry.simpleName, isJoined, Name.last_join before isWord.noColon]
  exact isWord

theorem Entry.Named.factoryName : IsWord entry.factoryName :=
  named.simpleName.factoryName

theorem Entry.Named.interface_notEmpty : entry.interface ≠ "" := by
  intro isEmpty
  apply named.simpleName.notEmpty
  rw [Entry.simpleName, isEmpty]
  rfl

theorem Entry.Named.interface_characters :
    ∀ character ∈ entry.interface.toList, isPathCharacter character = true := by
  obtain ⟨before, last, isJoined, areWords⟩ := named.interface
  rw [isJoined]
  exact isPathCharacter_of_mem_join areWords

theorem Entry.Named.interface_isOneLine : Text.IsOneLine entry.interface := by
  intro isMember
  cases named.interface_characters _ isMember

/-- The interface is read up to a text that begins with a mark other than a colon. -/
theorem Entry.Named.interface_read {fixed : String}
    (stops : fixed.toList.head?.map isPathCharacter = some false) (rest : List Char) :
    Text.readWhile isPathCharacter (entry.interface.toList ++ (fixed.toList ++ rest)) =
      some (entry.interface, fixed.toList ++ rest) :=
  Text.readWhile_append named.interface_notEmpty named.interface_characters stops rest

end Names

end ForwardingProxy.Registry
