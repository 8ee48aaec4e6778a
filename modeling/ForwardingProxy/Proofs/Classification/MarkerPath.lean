import ForwardingProxy.Classification
import ForwardingProxy.Proofs.Attempt
import ForwardingProxy.Proofs.Registry.Words
import ForwardingProxy.Proofs.Segments
import ForwardingProxy.Proofs.Text.Trimming
import Mathlib.Data.List.Forall2

/-!
Contract: the path in a marker, and what it refers to.

Owns: `SpellsPath`, the texts that write a path, `OnlyPath`, the arguments that hold one path and
nothing else, the fact that a marker gives a path exactly when this is its only argument, and
`Refers`, which leads from a marker to a declaration.

Does not own: which problem a marker without such a path has.
-/

namespace ForwardingProxy.Classification

open Text (AllBlank IsTrimmed dropOuterBlanks isTrimmed_of_noBlanks)

/-- The text writes the path: its segments are identifiers, and blanks may stand on both sides of a
`::` between them. -/
inductive SpellsPath : (path : List String) → (text : List Char) → Prop where
  | last {segment : String} (isIdentifier : Text.isIdentifier segment = true) :
      SpellsPath [segment] segment.toList
  | more {segment : String} {path : List String} {before after text : List Char}
      (isIdentifier : Text.isIdentifier segment = true)
      (areBefore : AllBlank before)
      (areAfter : AllBlank after)
      (rest : SpellsPath path text) :
      SpellsPath (segment :: path) (segment.toList ++ before ++ ':' :: ':' :: (after ++ text))

/-- Whether a character holds no argument, but stands between arguments. -/
def isGap (character : Char) : Bool :=
  Text.isBlank character || character == ','

/-- Nothing but blanks and commas. -/
def AllGaps (text : List Char) : Prop :=
  ∀ character ∈ text, isGap character = true

instance (text : List Char) : Decidable (AllGaps text) :=
  decidable_of_iff (text.all isGap = true) List.all_eq_true

/-- The arguments of a marker are one path, with nothing but blanks and commas around it. -/
def OnlyPath (arguments : String) (path : List String) : Prop :=
  ∃ before written after, arguments.toList = before ++ written ++ after ∧
    AllGaps before ∧ AllGaps after ∧ SpellsPath path written

theorem AllGaps.append {before after : List Char} (areBefore : AllGaps before)
    (areAfter : AllGaps after) : AllGaps (before ++ after) :=
  List.forall_mem_append.mpr ⟨areBefore, areAfter⟩

theorem AllGaps.ofBlanks {blanks : List Char} (areBlank : AllBlank blanks) : AllGaps blanks :=
  fun character member => by rw [isGap, areBlank character member, Bool.true_or]

theorem AllGaps.comma : AllGaps [','] :=
  List.forall_mem_singleton.mpr (Bool.or_true _)

/-! ### Characters of a path -/

theorem isGap_of_mem_identifier {segment : String} (isIdentifier : Text.isIdentifier segment = true)
    {character : Char} (member : character ∈ segment.toList) :
    isGap character = false ∧ character ≠ ':' := by
  have continues := Text.continuesIdentifier_of_isIdentifierOf isIdentifier member
  have isWord := Registry.isWordCharacter_of_continuesIdentifier continues
  have noComma : character ≠ ',' := by
    rintro rfl
    cases isWord
  refine ⟨?_, ?_⟩
  · rw [isGap, Text.isBlank_of_continuesIdentifier continues, beq_eq_false_iff_ne.mpr noComma]
    rfl
  · rintro rfl
    cases isWord

theorem isBlank_of_isGap {character : Char} (noGap : isGap character = false) :
    Text.isBlank character = false :=
  (Bool.or_eq_false_iff.mp noGap).1

theorem isTrimmed_identifier {segment : String} (isIdentifier : Text.isIdentifier segment = true) :
    IsTrimmed segment.toList :=
  isTrimmed_of_noBlanks fun _ member =>
    isBlank_of_isGap (isGap_of_mem_identifier isIdentifier member).1

theorem isBlank_ne {character mark : Char} (isBlank : Text.isBlank character = true)
    (noBlank : Text.isBlank mark = false) : character ≠ mark := by
  rintro rfl
  rw [noBlank] at isBlank
  cases isBlank

namespace SpellsPath

variable {path : List String} {text : List Char}

theorem noComma (spells : SpellsPath path text) : ',' ∉ text := by
  have inIdentifier : ∀ {segment : String}, Text.isIdentifier segment = true →
      ',' ∉ segment.toList := fun isIdentifier member => by
    cases (isGap_of_mem_identifier isIdentifier member).1
  have inBlanks : ∀ {blanks : List Char}, AllBlank blanks → ',' ∉ blanks :=
    fun areBlank member => isBlank_ne (areBlank _ member) (by decide +kernel) rfl
  induction spells with
  | last isIdentifier => exact inIdentifier isIdentifier
  | more isIdentifier areBefore areAfter rest inductionHypothesis =>
      simp [inIdentifier isIdentifier, inBlanks areBefore, inBlanks areAfter, inductionHypothesis]

theorem ne_nil (spells : SpellsPath path text) : text ≠ [] := by
  cases spells with
  | last isIdentifier =>
      intro isEmpty
      rw [Text.isIdentifier, isEmpty] at isIdentifier
      cases isIdentifier
  | more isIdentifier areBefore areAfter rest => simp

theorem isTrimmed (spells : SpellsPath path text) : IsTrimmed text := by
  induction spells with
  | last isIdentifier => exact isTrimmed_identifier isIdentifier
  | @more segment path before after text isIdentifier areBefore areAfter rest
      inductionHypothesis =>
      have segmentNotEmpty : segment.toList ≠ [] := (last isIdentifier).ne_nil
      constructor
      · intro first isFirst
        rw [List.append_assoc, List.head?_append_of_ne_nil _ segmentNotEmpty] at isFirst
        exact (isTrimmed_identifier isIdentifier).begins first isFirst
      · intro last isLast
        have regrouped : segment.toList ++ before ++ ':' :: ':' :: (after ++ text) =
            segment.toList ++ before ++ [':', ':'] ++ after ++ text := by simp
        rw [regrouped, List.getLast?_append_of_ne_nil _ rest.ne_nil] at isLast
        exact inductionHypothesis.ends last isLast

end SpellsPath

/-! ### Segments -/

/-- A text is a path exactly when each of its pieces between `::` is an identifier with blanks
around it. -/
theorem pathSegments?_pieces {text : List Char} {path : List String} :
    pathSegments? text = some path ↔
      List.Forall₂ (fun piece segment =>
        Text.isIdentifier segment = true ∧ dropOuterBlanks piece = segment.toList)
        (Name.pieces text) path := by
  unfold pathSegments?
  generalize Name.pieces text = pieces
  dsimp only
  induction pieces generalizing path with
  | nil => cases path <;> simp
  | cons piece rest inductionHypothesis =>
      simp only [Option.ite_none_right_eq_some, Option.some.injEq, List.map_cons, List.all_cons,
        Bool.and_eq_true, List.forall₂_cons_left_iff] at inductionHypothesis ⊢
      constructor
      · rintro ⟨⟨isIdentifier, areIdentifiers⟩, rfl⟩
        refine ⟨_, _, ⟨?_, ?_⟩, inductionHypothesis.mp ⟨areIdentifiers, rfl⟩, rfl⟩
        · rw [Text.isIdentifier, String.toList_ofList]
          exact isIdentifier
        · rw [String.toList_ofList]
      · rintro ⟨segment, others, ⟨isIdentifier, isSegment⟩, areOthers, rfl⟩
        obtain ⟨areIdentifiers, rfl⟩ := inductionHypothesis.mpr areOthers
        rw [isSegment, String.ofList_toList]
        exact ⟨⟨isIdentifier, areIdentifiers⟩, rfl⟩

/-- Identifiers with blanks around them and `::` between them write a path. -/
theorem spellsPath_of_pieces {pieces : List (List Char)} {path : List String}
    (notEmpty : pieces ≠ []) (areSegments : List.Forall₂ (fun piece segment =>
      Text.isIdentifier segment = true ∧ dropOuterBlanks piece = segment.toList) pieces path) :
    ∃ before written after, AllBlank before ∧ AllBlank after ∧ SpellsPath path written ∧
      [':', ':'].intercalate pieces = before ++ written ++ after := by
  induction areSegments with
  | nil => exact absurd rfl notEmpty
  | @cons piece segment rest path isSegment areOthers inductionHypothesis =>
      obtain ⟨isIdentifier, isTrimmedPiece⟩ := isSegment
      obtain ⟨before, after, areBefore, areAfter, isPiece⟩ := Text.exists_blanks piece
      rw [isTrimmedPiece] at isPiece
      cases areOthers with
      | nil =>
          refine ⟨before, segment.toList, after, areBefore, areAfter, .last isIdentifier, ?_⟩
          rw [List.intercalate_singleton, isPiece]
      | @cons next _ others _ isNext areLater =>
          obtain ⟨beforeNext, written, behind, areBeforeNext, areEnd, spells, joined⟩ :=
            inductionHypothesis (List.cons_ne_nil _ _)
          refine ⟨before, _, behind, areBefore, areEnd,
            .more isIdentifier areAfter areBeforeNext spells, ?_⟩
          rw [List.intercalate_cons_cons, joined, isPiece]
          simp

/-- A text is a path exactly when it writes that path between blanks. -/
theorem pathSegments?_eq_some {text : List Char} {path : List String} :
    pathSegments? text = some path ↔
      ∃ before written after, AllBlank before ∧ AllBlank after ∧ SpellsPath path written ∧
        text = before ++ written ++ after := by
  constructor
  · intro isPath
    obtain ⟨before, written, after, areBefore, areAfter, spells, joined⟩ :=
      spellsPath_of_pieces (Name.pieces_ne_nil text) (pathSegments?_pieces.mp isPath)
    rw [Name.intercalate_pieces] at joined
    exact ⟨before, written, after, areBefore, areAfter, spells, joined⟩
  · rintro ⟨before, written, after, areBefore, areAfter, spells, rfl⟩
    rw [pathSegments?_pieces]
    have noColon : ∀ {blanks : List Char}, AllBlank blanks → ':' ∉ blanks :=
      fun areBlank member => isBlank_ne (areBlank _ member) (by decide +kernel) rfl
    induction spells generalizing before with
    | @last segment isIdentifier =>
        have noColons : ':' ∉ before ++ segment.toList ++ after := by
          have inSegment : ':' ∉ segment.toList := fun member =>
            (isGap_of_mem_identifier isIdentifier member).2 rfl
          simp [noColon areBefore, noColon areAfter, inSegment]
        rw [Name.pieces_of_notMem noColons]
        exact .cons ⟨isIdentifier,
          (isTrimmed_identifier isIdentifier).dropOuterBlanks_between areBefore areAfter⟩ .nil
    | @more segment path beforeMark afterMark text isIdentifier areBeforeMark areAfterMark rest
        inductionHypothesis =>
        have regrouped :
            before ++ (segment.toList ++ beforeMark ++ ':' :: ':' :: (afterMark ++ text)) ++ after =
              before ++ segment.toList ++ beforeMark ++
                ':' :: ':' :: (afterMark ++ text ++ after) := by simp
        have noColons : ':' ∉ before ++ segment.toList ++ beforeMark := by
          have inSegment : ':' ∉ segment.toList := fun member =>
            (isGap_of_mem_identifier isIdentifier member).2 rfl
          simp [noColon areBefore, noColon areBeforeMark, inSegment]
        rw [regrouped, Name.pieces_append noColons]
        exact .cons ⟨isIdentifier,
          (isTrimmed_identifier isIdentifier).dropOuterBlanks_between areBefore areBeforeMark⟩
          (inductionHypothesis afterMark areAfterMark)

/-! ### Arguments -/

/-- The pieces without blanks around them, of which empty ones are dropped. -/
def trimmedPieces (pieces : List (List Char)) : List (List Char) :=
  (pieces.map dropOuterBlanks).filter fun piece => !piece.isEmpty

theorem argumentPieces_eq (arguments : String) :
    argumentPieces arguments = trimmedPieces (Text.splitAt (· == ',') arguments.toList) :=
  rfl

theorem trimmedPieces_cons_blank {piece : List Char} (areBlank : AllBlank piece)
    (rest : List (List Char)) : trimmedPieces (piece :: rest) = trimmedPieces rest := by
  rw [trimmedPieces, List.map_cons, Text.dropOuterBlanks_eq_nil_iff.mpr areBlank]
  rfl

theorem trimmedPieces_cons {piece : List Char} (notBlank : dropOuterBlanks piece ≠ [])
    (rest : List (List Char)) :
    trimmedPieces (piece :: rest) = dropOuterBlanks piece :: trimmedPieces rest := by
  rw [trimmedPieces, List.map_cons, List.filter_cons_of_pos (by simpa using notBlank),
    trimmedPieces]

/-- Pieces of which nothing is left are blank, with commas between them. -/
theorem allGaps_of_trimmedPieces {pieces : List (List Char)}
    (noneLeft : trimmedPieces pieces = []) : AllGaps ([','].intercalate pieces) := by
  induction pieces with
  | nil => exact .ofBlanks .nil
  | cons piece rest inductionHypothesis =>
      by_cases isEmpty : dropOuterBlanks piece = []
      · have areBlank := Text.dropOuterBlanks_eq_nil_iff.mp isEmpty
        rw [trimmedPieces_cons_blank areBlank] at noneLeft
        cases rest with
        | nil =>
            rw [List.intercalate_singleton]
            exact .ofBlanks areBlank
        | cons next others =>
            rw [List.intercalate_cons_cons]
            exact ((AllGaps.ofBlanks areBlank).append .comma).append (inductionHypothesis noneLeft)
      · rw [trimmedPieces_cons isEmpty] at noneLeft
        cases noneLeft

/-- The only piece that is left stands between blanks and commas. -/
theorem exists_gaps_of_trimmedPieces {pieces : List (List Char)} {piece : List Char}
    (onlyLeft : trimmedPieces pieces = [piece]) :
    ∃ before after, AllGaps before ∧ AllGaps after ∧
      [','].intercalate pieces = before ++ piece ++ after := by
  induction pieces with
  | nil => cases onlyLeft
  | cons first rest inductionHypothesis =>
      by_cases isEmpty : dropOuterBlanks first = []
      · have areBlank := Text.dropOuterBlanks_eq_nil_iff.mp isEmpty
        rw [trimmedPieces_cons_blank areBlank] at onlyLeft
        obtain ⟨before, after, areBefore, areAfter, joined⟩ := inductionHypothesis onlyLeft
        cases rest with
        | nil => cases onlyLeft
        | cons next others =>
            refine ⟨first ++ [','] ++ before, after,
              ((AllGaps.ofBlanks areBlank).append .comma).append areBefore, areAfter, ?_⟩
            rw [List.intercalate_cons_cons, joined]
            simp
      · rw [trimmedPieces_cons isEmpty, List.cons.injEq] at onlyLeft
        obtain ⟨isFirst, noneLeft⟩ := onlyLeft
        obtain ⟨before, after, areBefore, areAfter, isPiece⟩ := Text.exists_blanks first
        rw [isFirst] at isPiece
        cases rest with
        | nil =>
            refine ⟨before, after, .ofBlanks areBefore, .ofBlanks areAfter, ?_⟩
            rw [List.intercalate_singleton]
            exact isPiece
        | cons next others =>
            refine ⟨before, after ++ [','] ++ [','].intercalate (next :: others),
              .ofBlanks areBefore, ?_, ?_⟩
            · exact ((AllGaps.ofBlanks areAfter).append .comma).append
                (allGaps_of_trimmedPieces noneLeft)
            · rw [List.intercalate_cons_cons, isPiece]
              simp

/-- Blanks and commas before a text leave nothing. -/
theorem trimmedPieces_gaps_append {before : List Char} (areGaps : AllGaps before)
    (text : List Char) :
    trimmedPieces (Text.splitAt (· == ',') (before ++ text)) =
      trimmedPieces (Text.splitAt (· == ',') text) := by
  induction before with
  | nil => rfl
  | cons character rest inductionHypothesis =>
      obtain ⟨gap, later⟩ := List.forall_mem_cons.mp areGaps
      rw [← inductionHypothesis later, List.cons_append, Text.splitAt]
      obtain ⟨piece, pieces, cut⟩ := List.exists_cons_of_ne_nil
        (Text.splitAt_ne_nil (· == ',') (rest ++ text))
      rw [cut]
      by_cases isComma : character = ','
      · rw [if_pos (by simpa using isComma)]
        exact trimmedPieces_cons_blank .nil _
      · rw [if_neg (by simpa using isComma)]
        have isBlank : Text.isBlank character = true := by simpa [isGap, isComma] using gap
        have sameTrimmed : dropOuterBlanks (character :: piece) = dropOuterBlanks piece :=
          Text.dropOuterBlanks_blanks_append (List.forall_mem_singleton.mpr isBlank) piece
        rw [trimmedPieces, trimmedPieces, List.map_cons, List.map_cons, sameTrimmed]

/-- A text without commas is the only piece that is left between blanks and commas. -/
theorem trimmedPieces_between {before piece after : List Char} (areBefore : AllGaps before)
    (areAfter : AllGaps after) (notEmpty : piece ≠ []) (isTrimmed : IsTrimmed piece)
    (noComma : ',' ∉ piece) :
    trimmedPieces (Text.splitAt (· == ',') (before ++ piece ++ after)) = [piece] := by
  have noSeparator : ∀ {blanks : List Char}, ',' ∉ blanks →
      ∀ character ∈ piece ++ blanks, (character == ',') = false := by
    intro blanks noMark character member
    rw [beq_eq_false_iff_ne]
    rintro rfl
    rcases List.mem_append.mp member with inPiece | inBlanks
    · exact noComma inPiece
    · exact noMark inBlanks
  have trimmed : ∀ {blanks : List Char}, ',' ∉ blanks → AllGaps blanks →
      dropOuterBlanks (piece ++ blanks) = piece := by
    intro blanks noMark areGaps
    rw [Text.dropOuterBlanks_append_blanks, isTrimmed.dropOuterBlanks_eq]
    intro character member
    have notComma : character ≠ ',' := fun same => noMark (same ▸ member)
    simpa [isGap, notComma] using areGaps character member
  rw [List.append_assoc, trimmedPieces_gaps_append areBefore]
  by_cases hasComma : ',' ∈ after
  · obtain ⟨blanks, rest, rfl, noMark⟩ := List.eq_append_cons_of_mem hasComma
    obtain ⟨areBlanks, areOthers⟩ := List.forall_mem_append.mp areAfter
    have isPiece := trimmed noMark areBlanks
    have noneLeft := trimmedPieces_gaps_append (List.forall_mem_cons.mp areOthers).2 []
    rw [List.append_nil] at noneLeft
    rw [← List.append_assoc, Text.splitAt_append (noSeparator noMark) rfl,
      trimmedPieces_cons (by rwa [isPiece]), isPiece, noneLeft]
    rfl
  · have isPiece := trimmed hasComma areAfter
    rw [Text.splitAt_of_none (noSeparator hasComma), trimmedPieces_cons (by rwa [isPiece]),
      isPiece]
    rfl

/-- A marker gives a path exactly when its arguments are this path and nothing else. -/
theorem markerPath_eq_ok {arguments : String} {path : List String} :
    markerPath arguments = .ok path ↔ OnlyPath arguments path := by
  unfold markerPath
  rw [argumentPieces_eq]
  constructor
  · intro isPath
    split at isPath
    next piece onlyLeft =>
      obtain ⟨before, after, areBefore, areAfter, joined⟩ := exists_gaps_of_trimmedPieces onlyLeft
      rw [Text.intercalate_splitAt] at joined
      split at isPath
      next segments areSegments =>
        cases isPath
        obtain ⟨blanksBefore, written, blanksAfter, areBlankBefore, areBlankAfter, spells, rfl⟩ :=
          pathSegments?_eq_some.mp areSegments
        refine ⟨before ++ blanksBefore, written, blanksAfter ++ after, ?_,
          areBefore.append (.ofBlanks areBlankBefore),
          (AllGaps.ofBlanks areBlankAfter).append areAfter, spells⟩
        rw [joined]
        simp
      next => cases isPath
    next => cases isPath
  · rintro ⟨before, written, after, isText, areBefore, areAfter, spells⟩
    have onlyLeft := trimmedPieces_between areBefore areAfter spells.ne_nil spells.isTrimmed
      spells.noComma
    have isPath : pathSegments? written = some path :=
      pathSegments?_eq_some.mpr ⟨[], written, [], .nil, .nil, spells, by simp⟩
    rw [isText, onlyLeft]
    simp only [isPath]

/-! ### Declarations -/

/-- The text between the delimiters of an attribute, empty when it has none. -/
def argumentsOf (written : Attribute) : String :=
  written.arguments.getD ""

/-- The only argument of the attribute is a path that means `name` in the scope, and the declaration
with that number is found under this name. -/
structure Refers (table : SymbolTable) (scope : Nat) (written : Attribute) (name : String)
    (target : Nat) : Prop where
  argument : ∃ path, OnlyPath (argumentsOf written) path ∧ table.resolve? scope path = some name
  found : table.find? name = some target

theorem attributePath_eq_ok {marker declaration : String} {written : Attribute}
    {path : List String} :
    attributePath marker declaration written = .ok path ↔ OnlyPath (argumentsOf written) path := by
  rw [← markerPath_eq_ok, argumentsOf, attributePath]
  cases markerPath (written.arguments.getD "") with
  | ok segments => rw [pure_eq_ok, Except.ok.injEq, eq_comm]
  | error problem => simp

theorem attributePath_eq_error {marker declaration : String} {written : Attribute}
    {problem : MarkerProblem} (malformed : markerPath (argumentsOf written) = .error problem) :
    attributePath marker declaration written =
      Attempt.fail (.marker marker declaration problem) := by
  rw [argumentsOf] at malformed
  rw [attributePath, malformed]

/-- A path that is the only argument is the only such path. -/
theorem OnlyPath.unique {arguments : String} {path other : List String}
    (isPath : OnlyPath arguments path) (isOther : OnlyPath arguments other) : path = other :=
  Except.ok.inj ((markerPath_eq_ok.mpr isPath).symm.trans (markerPath_eq_ok.mpr isOther))

/-- An attribute refers to at most one declaration. -/
theorem Refers.unique {table : SymbolTable} {scope : Nat} {written : Attribute}
    {name otherName : String} {target other : Nat} (refers : Refers table scope written name target)
    (alsoRefers : Refers table scope written otherName other) :
    name = otherName ∧ target = other := by
  obtain ⟨⟨path, isPath, means⟩, found⟩ := refers
  obtain ⟨⟨otherPath, isOther, alsoMeans⟩, alsoFound⟩ := alsoRefers
  cases isPath.unique isOther
  cases means.symm.trans alsoMeans
  exact ⟨rfl, Option.some.inj (found.symm.trans alsoFound)⟩

end ForwardingProxy.Classification
