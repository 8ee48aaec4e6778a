import ForwardingProxy.Proofs.Source.Lexing
import ForwardingProxy.TypeSyntax

/-!
Contract: the text of a written type, token by token.

Owns: `TypeSyntax.Plain`, the types that have a text of their own; `TypeSyntax.pieces`, the tokens of
that text with the blanks it has between them; and the fact that the text is spelled by them.

Does not own: how a type is read back; see `TypeReading`.
-/

namespace ForwardingProxy

open Source (Lexeme Piece IsWord Separation Spelled spell)

namespace TypeSyntax

/-! ### Plain types -/

/-- The words that are no identifiers. -/
def keywords : List String :=
  ["as", "async", "await", "break", "const", "continue", "crate", "dyn", "else", "enum", "extern",
    "false", "fn", "for", "if", "impl", "in", "let", "loop", "match", "mod", "move", "mut", "pub",
    "ref", "return", "self", "Self", "static", "struct", "super", "trait", "true", "type", "unsafe",
    "use", "where", "while", "abstract", "become", "box", "do", "final", "gen", "macro", "override",
    "priv", "try", "typeof", "unsized", "virtual", "yield"]

/-- An identifier that names no built-in type. -/
structure IsIdentifier (text : String) : Prop where
  isWord : IsWord text.toList
  notKeyword : text ∉ keywords
  notPrimitive : text ∉ Name.primitiveTypes

/-- One or more identifiers, behind a root or not. -/
inductive IsPath : List String → Prop where
  | relative {first : String} {rest : List String} (isFirst : IsIdentifier first)
      (each : ∀ segment ∈ rest, IsIdentifier segment) : IsPath (first :: rest)
  | rooted {root first : String} {rest : List String} (isRoot : root ∈ ["crate", "self", "super"])
      (each : ∀ segment ∈ first :: rest, IsIdentifier segment) : IsPath (root :: first :: rest)

/-- A type of paths, references, trait objects and `()` alone. -/
inductive Plain : TypeSyntax → Prop where
  | primitive {name : String} (isPrimitive : name ∈ Name.primitiveTypes) : Plain (.path [name] [])
  | path {segments : List String} {arguments : List TypeSyntax} (isPath : IsPath segments)
      (each : ∀ argument ∈ arguments, Plain argument) : Plain (.path segments arguments)
  | reference {mutable : Bool} {inner : TypeSyntax} (plain : Plain inner) :
      Plain (.reference mutable inner)
  | traitObject {segments : List String} (isPath : IsPath segments) : Plain (.traitObject segments)
  | unit : Plain .unit

/-! ### Their tokens -/

/-- The pieces of a path. -/
def pathPieces : List String → List Piece
  | [] => []
  | first :: rest =>
      ⟨⟨.word, first⟩, []⟩ ::
        rest.flatMap fun segment => [⟨⟨.mark, "::"⟩, []⟩, ⟨⟨.word, segment⟩, []⟩]

mutual

/-- The tokens of a type with the blanks behind them. -/
def pieces : TypeSyntax → List Piece
  | .path segments arguments =>
      pathPieces segments ++
        if arguments.isEmpty then []
        else ⟨⟨.mark, "<"⟩, []⟩ :: (argumentPieces arguments ++ [⟨⟨.mark, ">"⟩, []⟩])
  | .reference mutable inner =>
      ⟨⟨.mark, "&"⟩, []⟩ :: ((if mutable then [⟨⟨.word, "mut"⟩, [' ']⟩] else []) ++ pieces inner)
  | .traitObject segments => ⟨⟨.word, "dyn"⟩, [' ']⟩ :: pathPieces segments
  | .unit => [⟨⟨.mark, "("⟩, []⟩, ⟨⟨.mark, ")"⟩, []⟩]
  | .unsupported _ => []

/-- The tokens of several types with commas between them. -/
def argumentPieces : List TypeSyntax → List Piece
  | [] => []
  | [type] => pieces type
  | type :: next :: rest => pieces type ++ ⟨⟨.mark, ","⟩, [' ']⟩ :: argumentPieces (next :: rest)

end

/-- The tokens of a type. -/
def tokens (type : TypeSyntax) : List Lexeme :=
  type.pieces.map Piece.token

theorem spell_append (first second : List Piece) :
    spell (first ++ second) = spell first ++ spell second := by
  induction first with
  | nil => rfl
  | cons piece rest inductionHypothesis =>
      rw [List.cons_append, spell, spell, inductionHypothesis]
      simp

theorem spell_pathPieces (segments : List String) :
    spell (pathPieces segments) = (Name.join segments).toList := by
  cases segments with
  | nil => rfl
  | cons first rest =>
      have further : ∀ (rest : List String) (start : String),
          start.toList ++ spell (rest.flatMap fun segment =>
            [⟨⟨.mark, "::"⟩, []⟩, ⟨⟨.word, segment⟩, []⟩]) =
            (Name.join (start :: rest)).toList := by
        intro rest
        induction rest with
        | nil => intro start; simp [spell, Name.join]
        | cons segment others inductionHypothesis =>
            intro start
            have joined : Name.join (start :: segment :: others) =
                start ++ "::" ++ Name.join (segment :: others) := by
              unfold Name.join
              rw [String.intercalate_cons_cons]
            rw [List.flatMap_cons, spell_append, joined]
            simp [spell, ← inductionHypothesis]
      rw [pathPieces, spell]
      exact further rest first

theorem spell_argumentPieces {types : List TypeSyntax}
    (each : ∀ type ∈ types, spell type.pieces = type.render.toList) :
    spell (argumentPieces types) = (", ".intercalate (renderAll types)).toList := by
  induction types with
  | nil => rfl
  | cons type rest inductionHypothesis =>
      have ofType := each type (List.mem_cons_self ..)
      have ofRest := inductionHypothesis fun other member => each other (List.mem_cons_of_mem _ member)
      cases rest with
      | nil => simp [argumentPieces, renderAll, ofType]
      | cons next others =>
          have rendered : renderAll (type :: next :: others) =
              type.render :: next.render :: renderAll others := by
            rw [renderAll, renderAll]
          rw [argumentPieces, spell_append, spell, ofRest, ofType, rendered,
            String.intercalate_cons_cons, renderAll]
          simp

/-- The text of a plain type is spelled by its pieces. -/
theorem spell_pieces {type : TypeSyntax} (plain : type.Plain) :
    spell type.pieces = type.render.toList := by
  induction plain with
  | primitive isPrimitive => simp [pieces, render, spell_pathPieces]
  | @path segments arguments isPath each inductionHypothesis =>
      rw [pieces, render, spell_append, spell_pathPieces]
      by_cases isEmpty : arguments.isEmpty = true
      · simp [isEmpty, spell]
      · rw [if_neg isEmpty, if_neg isEmpty, spell, spell_append,
          spell_argumentPieces inductionHypothesis]
        simp [spell]
  | @reference mutable inner plain inductionHypothesis =>
      rw [pieces, render, spell, spell_append, inductionHypothesis]
      cases mutable <;> simp [spell]
  | traitObject isPath => simp [pieces, render, spell, spell_pathPieces]
  | unit => simp [pieces, render, spell]

/-! ### Their tokens can be cut off -/

theorem isClean_mark {text : String} (isMark : text ∈ Source.plainMarks) :
    Piece.IsClean ⟨⟨.mark, text⟩, []⟩ :=
  ⟨.mark isMark, .nil⟩

theorem IsPath.isWord {segments : List String} (isPath : IsPath segments) :
    ∀ segment ∈ segments, IsWord segment.toList := by
  have rootIsWord : ∀ root ∈ ["crate", "self", "super"],
      Source.isPlainWord root.toList = true := by
    decide +kernel
  cases isPath with
  | relative isFirst each =>
      rintro segment (_ | ⟨_, member⟩)
      · exact isFirst.isWord
      · exact (each segment member).isWord
  | rooted isRoot each =>
      rintro segment (_ | ⟨_, member⟩)
      · exact Source.isWord_of_isPlainWord (rootIsWord _ isRoot)
      · exact (each segment member).isWord

theorem isClean_pathPieces {segments : List String}
    (each : ∀ segment ∈ segments, IsWord segment.toList) :
    ∀ piece ∈ pathPieces segments, Piece.IsClean piece := by
  cases segments with
  | nil => exact fun _ member => absurd member List.not_mem_nil
  | cons first rest =>
      rintro piece (_ | ⟨_, member⟩)
      · exact ⟨.word (each first (List.mem_cons_self ..)), .nil⟩
      · obtain ⟨segment, isSegment, isPiece⟩ := List.mem_flatMap.mp member
        rcases List.mem_pair.mp isPiece with rfl | rfl
        · exact ⟨.colons, .nil⟩
        · exact ⟨.word (each segment (List.mem_cons_of_mem _ isSegment)), .nil⟩

theorem isClean_argumentPieces {types : List TypeSyntax}
    (each : ∀ type ∈ types, ∀ piece ∈ type.pieces, Piece.IsClean piece) :
    ∀ piece ∈ argumentPieces types, Piece.IsClean piece := by
  induction types with
  | nil => exact fun _ member => absurd member List.not_mem_nil
  | cons type rest inductionHypothesis =>
      have ofType := each type (List.mem_cons_self ..)
      cases rest with
      | nil => rwa [argumentPieces]
      | cons next others =>
          rw [argumentPieces]
          intro piece member
          rcases List.mem_append.mp member with inType | member
          · exact ofType piece inType
          · rcases List.mem_cons.mp member with rfl | inRest
            · exact ⟨.mark (by decide), .blank (by decide +kernel) .nil⟩
            · exact inductionHypothesis
                (fun other member => each other (List.mem_cons_of_mem _ member)) piece inRest

theorem isClean_pieces {type : TypeSyntax} (plain : type.Plain) :
    ∀ piece ∈ type.pieces, Piece.IsClean piece := by
  have primitiveIsWord : ∀ name ∈ Name.primitiveTypes,
      Source.isPlainWord name.toList = true := by
    decide +kernel
  have oneBlank : Separation [' '] := .blank (by decide +kernel) .nil
  have mutIsWord : IsWord "mut".toList := Source.isWord_of_isPlainWord (by decide +kernel)
  have dynIsWord : IsWord "dyn".toList := Source.isWord_of_isPlainWord (by decide +kernel)
  induction plain with
  | @primitive name isPrimitive =>
      intro piece member
      obtain rfl : piece = ⟨⟨.word, name⟩, []⟩ := by simpa [pieces, pathPieces] using member
      exact ⟨.word (Source.isWord_of_isPlainWord (primitiveIsWord name isPrimitive)), .nil⟩
  | @path segments arguments isPath each inductionHypothesis =>
      rw [pieces]
      intro piece member
      rcases List.mem_append.mp member with inPath | member
      · exact isClean_pathPieces isPath.isWord piece inPath
      · by_cases isEmpty : arguments.isEmpty = true
        · rw [if_pos isEmpty] at member
          exact absurd member List.not_mem_nil
        · rw [if_neg isEmpty] at member
          rcases List.mem_cons.mp member with rfl | member
          · exact isClean_mark (by decide)
          · rcases List.mem_append.mp member with inArguments | isLast
            · exact isClean_argumentPieces inductionHypothesis piece inArguments
            · obtain rfl := List.mem_singleton.mp isLast
              exact isClean_mark (by decide)
  | @reference mutable inner plain inductionHypothesis =>
      rw [pieces]
      intro piece member
      rcases List.mem_cons.mp member with rfl | member
      · exact isClean_mark (by decide)
      · rcases List.mem_append.mp member with isMut | inInner
        · cases mutable with
          | false => exact absurd isMut List.not_mem_nil
          | true =>
              obtain rfl := List.mem_singleton.mp isMut
              exact ⟨.word mutIsWord, oneBlank⟩
        · exact inductionHypothesis piece inInner
  | @traitObject segments isPath =>
      rw [pieces]
      intro piece member
      rcases List.mem_cons.mp member with rfl | inPath
      · exact ⟨.word dynIsWord, oneBlank⟩
      · exact isClean_pathPieces isPath.isWord piece inPath
  | unit =>
      rw [pieces]
      intro piece member
      rcases List.mem_pair.mp member with rfl | rfl <;> exact isClean_mark (by decide)

/-! ### Their tokens do not run into each other -/

/-- A mark comes first that is cut off whatever stands around it. -/
def BeginsWithMark (pieces : List Piece) : Prop :=
  ∀ first ∈ pieces.head?, ∃ text ∈ Source.plainMarks, first.token = ⟨.mark, text⟩

theorem apart_of_mark {first second : Piece} {text : String} (isMark : text ∈ Source.plainMarks)
    (token : first.token = ⟨.mark, text⟩ ∨ second.token = ⟨.mark, text⟩) :
    first.Apart second := by
  rintro (⟨firstIsWord, secondIsWord⟩ | ⟨firstIsColons, secondIsColons⟩)
  · rcases token with isFirst | isSecond
    · rw [isFirst] at firstIsWord
      cases firstIsWord
    · rw [isSecond] at secondIsWord
      cases secondIsWord
  · have noColons : ∀ text ∈ Source.plainMarks, (⟨.mark, text⟩ : Lexeme) ≠ ⟨.mark, "::"⟩ := by
      decide
    rcases token with isFirst | isSecond
    · exact absurd (isFirst.symm.trans firstIsColons) (noColons text isMark)
    · exact absurd (isSecond.symm.trans secondIsColons) (noColons text isMark)

theorem apart_of_beginsWithMark {tail : List Piece} (begins : BeginsWithMark tail) (piece : Piece) :
    ∀ first ∈ tail.head?, piece.Apart first := by
  intro first isFirst
  obtain ⟨text, isMark, token⟩ := begins first isFirst
  exact apart_of_mark isMark (.inr token)

theorem apart_pathPieces (segments : List String) {tail : List Piece}
    (begins : BeginsWithMark tail) (apart : tail.IsChain Piece.Apart) :
    (pathPieces segments ++ tail).IsChain Piece.Apart := by
  have further : ∀ (rest : List String) (start : String),
      (⟨⟨.word, start⟩, []⟩ :: ((rest.flatMap fun segment =>
        [⟨⟨.mark, "::"⟩, []⟩, ⟨⟨.word, segment⟩, []⟩]) ++ tail)).IsChain Piece.Apart := by
    intro rest
    induction rest with
    | nil =>
        intro start
        exact List.isChain_cons.mpr ⟨apart_of_beginsWithMark begins _, apart⟩
    | cons segment others inductionHypothesis =>
        intro start
        refine List.isChain_cons_cons.mpr ⟨?_, List.isChain_cons_cons.mpr
          ⟨?_, inductionHypothesis segment⟩⟩
        · rintro (⟨-, isWord⟩ | ⟨isColons, -⟩)
          · cases isWord
          · cases congrArg Lexeme.kind isColons
        · rintro (⟨isWord, -⟩ | ⟨-, isColons⟩)
          · cases isWord
          · cases congrArg Lexeme.kind isColons
  cases segments with
  | nil => exact apart
  | cons first rest => exact further rest first

theorem apart_cons_mark {text : String} (isMark : text ∈ Source.plainMarks) (gap : List Char)
    {tail : List Piece} (apart : tail.IsChain Piece.Apart) :
    (⟨⟨.mark, text⟩, gap⟩ :: tail).IsChain Piece.Apart :=
  List.isChain_cons.mpr ⟨fun _ _ => apart_of_mark isMark (.inl rfl), apart⟩

theorem apart_cons_gap (token : Lexeme) {tail : List Piece} (apart : tail.IsChain Piece.Apart) :
    (⟨token, [' ']⟩ :: tail).IsChain Piece.Apart :=
  List.isChain_cons.mpr ⟨fun _ _ _ => List.cons_ne_nil _ _, apart⟩

theorem beginsWithMark_cons {text : String} (isMark : text ∈ Source.plainMarks) (gap : List Char)
    (tail : List Piece) : BeginsWithMark (⟨⟨.mark, text⟩, gap⟩ :: tail) := by
  rintro first isFirst
  obtain rfl := Option.some.inj isFirst
  exact ⟨text, isMark, rfl⟩

theorem apart_argumentPieces {types : List TypeSyntax}
    (each : ∀ type ∈ types, ∀ tail, BeginsWithMark tail → tail.IsChain Piece.Apart →
      (type.pieces ++ tail).IsChain Piece.Apart)
    {tail : List Piece} (begins : BeginsWithMark tail) (apart : tail.IsChain Piece.Apart) :
    (argumentPieces types ++ tail).IsChain Piece.Apart := by
  induction types with
  | nil => exact apart
  | cons type rest inductionHypothesis =>
      have ofType := each type (List.mem_cons_self ..)
      cases rest with
      | nil =>
          rw [argumentPieces]
          exact ofType tail begins apart
      | cons next others =>
          have ofRest := inductionHypothesis fun other member =>
            each other (List.mem_cons_of_mem _ member)
          rw [argumentPieces, List.append_assoc, List.cons_append]
          exact ofType _ (beginsWithMark_cons (by decide) _ _) (apart_cons_mark (by decide) _ ofRest)

theorem apart_pieces {type : TypeSyntax} (plain : type.Plain) {tail : List Piece}
    (begins : BeginsWithMark tail) (apart : tail.IsChain Piece.Apart) :
    (type.pieces ++ tail).IsChain Piece.Apart := by
  induction plain generalizing tail with
  | primitive isPrimitive =>
      rw [pieces, List.append_assoc]
      exact apart_pathPieces _ begins apart
  | @path segments arguments isPath each inductionHypothesis =>
      rw [pieces, List.append_assoc]
      by_cases isEmpty : arguments.isEmpty = true
      · rw [if_pos isEmpty, List.nil_append]
        exact apart_pathPieces segments begins apart
      · rw [if_neg isEmpty, List.cons_append, List.append_assoc]
        refine apart_pathPieces segments (beginsWithMark_cons (by decide) _ _)
          (apart_cons_mark (by decide) _ ?_)
        exact apart_argumentPieces (fun type member _ => inductionHypothesis type member)
          (beginsWithMark_cons (by decide) _ _) (apart_cons_mark (by decide) _ apart)
  | @reference mutable inner plain inductionHypothesis =>
      rw [pieces, List.cons_append, List.append_assoc]
      refine apart_cons_mark (by decide) _ ?_
      cases mutable with
      | false => exact inductionHypothesis begins apart
      | true => exact apart_cons_gap _ (inductionHypothesis begins apart)
  | traitObject isPath =>
      rw [pieces, List.cons_append]
      exact apart_cons_gap _ (apart_pathPieces _ begins apart)
  | unit =>
      rw [pieces]
      exact apart_cons_mark (by decide) _ (apart_cons_mark (by decide) _ apart)

/-! ### A text with something behind it -/

/-- The pieces with a further gap behind the last token. -/
def closeWith (gap : List Char) : List Piece → List Piece
  | [] => []
  | [piece] => [⟨piece.token, piece.gap ++ gap⟩]
  | piece :: next :: rest => piece :: closeWith gap (next :: rest)

theorem map_token_closeWith (gap : List Char) (pieces : List Piece) :
    (closeWith gap pieces).map Piece.token = pieces.map Piece.token := by
  induction pieces using closeWith.induct with
  | case1 => rfl
  | case2 piece => rfl
  | case3 piece next rest inductionHypothesis =>
      rw [closeWith, List.map_cons, inductionHypothesis]
      rfl

theorem spell_closeWith (gap : List Char) {pieces : List Piece} (nonempty : pieces ≠ []) :
    spell (closeWith gap pieces) = spell pieces ++ gap := by
  induction pieces using closeWith.induct with
  | case1 => exact absurd rfl nonempty
  | case2 piece => simp [closeWith, spell]
  | case3 piece next rest inductionHypothesis =>
      rw [closeWith, Source.spell, inductionHypothesis (List.cons_ne_nil _ _)]
      simp [spell]

theorem isClean_closeWith {gap : List Char} (separation : Separation gap) {pieces : List Piece}
    (clean : ∀ piece ∈ pieces, piece.IsClean) :
    ∀ piece ∈ closeWith gap pieces, piece.IsClean := by
  induction pieces using closeWith.induct with
  | case1 => exact clean
  | case2 piece =>
      intro other member
      obtain rfl := List.mem_singleton.mp member
      obtain ⟨spellable, separated⟩ := clean piece (List.mem_cons_self ..)
      exact ⟨spellable, separated.append separation⟩
  | case3 piece next rest inductionHypothesis =>
      rintro other (_ | ⟨_, member⟩)
      · exact clean piece (List.mem_cons_self ..)
      · exact inductionHypothesis (fun one isOne => clean one (List.mem_cons_of_mem _ isOne)) other
          member

theorem apart_closeWith (gap : List Char) (pieces : List Piece) {tail : List Piece}
    (apart : (pieces ++ tail).IsChain Piece.Apart) :
    (closeWith gap pieces ++ tail).IsChain Piece.Apart := by
  induction pieces using closeWith.induct with
  | case1 => exact apart
  | case2 piece =>
      obtain ⟨fromLast, ofTail⟩ := List.isChain_cons.mp apart
      refine List.isChain_cons.mpr ⟨fun next isNext merges => ?_, ofTail⟩
      exact List.append_ne_nil_of_left_ne_nil (fromLast next isNext merges) gap
  | case3 piece next rest inductionHypothesis =>
      obtain ⟨fromFirst, further⟩ := List.isChain_cons_cons.mp apart
      refine List.isChain_cons.mpr ⟨fun other isOther merges => ?_, inductionHypothesis further⟩
      -- the token behind the first one stays what it is
      have sameToken : other.token = next.token := by
        cases rest with
        | nil =>
            obtain rfl := Option.some.inj isOther
            rfl
        | cons second others =>
            obtain rfl := Option.some.inj isOther
            rfl
      rw [sameToken] at merges
      exact fromFirst merges

end TypeSyntax

end ForwardingProxy
