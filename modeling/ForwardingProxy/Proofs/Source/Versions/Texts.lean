import ForwardingProxy.Proofs.Source.Cut.Tokens
import ForwardingProxy.Proofs.Source.Versions.Insides

/-!
Contract: two texts that differ between two braces only have the same items, but for the lines.

Owns: `Source.Site`, a text around a block; `Source.BalancedText`, which tells what may stand between
its braces; and the fact that another inside of a block that is passed over moves the items of the
text to other lines and changes nothing else about them.

Comments and literals are one piece each, so braces in them do not count.
-/

namespace ForwardingProxy.Source

/-! ### Blocks -/

/-- The tokens in front of a closing brace, from the first line on. -/
def tokensInside (inside : List Char) : List Token :=
  tokensOf 0 [] (joinLifetimes (lexemesOf (inside ++ ['\x7d'])).dropLast)

/-- A closing brace behind the text is one, and closes what no brace in the text opens. -/
structure BalancedText (inside : List Char) : Prop where
  isClosing : (lexemesOf (inside ++ ['\x7d'])).getLast? = some ⟨.mark, "\x7d"⟩
  closes : closesBraces 0 (tokensInside inside) = true

instance (inside : List Char) : Decidable (BalancedText inside) :=
  decidable_of_iff
    ((lexemesOf (inside ++ ['\x7d'])).getLast? = some ⟨.mark, "\x7d"⟩ ∧
      closesBraces 0 (tokensInside inside) = true)
    ⟨fun holds => ⟨holds.1, holds.2⟩, fun balanced => ⟨balanced.isClosing, balanced.closes⟩⟩

theorem BalancedText.isCut {inside : List Char} (balanced : BalancedText inside) :
    lexemesOf (inside ++ ['\x7d']) =
      (lexemesOf (inside ++ ['\x7d'])).dropLast ++ [⟨.mark, "\x7d"⟩] := by
  obtain ⟨pieces, isCut⟩ := List.getLast?_eq_some_iff.mp balanced.isClosing
  rw [isCut, List.dropLast_concat]

theorem closesBraces_further (others lines : Nat) (tokens : List Token) :
    closesBraces others (tokens.map (Token.further lines)) = closesBraces others tokens := by
  induction tokens generalizing others with
  | nil => rfl
  | cons token rest inductionHypothesis =>
      rw [List.map_cons, closesBraces, closesBraces, inductionHypothesis, inductionHypothesis,
        inductionHypothesis]
      rfl

/-! ### Texts around a block -/

/-- A text around a block: its preamble, what stands behind that in front of the opening brace, and
what stands behind the closing brace. The opening brace is one, in no comment or literal, and begins
a block. -/
structure Site where
  preamble : List Char
  own : List Char
  behind : List Char
  /-- The pieces in front of the block. -/
  pieces : List Lexeme
  isStart : dropPreamble (preamble ++ own ++ ['\x7b', '\n']) = (preamble, own ++ ['\x7b', '\n'])
  isCut : lexemesOf (own ++ ['\x7b', '\n']) =
    pieces ++ ⟨.mark, "\x7b"⟩ :: lexemesOf ['\n']
  noName : ∀ token ∈ (tokensOf (lineFeeds preamble) [] (joinLifetimes pieces)).getLast?,
    token.leadsName = false

namespace Site

variable (site : Site)

/-- The text with that inside of the block. -/
def text (inside : List Char) : String :=
  String.ofList (site.preamble ++ site.own ++ '\x7b' :: (inside ++ '\x7d' :: site.behind))

/-- The line of the opening brace. -/
def line : Nat :=
  lineFeeds site.preamble + lineFeeds site.own

/-- The tokens in front of the block. -/
def before : List Token :=
  tokensOf (lineFeeds site.preamble) [] (joinLifetimes site.pieces)

/-- The opening brace. -/
def opening : Token :=
  ⟨.mark, "\x7b", site.line, gapBehind [] (joinLifetimes site.pieces)⟩

/-- The closing brace. -/
def closing (inside : List Char) : Token :=
  ⟨.mark, "\x7d", site.line + lineFeeds inside,
    gapBehind [] (joinLifetimes (lexemesOf (inside ++ ['\x7d'])).dropLast)⟩

/-- The tokens of the block, braces included. -/
def block (inside : List Char) : List Token :=
  site.opening :: ((tokensInside inside).map (Token.further site.line) ++ [site.closing inside])

/-- The tokens behind the block. -/
def after (inside : List Char) : List Token :=
  (tokensOf 0 [] (joinLifetimes (lexemesOf site.behind))).map
    (Token.further (site.line + lineFeeds inside))

/-- What may stand between the braces: braces are balanced there, and no character literal reaches
over one of those of the block. -/
structure Takes (inside : List Char) : Prop where
  balanced : BalancedText inside
  opens : QuotesEnd '\x7b' (site.preamble ++ site.own) (inside ++ '\x7d' :: site.behind)
  closes : QuotesEnd '\x7d' inside site.behind

variable {site} {inside other : List Char}

/-- Without apostrophes next to the block all that counts is that braces are balanced. -/
theorem Takes.of_balanced (balanced : BalancedText inside)
    (noQuote : ∀ quote ∈ [['\''], ['\'', '\\'], ['\'', '\\', 'u']],
      ¬quote <:+ site.preamble ++ site.own)
    (noQuoteBehind : site.behind.head? ≠ some '\'') : site.Takes inside where
  balanced := balanced
  opens := quotesEnd_opening noQuote _
  closes := quotesEnd_closing inside noQuoteBehind

/-- A line feed may stand between the braces. -/
theorem takes_fed (site : Site) : site.Takes ['\n'] where
  balanced := by decide +kernel
  opens := quotesEnd_fed _ _
  closes := by
    refine quotesEnd_of (.inr rfl) (fun isLast => absurd isLast (by decide)) fun escape isLast => ?_
    have isShorter := isLast.length_le
    simp at isShorter

theorem lexemesOf_inside (balanced : BalancedText inside) {behind : List Char}
    (closes : QuotesEnd '\x7d' inside behind) :
    lexemesOf (inside ++ '\x7d' :: behind) =
      (lexemesOf (inside ++ ['\x7d'])).dropLast ++ ⟨.mark, "\x7d"⟩ :: lexemesOf behind := by
  have endsBefore : QuotesEnd '\x7d' inside [] := quotesEnd_closing inside nofun
  refine lexemesOf_brace (.inr rfl) ?_ endsBefore closes
  rw [balanced.isCut, List.dropLast_concat, lexemesOf]

theorem tokens_text (takes : site.Takes inside) :
    tokens (site.text inside) = site.before ++ (site.block inside ++ site.after inside) := by
  have isBrace : IsBrace '\x7b' := .inl rfl
  have isPreamble := dropPreamble_brace isBrace (by simp) site.isStart (quotesEnd_fed _ _)
    takes.opens
  have opens : QuotesEnd '\x7b' site.own (inside ++ '\x7d' :: site.behind) :=
    fun quoted isLast => takes.opens quoted (isLast.trans (List.suffix_append _ _))
  have areAhead := lexemesOf_brace isBrace site.isCut (quotesEnd_fed _ _) opens
  have areInside := lexemesOf_inside takes.balanced takes.closes
  have isLine : lineFeeds site.preamble + lineFeeds (charactersOf site.pieces) = site.line := by
    rw [charactersOf_cut site.isCut]
    rfl
  have isClosingLine : lineFeeds (charactersOf (lexemesOf (inside ++ ['\x7d'])).dropLast) =
      lineFeeds inside := by
    rw [charactersOf_cut areInside]
  unfold tokens text
  rw [String.toList_ofList, isPreamble]
  dsimp only
  rw [areAhead, areInside, ← lineFeeds, tokensOf_around _ _ _ _ (by decide) (by decide),
    tokensOf_around _ _ _ _ (by decide) (by decide), isLine, isClosingLine]
  simp only [before, block, opening, closing, after, tokensInside, List.cons_append,
    List.append_assoc, List.nil_append, ← tokensOf_further, Nat.zero_add]

end Site

/-! ### Two versions -/

/-- The insides of two versions. -/
def insides (first second : List Char) : Version → List Char
  | .original => first
  | .changed => second

/-- Where a line ends up once so many line feeds stand in the place of the one behind `line`. -/
def lineBelow (line lines number : Nat) : Nat :=
  if number ≤ line then number else number - 1 + lines

/-- The places of tokens that each version has so many lines further down. -/
def placesBelow (lines : Version → Nat) (tokens : List Token) : List Slot :=
  tokens.map fun token =>
    .token ⟨token.kind, token.text, token.before, fun version => token.line + lines version⟩

theorem tokensOn_placesBelow (lines : Version → Nat) (version : Version) (tokens : List Token) :
    tokensOn version (placesBelow lines tokens) =
      tokens.map (Token.further (lines version)) := by
  induction tokens with
  | nil => rfl
  | cons token rest inductionHypothesis =>
      rw [placesBelow, List.map_cons, tokensOn_token, List.map_cons]
      exact congrArg (token.further (lines version) :: ·) inductionHypothesis

theorem plain_placesBelow (lines : Version → Nat) (tokens : List Token) :
    Plain (placesBelow lines tokens) := by
  intro slot isIn
  obtain ⟨token, -, rfl⟩ := List.mem_map.mp isIn
  exact ⟨_, rfl⟩

/-- Among places that both versions share, a block stands behind the last one in front of it. -/
theorem exists_of_infix {ahead behind : List Slot} {body other : Body} {shared : Shared}
    (plainAhead : Plain ahead) (plainBehind : Plain behind)
    (areIn : [.token shared, .body other] <:+: ahead ++ .body body :: behind) :
    ∃ start, ahead = start ++ [.token shared] := by
  obtain ⟨start, last, isAll⟩ := areIn
  induction ahead generalizing start with
  | nil =>
      cases start with
      | nil => cases isAll
      | cons slot start =>
          obtain rfl := (List.cons.inj isAll).2
          exact absurd (by simp) (@Plain.not_body other _ plainBehind)
  | cons slot ahead inductionHypothesis =>
      cases start with
      | nil =>
          obtain ⟨rfl, isAhead⟩ := List.cons.inj isAll
          cases ahead with
          | nil => exact ⟨[], rfl⟩
          | cons next ahead =>
              obtain ⟨rfl, -⟩ := List.cons.inj isAhead
              exact absurd (by simp) (@Plain.not_body other _ plainAhead)
      | cons first start =>
          obtain ⟨passed, rfl⟩ := inductionHypothesis
            (plainAhead.of_suffix (List.suffix_cons slot ahead)) start (List.cons.inj isAll).2
          exact ⟨slot :: passed, rfl⟩

namespace Site

section Versions

variable (site : Site) {inside : Version → List Char}
  (takes : ∀ version, site.Takes (inside version))

/-- The block with the inside of each version. -/
def body : Body where
  opening := site.opening.shared
  inside version := (tokensInside (inside version)).map (Token.further site.line)
  closing version := site.closing (inside version)
  encloses version :=
    { isOpening := rfl
      closes := (closesBraces_further 0 _ _).trans (takes version).balanced.closes
      isClosing := rfl }

/-- The places of both versions. -/
def places : List Slot :=
  placesOf site.before ++ .body (site.body takes) ::
    placesBelow (fun version => site.line + lineFeeds (inside version))
      (tokensOf 0 [] (joinLifetimes (lexemesOf site.behind)))

theorem tokensOn_places (version : Version) :
    tokensOn version (site.places takes) = tokens (site.text (inside version)) := by
  rw [tokens_text (takes version), places, tokensOn_append, tokensOn_placesOf, tokensOn_body_eq,
    tokensOn_placesBelow]
  rfl

theorem fitting_places : Fitting (site.places takes) where
  marks version := by
    rw [tokensOn_places, tokens]
    exact marksFit_tokensOf _ _ _
  blocks areIn := by
    obtain ⟨start, isAhead⟩ := exists_of_infix (plain_placesOf _) (plain_placesBelow _ _) areIn
    have areBefore := congrArg (tokensOn .original) isAhead
    rw [tokensOn_placesOf, tokensOn_append] at areBefore
    refine site.noName _ ?_
    rw [← before, areBefore]
    exact List.getLast?_concat

theorem tokensOn_behind (version : Version) :
    tokensOn version (placesBelow (fun version => site.line + lineFeeds (inside version))
      (tokensOf 0 [] (joinLifetimes (lexemesOf site.behind)))) = site.after (inside version) :=
  tokensOn_placesBelow _ version _

include takes

theorem immaterial_body
    (passedOver : PassedOver (site.block (inside .original)) site.before
      (site.after (inside .original))) :
    Immaterial (placesOf site.before) (site.body takes)
      (placesBelow (fun version => site.line + lineFeeds (inside version))
        (tokensOf 0 [] (joinLifetimes (lexemesOf site.behind)))) :=
  @PassedOver.immaterial _ _ (site.body takes) _ _ passedOver
    (tokensOn_placesOf .original site.before) (site.tokensOn_behind .original) (plain_placesOf _)
    (plain_placesBelow _ _) (site.fitting_places takes)

/-- Whether the block is passed over does not depend on what stands in it. -/
theorem passedOver_changed
    (passedOver : PassedOver (site.block (inside .original)) site.before
      (site.after (inside .original))) :
    PassedOver (site.block (inside .changed)) site.before (site.after (inside .changed)) := by
  have changed := (site.immaterial_body takes passedOver).passedOver
  rwa [tokensOn_placesOf, tokensOn_behind] at changed

/-- The items of both versions are the same, on their lines. -/
theorem itemsMoved_places {moves : Nat → Nat → Prop}
    (passedOver : PassedOver (site.block (inside .original)) site.before
      (site.after (inside .original))) (onLines : OnLines moves (site.places takes)) :
    List.Forall₂ (Item.Moved moves) (readItems (site.text (inside .original)))
      (readItems (site.text (inside .changed))) := by
  rw [readItems_eq, readItems_eq, ← tokensOn_places site takes, ← tokensOn_places site takes]
  show BehindMoved moves (fun _ => .empty) (site.places takes)
  exact (site.immaterial_body takes passedOver).behindMoved onLines .empty

end Versions

variable {site : Site} {inside other : List Char}

theorem takes_insides (takes : site.Takes inside) (takesOther : site.Takes other)
    (version : Version) : site.Takes (insides inside other version) := by
  cases version with
  | original => exact takes
  | changed => exact takesOther

theorem line_le_of_before {token : Token} (isIn : token ∈ site.before) : token.line ≤ site.line := by
  have isLater := line_le_of_mem _ _ isIn
  rwa [charactersOf_joinLifetimes, charactersOf_cut site.isCut] at isLater

/-- The lines in front of the block stay, and those behind it are further down by the line feeds
in it. -/
theorem onLines_places (takes : ∀ version, site.Takes (insides ['\n'] other version)) :
    OnLines (fun number moved => moved = lineBelow site.line (lineFeeds other) number)
      (site.places takes) := by
  intro slot isIn
  rw [places, List.mem_append, List.mem_cons] at isIn
  rcases isIn with isBefore | rfl | isBehind
  · obtain ⟨token, isToken, rfl⟩ := List.mem_map.mp isBefore
    exact (if_pos (line_le_of_before isToken)).symm
  · exact (if_pos (Nat.le_refl _)).symm
  · obtain ⟨token, -, rfl⟩ := List.mem_map.mp isBehind
    have isFed : lineFeeds ['\n'] = 1 := rfl
    dsimp only [Slot.first_token, insides]
    rw [isFed, lineBelow, if_neg (by omega)]
    omega

/-- A block that is passed over moves the items behind it by the line feeds in it. -/
theorem items_moved (takes : site.Takes inside) (takesOther : site.Takes other)
    (passedOver : PassedOver (site.block inside) site.before (site.after inside)) :
    List.Forall₂
      (Item.Moved fun number moved => moved = lineBelow site.line (lineFeeds other) number)
      (readItems (site.text ['\n'])) (readItems (site.text other)) := by
  have ofFed : PassedOver (site.block ['\n']) site.before (site.after ['\n']) :=
    site.passedOver_changed (takes_insides takes site.takes_fed) passedOver
  exact site.itemsMoved_places (takes_insides site.takes_fed takesOther) ofFed (onLines_places _)

end Site

end ForwardingProxy.Source
