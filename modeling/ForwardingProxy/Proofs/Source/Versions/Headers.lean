import ForwardingProxy.Proofs.Source.Versions.Bounds
import ForwardingProxy.Source.Item

/-!
Contract: both versions of a text read the same headers.

Owns: the readings of what stands in a trait or an `impl` block before its braces, each of which
goes the same way in both versions.
-/

namespace ForwardingProxy.Source

variable {slots rest passed all : List Slot} {version : Version}

/-! ### Traits -/

/-- Whether a trait is generic, and its bounds, from behind its name on; and the tokens after them,
with a `where` clause. -/
def traitStart (tokens : List Token) : (Bool × List TypeSyntax) × List Token :=
  let (generic, afterAngles) := skipAngles tokens
  let (bounds, afterBounds) :=
    if startsWithMark [":"] afterAngles then readBounds (afterAngles.drop 1) else ([], afterAngles)
  ((generic, bounds), afterBounds)

/-- Whether a trait is generic, and its bounds, from behind its name on; and the tokens after
them. -/
def traitHeader (tokens : List Token) : (Bool × List TypeSyntax) × List Token :=
  ((traitStart tokens).1, skipWhere (traitStart tokens).2)

theorem readTrait?_cons (readMembers : List Token → List Item) (head : Head) (name : Token)
    (tokens : List Token) :
    readTrait? readMembers head (name :: tokens) =
      (groupOf? "\x7b" (traitHeader tokens).2).map fun (inside, after) =>
        (.trait head name.text (traitHeader tokens).1.1 (traitHeader tokens).1.2
          (readMembers inside), after) := by
  unfold readTrait? traitHeader traitStart
  dsimp only
  cases groupOf? "\x7b" _ <;> rfl

theorem reads_traitStart (slots : List Slot) :
    Reads Settled slots fun version => some (traitStart (tokensOn version slots)) := by
  obtain ⟨generic, afterAngles, isLast, areAngles⟩ := exists_skipAngles slots
  obtain ⟨angles, rfl⟩ := isLast
  simp only [traitStart, areAngles, startsWithMark_on]
  by_cases starts : startsWithMark [":"] (faces afterAngles) = true
  · obtain ⟨colon, rest, rfl, areBehind⟩ := drop_of_startsWithMark starts (by decide)
    obtain ⟨passed, afterBounds, bounds, rfl, areRead, settled⟩ :=
      (reads_readBounds rest).exists_of_some
    simp only [starts, areBehind, areRead, if_true]
    have isAll : angles ++ .token colon :: (passed ++ afterBounds) =
        (angles ++ .token colon :: passed) ++ afterBounds := by simp
    refine .passes isAll (fun _ => rfl) fun plain => ?_
    simp only [settled (plain.right.of_suffix (suffix_cons _ passed))]
  · rw [Bool.not_eq_true] at starts
    simp only [starts, Bool.false_eq_true, if_false]
    exact .passes rfl (fun _ => rfl) fun _ => rfl

/-- A `where` clause is passed over behind what both versions read. -/
theorem Reads.skipWhere {Value : Type} {read : Version → Option (Value × List Token)}
    (reads : Reads Settled slots read) :
    Reads Settled slots fun version =>
      (read version).map fun found => (found.1, Source.skipWhere found.2) :=
  @Reads.mapLands _ _ _ _ _ _ (fun _ value => value) _ reads lands_skipWhere
    fun _ _ _ settled plain => settled (Plain.left plain)

theorem reads_traitHeader (slots : List Slot) :
    Reads Settled slots fun version => some (traitHeader (tokensOn version slots)) :=
  (reads_traitStart slots).skipWhere

/-! ### Blocks -/

theorem startsImplParameters_on (version : Version) (slots : List Slot) :
    startsImplParameters (tokensOn version slots) =
      startsImplParameters (tokensOn .original slots) := by
  match slots with
  | [] | [.token _] => rfl
  | .body body :: rest =>
      have noAngle (version : Version) :
          startsImplParameters (tokensOn version (.body body :: rest)) = false := by
        have isOther := (body.encloses version).noOther "<" (by decide)
        rw [tokensOn_body]
        cases body.inside version ++ body.closing version :: tokensOn version rest with
        | nil => rfl
        | cons first more => rw [startsImplParameters, isOther, Bool.false_and]
      rw [noAngle version, noAngle .original]
  | .token angle :: .body body :: rest =>
      have noParameter (version : Version) :
          startsImplParameters (tokensOn version (.token angle :: .body body :: rest)) = false := by
        have isOther := (body.encloses version).noOther "#" (by decide)
        simp [startsImplParameters, isOther, body.kind, Token.isWord]
      rw [noParameter version, noParameter .original]
  | .token angle :: .token first :: rest =>
      have isName : (startsWithKind .word (tokensOn version rest) &&
            startsWithMark [":"] ((tokensOn version rest).drop 1)) =
          (startsWithKind .word (tokensOn .original rest) &&
            startsWithMark [":"] ((tokensOn .original rest).drop 1)) := by
        have isToken (starts : startsWithKind .word (faces rest) = true) :
            ∃ shared more, rest = .token shared :: more := by
          obtain ⟨shared, more, isRest, -⟩ := exists_of_startsWithKind starts (by decide)
          exact ⟨shared, more, isRest⟩
        rw [startsWithKind_on, startsWithKind_on,
          behindFirst_on isToken (startsWithMark_on [":"] version),
          behindFirst_on isToken (startsWithMark_on [":"] .original)]
      simp only [tokensOn_token, startsImplParameters, Bool.and_assoc, isName, startsWithMark_on]
      rfl

theorem startsNegated_on (version : Version) (slots : List Slot) :
    startsNegated (tokensOn version slots) = startsNegated (tokensOn .original slots) := by
  unfold startsNegated
  rw [startsWithMark_on, startsWithMark_on]
  cases starts : startsWithMark ["!"] (faces slots) with
  | false => rfl
  | true =>
      obtain ⟨bang, rest, rfl, areBehind⟩ := drop_of_startsWithMark starts (by decide)
      simp only [areBehind, startsWithMark_on, startsWithKind_on, startsWithWord_on]

/-- The first type in the header of an `impl` block. -/
def implType (tokens : List Token) : List Token :=
  let afterParameters := if startsImplParameters tokens then (skipAngles tokens).2 else tokens
  if startsNegated afterParameters then afterParameters.drop 1 else afterParameters

theorem lands_implType (slots : List Slot) :
    Lands slots fun version => implType (tokensOn version slots) := by
  obtain ⟨types, isLast, areTypes⟩ : Lands slots fun version =>
      if startsImplParameters (tokensOn version slots) then (skipAngles (tokensOn version slots)).2
      else tokensOn version slots := by
    simp only [startsImplParameters_on _ slots]
    exact .branch (fun _ => lands_skipAngles slots) fun _ => .of_suffix List.suffix_rfl
  unfold implType
  simp only [areTypes, startsNegated_on _ types]
  refine .branch (fun negated => ?_) fun _ => .of_suffix isLast
  have starts : startsWithMark ["!"] (faces types) = true := by
    rw [← startsWithMark_on _ .original]
    exact (Bool.and_eq_true_iff.mp negated).1
  obtain ⟨bang, rest, rfl, areBehind⟩ := drop_of_startsWithMark starts (by decide)
  simp only [areBehind]
  exact .of_suffix ((suffix_cons _ rest).trans isLast)

/-- The header of an `impl` block, from behind its first word on, and the tokens after it, with a
`where` clause. -/
def implStart? (tokens : List Token) : Option (ImplHeader × List Token) :=
  (readType? (implType tokens)).bind fun (first, afterFirst) =>
    if startsWithWord ["for"] afterFirst then
      (readType? (afterFirst.drop 1)).map fun (type, after) =>
        (⟨startsImplParameters tokens,
          some (traitPath first (textUntil (implType tokens) afterFirst)), type⟩, after)
    else some (⟨startsImplParameters tokens, none, first⟩, afterFirst)

theorem readImplHeader?_eq (tokens : List Token) :
    readImplHeader? tokens =
      (implStart? tokens).map fun found => (found.1, skipWhere found.2) := by
  have isRead : readImplHeader? tokens = (readType? (implType tokens)).bind fun found =>
      if startsWithWord ["for"] found.2 then
        (readType? (found.2.drop 1)).bind fun further =>
          some (⟨startsImplParameters tokens,
            some (traitPath found.1 (textUntil (implType tokens) found.2)), further.1⟩,
            skipWhere further.2)
      else some (⟨startsImplParameters tokens, none, found.1⟩, skipWhere found.2) := rfl
  rw [isRead, implStart?]
  cases readType? (implType tokens) with
  | none => rfl
  | some found =>
      rw [Option.bind_some, Option.bind_some]
      dsimp only
      split
      · cases readType? (found.2.drop 1) <;> rfl
      · rfl

theorem reads_implStart? (slots : List Slot) :
    Reads Settled slots fun version => implStart? (tokensOn version slots) := by
  obtain ⟨types, isLast, areTypes⟩ := lands_implType slots
  simp only [implStart?, areTypes, startsImplParameters_on _ slots]
  refine (reads_readType? types).bind isLast
    fun before passed after first isAll isRest settled => ?_
  simp only [startsWithWord_on]
  refine .branch (fun starts => ?_) fun _ => ?_
  · obtain ⟨keyword, behind, rfl, areBehind⟩ := drop_of_startsWithWord starts
    simp only [areBehind]
    cases reads_readType? behind with
    | fails isNone => exact .fails fun version => by rw [isNone version]; rfl
    | @passes further last type isFurther isSome settledType =>
        simp only [isSome, Option.map_some]
        have isParted : slots = (before ++ passed ++ .token keyword :: further) ++ last := by
          rw [isAll, isFurther]
          simp
        refine .passes isParted (fun _ => rfl) fun plain => ?_
        have plainType := plain.right.of_suffix (suffix_cons _ further)
        have plainFirst := plain.left.right
        simp only [settled plainFirst, settledType plainType,
          settled_textUntil isRest plainFirst]
  · have isParted : slots = (before ++ passed) ++ after := by
      rw [isAll, List.append_assoc]
    refine .passes isParted (fun _ => rfl) fun plain => ?_
    simp only [settled plain.right]

theorem reads_readImplHeader? (slots : List Slot) :
    Reads Settled slots fun version => readImplHeader? (tokensOn version slots) := by
  simp only [readImplHeader?_eq]
  exact (reads_implStart? slots).skipWhere

end ForwardingProxy.Source
