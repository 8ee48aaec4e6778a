import ForwardingProxy.Proofs.Source.Versions.Bounds
import ForwardingProxy.Source.Signature

/-!
Contract: both versions of a text read the same function headers.

Owns: the reading of parameter lists, return types and whole headers, each of which goes the same way
in both versions.
-/

namespace ForwardingProxy.Source

variable {slots rest passed all : List Slot} {version : Version}

/-! ### Single tokens -/

/-- The token that stands alone. -/
def onlyToken? : List Token → Option Token
  | [token] => some token
  | _ => none

theorem exists_onlyToken? (slots : List Slot) :
    ∃ only : Option Shared, ∀ version,
      onlyToken? (tokensOn version slots) = only.map fun shared => shared.on version := by
  match slots with
  | [] => exact ⟨none, fun _ => rfl⟩
  | [.token shared] => exact ⟨some shared, fun _ => rfl⟩
  | .token shared :: .token next :: rest => exact ⟨none, fun _ => rfl⟩
  | .token shared :: .body body :: rest => exact ⟨none, fun _ => rfl⟩
  | .body body :: rest =>
      refine ⟨none, fun version => ?_⟩
      rw [tokensOn_body]
      cases body.inside version <;> rfl

theorem patternName?_eq (pattern : List Token) :
    patternName? pattern = (onlyToken? (skipWord ["mut"] pattern)).bind fun token =>
      if token.kind = .word && !unnamingWords.contains token.text then some token.text
      else none := by
  unfold patternName?
  generalize skipWord ["mut"] pattern = tokens
  match tokens with
  | [] | [_] | _ :: _ :: _ => rfl

theorem isSelfPattern_eq (pattern : List Token) :
    isSelfPattern pattern =
      (onlyToken? (skipWord ["mut"] pattern)).any fun token => token.isWord "self" := by
  unfold isSelfPattern
  generalize skipWord ["mut"] pattern = tokens
  match tokens with
  | [] | [_] | _ :: _ :: _ => rfl

theorem isReceiver_eq (entry : List Token) :
    isReceiver entry =
      (onlyToken? (skipWord ["mut"] (skipLifetime
        (if startsWithMark ["&"] entry then entry.drop 1 else entry)))).any fun token =>
          token.isWord "self" := by
  unfold isReceiver
  dsimp only
  generalize skipWord ["mut"] (skipLifetime
    (if startsWithMark ["&"] entry then entry.drop 1 else entry)) = tokens
  match tokens with
  | [] | [_] | _ :: _ :: _ => rfl

theorem patternName?_on (version : Version) (slots : List Slot) :
    patternName? (tokensOn version slots) = patternName? (tokensOn .original slots) := by
  obtain ⟨rest, -, isRest⟩ := lands_skipWord ["mut"] slots
  obtain ⟨only, isOnly⟩ := exists_onlyToken? rest
  simp only [patternName?_eq, isRest, isOnly]
  cases only <;> rfl

theorem isSelfPattern_on (version : Version) (slots : List Slot) :
    isSelfPattern (tokensOn version slots) = isSelfPattern (tokensOn .original slots) := by
  obtain ⟨rest, -, isRest⟩ := lands_skipWord ["mut"] slots
  obtain ⟨only, isOnly⟩ := exists_onlyToken? rest
  simp only [isSelfPattern_eq, isRest, isOnly]
  cases only <;> rfl

theorem isReceiver_on (version : Version) (slots : List Slot) :
    isReceiver (tokensOn version slots) = isReceiver (tokensOn .original slots) := by
  obtain ⟨behindReference, -, areBehind⟩ : Lands slots fun version =>
      if startsWithMark ["&"] (tokensOn version slots) then (tokensOn version slots).drop 1
      else tokensOn version slots := by
    simp only [startsWithMark_on]
    refine .branch (fun starts => ?_) fun _ => .of_suffix List.suffix_rfl
    obtain ⟨shared, rest, rfl, areBehind⟩ := drop_of_startsWithMark starts (by decide)
    simp only [areBehind]
    exact .of_suffix (suffix_cons _ rest)
  obtain ⟨behindLifetime, -, areFurther⟩ := lands_skipLifetime behindReference
  obtain ⟨rest, -, isRest⟩ := lands_skipWord ["mut"] behindLifetime
  obtain ⟨only, isOnly⟩ := exists_onlyToken? rest
  simp only [isReceiver_eq, areBehind, areFurther, isRest, isOnly]
  cases only <;> rfl

/-! ### Parameters -/

theorem lands_skipAttributes (fuel : Nat) (slots : List Slot) :
    Lands slots fun version => skipAttributes fuel (tokensOn version slots) := by
  induction fuel generalizing slots with
  | zero => exact .of_suffix List.suffix_rfl
  | succ fuel inductionHypothesis =>
      cases slots with
      | nil => exact .of_suffix List.suffix_rfl
      | cons slot rest =>
          cases slot with
          | body body =>
              refine (Lands.of_suffix List.suffix_rfl).congr fun version => ?_
              simp [skipAttributes, (body.encloses version).noOther "#" (by decide)]
          | token shared =>
              simp only [tokensOn_token, skipAttributes, shared.isMark_on]
              refine .branch (fun _ => ?_) fun _ => .of_suffix List.suffix_rfl
              cases reads_groupOf? "[" rest with
              | fails isNone =>
                  simp only [isNone]
                  exact .of_suffix List.suffix_rfl
              | passes isAll isSome agrees =>
                  simp only [isSome]
                  exact (inductionHypothesis _).mono
                    (List.IsSuffix.trans ⟨_, isAll.symm⟩ (suffix_cons _ rest))

theorem plainEntry_on (plain : Plain slots) (version : Version) :
    plainEntry (tokensOn version slots) = plainEntry (tokensOn .original slots) := by
  obtain ⟨text, isText⟩ := exists_of_settled (settled_sourceText slots) plain
  obtain ⟨rest, -, isRest⟩ := lands_skipWord ["mut"] slots
  simp only [plainEntry, isReceiver_on version slots, isText, isRest, startsWithMark_on]

/-- Both versions read the same entry of a parameter list. -/
theorem exists_readEntry (plain : Plain slots) :
    ∃ entry rest, rest <:+ slots ∧
      ∀ version, readEntry (tokensOn version slots) = (entry, tokensOn version rest) := by
  obtain ⟨pattern, after, rfl, areCut⟩ := exists_cutEntry 0 .outside slots
  simp only [readEntry, areCut, startsWithMark_on]
  by_cases starts : startsWithMark [":"] (faces after) = true
  · obtain ⟨colon, written, rfl, areBehind⟩ := drop_of_startsWithMark starts (by decide)
    have isLast : written <:+ pattern ++ .token colon :: written :=
      (suffix_cons _ written).trans (List.suffix_append pattern _)
    obtain ⟨passed, last, isWritten, isCut⟩ := exists_cutEntry 0 .outside written
    have isFurther : last <:+ pattern ++ .token colon :: written :=
      List.IsSuffix.trans ⟨passed, isWritten.symm⟩ isLast
    simp only [starts, if_true, areBehind, startsWithMark_on, isSelfPattern_on _ pattern,
      patternName?_on _ pattern, isCut]
    by_cases further : startsWithMark ["..."] (faces written) = true
    · obtain ⟨dots, rest, rfl, areBehindDots⟩ := drop_of_startsWithMark further (by decide)
      simp only [further, if_true, areBehindDots]
      exact ⟨furtherArguments, rest, (suffix_cons _ rest).trans isLast, fun _ => rfl⟩
    simp only [further]
    by_cases isSelf : isSelfPattern (tokensOn .original pattern) = true
    · simp only [isSelf, if_true]
      exact ⟨.receiver .owned, last, isFurther, fun _ => rfl⟩
    simp only [isSelf]
    rcases (reads_readType? written).plain (plain.of_suffix isLast) with
      isNone | ⟨type, rest, isRest, isSome⟩
    · obtain ⟨text, isText⟩ := exists_of_settled (settled_textUntil isWritten)
        ((isWritten ▸ plain.of_suffix isLast : Plain (passed ++ last)).left)
      simp only [isNone, isText]
      exact ⟨_, last, isFurther, fun _ => rfl⟩
    · simp only [isSome]
      exact ⟨_, rest, isRest.trans isLast, fun _ => rfl⟩
  · simp only [starts, plainEntry_on plain.left]
    exact ⟨_, after, List.suffix_append pattern after, fun _ => rfl⟩

theorem readEntries_on (plain : Plain slots) (fuel : Nat) (version : Version) :
    readEntries fuel (tokensOn version slots) = readEntries fuel (tokensOn .original slots) := by
  induction fuel generalizing slots with
  | zero => rfl
  | succ fuel inductionHypothesis =>
      cases slots with
      | nil => rfl
      | cons slot rest =>
          obtain ⟨first, rfl⟩ := plain slot List.mem_cons_self
          have ofRest := plain.of_suffix (suffix_cons _ rest)
          obtain ⟨entries, isLast, areEntries⟩ := lands_skipAttributes fuel (.token first :: rest)
          simp only [tokensOn_token] at areEntries
          simp only [tokensOn_token, readEntries, first.isMark_on version, areEntries]
          rw [inductionHypothesis ofRest]
          congr 1
          cases entries with
          | nil => rfl
          | cons slot others =>
              have plainEntries := plain.of_suffix isLast
              obtain ⟨next, rfl⟩ := plainEntries slot List.mem_cons_self
              obtain ⟨entry, after, isFurther, isEntry⟩ := exists_readEntry plainEntries
              have plainAfter := plainEntries.of_suffix isFurther
              simp only [tokensOn_token] at isEntry
              simp only [tokensOn_token, isEntry, List.length_cons, length_tokensOn ofRest,
                length_tokensOn plainAfter]
              split
              · rw [inductionHypothesis plainAfter]
              · rfl

/-! ### Headers -/

theorem reads_readReturnType (slots : List Slot) :
    Reads Settled slots fun version => some (readReturnType (tokensOn version slots)) := by
  have stays : Reads Settled slots fun version =>
      some ((none : Option TypeSyntax), tokensOn version slots) :=
    .passes (List.nil_append slots).symm (fun _ => rfl) fun _ => rfl
  simp only [readReturnType, startsWithMark_on]
  by_cases starts : startsWithMark ["->"] (faces slots) = true
  · obtain ⟨arrow, rest, rfl, areBehind⟩ := drop_of_startsWithMark starts (by decide)
    simp only [starts, if_true, areBehind]
    cases reads_readType? rest with
    | fails isNone =>
        simp only [isNone]
        exact .passes List.singleton_append.symm (fun _ => rfl) fun _ => rfl
    | @passes passed after type isAll isSome settled =>
        subst isAll
        simp only [isSome]
        refine .passes (List.cons_append ..).symm (fun _ => rfl) fun plain => ?_
        exact congrArg some (settled (plain.of_suffix (suffix_cons _ passed)))
  · simp only [starts]
    exact stays

/-- A function's header from its name on, and the tokens after it, with a `where` clause. -/
def functionHeader? : List Token → Option ((Bool → FunctionSignature) × List Token)
  | [] => none
  | name :: rest =>
      let (generic, afterAngles) := skipAngles rest
      (groupOf? "(" afterAngles).map fun (inside, afterParameters) =>
        let entries := readEntries inside.length inside
        let (returnType, afterType) := readReturnType afterParameters
        (fun hasBody => ⟨name.text, receiverOf entries, parametersOf entries, returnType, generic,
          hasBody⟩, afterType)

/-- A function has the body that stands behind its header, or none. -/
theorem readFunction?_eq (tokens : List Token) :
    readFunction? tokens = (functionHeader? tokens).map fun (signature, rest) =>
      match groupOf? "\x7b" (skipWhere rest) with
      | some (_, after) => (signature true, after)
      | none => (signature false, (skipWhere rest).drop 1) := by
  cases tokens with
  | nil => rfl
  | cons name rest =>
      unfold readFunction? functionHeader?
      dsimp only
      cases groupOf? "(" (skipAngles rest).2 with
      | none => rfl
      | some cut =>
          simp only [Option.bind_eq_bind, Option.bind_some, Option.map_some]
          cases groupOf? "\x7b" _ <;> rfl

/-- Both versions read the same header. -/
theorem reads_functionHeader? (starts : StartsShared slots) :
    Reads Settled slots fun version => functionHeader? (tokensOn version slots) := by
  match slots, starts with
  | [], _ => exact .fails fun _ => rfl
  | .body body :: _, starts => exact absurd rfl (starts body)
  | .token name :: slots, _ =>
      obtain ⟨generic, parameters, ⟨angles, rfl⟩, areAngles⟩ := exists_skipAngles slots
      simp only [tokensOn_token, functionHeader?, areAngles, Shared.text_on]
      cases reads_groupOf? "(" parameters with
      | fails isNone =>
          simp only [isNone]
          exact .fails fun _ => rfl
      | @passes passed behind inside isAll isSome isInside =>
          obtain ⟨returned, afterType, returnType, rfl, areRead, settledReturn⟩ :=
            (reads_readReturnType behind).exists_of_some
          subst isAll
          simp only [isSome, Option.map_some, areRead]
          have isParted : .token name :: (angles ++ (passed ++ (returned ++ afterType))) =
              (.token name :: angles ++ passed ++ returned) ++ afterType := by simp
          refine .passes isParted (fun _ => rfl) fun plain => ?_
          have plainGroup : Plain passed := plain.left.right
          obtain ⟨entries, areIn, areEntries⟩ := isInside plainGroup
          have plainEntries := plainGroup.of_infix areIn
          simp only [settledReturn plain.right, areEntries, length_tokensOn plainEntries,
            readEntries_on plainEntries _ .changed]

end ForwardingProxy.Source
