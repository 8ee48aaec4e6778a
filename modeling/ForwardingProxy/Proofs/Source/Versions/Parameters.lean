import ForwardingProxy.Proofs.Source.Versions.Members

/-!
Contract: what stands between the angle brackets of a header does not matter.

Owns: `Source.parametersOpen?`, which finds the parameters of a function, a trait or an `impl`
block, and the fact that such an item is read as if one lifetime were all its parameters.
-/

namespace ForwardingProxy.Source

variable {slots : List Slot} {tokens after : List Token} {words : List String}

/-- A word that stands by itself. -/
def bareWord (line : Nat) (text : String) : Token :=
  ⟨.word, text, line, []⟩

/-- A lifetime as the only parameter. -/
def bareParameters (line : Nat) : List Token :=
  [⟨.mark, "<", line, []⟩, ⟨.lifetime, "'_", line, []⟩, ⟨.mark, ">", line, []⟩]

/-- Words with a lifetime as the only parameter behind them. -/
def bareHeader (line : Nat) (words : List String) : List Token :=
  words.map (bareWord line) ++ bareParameters line

/-- Words and the tokens behind the parameters that come first among the tokens. -/
def withParameters? (words : List String) (tokens : List Token) :
    Option (List String × List Token) :=
  if startsWithMark ["<"] tokens then some (words, (skipAngles tokens).2) else none

/-- A name behind a word, and the tokens behind the parameters that follow. -/
def namedParameters? (word : String) : List Token → Option (List String × List Token)
  | [] => none
  | name :: rest => withParameters? [word, name.text] rest

/-- The function, trait or `impl` block with parameters that comes first behind its visibility: the
words before them, and the tokens after them. -/
def parametersOpen? (tokens : List Token) : Option (List String × List Token) :=
  match functionName? tokens with
  | some named => namedParameters? "fn" named
  | none =>
      let afterUnsafe := skipWord ["unsafe"] tokens
      if startsWithWord ["trait"] afterUnsafe then namedParameters? "trait" (afterUnsafe.drop 1)
      else if startsWithWord ["impl"] afterUnsafe then
        if startsImplParameters (afterUnsafe.drop 1) then
          withParameters? ["impl"] (afterUnsafe.drop 1)
        else none
      else none

theorem skipAngles_bare (line : Nat) (rest : List Token) :
    skipAngles (bareParameters line ++ rest) = (true, rest) := by
  have isClosed : dropAngles 1 .outside
      (⟨.lifetime, "'_", line, []⟩ :: ⟨.mark, ">", line, []⟩ :: rest) = rest := by
    simp [dropAngles, Token.isMark, Depth.behind, bracesBehind]
  rw [← isClosed]
  rfl

theorem startsImplParameters_bare (line : Nat) (rest : List Token) :
    startsImplParameters (bareParameters line ++ rest) = true := rfl

theorem skipAngles_open (starts : startsWithMark ["<"] tokens = true) :
    (skipAngles tokens).1 = true := by
  cases tokens with
  | nil => cases starts
  | cons first rest =>
      have isAngle : first.isMark "<" = true := by
        simpa [startsWithMark, Token.isMark] using starts
      rw [skipAngles, if_pos isAngle]

/-- Behind the name of a function or trait a lifetime stands for all parameters. -/
theorem skipAngles_parameters {found : List String}
    (areOpen : withParameters? words tokens = some (found, after)) (line : Nat) :
    found = words ∧ skipAngles tokens = skipAngles (bareParameters line ++ after) := by
  obtain ⟨starts, isPair⟩ := Option.ite_none_right_eq_some.mp areOpen
  obtain ⟨rfl, rfl⟩ := Prod.mk.injEq _ _ _ _ ▸ Option.some.inj isPair
  rw [skipAngles_bare]
  exact ⟨rfl, Prod.ext (skipAngles_open starts) rfl⟩

theorem readFunction?_parameters {name : Token} {rest more : List Token} (line : Nat)
    (same : skipAngles rest = skipAngles more) :
    readFunction? (name :: rest) = readFunction? (bareWord line name.text :: more) := by
  unfold readFunction?
  dsimp only
  rw [same]
  rfl

theorem readTrait?_parameters {name : Token} {rest more : List Token} (line : Nat)
    (same : skipAngles rest = skipAngles more) (readBody : List Token → List Item) (head : Head) :
    readTrait? readBody head (name :: rest) =
      readTrait? readBody head (bareWord line name.text :: more) := by
  unfold readTrait?
  dsimp only
  rw [same]
  rfl

theorem readImplementation?_parameters {more : List Token}
    (starts : startsImplParameters tokens = true) (startsToo : startsImplParameters more = true)
    (same : skipAngles tokens = skipAngles more) (readBody : List Token → List Item)
    (head : Head) : readImplementation? readBody head tokens =
      readImplementation? readBody head more := by
  have sameType : implType tokens = implType more := by
    rw [implType, implType, if_pos starts, if_pos startsToo, same]
  rw [readImplementation?_eq, readImplementation?_eq, readImplHeader?_eq, readImplHeader?_eq,
    implStart?, implStart?, sameType, starts, startsToo]

/-! ### Items -/

theorem skipFunctionQualifiers_bare {word : String} {line : Nat}
    (noQualifier : word ∉ ["async", "default", "const", "unsafe", "gen", "extern"])
    (rest : List Token) :
    skipFunctionQualifiers (bareWord line word :: rest) = bareWord line word :: rest := by
  rw [skipFunctionQualifiers.eq_def]
  simp_all [bareWord, Token.isWord]

section Items

variable (readBody : List Token → List Item) (head : Head) (line : Nat)

theorem readItem?_bareFunction (rest : List Token) :
    readItem? readBody head (bareWord line "fn" :: rest) =
      (readFunction? rest).map fun (signature, after) => (.function head signature, after) := by
  have isName : functionName? (bareWord line "fn" :: rest) = some rest := by
    rw [functionName?, skipFunctionQualifiers_bare (by decide)]
    rfl
  rw [readItem?, isName]

theorem readItem?_bareTrait (rest : List Token) :
    readItem? readBody head (bareWord line "trait" :: rest) = readTrait? readBody head rest := by
  have noName : functionName? (bareWord line "trait" :: rest) = none := by
    rw [functionName?, skipFunctionQualifiers_bare (by decide)]
    rfl
  rw [readItem?, noName]
  rfl

theorem readItem?_bareImplementation (rest : List Token) :
    readItem? readBody head (bareWord line "impl" :: rest) =
      readImplementation? readBody head rest := by
  have noName : functionName? (bareWord line "impl" :: rest) = none := by
    rw [functionName?, skipFunctionQualifiers_bare (by decide)]
    rfl
  rw [readItem?, noName]
  rfl

/-- An item is read as if one lifetime were all its parameters. -/
theorem readItem?_parameters (areOpen : parametersOpen? tokens = some (words, after)) :
    readItem? readBody head tokens =
      readItem? readBody head (bareHeader line words ++ after) := by
  unfold parametersOpen? at areOpen
  rw [readItem?]
  cases isName : functionName? tokens with
  | some named =>
      simp only [isName] at areOpen ⊢
      cases named with
      | nil => cases areOpen
      | cons name rest =>
          obtain ⟨rfl, same⟩ := skipAngles_parameters areOpen line
          rw [readFunction?_parameters line same]
          exact (readItem?_bareFunction readBody head line _).symm
  | none =>
      simp only [isName] at areOpen ⊢
      split_ifs at areOpen ⊢ with isTrait isBlock opens
      · cases isNamed : (skipWord ["unsafe"] tokens).drop 1 with
        | nil =>
            rw [isNamed] at areOpen
            cases areOpen
        | cons name rest =>
            rw [isNamed] at areOpen
            obtain ⟨rfl, same⟩ := skipAngles_parameters areOpen line
            rw [readTrait?_parameters line same]
            exact (readItem?_bareTrait readBody head line _).symm
      · obtain ⟨rfl, same⟩ := skipAngles_parameters areOpen line
        rw [readImplementation?_parameters opens (startsImplParameters_bare line after) same]
        exact (readItem?_bareImplementation readBody head line _).symm

end Items

/-! ### Versions -/

/-- Words with a lifetime as the only parameter behind them, in both versions. -/
def barePlaces (line : Version → Nat) (words : List String) : List Slot :=
  (bareHeader 0 words).map fun token => .token ⟨token.kind, token.text, token.before, line⟩

theorem tokensOn_barePlaces (version : Version) (line : Version → Nat) (words : List String) :
    tokensOn version (barePlaces line words) = bareHeader (line version) words := by
  induction words with
  | nil => rfl
  | cons word words inductionHypothesis =>
      exact congrArg (bareWord (line version) word :: ·) inductionHypothesis

theorem plain_barePlaces (line : Version → Nat) (words : List String) :
    Plain (barePlaces line words) := by
  intro slot isIn
  obtain ⟨token, -, rfl⟩ := List.mem_map.mp isIn
  exact ⟨_, rfl⟩

theorem marksFit_bareHeader (line : Nat) (words : List String) :
    MarksFit (bareHeader line words) := by
  intro token isIn isMark
  rcases List.mem_append.mp isIn with areWords | areParameters
  · obtain ⟨word, -, rfl⟩ := List.mem_map.mp areWords
    cases isMark
  · simp only [bareParameters, List.mem_cons, List.not_mem_nil, or_false] at areParameters
    rcases areParameters with rfl | rfl | rfl
    · exact .inl (by simp)
    · cases isMark
    · exact .inl (by simp)

theorem reads_withParameters? (words : List String) (slots : List Slot) :
    Reads Same slots fun version => withParameters? words (tokensOn version slots) := by
  obtain ⟨generic, rest, ⟨angles, isAll⟩, areAngles⟩ := exists_skipAngles slots
  unfold withParameters?
  simp only [startsWithMark_on, areAngles]
  exact .branch (fun _ => .passes isAll.symm (fun _ => rfl) rfl) fun _ => .fails fun _ => rfl

theorem reads_namedParameters? (word : String) (starts : StartsShared slots) :
    Reads Same slots fun version => namedParameters? word (tokensOn version slots) := by
  match slots, starts with
  | [], _ => exact .fails fun _ => rfl
  | .body body :: _, starts => exact absurd rfl (starts body)
  | .token name :: rest, _ =>
      exact (reads_withParameters? [word, name.text] rest).widen
        (suffix_cons _ rest) fun _ _ _ same => same

/-- Both versions have parameters behind the same words, or neither has. -/
theorem reads_parametersOpen? (fitting : Fitting slots) :
    Reads Same slots fun version => parametersOpen? (tokensOn version slots) := by
  have behind {places : List Slot} {read : Version → Option (List String × List Token)}
      (isLast : places <:+ slots) (reads : Reads Same places read) : Reads Same slots read :=
    reads.widen isLast fun _ _ _ same => same
  unfold parametersOpen?
  rcases functionName?_cases fitting with isNone | ⟨named, isLast, starts, isSome⟩
  · obtain ⟨afterUnsafe, isUnsafe, areUnsafe⟩ := lands_skipWord ["unsafe"] slots
    simp only [isNone, areUnsafe, startsWithWord_on]
    refine .branch (fun starts => ?_) fun _ => .branch (fun starts => ?_) fun _ =>
      .fails fun _ => rfl
    · obtain ⟨rest, isLast, startsRest, areBehind⟩ :=
        behindWord (fitting.of_suffix isUnsafe) starts (by decide)
      simp only [areBehind]
      exact behind (isLast.trans isUnsafe) (reads_namedParameters? "trait" startsRest)
    · obtain ⟨keyword, rest, rfl, areBehind⟩ := drop_of_startsWithWord starts
      simp only [areBehind, startsImplParameters_on _ rest]
      refine behind ((suffix_cons _ rest).trans isUnsafe) ?_
      exact .branch (fun _ => reads_withParameters? _ rest) fun _ => .fails fun _ => rfl
  · simp only [isSome]
    exact behind isLast (reads_namedParameters? "fn" starts)

end ForwardingProxy.Source
