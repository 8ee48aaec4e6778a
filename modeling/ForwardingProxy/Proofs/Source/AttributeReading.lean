import ForwardingProxy.Proofs.Source.ItemReading
import ForwardingProxy.Proofs.Source.UseReading

/-!
Contract: the attributes of an item are those that are written above it.

Owns: `WritesAttribute` and `WritesRun`, the tokens that write attributes; `WritesHeads`, the tokens
that write items below their attributes; and the fact that each item is read with these attributes
and with the line of the first of them.

Comments and blanks are no tokens, so they may stand anywhere. The one place where a comment counts
is before the path of an attribute, and there it hides the attribute.
-/

namespace ForwardingProxy.Source

/-! ### Brackets -/

/-- The marks that open and close groups. -/
def brackets : List String :=
  ["(", ")", "[", "]", "\x7b", "\x7d"]

/-- Brackets among the tokens belong together. -/
inductive TokenTrees : List Token → Prop where
  | nil : TokenTrees []
  | token {token : Token} {rest : List Token}
      (noBracket : ∀ bracket ∈ brackets, token.isMark bracket = false)
      (further : TokenTrees rest) : TokenTrees (token :: rest)
  | group {opening closing : Token} {left right : String} {inside rest : List Token}
      (areBrackets : closingMark? left = some right) (isOpening : opening.isMark left = true)
      (areInside : TokenTrees inside) (isClosing : closing.isMark right = true)
      (further : TokenTrees rest) : TokenTrees (opening :: (inside ++ closing :: rest))

theorem closingMark?_cases {left right : String} (areBrackets : closingMark? left = some right) :
    (left = "(" ∧ right = ")") ∨ (left = "[" ∧ right = "]") ∨
      (left = "\x7b" ∧ right = "\x7d") := by
  unfold closingMark? at areBrackets
  split_ifs at areBrackets with isRound isSquare isBrace
  · exact .inl ⟨isRound, (Option.some.inj areBrackets).symm⟩
  · exact .inr (.inl ⟨isSquare, (Option.some.inj areBrackets).symm⟩)
  · exact .inr (.inr ⟨isBrace, (Option.some.inj areBrackets).symm⟩)

namespace TokenTrees

variable {trees : List Token}

/-- Braces are balanced. -/
theorem closesBraces_append (areTrees : TokenTrees trees) (others : Nat) (rest : List Token) :
    closesBraces others (trees ++ rest) = closesBraces others rest := by
  induction areTrees generalizing others rest with
  | nil => rfl
  | token noBracket further inductionHypothesis =>
      simp [closesBraces, noBracket "\x7b" (by decide), noBracket "\x7d" (by decide),
        inductionHypothesis]
  | group areBrackets isOpening areInside isClosing further ofInside ofRest =>
      rcases closingMark?_cases areBrackets with ⟨rfl, rfl⟩ | ⟨rfl, rfl⟩ | ⟨rfl, rfl⟩ <;>
      · have noOpening := (Token.isMark_other isOpening).2
        have noClosing := (Token.isMark_other isClosing).2
        simp [closesBraces, isOpening, isClosing, noOpening, noClosing, ofInside, ofRest]

theorem encloses (areTrees : TokenTrees trees) {opening closing : Token}
    (isOpening : opening.isMark "\x7b" = true) (isClosing : closing.isMark "\x7d" = true) :
    Encloses opening trees closing where
  isOpening := isOpening
  closes := by
    have closes := areTrees.closesBraces_append 0 []
    rwa [List.append_nil] at closes
  isClosing := isClosing

/-- A scan for the end of a group goes on behind trees. -/
theorem cutOutside_append (areTrees : TokenTrees trees) {left right : String}
    (areBrackets : closingMark? left = some right) (noBrace : left ≠ "\x7b") (depth : Nat)
    (rest : List Token) :
    cutOutside left right (depth + 1) 0 (trees ++ rest) =
      (trees ++ (cutOutside left right (depth + 1) 0 rest).1,
        (cutOutside left right (depth + 1) 0 rest).2) := by
  have isBracket : left ∈ brackets ∧ right ∈ brackets ∧ right ≠ "\x7b" ∧ right ≠ left := by
    rcases closingMark?_cases areBrackets with ⟨rfl, rfl⟩ | ⟨rfl, rfl⟩ | ⟨rfl, rfl⟩ <;> decide
  obtain ⟨leftBracket, rightBracket, noBraceRight, differ⟩ := isBracket
  induction areTrees generalizing depth rest with
  | nil => rfl
  | @token token others noBracket further inductionHypothesis =>
      have stays : bracesBehind 0 token = 0 := by
        simp [bracesBehind, noBracket "\x7b" (by decide), noBracket "\x7d" (by decide)]
      rw [List.cons_append, cutOutside_cons (by simp [noBracket right rightBracket]),
        noBracket left leftBracket, stays]
      simp [inductionHypothesis]
  | @group opening closing opens closes inside others areOthers isOpening areInside isClosing
      further ofInside ofRest =>
      rw [List.cons_append, List.append_assoc, List.cons_append]
      have noOpening := (Token.isMark_other isOpening).2
      have noClosing := (Token.isMark_other isClosing).2
      by_cases isBrace : opens = "\x7b"
      · subst isBrace
        obtain rfl : closes = "\x7d" := (Option.some.inj areOthers).symm
        rw [(areInside.encloses isOpening isClosing).cutOutside noBrace noBraceRight, ofRest]
        simp
      · have pair : opens ≠ "\x7d" ∧ closes ≠ "\x7b" ∧ closes ≠ "\x7d" ∧ opens ≠ right ∧
            closes ≠ left ∧ (opens = left ↔ closes = right) := by
          rcases closingMark?_cases areBrackets with ⟨rfl, rfl⟩ | ⟨rfl, rfl⟩ | ⟨rfl, rfl⟩ <;>
            rcases closingMark?_cases areOthers with ⟨rfl, rfl⟩ | ⟨rfl, rfl⟩ | ⟨rfl, rfl⟩ <;>
            first | exact absurd rfl noBrace | exact absurd rfl isBrace | decide
        obtain ⟨opensNot, closesNot, closesNoBrace, opensOther, closesOther, same⟩ := pair
        have staysBehind (token : Token) (noLeft : token.isMark "\x7b" = false)
            (noRight : token.isMark "\x7d" = false) : bracesBehind 0 token = 0 := by
          simp [bracesBehind, noLeft, noRight]
        rw [cutOutside_cons (by simp [noOpening right (Ne.symm opensOther)]),
          staysBehind opening (noOpening _ (Ne.symm isBrace)) (noOpening _ (Ne.symm opensNot))]
        by_cases isSame : opens = left
        · -- the group is of the kind whose end is searched
          obtain rfl := isSame
          obtain rfl := same.mp rfl
          have closed := (@cutOutside_closing opens closes 0 closing (by simp [isClosing])
            (others ++ rest)).2 depth
          simp [isOpening, ofInside, closed, ofRest]
        · have isOther : closes ≠ right := mt same.mpr isSame
          rw [noOpening left (Ne.symm isSame)]
          simp [ofInside, ofRest, staysBehind closing (noClosing _ (Ne.symm closesNot))
            (noClosing _ (Ne.symm closesNoBrace)), noClosing right (Ne.symm isOther),
            noClosing left (Ne.symm closesOther), cutOutside_cons]

theorem group? (areTrees : TokenTrees trees) {opening closing : Token} {left right : String}
    (areBrackets : closingMark? left = some right) (isOpening : opening.isMark left = true)
    (isClosing : closing.isMark right = true) (rest : List Token) :
    Source.group? (opening :: (trees ++ closing :: rest)) = some (trees, rest) := by
  obtain ⟨isKind, rfl⟩ := Token.isMark_eq_true.mp isOpening
  by_cases isBrace : opening.text = "\x7b"
  · rw [isBrace] at areBrackets isOpening
    obtain rfl : right = "\x7d" := (Option.some.inj areBrackets).symm
    exact (areTrees.encloses isOpening isClosing).group? rest
  · have cut := areTrees.cutOutside_append areBrackets isBrace 0 (closing :: rest)
    rw [Nat.zero_add, (cutOutside_closing (by simp [isClosing]) rest).1, List.append_nil] at cut
    rw [Source.group?, if_pos isKind, areBrackets, Option.map_some, if_neg isBrace, cut]

theorem groupOf? (areTrees : TokenTrees trees) {opening closing : Token} {left right : String}
    (areBrackets : closingMark? left = some right) (isOpening : opening.isMark left = true)
    (isClosing : closing.isMark right = true) (rest : List Token) :
    Source.groupOf? left (opening :: (trees ++ closing :: rest)) = some (trees, rest) := by
  rw [Source.groupOf?, if_pos (by simp [isOpening]),
    areTrees.group? areBrackets isOpening isClosing]

theorem append {rest : List Token} (areTrees : TokenTrees trees) (areRest : TokenTrees rest) :
    TokenTrees (trees ++ rest) := by
  induction areTrees with
  | nil => exact areRest
  | token noBracket further inductionHypothesis => exact .token noBracket inductionHypothesis
  | group areBrackets isOpening areInside isClosing further ofInside ofRest =>
      rw [List.cons_append, List.append_assoc]
      exact .group areBrackets isOpening areInside isClosing ofRest

end TokenTrees

/-! ### Attributes -/

/-- The source text between the first of the tokens of a group and its last one. -/
def textBetween (inside : List Token) (closing : Token) : String :=
  String.join (inside.map Token.textWithBefore) ++ String.join (closing.before.map Lexeme.text)

/-- What may follow the path of an attribute: nothing, a value, or arguments between brackets. The
text of the arguments goes from bracket to bracket, without outer blanks. -/
inductive WritesArguments : Option String → List Token → Prop where
  | nothing : WritesArguments none []
  | value {equals : Token} {value : List Token} (isEquals : equals.isMark "=" = true)
      (areTrees : TokenTrees value) : WritesArguments none (equals :: value)
  | group {opening closing : Token} {left right : String} {inside : List Token}
      (areBrackets : closingMark? left = some right) (isOpening : opening.isMark left = true)
      (areInside : TokenTrees inside) (isClosing : closing.isMark right = true) :
      WritesArguments
        (some (String.ofList (Text.dropOuterBlanks (textBetween inside closing).toList)))
        (opening :: (inside ++ [closing]))

/-- The tokens write an attribute, with its path as it stands in the source text. No comment stands
before the path. -/
inductive WritesAttribute : Attribute → List Token → Prop where
  | intro {hash opening closing : Token} {segments : List String} {path rest : List Token}
      {arguments : Option String} (isHash : hash.isMark "#" = true)
      (isOpening : opening.isMark "[" = true) (uncommented : opening.comments = [])
      (isPath : WritesPath segments path) (uncommentedPath : commentsBefore path = [])
      (areArguments : WritesArguments arguments rest) (isClosing : closing.isMark "]" = true) :
      WritesAttribute ⟨sourceText path, arguments⟩
        (hash :: opening :: (path ++ rest ++ [closing]))

/-- The tokens write these attributes one after the other. -/
inductive WritesRun : List Attribute → List Token → Prop where
  | nil : WritesRun [] []
  | cons {written : Attribute} {others : List Attribute} {tokens rest : List Token}
      (isAttribute : WritesAttribute written tokens) (further : WritesRun others rest) :
      WritesRun (written :: others) (tokens ++ rest)

theorem notBracket_word {token : Token} (isWord : token.kind = .word) :
    ∀ bracket ∈ brackets, token.isMark bracket = false :=
  fun _ _ => by simp [Token.isMark, isWord]

theorem notBracket_mark {token : Token} {text : String} (isMark : token.isMark text = true)
    (noBracket : text ∉ brackets) : ∀ bracket ∈ brackets, token.isMark bracket = false :=
  fun bracket member => (Token.isMark_other isMark).2 bracket fun same => noBracket (same ▸ member)

theorem WritesNames.trees {names : List String} {tokens : List Token}
    (areNames : WritesNames names tokens) : TokenTrees tokens := by
  induction areNames with
  | nil => exact .nil
  | cons areColons isName further inductionHypothesis =>
      exact .token (notBracket_mark areColons (by decide))
        (.token (notBracket_word isName) inductionHypothesis)

theorem WritesPath.trees {segments : List String} {tokens : List Token}
    (isPath : WritesPath segments tokens) : TokenTrees tokens := by
  cases isPath with
  | relative isName further => exact .token (notBracket_word isName) further.trees
  | absolute areNames => exact areNames.trees

theorem WritesArguments.trees {arguments : Option String} {tokens : List Token}
    (areArguments : WritesArguments arguments tokens) : TokenTrees tokens := by
  cases areArguments with
  | nothing => exact .nil
  | value isEquals areTrees => exact .token (notBracket_mark isEquals (by decide)) areTrees
  | group areBrackets isOpening areInside isClosing =>
      exact .group areBrackets isOpening areInside isClosing .nil

theorem WritesArguments.endsPath {arguments : Option String} {tokens : List Token}
    (areArguments : WritesArguments arguments tokens) : EndsPath tokens := by
  cases areArguments with
  | nothing => exact fun _ _ _ isNil => nomatch isNil
  | value isEquals areTrees =>
      exact endsPath_cons ((Token.isMark_other isEquals).2 "::" (by decide)) _
  | group areBrackets isOpening areInside isClosing =>
      refine endsPath_cons ((Token.isMark_other isOpening).2 "::" ?_) _
      rcases closingMark?_cases areBrackets with ⟨rfl, rfl⟩ | ⟨rfl, rfl⟩ | ⟨rfl, rfl⟩ <;> decide

theorem sourceText_group (opening closing : Token) (inside : List Token) :
    sourceText (opening :: (inside ++ [closing])) =
      opening.text ++ textBetween inside closing ++ closing.text := by
  simp only [sourceText, textBetween, Token.textWithBefore, List.map_append, List.map_cons,
    List.map_nil, String.join_append, String.join_cons, String.join_nil, String.append_empty,
    String.append_assoc]

/-- One pair of brackets is taken away, and the blanks inside of them. -/
theorem stripBrackets_group {opening closing : Token} {left right : String} {inside : List Token}
    (areBrackets : closingMark? left = some right) (isOpening : opening.isMark left = true)
    (isClosing : closing.isMark right = true) :
    stripBrackets (sourceText (opening :: (inside ++ [closing]))).toList =
      Text.dropOuterBlanks (textBetween inside closing).toList := by
  rw [sourceText_group, (Token.isMark_eq_true.mp isOpening).2,
    (Token.isMark_eq_true.mp isClosing).2]
  generalize textBetween inside closing = between
  have stripped {first last : Char} (opens : ['(', '[', '{'].contains first = true)
      (closes : [')', ']', '}'].contains last = true) :
      stripBrackets (first :: (between.toList ++ [last])) =
        Text.dropOuterBlanks between.toList := by
    have isLast : (first :: (between.toList ++ [last])).getLast? = some last := by
      rw [← List.cons_append, List.getLast?_concat]
    rw [stripBrackets, isLast, List.head?_cons, Option.any_some, Option.any_some, opens, closes,
      List.tail_cons, List.dropLast_concat, if_pos (by simp)]
  rcases closingMark?_cases areBrackets with ⟨rfl, rfl⟩ | ⟨rfl, rfl⟩ | ⟨rfl, rfl⟩
  all_goals
    rw [String.toList_append, String.toList_append]
    exact stripped (by decide) (by decide)

theorem textUntil_append (tokens after : List Token) :
    textUntil (tokens ++ after) after = sourceText tokens := by
  rw [textUntil, tokensUntil, List.length_append, Nat.add_sub_cancel, List.take_left]

theorem textUntil_nil (tokens : List Token) : textUntil tokens [] = sourceText tokens := by
  have whole := textUntil_append tokens []
  rwa [List.append_nil] at whole

theorem readAttribute_path {segments : List String} {path rest : List Token}
    {arguments : Option String} (isPath : WritesPath segments path)
    (areArguments : WritesArguments arguments rest) :
    readAttribute [] (path ++ rest) = ⟨sourceText path, arguments⟩ := by
  simp only [readAttribute, readPath_path isPath areArguments.endsPath, textUntil_append]
  congr 1
  cases areArguments with
  | nothing => rfl
  | value isEquals areTrees =>
      obtain ⟨isKind, isText⟩ := Token.isMark_eq_true.mp isEquals
      simp [group?, isKind, isText, closingMark?]
  | group areBrackets isOpening areInside isClosing =>
      rw [areInside.group? areBrackets isOpening isClosing, Option.map_some, textUntil_nil,
        stripBrackets_group areBrackets isOpening isClosing]

/-- An attribute is read with the comments before its path and the tokens between `[` and `]`. -/
theorem attribute?_group {hash opening closing : Token} {inside : List Token}
    (isHash : hash.isMark "#" = true) (isOpening : opening.isMark "[" = true)
    (areInside : TokenTrees inside) (isClosing : closing.isMark "]" = true)
    (after : List Token) :
    attribute? (hash :: opening :: (inside ++ closing :: after)) =
      some (readAttribute (opening.comments ++ commentsBefore inside) inside, after) := by
  rw [attribute?, if_pos isHash, areInside.groupOf? rfl isOpening isClosing]
  rfl

/-- An attribute is read as it is written. -/
theorem attribute?_written {written : Attribute} {tokens : List Token}
    (isAttribute : WritesAttribute written tokens) (after : List Token) :
    attribute? (tokens ++ after) = some (written, after) := by
  cases isAttribute with
  | @intro hash opening closing segments path rest arguments isHash isOpening uncommented isPath
      uncommentedPath areArguments isClosing =>
      have noComment : opening.comments ++ commentsBefore (path ++ rest) = [] := by
        obtain ⟨first, others, rfl, -⟩ := isPath.begins
        rw [uncommented]
        exact uncommentedPath
      have read := attribute?_group isHash isOpening (isPath.trees.append areArguments.trees)
        isClosing after
      rw [noComment, readAttribute_path isPath areArguments] at read
      simpa using read

/-- A comment before the path takes the place of an attribute. -/
theorem attribute?_commented {hash opening closing : Token} {inside : List Token}
    {comment : String} {others : List String} (isHash : hash.isMark "#" = true)
    (isOpening : opening.isMark "[" = true) (areInside : TokenTrees inside)
    (isClosing : closing.isMark "]" = true)
    (commented : opening.comments ++ commentsBefore inside = comment :: others)
    (after : List Token) :
    attribute? (hash :: opening :: (inside ++ closing :: after)) =
      some (⟨pathOfComment comment, none⟩, after) := by
  rw [attribute?_group isHash isOpening areInside isClosing, commented]
  rfl

/-! ### Items below attributes -/

/-- The line of the first token. -/
def firstLine (tokens : List Token) : Nat :=
  (tokens.head?.map Token.line).getD 0

/-- Behind a run, its attributes are read, and the line is that of the first attribute. -/
theorem itemsBehind_run {attributes : List Attribute} {run : List Token}
    (isRun : WritesRun attributes run) (prior : Run) (own : List Token) :
    itemsBehind prior (run ++ own) =
      itemsBehind ⟨prior.attributes ++ attributes, prior.line <|> run.head?.map Token.line⟩
        own := by
  induction isRun generalizing prior with
  | nil => simp
  | @cons written others tokens rest isAttribute further inductionHypothesis =>
      have isRead := attribute?_written isAttribute (rest ++ own)
      obtain ⟨first, behind, rfl⟩ : ∃ first behind, tokens = first :: behind := by
        cases isAttribute
        exact ⟨_, _, rfl⟩
      rw [List.cons_append] at isRead
      rw [List.append_assoc, List.cons_append, itemsBehind_attribute isRead, inductionHypothesis]
      cases isLine : prior.line <;> simp [Run.add, isLine]

/-- The tokens write items below these heads, and maybe other things. Above each of them stands a
run of attributes, and the head of an item has these, and the line where they or the item begin.
What stands above something that is no item, or above an attribute of what is around, is lost. -/
inductive WritesHeads : List Head → List Token → Prop where
  | nil : WritesHeads [] []
  | item {attributes : List Attribute} {run own declared after : List Token} {visible : Bool}
      {item : Item} {heads : List Head} (isRun : WritesRun attributes run)
      (noAttribute : attribute? own = none) (noInner : skipInnerAttribute? own = none)
      (isDeclared : skipVisibility own = (visible, declared))
      (isItem : readItem? itemsIn ⟨attributes, firstLine (run ++ own), visible⟩ declared =
        some (item, after))
      (further : WritesHeads heads (shrink own after)) :
      WritesHeads (⟨attributes, firstLine (run ++ own), visible⟩ :: heads) (run ++ own)
  | other {attributes : List Attribute} {run own declared : List Token} {visible : Bool}
      {heads : List Head} (isRun : WritesRun attributes run)
      (noAttribute : attribute? own = none) (noInner : skipInnerAttribute? own = none)
      (isDeclared : skipVisibility own = (visible, declared))
      (noItem : readItem? itemsIn ⟨attributes, firstLine (run ++ own), visible⟩ declared = none)
      (further : WritesHeads heads (shrink own (dropNoItem declared))) :
      WritesHeads heads (run ++ own)
  | inner {attributes : List Attribute} {run own after : List Token} {heads : List Head}
      (isRun : WritesRun attributes run) (noAttribute : attribute? own = none)
      (isInner : skipInnerAttribute? own = some after) (further : WritesHeads heads after) :
      WritesHeads heads (run ++ own)

theorem head_firstLine (attributes : List Attribute) (run : List Token) (first : Token)
    (rest : List Token) (visible : Bool) :
    (⟨attributes, run.head?.map Token.line⟩ : Run).head first visible =
      ⟨attributes, firstLine (run ++ first :: rest), visible⟩ := by
  cases run <;> rfl

theorem itemsIn_run {attributes : List Attribute} {run : List Token}
    (isRun : WritesRun attributes run) (own : List Token) :
    itemsIn (run ++ own) = itemsBehind ⟨attributes, run.head?.map Token.line⟩ own := by
  rw [itemsIn, itemsBehind_run isRun]
  rfl

/-- Items are read below the heads that they are written below. -/
theorem heads_itemsIn {heads : List Head} {tokens : List Token}
    (areHeads : WritesHeads heads tokens) : (itemsIn tokens).map Item.head = heads := by
  induction areHeads with
  | nil => rfl
  | @item attributes run own declared after visible item heads isRun noAttribute noInner isDeclared
      isItem further inductionHypothesis =>
      cases own with
      | nil =>
          obtain ⟨rfl, rfl⟩ := Prod.mk.inj isDeclared
          cases isItem
      | cons first rest =>
          have isHead := (standsIn_readItem? rfl isItem).1
          rw [← head_firstLine] at isItem
          rw [itemsIn_run isRun, itemsBehind_item noAttribute noInner isDeclared isItem,
            List.map_cons, isHead, inductionHypothesis]
  | @other attributes run own declared visible heads isRun noAttribute noInner isDeclared noItem
      further inductionHypothesis =>
      cases own with
      | nil =>
          rw [itemsIn_run isRun]
          exact inductionHypothesis
      | cons first rest =>
          rw [← head_firstLine] at noItem
          rw [itemsIn_run isRun, itemsBehind_other noAttribute noInner isDeclared noItem,
            inductionHypothesis]
  | @inner attributes run own after heads isRun noAttribute isInner further inductionHypothesis =>
      cases own with
      | nil => cases isInner
      | cons first rest =>
          rw [itemsIn_run isRun, itemsBehind_inner noAttribute isInner, inductionHypothesis]

end ForwardingProxy.Source
