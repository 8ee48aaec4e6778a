import ForwardingProxy.Source.Item
import Mathlib

/-!
Contract: trees of imports are read from their tokens.

Owns: `Source.WritesTree`, the grammar of the trees that `use` declarations hold, and the theorem
that a text of such declarations is read as their trees, however deep their groups are.

The grammar is one of tokens, so blanks and comments may stand anywhere between them. The one place
where a comment counts is between a `*` and a `::` that no path stands before; it is left out there.
-/

namespace ForwardingProxy.Source

/-! ### The grammar -/

/-- Names with a `::` before each of them. -/
inductive WritesNames : List String → List Token → Prop where
  | nil : WritesNames [] []
  | cons {colons name : Token} {names : List String} {rest : List Token}
      (areColons : colons.isMark "::" = true) (isName : name.kind = .word)
      (further : WritesNames names rest) : WritesNames (name.text :: names) (colons :: name :: rest)

/-- A path; a `::` may stand before it. -/
inductive WritesPath : List String → List Token → Prop where
  | relative {first : Token} {names : List String} {rest : List Token}
      (isName : first.kind = .word) (further : WritesNames names rest) :
      WritesPath (first.text :: names) (first :: rest)
  | absolute {first : String} {names : List String} {tokens : List Token}
      (areNames : WritesNames (first :: names) tokens) : WritesPath (first :: names) tokens

/-- What stands before a group: nothing, a `::`, or a path and a `::`. -/
inductive WritesPrefix : List String → List Token → Prop where
  | nothing : WritesPrefix [] []
  | root {colons : Token} (areColons : colons.isMark "::" = true) : WritesPrefix [] [colons]
  | path {segments : List String} {tokens : List Token} {colons : Token}
      (isPath : WritesPath segments tokens) (areColons : colons.isMark "::" = true) :
      WritesPrefix segments (tokens ++ [colons])

mutual

/-- The tokens of a tree. -/
inductive WritesTree : UseTree → List Token → Prop where
  | path {segments : List String} {tokens : List Token} (isPath : WritesPath segments tokens) :
      WritesTree (.path segments) tokens
  | renamed {segments : List String} {tokens : List Token} {as shortName : Token}
      (isPath : WritesPath segments tokens) (isAs : as.isWord "as" = true)
      (isName : shortName.kind = .word) :
      WritesTree (.renamed segments shortName.text) (tokens ++ [as, shortName])
  | glob {segments : List String} {tokens : List Token} {colons star : Token}
      (isPath : WritesPath segments tokens) (areColons : colons.isMark "::" = true)
      (isStar : star.isMark "*" = true) : WritesTree (.glob segments) (tokens ++ [colons, star])
  | rootGlob {colons star : Token} (areColons : colons.isMark "::" = true)
      (isStar : star.isMark "*" = true) (uncommented : star.comments = []) :
      WritesTree (.glob []) [colons, star]
  | bareGlob {star : Token} (isStar : star.isMark "*" = true) : WritesTree (.glob []) [star]
  | group {segments : List String} {members : List UseTree} {before inside : List Token}
      {opening closing : Token} (isPrefix : WritesPrefix segments before)
      (isOpening : opening.isMark "\x7b" = true) (areMembers : WritesMembers members inside)
      (isClosing : closing.isMark "\x7d" = true) :
      WritesTree (.group segments members) (before ++ opening :: (inside ++ [closing]))

/-- The tokens of trees with commas between them; one more may stand behind the last. -/
inductive WritesMembers : List UseTree → List Token → Prop where
  | nil : WritesMembers [] []
  | last {tree : UseTree} {tokens : List Token} (isTree : WritesTree tree tokens) :
      WritesMembers [tree] tokens
  | cons {tree : UseTree} {others : List UseTree} {tokens rest : List Token} {comma : Token}
      (isTree : WritesTree tree tokens) (isComma : comma.isMark "," = true)
      (further : WritesMembers others rest) :
      WritesMembers (tree :: others) (tokens ++ comma :: rest)

end

/-- The tokens of a visibility: none, a `pub`, or one with a group behind it. -/
inductive WritesVisibility : Bool → List Token → Prop where
  | inherited : WritesVisibility false []
  | exported {pub : Token} (isPub : pub.isWord "pub" = true) : WritesVisibility true [pub]
  | restricted {pub opening closing : Token} {inside : List Token}
      (isPub : pub.isWord "pub" = true) (isOpening : opening.isMark "(" = true)
      (noGroup : ∀ token ∈ inside, token.isMark "(" = false ∧ token.isMark ")" = false)
      (isClosing : closing.isMark ")" = true) :
      WritesVisibility true (pub :: opening :: (inside ++ [closing]))

/-- The tokens of `use` declarations. -/
inductive WritesImports : List UseTree → List Token → Prop where
  | nil : WritesImports [] []
  | cons {tree : UseTree} {others : List UseTree} {visible : Bool}
      {visibility tokens rest : List Token} {use close : Token}
      (isVisibility : WritesVisibility visible visibility) (isUse : use.isWord "use" = true)
      (isTree : WritesTree tree tokens) (isClose : close.isMark ";" = true)
      (further : WritesImports others rest) :
      WritesImports (tree :: others) (visibility ++ use :: (tokens ++ close :: rest))

/-! ### Single tokens -/

theorem Token.isMark_eq_true {token : Token} {text : String} :
    token.isMark text = true ↔ token.kind = .mark ∧ token.text = text := by
  simp [isMark]

theorem Token.isWord_eq_true {token : Token} {text : String} :
    token.isWord text = true ↔ token.kind = .word ∧ token.text = text := by
  simp [isWord]

/-- A mark is no other mark and no word. -/
theorem Token.isMark_other {token : Token} {text : String} (isMark : token.isMark text = true) :
    token.kind ≠ .word ∧ ∀ other, other ≠ text → token.isMark other = false := by
  obtain ⟨isKind, rfl⟩ := isMark_eq_true.mp isMark
  refine ⟨by simp [isKind], fun other differs => ?_⟩
  simp [Token.isMark, differs.symm]

/-! ### Paths -/

/-- No further segment of a path comes first. -/
def EndsPath (tokens : List Token) : Prop :=
  ∀ separator next rest, tokens = separator :: next :: rest → separator.isMark "::" = true →
    next.kind ≠ .word ∧ next.isMark "<" = false

theorem readFurtherSegments_end (all : List Token) (fuel : Nat) (segments : List String)
    {after : List Token} (ends : EndsPath after) :
    readFurtherSegments all fuel segments after = (segments, after) := by
  match fuel, after with
  | 0, _ | _ + 1, [] | _ + 1, [_] => rfl
  | fuel + 1, separator :: next :: rest =>
      by_cases areColons : separator.isMark "::" = true
      · obtain ⟨noWord, noAngle⟩ := ends separator next rest rfl areColons
        simp [readFurtherSegments, areColons, noWord, noAngle]
      · simp [readFurtherSegments, areColons]

theorem readFurtherSegments_names (all : List Token) {names : List String} {tokens : List Token}
    (areNames : WritesNames names tokens) {after : List Token} (ends : EndsPath after)
    (segments : List String) {fuel : Nat} (enough : tokens.length ≤ fuel) :
    readFurtherSegments all fuel segments (tokens ++ after) = (segments ++ names, after) := by
  induction areNames generalizing segments fuel with
  | nil => simpa using readFurtherSegments_end all fuel segments ends
  | @cons colons name names rest areColons isName further inductionHypothesis =>
      cases fuel with
      | zero => exact absurd enough (by simp)
      | succ fewer =>
          have enoughBehind : rest.length ≤ fewer := by
            simp only [List.length_cons] at enough
            omega
          simp [readFurtherSegments, areColons, isName, inductionHypothesis _ enoughBehind]

theorem readPath_path {segments : List String} {tokens : List Token}
    (isPath : WritesPath segments tokens) {after : List Token} (ends : EndsPath after) :
    readPath (tokens ++ after) = (segments, after) := by
  cases isPath with
  | relative isName further =>
      simp only [List.cons_append, readPath, isName]
      exact readFurtherSegments_names _ further ends _ (by simp)
  | absolute areNames =>
      cases areNames with
      | @cons colons name _ rest areColons isName further =>
          obtain ⟨noWord, noMark⟩ := Token.isMark_other areColons
          have isKind := (Token.isMark_eq_true.mp areColons).1
          have enough : (colons :: name :: rest).length ≤
              (colons :: name :: (rest ++ after)).length := by
            simp
          have areAll := readFurtherSegments_names (colons :: name :: (rest ++ after))
            (.cons areColons isName further) ends [] enough
          simpa [readPath, isKind, noMark "<" (by decide)] using areAll

/-! ### Groups -/

/-- Braces inside the tokens are balanced: behind them a group is as deep as before. -/
def Balanced (tokens : List Token) : Prop :=
  ∀ (depth : Nat) (rest : List Token),
    cutGroup "\x7b" "\x7d" (depth + 1) (tokens ++ rest) =
      (tokens ++ (cutGroup "\x7b" "\x7d" (depth + 1) rest).1,
        (cutGroup "\x7b" "\x7d" (depth + 1) rest).2)

theorem balanced_nil : Balanced [] := fun _ _ => rfl

theorem Balanced.append {first second : List Token} (ofFirst : Balanced first)
    (ofSecond : Balanced second) : Balanced (first ++ second) := by
  intro depth rest
  rw [List.append_assoc, ofFirst, ofSecond, List.append_assoc]

/-- A token that is no brace changes nothing. -/
theorem balanced_token {token : Token} (noOpening : token.isMark "\x7b" = false)
    (noClosing : token.isMark "\x7d" = false) : Balanced [token] := by
  intro depth rest
  simp [cutGroup, noOpening, noClosing]

theorem balanced_word {token : Token} (isWord : token.kind = .word) : Balanced [token] :=
  balanced_token (by simp [Token.isMark, isWord]) (by simp [Token.isMark, isWord])

theorem balanced_mark {token : Token} {text : String} (isMark : token.isMark text = true)
    (noBrace : text ∉ ["\x7b", "\x7d"]) : Balanced [token] := by
  simp only [List.mem_cons, List.not_mem_nil, or_false, not_or] at noBrace
  have noOther := (Token.isMark_other isMark).2
  exact balanced_token (noOther _ (Ne.symm noBrace.1)) (noOther _ (Ne.symm noBrace.2))

/-- A closing brace ends the group at its own depth and no other. -/
theorem cutGroup_closing {closing : Token} (isClosing : closing.isMark "\x7d" = true)
    (rest : List Token) :
    cutGroup "\x7b" "\x7d" 1 (closing :: rest) = ([], rest) ∧
      ∀ depth, cutGroup "\x7b" "\x7d" (depth + 2) (closing :: rest) =
        (closing :: (cutGroup "\x7b" "\x7d" (depth + 1) rest).1,
          (cutGroup "\x7b" "\x7d" (depth + 1) rest).2) := by
  constructor
  · simp [cutGroup, isClosing]
  · intro depth
    simp [cutGroup, isClosing]

theorem Balanced.group {inside : List Token} {opening closing : Token}
    (isOpening : opening.isMark "\x7b" = true) (balanced : Balanced inside)
    (isClosing : closing.isMark "\x7d" = true) : Balanced (opening :: (inside ++ [closing])) := by
  intro depth rest
  have noClosing := (Token.isMark_other isOpening).2 "\x7d" (by decide)
  have cut := balanced (depth + 1) (closing :: rest)
  rw [(cutGroup_closing isClosing rest).2 depth] at cut
  simp [cutGroup, noClosing, isOpening, cut]

theorem groupOf?_balanced {inside after : List Token} {opening closing : Token}
    (isOpening : opening.isMark "\x7b" = true) (balanced : Balanced inside)
    (isClosing : closing.isMark "\x7d" = true) :
    groupOf? "\x7b" (opening :: (inside ++ closing :: after)) = some (inside, after) := by
  obtain ⟨isKind, isText⟩ := Token.isMark_eq_true.mp isOpening
  have cut := balanced 0 (closing :: after)
  rw [(cutGroup_closing isClosing after).1, List.append_nil] at cut
  simp [groupOf?, group?, isOpening, isKind, isText, closingMark?, cut]

theorem groupOf?_eq_none {first : Token} {rest : List Token}
    (noOpening : first.isMark "\x7b" = false) : groupOf? "\x7b" (first :: rest) = none := by
  simp [groupOf?, noOpening]

theorem WritesNames.balanced {names : List String} {tokens : List Token}
    (areNames : WritesNames names tokens) : Balanced tokens := by
  induction areNames with
  | nil => exact balanced_nil
  | cons areColons isName further inductionHypothesis =>
      exact (balanced_mark areColons (by decide)).append
        ((balanced_word isName).append inductionHypothesis)

theorem WritesPath.balanced {segments : List String} {tokens : List Token}
    (isPath : WritesPath segments tokens) : Balanced tokens := by
  cases isPath with
  | relative isName further => exact (balanced_word isName).append further.balanced
  | absolute areNames => exact areNames.balanced

theorem WritesPrefix.balanced {segments : List String} {tokens : List Token}
    (isPrefix : WritesPrefix segments tokens) : Balanced tokens := by
  cases isPrefix with
  | nothing => exact balanced_nil
  | root areColons => exact balanced_mark areColons (by decide)
  | path isPath areColons => exact isPath.balanced.append (balanced_mark areColons (by decide))

mutual

theorem WritesTree.balanced {tree : UseTree} {tokens : List Token} :
    WritesTree tree tokens → Balanced tokens
  | .path isPath => isPath.balanced
  | .renamed isPath isAs isName =>
      isPath.balanced.append ((balanced_word (Token.isWord_eq_true.mp isAs).1).append
        (balanced_word isName))
  | .glob isPath areColons isStar =>
      isPath.balanced.append ((balanced_mark areColons (by decide)).append
        (balanced_mark isStar (by decide)))
  | .rootGlob areColons isStar _ =>
      (balanced_mark areColons (by decide)).append (balanced_mark isStar (by decide))
  | .bareGlob isStar => balanced_mark isStar (by decide)
  | .group isPrefix isOpening areMembers isClosing =>
      isPrefix.balanced.append (.group isOpening areMembers.balanced isClosing)

theorem WritesMembers.balanced {members : List UseTree} {tokens : List Token} :
    WritesMembers members tokens → Balanced tokens
  | .nil => balanced_nil
  | .last isTree => isTree.balanced
  | .cons isTree isComma further =>
      isTree.balanced.append ((balanced_mark isComma (by decide)).append further.balanced)

end

/-! ### Trees -/

/-- What may stand behind a tree: nothing, a comma or a `;`. -/
def EndsTree (after : List Token) : Prop :=
  ∀ next ∈ after.head?, ∃ mark ∈ [",", ";"], next.isMark mark = true

theorem endsPath_cons {first : Token} (noColons : first.isMark "::" = false) (rest : List Token) :
    EndsPath (first :: rest) := by
  intro separator next others same areColons
  rw [← (List.cons.inj same).1, noColons] at areColons
  cases areColons

/-- Behind a tree stands no word and no mark that continues one. -/
theorem EndsTree.isOther {first : Token} {rest : List Token} (ends : EndsTree (first :: rest)) :
    first.kind ≠ .word ∧ ∀ mark, mark ∉ [",", ";"] → first.isMark mark = false := by
  obtain ⟨text, isEnd, isMark⟩ := ends first rfl
  obtain ⟨noWord, noOther⟩ := Token.isMark_other isMark
  refine ⟨noWord, fun mark continues => noOther mark ?_⟩
  rintro rfl
  exact continues isEnd

theorem EndsTree.endsPath {after : List Token} (ends : EndsTree after) : EndsPath after := by
  cases after with
  | nil => nofun
  | cons first rest => exact endsPath_cons (ends.isOther.2 "::" (by decide)) rest

theorem endsPath_colons (colons : Token) {next : Token} {text : String}
    (isMark : next.isMark text = true) (noAngle : text ≠ "<") (rest : List Token) :
    EndsPath (colons :: next :: rest) := by
  rintro _ _ _ ⟨⟩ _
  obtain ⟨noWord, noOther⟩ := Token.isMark_other isMark
  exact ⟨noWord, noOther "<" noAngle.symm⟩

theorem treeOfPath_path {segments : List String} {tokens : List Token}
    (isPath : WritesPath segments tokens) (after : List Token) :
    treeOfPath segments (tokens ++ after) after = .path segments := by
  have noPlaceholder : startsWithKind .placeholder (tokens ++ after) = false := by
    cases isPath with
    | relative isName further => simp [startsWithKind, isName]
    | absolute areNames =>
        cases areNames with
        | cons areColons isName further =>
            simp [startsWithKind, (Token.isMark_eq_true.mp areColons).1]
  simp [treeOfPath, noPlaceholder]

/-- No path is read where another mark comes first. -/
theorem readPath_nothing {first : Token} {text : String} (isMark : first.isMark text = true)
    (noAngle : text ≠ "<") {rest : List Token} (ends : EndsPath (first :: rest)) :
    readPath (first :: rest) = ([], first :: rest) := by
  have isKind := (Token.isMark_eq_true.mp isMark).1
  have noOther := (Token.isMark_other isMark).2 "<" noAngle.symm
  simp [readPath, isKind, noOther, readFurtherSegments_end _ _ _ ends]

section Leaves

variable {segments : List String} {tokens after : List Token} (fuel : Nat)

theorem readUseTree?_path (isPath : WritesPath segments tokens) (ends : EndsTree after) :
    readUseTree? (fuel + 1) (tokens ++ after) = some (.path segments, after) := by
  have areRead := readPath_path isPath ends.endsPath
  have isTree := treeOfPath_path isPath after
  cases after with
  | nil => simp only [readUseTree?, areRead, isTree]
  | cons next rest =>
      obtain ⟨noWord, noMark⟩ := ends.isOther
      simp [readUseTree?, areRead, Token.isWord, noWord, noMark "*" (by decide),
        noMark "::" (by decide), groupOf?_eq_none (noMark "\x7b" (by decide)), isTree]

theorem readUseTree?_renamed (isPath : WritesPath segments tokens) {as shortName : Token}
    (isAs : as.isWord "as" = true) :
    readUseTree? (fuel + 1) (tokens ++ as :: shortName :: after) =
      some (.renamed segments shortName.text, after) := by
  have noMark : as.isMark "::" = false := by
    simp [Token.isMark, (Token.isWord_eq_true.mp isAs).1]
  simp [readUseTree?, readPath_path isPath (endsPath_cons noMark _), isAs]

theorem readUseTree?_glob (isPath : WritesPath segments tokens) {colons star : Token}
    (areColons : colons.isMark "::" = true) (isStar : star.isMark "*" = true) :
    readUseTree? (fuel + 1) (tokens ++ colons :: star :: after) =
      some (.glob segments, after) := by
  have areRead := readPath_path isPath (endsPath_colons colons isStar (by decide) after)
  have noOpening := (Token.isMark_other isStar).2 "\x7b" (by decide)
  have nonempty : segments.isEmpty = false := by cases isPath <;> rfl
  obtain ⟨noWord, noOther⟩ := Token.isMark_other areColons
  simp [readUseTree?, areRead, Token.isWord, noWord, noOther "*" (by decide), areColons, isStar,
    groupOf?_eq_none noOpening, globBehind, nonempty]

theorem readUseTree?_rootGlob {colons star : Token} (areColons : colons.isMark "::" = true)
    (isStar : star.isMark "*" = true) (uncommented : star.comments = []) :
    readUseTree? (fuel + 1) (colons :: star :: after) = some (.glob [], after) := by
  have areRead := readPath_nothing areColons (by decide)
    (endsPath_colons colons isStar (by decide) after)
  have noOpening := (Token.isMark_other isStar).2 "\x7b" (by decide)
  obtain ⟨noWord, noOther⟩ := Token.isMark_other areColons
  simp [readUseTree?, areRead, Token.isWord, noWord, noOther "*" (by decide), areColons, isStar,
    groupOf?_eq_none noOpening, globBehind, uncommented]

theorem readUseTree?_bareGlob {star : Token} (isStar : star.isMark "*" = true) :
    readUseTree? (fuel + 1) (star :: after) = some (.glob [], after) := by
  obtain ⟨noWord, noOther⟩ := Token.isMark_other isStar
  have ends : EndsPath (star :: after) := endsPath_cons (noOther "::" (by decide)) after
  simp [readUseTree?, readPath_nothing isStar (by decide) ends, Token.isWord, noWord, isStar]

theorem readUseTree?_group {before inside : List Token} {opening closing : Token}
    (isPrefix : WritesPrefix segments before) (isOpening : opening.isMark "\x7b" = true)
    (balanced : Balanced inside) (isClosing : closing.isMark "\x7d" = true) :
    readUseTree? (fuel + 1) (before ++ opening :: (inside ++ closing :: after)) =
      some (.group segments (readUseTrees fuel inside), after) := by
  have isGroup := @groupOf?_balanced inside after _ _ isOpening balanced isClosing
  cases isPrefix with
  | nothing =>
      obtain ⟨noWord, noOther⟩ := Token.isMark_other isOpening
      have ends : EndsPath (opening :: (inside ++ closing :: after)) :=
        endsPath_cons (noOther "::" (by decide)) _
      simp [readUseTree?, readPath_nothing isOpening (by decide) ends, Token.isWord, noWord,
        noOther "*" (by decide), noOther "::" (by decide), isGroup]
  | @root colons areColons =>
      have areRead := readPath_nothing areColons (by decide)
        (endsPath_colons colons isOpening (by decide) (inside ++ closing :: after))
      obtain ⟨noWord, noOther⟩ := Token.isMark_other areColons
      simp [readUseTree?, areRead, Token.isWord, noWord, noOther "*" (by decide), areColons,
        isGroup]
  | @path _ tokens colons isPath areColons =>
      have areRead := readPath_path isPath
        (endsPath_colons colons isOpening (by decide) (inside ++ closing :: after))
      obtain ⟨noWord, noOther⟩ := Token.isMark_other areColons
      simp [readUseTree?, areRead, Token.isWord, noWord, noOther "*" (by decide), areColons,
        isGroup]

end Leaves

/-- A token comes first, and it is not that mark. -/
def BeginsWithout (mark : String) (tokens : List Token) : Prop :=
  ∃ first rest, tokens = first :: rest ∧ first.isMark mark = false

theorem beginsWithout_word (mark : String) {first : Token} (isWord : first.kind = .word)
    (rest : List Token) : BeginsWithout mark (first :: rest) :=
  ⟨first, rest, rfl, by simp [Token.isMark, isWord]⟩

theorem beginsWithout_mark {mark text : String} {first : Token}
    (isMark : first.isMark text = true) (differs : mark ≠ text) (rest : List Token) :
    BeginsWithout mark (first :: rest) :=
  ⟨first, rest, rfl, (Token.isMark_other isMark).2 mark differs⟩

theorem BeginsWithout.append {mark : String} {tokens : List Token}
    (begins : BeginsWithout mark tokens) (after : List Token) :
    BeginsWithout mark (tokens ++ after) := by
  obtain ⟨first, rest, rfl, noMark⟩ := begins
  exact ⟨first, rest ++ after, rfl, noMark⟩

theorem WritesPath.begins {segments : List String} {tokens : List Token}
    (isPath : WritesPath segments tokens) : BeginsWithout "," tokens := by
  cases isPath with
  | relative isName further => exact beginsWithout_word "," isName _
  | absolute areNames =>
      cases areNames with
      | cons areColons isName further => exact beginsWithout_mark areColons (by decide) _

/-- A tree has a token, and no comma comes first in it. -/
theorem WritesTree.begins {tree : UseTree} {tokens : List Token} (isTree : WritesTree tree tokens) :
    BeginsWithout "," tokens := by
  cases isTree with
  | path isPath => exact isPath.begins
  | renamed isPath isAs isName => exact isPath.begins.append _
  | glob isPath areColons isStar => exact isPath.begins.append _
  | rootGlob areColons isStar uncommented => exact beginsWithout_mark areColons (by decide) _
  | bareGlob isStar => exact beginsWithout_mark isStar (by decide) _
  | group isPrefix isOpening areMembers isClosing =>
      cases isPrefix with
      | nothing => exact beginsWithout_mark isOpening (by decide) _
      | root areColons => exact beginsWithout_mark areColons (by decide) _
      | path isPath areColons => exact (isPath.begins.append _).append _

theorem endsTree_nil : EndsTree [] := nofun

theorem endsTree_cons {first : Token} {mark : String} (isMark : first.isMark mark = true)
    (isEnd : mark ∈ [",", ";"]) (rest : List Token) : EndsTree (first :: rest) := by
  rintro next ⟨⟩
  exact ⟨mark, isEnd, isMark⟩

theorem readUseTrees_nil (fuel : Nat) : readUseTrees fuel [] = [] := by
  cases fuel <;> rfl

mutual

/-- A tree is read from its tokens, with one step for each of them. -/
theorem readUseTree?_tree {tree : UseTree} {tokens after : List Token} {fuel : Nat}
    (isTree : WritesTree tree tokens) (ends : EndsTree after) (enough : tokens.length ≤ fuel) :
    readUseTree? fuel (tokens ++ after) = some (tree, after) := by
  obtain ⟨fewer, rfl⟩ : ∃ fewer, fuel = fewer + 1 := by
    obtain ⟨first, rest, rfl, _⟩ := isTree.begins
    exact Nat.exists_eq_add_of_le' (Nat.le_trans (by simp) enough)
  match isTree with
  | .path isPath => exact readUseTree?_path fewer isPath ends
  | .renamed isPath isAs isName =>
      rw [List.append_assoc]
      exact readUseTree?_renamed fewer isPath isAs
  | .glob isPath areColons isStar =>
      rw [List.append_assoc]
      exact readUseTree?_glob fewer isPath areColons isStar
  | .rootGlob areColons isStar uncommented =>
      exact readUseTree?_rootGlob fewer areColons isStar uncommented
  | .bareGlob isStar => exact readUseTree?_bareGlob fewer isStar
  | @WritesTree.group _ _ _ inside _ _ isPrefix isOpening areMembers isClosing =>
      have enoughInside : inside.length < fewer := by
        simp only [List.length_append, List.length_cons] at enough
        omega
      have areRead := readUseTrees_members areMembers enoughInside
      simp only [List.append_assoc, List.cons_append, List.nil_append]
      rw [readUseTree?_group fewer isPrefix isOpening areMembers.balanced isClosing, areRead]

theorem readUseTrees_members {members : List UseTree} {tokens : List Token} {fuel : Nat}
    (areMembers : WritesMembers members tokens) (enough : tokens.length < fuel) :
    readUseTrees fuel tokens = members := by
  obtain ⟨fewer, rfl⟩ := Nat.exists_eq_add_of_le' (Nat.lt_of_le_of_lt (Nat.zero_le _) enough)
  match areMembers with
  | .nil => rfl
  | .last isTree =>
      obtain ⟨first, rest, rfl, noComma⟩ := isTree.begins
      have isRead := readUseTree?_tree isTree endsTree_nil (Nat.le_of_lt_succ enough)
      rw [List.append_nil] at isRead
      simp [readUseTrees, noComma, isRead, readUseTrees_nil]
  | @WritesMembers.cons _ _ _ others _ isTree isComma further =>
      obtain ⟨first, rest, rfl, noComma⟩ := isTree.begins
      simp only [List.length_append, List.length_cons] at enough
      -- one step reads the tree, and one passes over the comma
      obtain ⟨fewest, rfl⟩ : ∃ fewest, fewer = fewest + 1 := ⟨fewer - 1, by omega⟩
      have enoughFirst : (first :: rest).length ≤ fewest + 1 := by
        simp only [List.length_cons]
        omega
      have enoughOthers : others.length < fewest := by omega
      have isRead := readUseTree?_tree isTree (endsTree_cons isComma (by decide) others) enoughFirst
      have areRead := readUseTrees_members further enoughOthers
      have goesOn : others.length + 1 < rest.length + (others.length + 1) + 1 := by omega
      rw [List.cons_append] at isRead ⊢
      simp [readUseTrees, noComma, isRead, isComma, areRead, goesOn]

end

/-! ### Declarations -/

theorem cutGroup_plain {inside after : List Token} {closing : Token}
    (noGroup : ∀ token ∈ inside, token.isMark "(" = false ∧ token.isMark ")" = false)
    (isClosing : closing.isMark ")" = true) :
    cutGroup "(" ")" 1 (inside ++ closing :: after) = (inside, after) := by
  induction inside with
  | nil => simp [cutGroup, isClosing]
  | cons token rest inductionHypothesis =>
      obtain ⟨noOpening, noClosing⟩ := noGroup token List.mem_cons_self
      have ofRest := inductionHypothesis fun other member =>
        noGroup other (List.mem_cons_of_mem _ member)
      simp [cutGroup, noOpening, noClosing, ofRest]

/-- A visibility in front of a word that is none is passed over. -/
theorem skipVisibility_visibility {visible : Bool} {visibility : List Token}
    (isVisibility : WritesVisibility visible visibility) {word : Token}
    (isUse : word.isWord "use" = true) (rest : List Token) :
    skipVisibility (visibility ++ word :: rest) = (visible, word :: rest) := by
  obtain ⟨isKind, isText⟩ := Token.isWord_eq_true.mp isUse
  cases isVisibility with
  | inherited => simp [skipVisibility, Token.isWord, isText]
  | exported isPub => simp [skipVisibility, isPub, startsWithMark, isKind]
  | restricted isPub isOpening noGroup isClosing =>
      obtain ⟨openingKind, openingText⟩ := Token.isMark_eq_true.mp isOpening
      have isGroup := @cutGroup_plain _ (word :: rest) _ noGroup isClosing
      simp [skipVisibility, isPub, startsWithMark, openingKind, openingText, isGroup]

theorem functionName?_use {use : Token} (isUse : use.isWord "use" = true) (rest : List Token) :
    functionName? (use :: rest) = none := by
  obtain ⟨isKind, isText⟩ := Token.isWord_eq_true.mp isUse
  cases rest <;> simp [functionName?, skipFunctionQualifiers, Token.isWord, isKind, isText]

/-- A declaration is read, and what stands behind it is left. -/
theorem readItem?_imports (readBody : List Token → List Item) (head : Head) {use close : Token}
    {tree : UseTree} {tokens rest : List Token} (isUse : use.isWord "use" = true)
    (isTree : WritesTree tree tokens) (isClose : close.isMark ";" = true) :
    readItem? readBody head (use :: (tokens ++ close :: rest)) =
      some (.imports head tree, rest) := by
  obtain ⟨isKind, isText⟩ := Token.isWord_eq_true.mp isUse
  have ends : EndsTree (close :: rest) := endsTree_cons isClose (by decide) rest
  have enough : tokens.length ≤ 2 * (tokens ++ close :: rest).length + 1 := by
    simp only [List.length_append]
    omega
  have isRead := readUseTree?_tree isTree ends enough
  have isEnd : dropStatement (close :: rest) = rest := by
    simp [dropStatement, dropUntil, isClose]
  have isImports : readImports? head (tokens ++ close :: rest) =
      some (.imports head tree, rest) := by
    simp only [readImports?, isRead, Option.map_some, isEnd]
  simp [readItem?, functionName?_use isUse, skipWord, startsWithWord, startsUnion, startsConst,
    isKind, isText, isImports]

/-- The tree of a declaration that is always compiled. -/
def importTree? (item : Item) : Option UseTree :=
  if item.head.isConditional then none
  else
    match item with
    | .imports _ tree => some tree
    | _ => none

/-- What comes first in a declaration is no attribute. -/
theorem WritesVisibility.begins {visible : Bool} {visibility : List Token}
    (isVisibility : WritesVisibility visible visibility) {word : Token}
    (isUse : word.isWord "use" = true) (rest : List Token) :
    BeginsWithout "#" (visibility ++ word :: rest) := by
  cases isVisibility with
  | inherited => exact beginsWithout_word "#" (Token.isWord_eq_true.mp isUse).1 _
  | exported isPub => exact beginsWithout_word "#" (Token.isWord_eq_true.mp isPub).1 _
  | restricted isPub isOpening noGroup isClosing =>
      exact beginsWithout_word "#" (Token.isWord_eq_true.mp isPub).1 _

/-- The declarations of a text are read one after the other, with one step for each. -/
theorem importTrees_readItemsFrom {trees : List UseTree} {tokens : List Token}
    (areImports : WritesImports trees tokens) {fuel : Nat} (enough : tokens.length ≤ fuel) :
    (readItemsFrom fuel .empty tokens).filterMap importTree? = trees := by
  induction areImports generalizing fuel with
  | nil => cases fuel <;> rfl
  | @cons tree others visible visibility tokens rest use close isVisibility isUse isTree isClose
      further inductionHypothesis =>
      have isShorter : rest.length < (visibility ++ use :: (tokens ++ close :: rest)).length := by
        simp only [List.length_append, List.length_cons]
        omega
      obtain ⟨fewer, rfl⟩ : ∃ fewer, fuel = fewer + 1 := ⟨fuel - 1, by omega⟩
      have enoughBehind : rest.length ≤ fewer := by omega
      have passed := skipVisibility_visibility isVisibility isUse (tokens ++ close :: rest)
      have isNext : shrink (visibility ++ use :: (tokens ++ close :: rest)) rest = rest :=
        if_pos isShorter
      obtain ⟨first, behind, same, noMark⟩ :=
        isVisibility.begins isUse (tokens ++ close :: rest)
      rw [same] at passed isNext ⊢
      have noAttribute : attribute? (first :: behind) = none := by
        simp [attribute?, noMark]
      have noInner : skipInnerAttribute? (first :: behind) = none := by
        cases behind <;> simp [skipInnerAttribute?, noMark]
      have isImported : importTree? (.imports (Run.empty.head first visible) tree) = some tree :=
        rfl
      simp only [readItemsFrom, noAttribute, noInner, passed,
        readItem?_imports _ _ isUse isTree isClose, isNext, List.filterMap_cons, isImported,
        inductionHypothesis enoughBehind]

/-- The trees of the declarations of a text are those that it is written with. -/
theorem importTrees_readItems {trees : List UseTree} {text : String}
    (areImports : WritesImports trees (tokens text)) :
    (readItems text).filterMap importTree? = trees :=
  importTrees_readItemsFrom areImports Nat.le.refl

end ForwardingProxy.Source
