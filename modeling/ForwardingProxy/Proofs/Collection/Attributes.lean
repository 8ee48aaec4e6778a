import ForwardingProxy.Proofs.Collection.Modules
import ForwardingProxy.Proofs.Source.AttributeReading

/-!
Contract: what is written above an item is what is known of it.

Owns: the theorem that items at any level have the attributes and the line that are written above
them, and that declarations have those of their items.
-/

namespace ForwardingProxy.Collection

open Source (Head Item Lexeme Token TokenTrees WritesArguments WritesAttribute WritesHeads
  WritesPath WritesRun attribute? closingMark? commentsBefore itemsIn notBracket_word pathOfComment
  readItem? readItems sourceText textBetween)

/-- What an item declares has its attributes, its line and its visibility. -/
theorem gain_head {place : Place} {item : Item} {declaration : Declaration}
    (isDeclared : declaration ∈ (gain place item).declarations) :
    declaration.attributes = item.head.attributes ∧
      declaration.location = some ⟨place.file, item.head.line⟩ ∧
      declaration.visible = item.head.visible := by
  cases item with
  | function head signature =>
      simp only [gain, List.mem_ite_nil_right, List.mem_singleton] at isDeclared
      obtain ⟨-, rfl⟩ := isDeclared
      exact ⟨rfl, rfl, rfl⟩
  | module head name items => cases items <;> cases isDeclared
  | implementation _ _ _ | associatedType _ _ | const _ _ _ | imports _ _ => cases isDeclared
  | _ =>
      obtain rfl := List.mem_singleton.mp isDeclared
      exact ⟨rfl, rfl, rfl⟩

/-- Where a text has no comments before the paths of its attributes, its items are read below the
heads that they are written below: each has the attributes right above it, in their order, with
their paths and the texts of their arguments, and the line of the first of them or its own. The
items in a module, a trait or an `impl` block are read from tokens in the same way, and what an item
declares has its head. A comment before the path of an attribute hides it: the attribute has the
kind of the comment for its path then, and no arguments. -/
theorem items_below_attributes {text : String} {heads : List Head}
    (areHeads : WritesHeads heads (Source.tokens text)) :
    (readItems text).map Item.head = heads ∧
      (∀ head tokens item after, readItem? itemsIn head tokens = some (item, after) →
        item.head = head ∧ ∀ members, item.members? = some members →
          ∃ inside, inside <:+: tokens ∧ members = itemsIn inside) ∧
      (∀ tokens heads, WritesHeads heads tokens → (itemsIn tokens).map Item.head = heads) ∧
      (∀ place item declaration, declaration ∈ (gain place item).declarations →
        declaration.attributes = item.head.attributes ∧
          declaration.location = some ⟨place.file, item.head.line⟩ ∧
          declaration.visible = item.head.visible) ∧
      ∀ (hash opening closing : Token) (inside after : List Token) (comment : String)
        (others : List String), hash.isMark "#" = true → opening.isMark "[" = true →
        TokenTrees inside → closing.isMark "]" = true →
        opening.comments ++ commentsBefore inside = comment :: others →
        attribute? (hash :: opening :: (inside ++ closing :: after)) =
          some (⟨pathOfComment comment, none⟩, after) :=
  ⟨Source.heads_itemsIn areHeads, fun _ _ _ _ => Source.standsIn_readItem? rfl,
    fun _ _ => Source.heads_itemsIn, fun _ _ _ => gain_head,
    fun _ _ _ _ _ _ _ isHash isOpening areInside isClosing commented =>
      Source.attribute?_commented isHash isOpening areInside isClosing commented _⟩

/-- A function below comments and two attributes, and one without any. -/
def shineText : String :=
  "/// Shines.\n#[cfg(test)]\n\n// which lamp\n#[proxy_for( Lamp )]\npub fn shine() {}\n" ++
    "fn fade() {}\n"

/-- The heads of the functions in that text. -/
def shineHeads : List Head :=
  [⟨[⟨"cfg", some "test"⟩, ⟨"proxy_for", some "Lamp"⟩], 1, true⟩, ⟨[], 6, false⟩]

/-- An attribute with a word for its argument, and a gap around the word. -/
def wordAttribute (path argument : String) (line : Nat) (before gap : List Lexeme) : List Token :=
  ⟨.mark, "#", line, before⟩ :: ⟨.mark, "[", line, []⟩ :: ([⟨.word, path, line, []⟩] ++
    ⟨.mark, "(", line, []⟩ :: ([⟨.word, argument, line, gap⟩] ++ [⟨.mark, ")", line, gap⟩]) ++
      [⟨.mark, "]", line, []⟩])

/-- A function without parameters and without anything in its body, from `fn` on. -/
def emptyFunction (name : String) (line : Nat) (before : String) : List Token :=
  [⟨.word, "fn", line, [⟨.blanks, before⟩]⟩, ⟨.word, name, line, [⟨.blanks, " "⟩]⟩,
    ⟨.mark, "(", line, []⟩, ⟨.mark, ")", line, []⟩, ⟨.mark, "\x7b", line, [⟨.blanks, " "⟩]⟩,
    ⟨.mark, "\x7d", line, []⟩]

theorem writes_wordAttribute {path argument : String} {line : Nat} {before gap : List Lexeme}
    (trimmed : Text.dropOuterBlanks
      (textBetween [⟨.word, argument, line, gap⟩] ⟨.mark, ")", line, gap⟩).toList =
        argument.toList) :
    WritesAttribute ⟨path, some argument⟩ (wordAttribute path argument line before gap) := by
  have isWord : TokenTrees [⟨.word, argument, line, gap⟩] := .token (notBracket_word rfl) .nil
  have areBrackets : closingMark? "(" = some ")" := rfl
  have areArguments := @WritesArguments.group ⟨.mark, "(", line, []⟩ ⟨.mark, ")", line, gap⟩ _ _ _
    areBrackets rfl isWord rfl
  rw [trimmed, String.ofList_toList] at areArguments
  have isAttribute := @WritesAttribute.intro ⟨.mark, "#", line, before⟩ ⟨.mark, "[", line, []⟩
    ⟨.mark, "]", line, []⟩ _ _ _ _ rfl rfl rfl
    (@WritesPath.relative ⟨.word, path, line, []⟩ _ _ rfl .nil) rfl areArguments rfl
  have isPath : sourceText [⟨.word, path, line, []⟩] = path := String.append_empty
  rw [isPath] at isAttribute
  exact isAttribute

/-- The attributes in that text. -/
def shineAttributes : List Token :=
  wordAttribute "cfg" "test" 1 [] [] ++ (wordAttribute "proxy_for" "Lamp" 4
    [⟨.blanks, "\n\n"⟩, ⟨.comment, "// which lamp"⟩, ⟨.blanks, "\n"⟩] [⟨.blanks, " "⟩] ++ [])

theorem writes_shineText : WritesHeads shineHeads (Source.tokens shineText) := by
  have isRun : WritesRun [⟨"cfg", some "test"⟩, ⟨"proxy_for", some "Lamp"⟩] shineAttributes :=
    .cons (writes_wordAttribute (by cbv)) (.cons (writes_wordAttribute (by cbv)) .nil)
  have areTokens : Source.tokens shineText = shineAttributes ++
      ⟨.word, "pub", 5, [⟨.blanks, "\n"⟩]⟩ :: (emptyFunction "shine" 5 " " ++
        emptyFunction "fade" 6 "\n") := by
    have isText : shineText.toList = _ :=
      Source.toList_append_of_eq String.toList_ofList String.toList_ofList
    rw [Source.tokens_of_toList isText]
    decide +kernel
  have isFirst (head : Head) :
      readItem? itemsIn head (emptyFunction "shine" 5 " " ++ emptyFunction "fade" 6 "\n") =
        some (.function head ⟨"shine", none, [], none, false, true⟩,
          emptyFunction "fade" 6 "\n") := by rfl
  have isLast (head : Head) : readItem? itemsIn head (emptyFunction "fade" 6 "\n") =
      some (.function head ⟨"fade", none, [], none, false, true⟩, []) := by rfl
  have ofLast : WritesHeads [⟨[], 6, false⟩] (emptyFunction "fade" 6 "\n") :=
    @WritesHeads.item _ [] (emptyFunction "fade" 6 "\n") _ _ _ _ _ .nil rfl rfl rfl (isLast _)
      .nil
  rw [areTokens]
  exact .item isRun rfl rfl rfl (isFirst _) ofLast

/-- Both functions of that text are read below their heads. -/
theorem shineText_heads :
    WritesHeads shineHeads (Source.tokens shineText) ∧
      (readItems shineText).map Item.head = shineHeads :=
  ⟨writes_shineText, (items_below_attributes writes_shineText).1⟩

end ForwardingProxy.Collection
