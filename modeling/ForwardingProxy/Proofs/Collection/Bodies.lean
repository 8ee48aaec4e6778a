import ForwardingProxy.Proofs.Collection.Modules
import ForwardingProxy.Proofs.Source.Versions.Texts

/-!
Contract: what stands in a body leaves no trace in a table but in the lines behind it.

Owns: `SymbolTable.onLines`, a table with its declarations on other lines; and the fact that a text
adds one and the same table whatever stands in a block of it that is passed over, but for the lines
of the declarations behind the block.
-/

namespace ForwardingProxy

open Source (Item Head Site PassedOver lexemesOf lineFeeds lineBelow)

/-! ### Tables -/

/-- The declaration on the line that its own one becomes. -/
def Declaration.onLine (change : Nat → Nat) (declaration : Declaration) : Declaration :=
  { declaration with
    location := declaration.location.map fun location =>
      { location with line := change location.line } }

/-- The table with its declarations on the lines that their own ones become. -/
def SymbolTable.onLines (change : Nat → Nat) (table : SymbolTable) : SymbolTable :=
  { table with declarations := table.declarations.map (Declaration.onLine change) }

namespace Collection

variable {change : Nat → Nat}

/-- The item stands on the line that the other's one becomes, and so do the items in it. -/
abbrev Relined (change : Nat → Nat) : Item → Item → Prop :=
  Item.Moved fun number moved => moved = change number

section Items

variable {item other : Item} {members others : List Item}

theorem isConditional_moved (moved : Relined change item other) :
    other.head.isConditional = item.head.isConditional := by
  rw [moved.head.1]
  rfl

theorem traitItem?_moved (moved : Relined change item other) :
    traitItem? other = traitItem? item := by
  have sameCondition := isConditional_moved moved
  unfold traitItem?
  rw [sameCondition]
  cases moved with
  | alone noMembers moved => cases item <;> rfl
  | _ => rfl

theorem constructorName?_moved (selfType : TypeSyntax) (moved : Relined change item other) :
    constructorName? selfType other = constructorName? selfType item := by
  cases moved with
  | @alone _ head noMembers moved =>
      cases item with
      | function own signature =>
          obtain rfl : head = { own with line := change own.line } := moved.eq
          rfl
      | _ => rfl
  | _ => rfl

theorem filterMap_moved {Kept : Type} {keep : Item → Option Kept}
    (keeps : ∀ {item other : Item}, Relined change item other → keep other = keep item)
    (areMoved : List.Forall₂ (Relined change) members others) :
    others.filterMap keep = members.filterMap keep := by
  induction areMoved with
  | nil => rfl
  | cons moved areMoved inductionHypothesis =>
      rw [List.filterMap_cons, List.filterMap_cons, keeps moved, inductionHypothesis]

theorem constructions_moved (header : Source.ImplHeader)
    (areMoved : List.Forall₂ (Relined change) members others) :
    constructions header others = constructions header members := by
  unfold constructions
  rw [filterMap_moved (constructorName?_moved header.selfType) areMoved]

/-- The gain with its declarations on the lines that their own ones become. -/
def Gain.onLines (change : Nat → Nat) (gain : Gain) : Gain :=
  { gain with declarations := gain.declarations.map (Declaration.onLine change) }

theorem gain_moved (place : Place) (moved : Relined change item other) :
    gain place other = (gain place item).onLines change := by
  cases moved with
  | @alone _ head noMembers moved =>
      have isHead := moved.eq
      cases item with
      | function own signature =>
          obtain rfl : head = { own with line := change own.line } := isHead
          by_cases hasBody : signature.hasBody = true
          · simp [gain, Gain.onLines, gain.declared, hasBody, Declaration.onLine, Item.withHead]
          · simp [gain, Gain.onLines, hasBody, Item.withHead]
      | module own name items =>
          cases items with
          | none => rfl
          | some items => cases noMembers
      | _ =>
          rw [isHead]
          rfl
  | @trait own other name generic bounds members others moved areMoved =>
      rw [moved.eq]
      simp [gain, Gain.onLines, gain.declared, filterMap_moved traitItem?_moved areMoved,
        Declaration.onLine]
  | implementation moved areMoved =>
      simp [gain, Gain.onLines, constructions_moved _ areMoved]
  | module moved areMoved => rfl

theorem contents?_moved (moved : Relined change item other) (isPlain : contents? item = none) :
    contents? other = none := by
  cases moved with
  | alone noMembers moved => cases item <;> exact isPlain
  | module moved areMoved => cases isPlain
  | _ => rfl

theorem withGain_onLines (table : SymbolTable) (scope : Nat) (gain : Gain) :
    withGain (table.onLines change) scope (gain.onLines change) =
      (withGain table scope gain).onLines change := by
  simp [withGain, SymbolTable.onLines, Gain.onLines]

/-- Items on other lines are collected as the items are, but for the lines. -/
theorem addItems_moved (place : Place) (table : SymbolTable)
    (areMoved : List.Forall₂ (Relined change) members others) :
    addItems place (table.onLines change) others =
      (addItems place table members).onLines change := by
  induction members using items_induction generalizing table place others with
  | nil =>
      cases areMoved
      rw [addItems, addItems]
  | plain item rest isPlain inductionHypothesis =>
      cases areMoved with
      | cons moved areMoved =>
          rw [addItems_cons, addItems_cons, isConditional_moved moved]
          by_cases conditional : item.head.isConditional = true
          · rw [if_pos conditional, if_pos conditional, inductionHypothesis _ _ areMoved]
          · rw [if_neg conditional, if_neg conditional,
              addItem_plain _ _ (contents?_moved moved isPlain), addItem_plain _ _ isPlain,
              gain_moved place moved, withGain_onLines, inductionHypothesis _ _ areMoved]
  | module head name items rest ofItems ofRest =>
      cases areMoved with
      | cons moved areMoved =>
          rw [addItems_cons, addItems_cons, isConditional_moved moved]
          by_cases conditional : (Item.module head name (some items)).head.isConditional = true
          · rw [if_pos conditional, if_pos conditional, ofRest _ _ areMoved]
          · rw [if_neg conditional, if_neg conditional]
            cases moved with
            | alone noMembers moved => cases noMembers
            | module moved areInside =>
                have opened : (table.onLines change).addScope (Name.extend place.modulePath [name])
                    place.file =
                    (table.addScope (Name.extend place.modulePath [name]) place.file).onLines
                      change := rfl
                rw [addItem_module, addItem_module, opened, ofItems _ _ areInside,
                  ofRest _ _ areMoved]
                rfl

theorem moduleTable_moved (file : Option String) (modulePath : String)
    (areMoved : List.Forall₂ (Relined change) members others) :
    moduleTable file modulePath others = (moduleTable file modulePath members).onLines change :=
  addItems_moved ⟨file, modulePath, 0⟩ (SymbolTable.empty.addScope modulePath file) areMoved

end Items

/-- What stands in a block that is passed over does not matter to the table of a text: up to the line
of the opening brace all lines stay, and those below are further down by the line feeds in the
block. -/
theorem collect_block {site : Site} {inside : List Char} (takes : site.Takes inside)
    (passedOver : PassedOver (site.block inside) site.before (site.after inside))
    (modulePath : String) (file : Option String) :
    ∃ own : SymbolTable, ∀ (other : List Char) (table : SymbolTable), site.Takes other →
      collect (site.text other) modulePath file table =
        table.append (own.onLines (lineBelow site.line (lineFeeds other))) := by
  refine ⟨moduleTable file modulePath (Source.readItems (site.text ['\n'])), ?_⟩
  intro other table takesOther
  rw [collect_eq_append, moduleTable_moved file modulePath
    (Site.items_moved takes takesOther passedOver)]

/-- The default method of a trait, with a struct on the next line. -/
def defaultMethod : Site where
  preamble := []
  own := "trait Lamp \x7b fn shine(&self) ".toList
  behind := " \x7d\nstruct Room;".toList
  pieces := lexemesOf "trait Lamp \x7b fn shine(&self) ".toList
  isStart := by decide +kernel
  isCut := by decide +kernel
  noName := by decide +kernel

theorem takes_defaultMethod : defaultMethod.Takes " 1 ".toList :=
  .of_balanced (by decide +kernel) (by decide +kernel) (by decide +kernel)

theorem passedOver_defaultMethod :
    PassedOver (defaultMethod.block " 1 ".toList) defaultMethod.before
      (defaultMethod.after " 1 ".toList) := by
  have isBefore : defaultMethod.before =
      [⟨.word, "trait", 0, []⟩, ⟨.word, "Lamp", 0, [⟨.blanks, " "⟩]⟩] ++
        ⟨.mark, "\x7b", 0, [⟨.blanks, " "⟩]⟩ ::
          [⟨.word, "fn", 0, [⟨.blanks, " "⟩]⟩, ⟨.word, "shine", 0, [⟨.blanks, " "⟩]⟩,
            ⟨.mark, "(", 0, []⟩, ⟨.mark, "&", 0, []⟩, ⟨.word, "self", 0, []⟩,
            ⟨.mark, ")", 0, []⟩] := by
    decide +kernel
  have isAfter : defaultMethod.after " 1 ".toList =
      [] ++ ⟨.mark, "\x7d", 0, [⟨.blanks, " "⟩]⟩ ::
        [⟨.word, "struct", 1, [⟨.blanks, "\n"⟩]⟩, ⟨.word, "Room", 1, [⟨.blanks, " "⟩]⟩,
          ⟨.mark, ";", 1, []⟩] := by
    decide +kernel
  have isBlock : defaultMethod.block " 1 ".toList =
      [⟨.mark, "\x7b", 0, [⟨.blanks, " "⟩]⟩, ⟨.literal, "1", 0, [⟨.blanks, " "⟩]⟩,
        ⟨.mark, "\x7d", 0, [⟨.blanks, " "⟩]⟩] := by
    decide +kernel
  rw [isBefore, isAfter, isBlock]
  refine .member ⟨by decide, by decide, rfl⟩ rfl ⟨by decide, by decide, by decide⟩ ?_
  exact @PassedOver.function _ _ [] _ _ _ _ _ ⟨by decide, by decide, rfl⟩ rfl rfl
    List.suffix_rfl

theorem collect_block_defaultMethod :
    defaultMethod.Takes " 1 ".toList ∧
      PassedOver (defaultMethod.block " 1 ".toList) defaultMethod.before
        (defaultMethod.after " 1 ".toList) ∧
      ∃ own : SymbolTable, ∀ (other : List Char) (table : SymbolTable), defaultMethod.Takes other →
        collect (defaultMethod.text other) "crate" none table =
          table.append (own.onLines (lineBelow defaultMethod.line (lineFeeds other))) :=
  ⟨takes_defaultMethod, passedOver_defaultMethod,
    collect_block takes_defaultMethod passedOver_defaultMethod "crate" none⟩

/-- A function that is nested in the type of a parameter. -/
def nestedFunction : Site where
  preamble := []
  own := "pub fn lamp(glow: [u8; \x7b fn one() -> usize ".toList
  behind := " one() \x7d]) \x7b\x7d".toList
  pieces := lexemesOf "pub fn lamp(glow: [u8; \x7b fn one() -> usize ".toList
  isStart := by decide +kernel
  isCut := by decide +kernel
  noName := by decide +kernel

/-- The text of a type is kept, with the bodies of functions in it. -/
theorem collect_nestedFunction :
    nestedFunction.Takes " 1 ".toList ∧ nestedFunction.Takes " 2 ".toList ∧
      (collect (nestedFunction.text " 1 ".toList) "crate" none .empty).declarations.map
          Declaration.kind ≠
        (collect (nestedFunction.text " 2 ".toList) "crate" none .empty).declarations.map
          Declaration.kind := by
  refine ⟨.of_balanced (by decide +kernel) (by decide +kernel) (by decide +kernel),
    .of_balanced (by decide +kernel) (by decide +kernel) (by decide +kernel), ?_⟩
  have isOwn : nestedFunction.own = _ := String.toList_ofList
  have isBehind : nestedFunction.behind = _ := String.toList_ofList
  have isOne : " 1 ".toList = _ := String.toList_ofList
  have isTwo : " 2 ".toList = _ := String.toList_ofList
  have isText (inside : List Char) : (nestedFunction.text inside).toList = _ :=
    String.toList_ofList
  rw [collect_eq_append, collect_eq_append, Source.readItems, Source.readItems,
    Source.tokens_of_toList (isText _), Source.tokens_of_toList (isText _), isOwn, isBehind, isOne,
    isTwo]
  decide +kernel

end Collection

end ForwardingProxy
