import ForwardingProxy.Source.Attribute
import ForwardingProxy.Source.Signature
import ForwardingProxy.Source.Statement
import ForwardingProxy.Source.UseTree

/-!
Contract: the items of source text.

Owns: `Source.Item` with the attributes and the line of each item, and `Source.readItems`, which
reads the items of a file.

Modules, traits and `impl` blocks have items of their own, and all are read alike. The attributes
of an item are those written directly above it; comments between them do not count, but anything
else that is no item ends a run of attributes. Function bodies, blocks, statements and macro calls
are passed over as a whole. An item's line is that of its first attribute.
-/

namespace ForwardingProxy.Source

/-- The header of an `impl` block. -/
structure ImplHeader where
  generic : Bool
  /-- The path of the implemented trait, if the block implements one. -/
  trait : Option (List String)
  selfType : TypeSyntax
deriving DecidableEq, Repr

/-- An item; a module has its own items unless they are in another file. -/
inductive Item where
  /-- A function, with or without a body. -/
  | function (head : Head) (signature : FunctionSignature)
  | trait (head : Head) (name : String) (generic : Bool) (bounds : List TypeSyntax)
      (members : List Item)
  | struct (head : Head) (name : String) (generic hasBody : Bool)
  | enum (head : Head) (name : String)
  | union (head : Head) (name : String)
  /-- A type with a value. -/
  | typeAlias (head : Head) (name : String)
  /-- A type without a value. -/
  | associatedType (head : Head) (name : String)
  | const (head : Head) (name : String) (hasValue : Bool)
  /-- An `impl` block; it has no members when it has no body. -/
  | implementation (head : Head) (header : ImplHeader) (members : List Item)
  | module (head : Head) (name : String) (items : Option (List Item))
  | imports (head : Head) (tree : UseTree)

/-- The head of an item. -/
def Item.head : Item → Head
  | .function head _ | .trait head _ _ _ _ | .struct head _ _ _ | .enum head _ | .union head _
  | .typeAlias head _ | .associatedType head _ | .const head _ _ | .implementation head _ _
  | .module head _ _ | .imports head _ => head

/-- An item and the tokens after it. -/
abbrev ReadItem := Option (Item × List Token)

/-- Whether a visibility comes first, and the tokens after it. -/
def skipVisibility (tokens : List Token) : Bool × List Token :=
  match tokens with
  | first :: rest =>
      if first.isWord "pub" then
        (true, if startsWithMark ["("] rest then (cutGroup "(" ")" 1 (rest.drop 1)).2 else rest)
      else if first.isWord "crate" && startsWithKind .word rest && !startsWithWord ["as"] rest then
        (true, rest)
      else (false, tokens)
  | [] => (false, [])

/-- The tokens from a function's name on, once its qualifiers are passed over. -/
def functionName? (tokens : List Token) : Option (List Token) :=
  match skipFunctionQualifiers tokens with
  | first :: rest => if first.isWord "fn" then some rest else none
  | [] => none

/-- Whether a constant comes first, and no block that begins with `const`. -/
def startsConst (tokens : List Token) : Bool :=
  startsWithWord ["const"] tokens && !startsWithMark ["\x7b"] (tokens.drop 1)

/-- Whether a union comes first, and no other use of that word. -/
def startsUnion (tokens : List Token) : Bool :=
  startsWithWord ["union"] tokens && startsWithKind .word (tokens.drop 1)
    && !startsWithWord ["as"] (tokens.drop 1)

/-- Reads a constant from its name on. -/
def readConst? (head : Head) : List Token → ReadItem
  | [] => none
  | name :: rest =>
      let afterType :=
        if startsWithMark [":"] rest then ((readType? (rest.drop 1)).map Prod.snd).getD rest
        else rest
      some (.const head name.text (startsWithMark ["="] afterType), dropStatement rest)

/-- Reads a type declaration from its name on. -/
def readTypeItem? (head : Head) : List Token → ReadItem
  | [] => none
  | name :: rest =>
      let hasValue := startsWithMark ["="] (skipWhere (skipAngles rest).2)
      some (if hasValue then .typeAlias head name.text else .associatedType head name.text,
        dropStatement rest)

/-- Reads a struct from its name on. -/
def readStruct? (head : Head) : List Token → ReadItem
  | [] => none
  | name :: rest =>
      let (generic, afterAngles) := skipAngles rest
      match groupOf? "(" afterAngles with
      | some (_, after) => some (.struct head name.text generic true, dropStatement after)
      | none =>
          match groupOf? "\x7b" (skipWhere afterAngles) with
          | some (_, after) => some (.struct head name.text generic true, after)
          | none => some (.struct head name.text generic false, dropStatement afterAngles)

/-- The name that comes first, and the tokens after the next group of braces. -/
def readBraced? : List Token → Option (String × List Token)
  | [] => none
  | name :: rest =>
      (groupOf? "\x7b" (skipWhere (skipAngles rest).2)).map fun (_, after) => (name.text, after)

/-- Reads a trait from its name on. -/
def readTrait? (readMembers : List Token → List Item) (head : Head) : List Token → ReadItem
  | [] => none
  | name :: rest => do
      let (generic, afterAngles) := skipAngles rest
      let (bounds, afterBounds) :=
        if startsWithMark [":"] afterAngles then readBounds (afterAngles.drop 1)
        else ([], afterAngles)
      let (inside, after) ← groupOf? "\x7b" (skipWhere afterBounds)
      pure (.trait head name.text generic bounds (readMembers inside), after)

/-- Whether parameters come first behind `impl`, and no bracketed type. -/
def startsImplParameters (tokens : List Token) : Bool :=
  match tokens with
  | angle :: first :: rest =>
      angle.isMark "<"
        && (first.isMark "#"
          || (first.isWord "const" && startsWithKind .word rest
            && startsWithMark [":"] (rest.drop 1))
          || ((first.kind == .lifetime || first.kind == .placeholder
              || (first.kind == .word && !Name.primitiveTypes.contains first.text))
            && startsWithMark [",", ">", ":", "="] rest))
  | _ => false

/-- Whether a trait that is not implemented comes first, behind its `!`. -/
def startsNegated (tokens : List Token) : Bool :=
  startsWithMark ["!"] tokens
    && (startsWithMark ["::", "<"] (tokens.drop 1) || startsWithKind .placeholder (tokens.drop 1)
      || (startsWithKind .word (tokens.drop 1) && !startsWithWord ["where"] (tokens.drop 1)))

/-- The path of the trait that a type names in the header of an `impl` block. -/
def traitPath (type : TypeSyntax) (text : String) : List String :=
  match type with
  | .path segments [] => segments
  | _ => [text]

/-- Reads the header of an `impl` block from behind its first word on. -/
def readImplHeader? (tokens : List Token) : Option (ImplHeader × List Token) := do
  let generic := startsImplParameters tokens
  let afterParameters := if generic then (skipAngles tokens).2 else tokens
  let written := if startsNegated afterParameters then afterParameters.drop 1 else afterParameters
  let (first, afterFirst) ← readType? written
  if startsWithWord ["for"] afterFirst then
    let (type, after) ← readType? (afterFirst.drop 1)
    pure (⟨generic, some (traitPath first (textUntil written afterFirst)), type⟩, skipWhere after)
  else pure (⟨generic, none, first⟩, skipWhere afterFirst)

/-- Reads an `impl` block from behind its first word on. -/
def readImplementation? (readMembers : List Token → List Item) (head : Head)
    (tokens : List Token) : ReadItem := do
  let (header, body) ← readImplHeader? tokens
  match groupOf? "\x7b" body with
  | some (inside, after) => pure (.implementation head header (readMembers inside), after)
  | none => pure (.implementation head header [], dropStatement body)

/-- Reads a module from its name on. -/
def readModule? (readItems : List Token → List Item) (head : Head) : List Token → ReadItem
  | [] => none
  | name :: rest =>
      match groupOf? "\x7b" rest with
      | some (inside, after) => some (.module head name.text (some (readItems inside)), after)
      | none => some (.module head name.text none, rest.drop 1)

/-- Reads an import from its tree on. -/
def readImports? (head : Head) (tokens : List Token) : ReadItem :=
  (readUseTree? (2 * tokens.length + 1) tokens).map fun (tree, after) =>
    (.imports head tree, dropStatement after)

/-- Reads the item that comes first behind its visibility; `readBody` reads the items in it. -/
def readItem? (readBody : List Token → List Item) (head : Head) (tokens : List Token) : ReadItem :=
  match functionName? tokens with
  | some function =>
      (readFunction? function).map fun (signature, after) => (.function head signature, after)
  | none =>
      let rest := tokens.drop 1
      let afterUnsafe := skipWord ["unsafe"] tokens
      if startsWithWord ["trait"] afterUnsafe then
        readTrait? readBody head (afterUnsafe.drop 1)
      else if startsWithWord ["impl"] afterUnsafe then
        readImplementation? readBody head (afterUnsafe.drop 1)
      else if startsWithWord ["mod"] tokens then readModule? readBody head rest
      else if startsWithWord ["struct"] tokens then readStruct? head rest
      else if startsWithWord ["enum"] tokens then
        (readBraced? rest).map fun (name, after) => (.enum head name, after)
      else if startsUnion tokens then
        (readBraced? rest).map fun (name, after) => (.union head name, after)
      else if startsWithWord ["type"] tokens then readTypeItem? head rest
      else if startsConst tokens then readConst? head rest
      else if startsWithWord ["use"] tokens then readImports? head rest
      else none

/-- The tokens after a declaration that is no item, or after a statement. -/
def dropNoItem (tokens : List Token) : List Token :=
  if startsWithWord ["extern"] (skipWord ["unsafe"] tokens) then
    match groupOf? "\x7b" (skipFunctionQualifiers tokens) with
    | some (_, after) => after
    | none => dropStatement tokens
  else if startsWithWord ["let", "static"] tokens then dropStatement tokens
  else dropOther tokens

/-- The tokens after the first ones, if they are fewer; else all but the first of those before. -/
def shrink (before after : List Token) : List Token :=
  if after.length < before.length then after else before.drop 1

/-- Reads the items of a file or of a body. -/
def readItemsFrom : (fuel : Nat) → Run → List Token → List Item
  | 0, _, _ => []
  | _, _, [] => []
  | fuel + 1, run, first :: rest =>
      let tokens := first :: rest
      match attribute? tokens with
      | some (written, after) => readItemsFrom fuel (run.add written first.line) after
      | none =>
          match skipInnerAttribute? tokens with
          | some after => readItemsFrom fuel .empty after
          | none =>
              let (visible, declared) := skipVisibility tokens
              match readItem? (readItemsFrom fuel .empty) (run.head first visible) declared with
              | some (item, after) => item :: readItemsFrom fuel .empty (shrink tokens after)
              | none => readItemsFrom fuel .empty (shrink tokens (dropNoItem declared))

/-- The items of a source text. -/
def readItems (text : String) : List Item :=
  let all := tokens text
  readItemsFrom all.length .empty all

/-- The return type of the first function in a source text. -/
def firstReturnType? (text : String) : Option TypeSyntax :=
  (readItems text).findSome? fun item =>
    match item with
    | .function _ signature => signature.returnType
    | _ => none

end ForwardingProxy.Source
