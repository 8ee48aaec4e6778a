import ForwardingProxy.Source.Item
import ForwardingProxy.SymbolTable

/-!
Contract: the symbol table of source texts.

Owns: `Collection.collect`, which adds the declarations, imports, modules and construction facts
of one source file to a table.

A file opens a scope, and so does every module written inside it. Items that are compiled under a
condition only are left out, among file items, module items and trait items alike.
-/

namespace ForwardingProxy.Collection

open ForwardingProxy.Source (Head Item ImplHeader UseEntry)

/-- Where an item stands: its file, its module's path and the number of its module's scope. -/
structure Place where
  file : Option String
  modulePath : String
  scope : Nat
deriving DecidableEq, Repr

/-- Adds a declaration of that name and kind. -/
def declare
    (place : Place)
    (head : Head)
    (name : String)
    (kind : DeclarationKind)
    (table : SymbolTable) : SymbolTable :=
  table.addDeclaration {
    name := name
    modulePath := place.modulePath
    scope := place.scope
    kind := kind
    attributes := head.attributes
    location := some ⟨place.file, head.line⟩
    visible := head.visible }

/-- Whether an attribute derives `Default`. -/
def derivesDefault (written : Attribute) : Bool :=
  written.path == "derive"
    && written.arguments.any fun arguments =>
      (Text.splitAt (· == ',') arguments.toList).any fun piece =>
        Name.last (String.ofList (Text.dropOuterBlanks piece)) == "Default"

/-- What a struct's header and attributes tell about it. -/
def structKind (head : Head) (generic hasBody : Bool) : DeclarationKind :=
  if hasBody then .struct ⟨generic, head.attributes.any derivesDefault⟩ else .unitStruct

/-- The trait item that an item in the body of a trait is, if any. -/
def traitItem? (item : Item) : Option TraitItem :=
  if item.head.isConditional then none
  else
    match item with
    | .function _ signature => some (.method signature)
    | .associatedType _ name => some (.associatedType name)
    | .const _ name hasValue => some (.associatedConst name hasValue)
    | _ => none

/-- Whether a function returns a value of the type it is written for and takes nothing. -/
def isConstructor (selfType : TypeSyntax) (signature : FunctionSignature) : Bool :=
  signature.receiver.isNone && signature.parameters.isEmpty && !signature.generic
    && match signature.returnType with
      | some (.path segments []) =>
          segments == ["Self"] || segments.getLast? == selfType.lastSegment?
      | _ => false

/-- The name of a public constructor, when an item in an `impl` block is one. -/
def constructorName? (selfType : TypeSyntax) (item : Item) : Option String :=
  match item with
  | .function head signature =>
      if head.visible && signature.hasBody && isConstructor selfType signature then
        some signature.name
      else none
  | _ => none

/-- What an `impl` block tells about building values. -/
def constructions (header : ImplHeader) (members : List Item) : List Construction :=
  match header.trait with
  | some path => if path.getLast? == some "Default" && !header.generic then [.default] else []
  | none => (members.filterMap (constructorName? header.selfType)).map .constructor

/-- Adds what an `impl` block tells. -/
def addImplementation
    (scope : Nat)
    (header : ImplHeader)
    (members : List Item)
    (table : SymbolTable) : SymbolTable :=
  (constructions header members).foldl
    (fun table construction => table.addFact ⟨scope, header.selfType, construction⟩) table

/-- Adds one import to a scope. -/
def addEntry (scope : Nat) (table : SymbolTable) : UseEntry → SymbolTable
  | .name shortName path => table.addImport scope shortName path
  | .glob path => table.addGlob scope path

mutual

/-- Adds one item that is always compiled. -/
def addItem (place : Place) (table : SymbolTable) : Item → SymbolTable
  | .function head signature =>
      if signature.hasBody then declare place head signature.name (.function signature) table
      else table
  | .trait head name generic bounds members =>
      declare place head name (.trait ⟨generic, bounds, members.filterMap traitItem?⟩) table
  | .struct head name generic hasBody =>
      declare place head name (structKind head generic hasBody) table
  | .enum head name => declare place head name .enum table
  | .union head name => declare place head name .union table
  | .typeAlias head name => declare place head name .typeAlias table
  | .associatedType _ _ | .const _ _ _ => table
  | .implementation _ header members => addImplementation place.scope header members table
  | .imports _ tree => (tree.entries []).foldl (addEntry place.scope) table
  | .module _ name items =>
      let path := Name.extend place.modulePath [name]
      match items with
      | none => table.announce path
      | some items =>
          addItems ⟨place.file, path, table.scopes.length⟩ (table.addScope path place.file) items

/-- Adds the items that are always compiled, in their order. -/
def addItems (place : Place) (table : SymbolTable) : List Item → SymbolTable
  | [] => table
  | item :: rest =>
      let extended := if item.head.isConditional then table else addItem place table item
      addItems place extended rest

end

/-- Adds the items of a source text that holds the module of that path. -/
def collect
    (source modulePath : String)
    (file : Option String)
    (table : SymbolTable) : SymbolTable :=
  addItems ⟨file, modulePath, table.scopes.length⟩ (table.addScope modulePath file)
    (Source.readItems source)

end ForwardingProxy.Collection
