import ForwardingProxy.Declaration
import ForwardingProxy.Path

/-!
Contract: all declarations that were collected, and the meaning of paths among them.

Owns: `SymbolTable`, its growth, lookup by name and by marker, path resolution, and the two
questions about building values without arguments.

Declarations, scopes and facts are numbered in the order they were added. Of two declarations with
one qualified name the first is found. The modules that are known are those of the scopes and those
that were announced without a scope.
-/

namespace ForwardingProxy

/-- Everything collected so far; `announced` holds modules whose files may be read later. -/
structure SymbolTable where
  scopes : List Scope
  declarations : List Declaration
  facts : List ConstructionFact
  announced : List String
deriving DecidableEq, Repr

namespace SymbolTable

/-- The table before anything is collected. -/
def empty : SymbolTable := ⟨[], [], [], []⟩

/-- Opens a scope; its number is that of the scopes before it. -/
def addScope (table : SymbolTable) (modulePath : String) (file : Option String) : SymbolTable :=
  { table with scopes := table.scopes ++ [Scope.new modulePath file] }

/-- Makes a module known that has no scope of its own yet. -/
def announce (table : SymbolTable) (modulePath : String) : SymbolTable :=
  { table with announced := table.announced ++ [modulePath] }

/-- Changes one scope; an unknown number changes nothing. -/
def modifyScope (table : SymbolTable) (scope : Nat) (change : Scope → Scope) : SymbolTable :=
  { table with scopes := table.scopes.modify scope change }

/-- Adds an import to a scope. -/
def addImport
    (table : SymbolTable)
    (scope : Nat)
    (shortName : String)
    (path : List String) : SymbolTable :=
  table.modifyScope scope fun existing => existing.withImport shortName path

/-- Adds an import of all names of a module to a scope. -/
def addGlob (table : SymbolTable) (scope : Nat) (module : List String) : SymbolTable :=
  table.modifyScope scope fun existing => existing.withGlob module

/-- Adds a declaration; its number is that of the declarations before it. -/
def addDeclaration (table : SymbolTable) (declaration : Declaration) : SymbolTable :=
  { table with declarations := table.declarations ++ [declaration] }

/-- Adds what an `impl` block tells. -/
def addFact (table : SymbolTable) (fact : ConstructionFact) : SymbolTable :=
  { table with facts := table.facts ++ [fact] }

/-- The declaration with that number. -/
def declaration? (table : SymbolTable) (id : Nat) : Option Declaration :=
  table.declarations[id]?

/-- The scope with that number. -/
def scope? (table : SymbolTable) (id : Nat) : Option Scope :=
  table.scopes[id]?

/-- The least number of a declaration with that qualified name. -/
def find? (table : SymbolTable) (qualifiedName : String) : Option Nat :=
  table.declarations.findIdx? fun declaration => declaration.qualifiedName == qualifiedName

/-- Whether some declaration has that qualified name. -/
def declares (table : SymbolTable) (qualifiedName : String) : Bool :=
  table.declarations.any fun declaration => declaration.qualifiedName == qualifiedName

/-- Whether a module of that path is known. -/
def knowsModule (table : SymbolTable) (modulePath : String) : Bool :=
  table.scopes.any (fun scope => scope.modulePath == modulePath)
    || table.announced.contains modulePath

/-- The numbers of the declarations that carry the marker, in increasing order. -/
def marked (table : SymbolTable) (marker : String) : List Nat :=
  table.declarations.zipIdx.filterMap fun (declaration, id) =>
    if (declaration.marker? marker).isSome then some id else none

/-- The files of the scopes in order, each once; two paths with the same steps are one file. -/
def sourceFiles (table : SymbolTable) : List String :=
  (table.scopes.filterMap Scope.file).foldl
    (fun files file =>
      if files.any fun listed => Path.components listed == Path.components file then files
      else files ++ [file]) []

/-- Type names that are in scope everywhere, with their qualified names. -/
def preludeTypes : List (String × String) :=
  [("String", "std::string::String"), ("Vec", "std::vec::Vec"), ("Box", "std::boxed::Box"),
    ("Option", "std::option::Option"), ("Result", "std::result::Result")]

/-- First segments of paths that are qualified already, besides `crate`. -/
def externRoots : List String :=
  ["std", "core", "alloc"]

/-- How many aliases are followed before a path is given up. -/
def aliasLimit : Nat := 8

/-- Goes up one module for each leading `super`; none when there is no further parent. -/
def climb (modulePath : String) : List String → Option String
  | [] => some modulePath
  | first :: rest =>
      if first = "super" then
        match Name.parent? modulePath with
        | none => none
        | some parent => climb parent rest
      else some (Name.extend modulePath (first :: rest))

/-- The absolute form of a path in a scope, following at most `aliases` imports. -/
def absolute?
    (table : SymbolTable)
    (scope : Scope) : (aliases : Nat) → (path : List String) → Option String
  | _, [] => none
  | aliases, first :: rest =>
      if first = "crate" then some (Name.join (first :: rest))
      else if first = "self" then some (Name.extend scope.modulePath rest)
      else if first = "super" then climb scope.modulePath (first :: rest)
      else if externRoots.contains first then some (Name.join (first :: rest))
      else
        match scope.import? first with
        | some imported =>
            match aliases with
            | 0 => none
            | fewer + 1 =>
                (absolute? table scope fewer imported).map fun base => Name.extend base rest
        | none =>
            let child := scope.modulePath ++ "::" ++ first
            if table.knowsModule child then some (Name.extend child rest)
            else some (Name.join (first :: rest))

/-- The first declared name that an import of all names brings into the scope. -/
def findInGlobs? (table : SymbolTable) (scope : Scope) (name : String) : Option String :=
  scope.globImports.findSome? fun module =>
    match table.absolute? scope (aliasLimit - 1) module with
    | none => none
    | some base =>
        let candidate := Name.extend base [name]
        if table.declares candidate then some candidate else none

/-- The meaning of a single name: primitive, import, local, glob import, then prelude. -/
def resolveName? (table : SymbolTable) (scope : Scope) (name : String) : Option String :=
  if Name.primitiveTypes.contains name then some name
  else
    match scope.import? name with
    | some imported => table.absolute? scope (aliasLimit - 1) imported
    | none =>
        let inModule := scope.modulePath ++ "::" ++ name
        if table.declares inModule then some inModule
        else
          match table.findInGlobs? scope name with
          | some found => some found
          | none => preludeTypes.lookup name

/-- The qualified name of a path in the scope with that number; `Self` has none. -/
def resolve? (table : SymbolTable) (scope : Nat) (path : List String) : Option String :=
  match table.scope? scope with
  | none => none
  | some within =>
      if path.head? = some "Self" then none
      else
        match path with
        | [name] => table.resolveName? within name
        | _ => table.absolute? within aliasLimit path

/-- The qualified name of the type that a fact is about. -/
def factType? (table : SymbolTable) (fact : ConstructionFact) : Option String :=
  match fact.selfType with
  | .path segments _ => table.resolve? fact.scope segments
  | _ => none

/-- Whether `Default` is derived for the declaration or implemented for its name. -/
def implementsDefault (table : SymbolTable) (id : Nat) : Bool :=
  match table.declaration? id with
  | none => false
  | some declaration =>
      let derived :=
        match declaration.kind with
        | .struct body => body.derivesDefault
        | _ => false
      derived || table.facts.any fun fact =>
        fact.construction == .default && table.factType? fact == some declaration.qualifiedName

/-- The names of the constructors recorded for a qualified name, in order. -/
def constructors (table : SymbolTable) (qualifiedName : String) : List String :=
  table.facts.filterMap fun fact =>
    match fact.construction with
    | .constructor name => if table.factType? fact == some qualifiedName then some name else none
    | .default => none

/-- The constructor to call without arguments: `new` when there is one, else the first. -/
def constructor? (table : SymbolTable) (id : Nat) : Option String :=
  match table.declaration? id with
  | none => none
  | some declaration =>
      let names := table.constructors declaration.qualifiedName
      if names.contains "new" then some "new" else names.head?

end SymbolTable

end ForwardingProxy
