import ForwardingProxy.Name
import ForwardingProxy.Text.Blank
import ForwardingProxy.TypeSyntax

/-!
Contract: the declarations that the generator works on.

Owns: declarations with their kinds, attributes and locations, and the module scopes that names
inside them are looked up in.

Does not own: how they are read off source text (`Source`) or looked up (`SymbolTable`).
-/

namespace ForwardingProxy

/-- How a function takes the value it is called on. -/
inductive SelfParameter where
  /-- `&self` -/
  | shared
  /-- `&mut self` -/
  | exclusive
  /-- `self`, `mut self`, or any `self` with a written type -/
  | owned
deriving DecidableEq, Repr

/-- A parameter; it has a name only when its pattern is a plain one. -/
structure ParameterSyntax where
  name : Option String
  type : TypeSyntax
deriving DecidableEq, Repr

/-- A function as declared; `returnType` is `none` when none is written. -/
structure FunctionSignature where
  name : String
  receiver : Option SelfParameter
  parameters : List ParameterSyntax
  returnType : Option TypeSyntax
  generic : Bool
  hasBody : Bool
deriving DecidableEq, Repr

/-- Every type in the signature, the return type last. -/
def FunctionSignature.types (signature : FunctionSignature) : List TypeSyntax :=
  signature.parameters.map ParameterSyntax.type ++ signature.returnType.toList

/-- An item of a trait. -/
inductive TraitItem where
  | method (signature : FunctionSignature)
  | associatedType (name : String)
  | associatedConst (name : String) (hasDefault : Bool)
deriving DecidableEq, Repr

/-- The signature when the item is a method. -/
def TraitItem.signature? : TraitItem → Option FunctionSignature
  | .method signature => some signature
  | .associatedType _ => none
  | .associatedConst _ _ => none

/-- What a trait declares. -/
structure TraitBody where
  generic : Bool
  supertraits : List TypeSyntax
  items : List TraitItem
deriving DecidableEq, Repr

/-- The methods of a trait in their order. -/
def TraitBody.methods (body : TraitBody) : List FunctionSignature :=
  body.items.filterMap TraitItem.signature?

/-- What matters of a struct with fields. -/
structure StructBody where
  generic : Bool
  derivesDefault : Bool
deriving DecidableEq, Repr

/-- What a declaration declares. -/
inductive DeclarationKind where
  | trait (body : TraitBody)
  | struct (body : StructBody)
  | unitStruct
  | enum
  | union
  | function (signature : FunctionSignature)
  | typeAlias
deriving DecidableEq, Repr

/-- The kind in words, with its article. -/
def DeclarationKind.describe : DeclarationKind → String
  | .trait _ => "a trait"
  | .struct _ => "a struct"
  | .unitStruct => "a unit struct"
  | .enum => "an enum"
  | .union => "a union"
  | .function _ => "a function"
  | .typeAlias => "a type alias"

/-- An attribute: its path as written and the text between its delimiters, if it has any. -/
structure Attribute where
  path : String
  arguments : Option String
deriving DecidableEq, Repr

/-- Whether the last segment of the attribute's path is the marker. -/
def Attribute.isMarker (marker : String) (written : Attribute) : Bool :=
  Text.trim (Name.last written.path) == marker

/-- A place in a source file; lines count from zero. -/
structure Location where
  file : Option String
  line : Nat
deriving DecidableEq, Repr

/-- A declared item; `scope` is the number of the module scope it stands in. -/
structure Declaration where
  name : String
  modulePath : String
  scope : Nat
  kind : DeclarationKind
  attributes : List Attribute
  location : Option Location
  visible : Bool
deriving DecidableEq, Repr

namespace Declaration

/-- The declaration's name below its module. -/
def qualifiedName (declaration : Declaration) : String :=
  declaration.modulePath ++ "::" ++ declaration.name

/-- The first attribute that is the marker. -/
def marker? (declaration : Declaration) (marker : String) : Option Attribute :=
  declaration.attributes.find? (Attribute.isMarker marker)

/-- The body when a trait is declared. -/
def trait? (declaration : Declaration) : Option TraitBody :=
  match declaration.kind with
  | .trait body => some body
  | _ => none

/-- The signature when a function is declared. -/
def function? (declaration : Declaration) : Option FunctionSignature :=
  match declaration.kind with
  | .function signature => some signature
  | _ => none

theorem trait?_eq_some {declaration : Declaration} {body : TraitBody} :
    declaration.trait? = some body ↔ declaration.kind = .trait body := by
  unfold trait?
  cases declaration.kind <;> simp

theorem function?_eq_some {declaration : Declaration} {signature : FunctionSignature} :
    declaration.function? = some signature ↔ declaration.kind = .function signature := by
  unfold function?
  cases declaration.kind <;> simp

end Declaration

/-- A module as a place to look names up in. -/
structure Scope where
  modulePath : String
  /-- Each alias with the path it was imported as. -/
  imports : List (String × List String)
  /-- The modules whose names are all imported, in source order. -/
  globImports : List (List String)
  file : Option String
deriving DecidableEq, Repr

namespace Scope

/-- A scope without imports. -/
def new (modulePath : String) (file : Option String) : Scope :=
  ⟨modulePath, [], [], file⟩

/-- The path that a short name stands for. -/
def import? (scope : Scope) (shortName : String) : Option (List String) :=
  scope.imports.lookup shortName

/-- Lets the short name stand for the path; an earlier import of that name gives way. -/
def withImport (scope : Scope) (shortName : String) (path : List String) : Scope :=
  { scope with
    imports := (scope.imports.filter fun entry => entry.1 != shortName) ++ [(shortName, path)] }

/-- Imports all names of a module. -/
def withGlob (scope : Scope) (module : List String) : Scope :=
  { scope with globImports := scope.globImports ++ [module] }

end Scope

/-- How an `impl` block lets values of its type be built without arguments. -/
inductive Construction where
  /-- Through `Default`. -/
  | default
  /-- Through a public function of that name. -/
  | constructor (name : String)
deriving DecidableEq, Repr

/-- What one `impl` block in a scope tells about the type it is written for. -/
structure ConstructionFact where
  scope : Nat
  selfType : TypeSyntax
  construction : Construction
deriving DecidableEq, Repr

end ForwardingProxy
