import ForwardingProxy.Interface
import ForwardingProxy.Resolution
import ForwardingProxy.Text.Start

/-!
Contract: the interface of a trait.

Owns: which methods are accessors of properties, the members that one trait declares, the
supertraits that its bounds name, and `Enumeration.enumerate`, which joins the members of a trait
with those of its supertraits.

Traits are visited depth first in the order of their bounds, each once. `get_p(&self) -> T` reads
the property `p`, which is mutable when the same trait has a matching `set_p`; a matching writer
is no method of its own.
-/

namespace ForwardingProxy.Enumeration

/-- Traits that any type may have and that add no members. -/
def autoTraits : List String :=
  ["Send", "Sync", "Sized", "Unpin"]

/-- Fails for the interface as a whole. -/
def refuse {α : Type} (interface : String) (problem : InterfaceProblem) : Attempt α :=
  Attempt.fail (.interface interface problem)

/-- The declaration with that number, which has to exist. -/
def declaration (host : Host) (id : Nat) : Attempt Declaration := do
  let found ← Attempt.ask (host.declaration? id)
  Attempt.require (.host (.unknownDeclaration id)) found

/-- The property that a method reads, with the written type of its value. -/
def readProperty? (signature : FunctionSignature) : Option (String × TypeSyntax) :=
  match Text.afterStart? "get_" signature.name, signature.returnType with
  | some property, some type =>
      if !property.isEmpty && type != .unit && signature.receiver == some .shared
          && signature.parameters.isEmpty && !signature.generic then
        some (property, type)
      else none
  | _, _ => none

/-- Whether a method writes the property of that name and written type. -/
def writesProperty (property : String) (type : TypeSyntax) (signature : FunctionSignature) : Bool :=
  Text.afterStart? "set_" signature.name == some property
    && signature.receiver == some .exclusive
    && !signature.generic
    && signature.parameters.map ParameterSyntax.type == [type]
    && (signature.returnType == none || signature.returnType == some .unit)

/-- Whether some method writes the property. -/
def hasWriter
    (methods : List FunctionSignature)
    (property : String)
    (type : TypeSyntax) : Bool :=
  methods.any (writesProperty property type)

/-- Whether a method writes a property that some method reads. -/
def isPairedWriter (methods : List FunctionSignature) (signature : FunctionSignature) : Bool :=
  methods.any fun other =>
    match readProperty? other with
    | some (property, type) => writesProperty property type signature
    | none => false

/-- A member of an interface. -/
inductive Member where
  | property (property : Property)
  | method (method : Method)
deriving DecidableEq, Repr

/-- The property, if the member is one. -/
def Member.property? : Member → Option Property
  | .property read => some read
  | .method _ => none

/-- The method, if the member is one. -/
def Member.method? : Member → Option Method
  | .property _ => none
  | .method called => some called

/-- The parameters of a method; one without a name is called `arg` and its place. -/
def parametersFrom
    (host : Host)
    (owner : Declaration) :
    (place : Nat) → List ParameterSyntax → Attempt (List Parameter)
  | _, [] => pure []
  | place, parameter :: rest => do
      let type ← Resolution.resolve host owner.qualifiedName owner.scope parameter.type
      let others ← parametersFrom host owner (place + 1) rest
      pure (⟨parameter.name.getD ("arg" ++ toString place), type⟩ :: others)

/-- The resolved return type of a method; unit when none is written. -/
def returnType
    (host : Host)
    (owner : Declaration)
    (written : Option TypeSyntax) : Attempt ResolvedType :=
  match written with
  | none => pure .unit
  | some type => Resolution.resolve host owner.qualifiedName owner.scope type

/-- How a method that does not take its value away borrows it. -/
def borrow : SelfParameter → Receiver
  | .exclusive => .exclusive
  | .shared | .owned => .shared

/-- The member that one method of a trait stands for, if any. -/
def member?
    (host : Host)
    (interface : String)
    (owner : Declaration)
    (methods : List FunctionSignature)
    (signature : FunctionSignature) : Attempt (Option Member) :=
  let ownerName := owner.qualifiedName
  match signature.receiver with
  | none =>
      if signature.hasBody then pure none
      else refuse interface (.associatedFunction ownerName signature.name)
  | some .owned => refuse interface (.ownedSelf ownerName signature.name)
  | some receiver =>
      if signature.generic then refuse interface (.genericMethod ownerName signature.name)
      else
        match readProperty? signature with
        | some (property, written) => do
            let type ← Resolution.resolve host ownerName owner.scope written
            pure (some (.property
              ⟨property, type, hasWriter methods property written, ownerName⟩))
        | none =>
            if isPairedWriter methods signature then pure none
            else do
              let parameters ← parametersFrom host owner 0 signature.parameters
              let result ← returnType host owner signature.returnType
              pure (some (.method
                ⟨signature.name, borrow receiver, parameters, result, ownerName⟩))

/-- The reason, in an item that is no method, why its trait cannot be implemented. -/
def itemProblem? (owner : String) : TraitItem → Option InterfaceProblem
  | .associatedType name => some (.associatedType owner name)
  | .associatedConst name false => some (.associatedConst owner name)
  | .associatedConst _ true | .method _ => none

/-- The members that a trait declares itself. -/
def ownMembers
    (host : Host)
    (interface : String)
    (owner : Declaration)
    (body : TraitBody) : Attempt (List Member) := do
  match body.items.findSome? (itemProblem? owner.qualifiedName) with
  | some problem => refuse interface problem
  | none =>
      let members ← body.methods.mapM (member? host interface owner body.methods)
      pure (members.filterMap id)

/-- Whether a bound without arguments names a trait that adds no members. -/
def isAutoTrait (segments : List String) : Bool :=
  segments.getLast?.any autoTraits.contains
    && (segments.length == 1 || segments.head? == some "std" || segments.head? == some "core")

/-- The number of the supertrait that a bound names; none for a trait without members. -/
def supertrait?
    (host : Host)
    (interface : String)
    (declaration : Declaration)
    (bound : TypeSyntax) : Attempt (Option Nat) :=
  match bound with
  | .path segments [] => do
      if isAutoTrait segments then pure none
      else
        let undeclared := Failure.interface interface (.undeclaredBound bound.render)
        let resolved ← Attempt.ask (host.resolve? declaration.scope segments)
        let name ← Attempt.require undeclared resolved
        let found ← Attempt.ask (host.find? name)
        some <$> Attempt.require undeclared found
  | .path _ (_ :: _) => refuse interface (.genericBound bound.render)
  | _ => refuse interface (.boundSyntax bound.render)

/-- The body of a declaration that the interface may include. -/
def includedTrait (interface : String) (declaration : Declaration) : Attempt TraitBody :=
  let name := declaration.qualifiedName
  match declaration.trait? with
  | none => refuse interface (.supertraitKind name declaration.kind.describe)
  | some body =>
      if body.generic then refuse interface (.isGeneric name)
      else if !declaration.visible then refuse interface (.isPrivate name)
      else pure body

/-- The interface with a further trait and its members at the end. -/
def extend (interface : Interface) (trait : String) (members : List Member) : Interface where
  name := interface.name
  traits := interface.traits ++ [trait]
  properties := interface.properties ++ members.filterMap Member.property?
  methods := interface.methods ++ members.filterMap Member.method?

/-- Adds a trait and its supertraits to the interface, unless the trait is part of it already. -/
def visit (host : Host) : (fuel : Nat) → (id : Nat) → Interface → Attempt Interface
  | 0, _, interface => Attempt.fail (.host (.endlessHierarchy interface.name))
  | fuel + 1, id, interface => do
      let found ← declaration host id
      if interface.traits.contains found.qualifiedName then pure interface
      else
        let body ← includedTrait interface.name found
        let members ← ownMembers host interface.name found body
        body.supertraits.foldlM
          (fun interface bound => do
            match ← supertrait? host interface.name found bound with
            | none => pure interface
            | some supertrait => visit host fuel supertrait interface)
          (extend interface found.qualifiedName members)

/-- The interface of the trait with that number. -/
def enumerate (host : Host) (id : Nat) : Attempt Interface := do
  let found ← declaration host id
  match found.trait? with
  | none => Attempt.fail (.notInterface found.qualifiedName found.kind.describe)
  | some _ => visit host (host.size + 1) id (.empty found.qualifiedName)

end ForwardingProxy.Enumeration
