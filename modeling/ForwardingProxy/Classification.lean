import ForwardingProxy.Config.Basic
import ForwardingProxy.Enumeration
import ForwardingProxy.ProxyRequest
import ForwardingProxy.Text.Split

/-!
Contract: what marked declarations ask for.

Owns: the path inside a marker, the signature test for dispatch functions, the choice of handler
targets, and `Classification.classifyAll`, which turns every marked declaration into a proxy
request or the failure that keeps it from being one.

`#[proxy_for(Trait)]` on a function makes it the target of the trait's proxy.
`#[with_proxy(Handler)]` on a trait makes a shared value of the handler type the target of its own
proxy. Dispatch functions come before marked traits, each in the host's order.
-/

namespace ForwardingProxy.Classification

/-- The marker that a declaration was found by. -/
inductive MarkerRole where
  | dispatchFunction
  | handlerInterface
deriving DecidableEq, Repr

/-- The role in words. -/
def MarkerRole.describe : MarkerRole → String
  | .dispatchFunction => "dispatch function"
  | .handlerInterface => "handler interface"

/-- A marked declaration, with its qualified name, and what it asks for. -/
structure Item where
  id : Nat
  declaration : String
  role : MarkerRole
  outcome : Except Failure ProxyRequest

/-- The pieces of a marker's arguments between commas, without blanks and empty pieces. -/
def argumentPieces (arguments : String) : List (List Char) :=
  ((Text.splitAt (· == ',') arguments.toList).map Text.dropOuterBlanks).filter fun piece =>
    !piece.isEmpty

/-- The segments of a path whose segments may have blanks around them. -/
def pathSegments? (path : List Char) : Option (List String) :=
  let segments := (Name.pieces path).map Text.dropOuterBlanks
  if segments.all Text.isIdentifierOf then some (segments.map String.ofList) else none

/-- The only path among a marker's arguments. -/
def markerPath (arguments : String) : Except MarkerProblem (List String) :=
  match argumentPieces arguments with
  | [piece] =>
      match pathSegments? piece with
      | some segments => .ok segments
      | none => .error (.notPath (String.ofList piece))
  | pieces => .error (.argumentCount pieces.length)

/-- The only path in an attribute that marks a declaration. -/
def attributePath
    (marker declaration : String)
    (written : Attribute) : Attempt (List String) :=
  match markerPath (written.arguments.getD "") with
  | .ok segments => pure segments
  | .error problem => Attempt.fail (.marker marker declaration problem)

/-- Whether the type is a path without arguments whose last segment is `name`. -/
def isPlain (name : String) : TypeSyntax → Bool
  | .path segments [] => segments.getLast? == some name
  | _ => false

/-- The only argument of a path whose last segment is `name`. -/
def onlyArgument? (name : String) : TypeSyntax → Option TypeSyntax
  | .path segments [argument] => if segments.getLast? == some name then some argument else none
  | _ => none

/-- Whether the type is `dyn Any`, with any path before `Any`. -/
def isAnyObject : TypeSyntax → Bool
  | .traitObject segments => segments.getLast? == some "Any"
  | _ => false

/-- Whether the type is `Box<dyn Any>` up to the paths of its names. -/
def isBoxedAny (type : TypeSyntax) : Bool :=
  (onlyArgument? "Box" type).any isAnyObject

/-- Whether the type is `Vec<Box<dyn Any>>` up to the paths of its names. -/
def isBoxedAnyList (type : TypeSyntax) : Bool :=
  (onlyArgument? "Vec" type).any isBoxedAny

/-- Whether the type is `&MethodCall` up to the path of the name. -/
def isCallReference : TypeSyntax → Bool
  | .reference false inner => isPlain "MethodCall" inner
  | _ => false

/-- Whether a function has the signature of dispatch functions. -/
def hasDispatchSignature (signature : FunctionSignature) : Bool :=
  signature.receiver.isNone && !signature.generic
    && match signature.parameters with
      | [call, arguments] =>
          isCallReference call.type && isBoxedAnyList arguments.type
            && signature.returnType.any isBoxedAny
      | _ => false

/-- The items that give a proxy the shared value of its handler type. -/
def handlerAccessor (handler constructor : String) : String :=
  "fn proxy_handler() -> &'static " ++ handler ++ " \x7b\n"
    ++ "    static HANDLER: std::sync::LazyLock<" ++ handler ++ "> =\n"
    ++ "        std::sync::LazyLock::new(" ++ constructor ++ ");\n"
    ++ "    &HANDLER\n\x7d"

/-- The first attribute of the declaration that is the marker; a listed declaration has one. -/
def markerOf (declaration : Declaration) (marker : String) : Attempt Attribute :=
  Attempt.require (.host (.markerMissing declaration.qualifiedName marker))
    (declaration.marker? marker)

/-- The number of the declaration that a path in a marker names. -/
def markedTarget
    (host : Host)
    (declaration : Declaration)
    (path : List String) : Attempt Nat := do
  let unresolvable := Failure.unresolvable declaration.qualifiedName (Name.join path)
  let resolved ← Attempt.ask (host.resolve? declaration.scope path)
  let name ← Attempt.require (unresolvable .notInScope) resolved
  let found ← Attempt.ask (host.find? name)
  Attempt.require (unresolvable (.notDeclared name)) found

/-- The function that a dispatch marker stands on, once it is public and of the right signature. -/
def dispatchFunction (marker : String) (declaration : Declaration) : Attempt Unit :=
  let name := declaration.qualifiedName
  match declaration.function? with
  | none => Attempt.fail (.marker marker name (.notOnFunction declaration.kind.describe))
  | some signature =>
      if !declaration.visible then Attempt.fail (.marker marker name .privateFunction)
      else if !hasDispatchSignature signature then
        Attempt.fail (.signature name signature.name)
      else pure ()

/-- The request of a marked dispatch function. -/
def classifyFunction (host : Host) (markers : Markers) (id : Nat) : Attempt ProxyRequest := do
  let marker := markers.dispatchFunction
  let declaration ← Enumeration.declaration host id
  let name := declaration.qualifiedName
  dispatchFunction marker declaration
  let written ← markerOf declaration marker
  let path ← attributePath marker name written
  let target ← markedTarget host declaration path
  let interface ← Enumeration.enumerate host target
  pure (.new interface (.function name) none)

/-- How the values of a handler type are reached: the target, and items that build the value. -/
def handlerTarget
    (host : Host)
    (interface path : String)
    (id : Nat)
    (handler : Declaration) : Attempt (Target × Option String) :=
  let refuse (problem : HandlerProblem) : Attempt (Target × Option String) :=
    Attempt.fail (.handler interface path problem)
  let shared (constructor : String) : Target × Option String :=
    (.handler (proxyName interface ++ "::proxy_handler()"), some (handlerAccessor path constructor))
  match handler.kind with
  | .unitStruct => pure (.handler ("&" ++ path), none)
  | .struct body => do
      if body.generic then refuse .isGeneric
      else if ← Attempt.ask (host.implementsDefault id) then
        pure (shared ("<" ++ path ++ " as Default>::default"))
      else
        match ← Attempt.ask (host.constructor? id) with
        | some constructor => pure (shared (path ++ "::" ++ constructor))
        | none => refuse .notConstructible
  | .trait _ => refuse .isTrait
  | other => refuse (.otherKind other.describe)

/-- The request of a marked trait. -/
def classifyTrait (host : Host) (markers : Markers) (id : Nat) : Attempt ProxyRequest := do
  let marker := markers.handlerInterface
  let declaration ← Enumeration.declaration host id
  let name := declaration.qualifiedName
  match declaration.trait? with
  | none => Attempt.fail (.notInterface name declaration.kind.describe)
  | some _ =>
      let written ← markerOf declaration marker
      let path ← attributePath marker name written
      let resolved ← Attempt.ask (host.resolve? declaration.scope path)
      let handlerName ←
        Attempt.require (.unresolvable name (Name.join path) .notInScope) resolved
      let found ← Attempt.ask (host.find? handlerName)
      let handlerId ← Attempt.require (.handler name handlerName .notDeclared) found
      let handler ← Enumeration.declaration host handlerId
      if !handler.visible then Attempt.fail (.handler name handlerName .isPrivate)
      else
        let (target, items) ← handlerTarget host name handlerName handlerId handler
        let interface ← Enumeration.enumerate host id
        pure (.new interface target items)

/-- The request of a marked declaration. -/
def classify
    (host : Host)
    (markers : Markers)
    (role : MarkerRole)
    (id : Nat) : Attempt ProxyRequest :=
  match role with
  | .dispatchFunction => classifyFunction host markers id
  | .handlerInterface => classifyTrait host markers id

/-- The item of one listed declaration; an unknown one has the empty name. -/
def item (host : Host) (markers : Markers) (role : MarkerRole) (id : Nat) : Answer Item := do
  let found ← host.declaration? id
  let outcome ← (classify host markers role id).result
  pure ⟨id, (found.map Declaration.qualifiedName).getD "", role, outcome⟩

/-- Whether any declaration carries a marker. -/
def anyMarked (host : Host) (markers : Markers) : Answer Bool := do
  let functions ← host.marked markers.dispatchFunction
  if !functions.isEmpty then pure true
  else
    let traits ← host.marked markers.handlerInterface
    pure (!traits.isEmpty)

/-- All marked declarations and what they ask for. -/
def classifyAll (host : Host) (markers : Markers) : Answer (List Item) := do
  let functions ← host.marked markers.dispatchFunction
  let traits ← host.marked markers.handlerInterface
  let functionItems ← functions.mapM (item host markers .dispatchFunction)
  let traitItems ← traits.mapM (item host markers .handlerInterface)
  pure (functionItems ++ traitItems)

end ForwardingProxy.Classification
