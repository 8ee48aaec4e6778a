import ForwardingProxy.Config.Basic
import ForwardingProxy.FileSystem.Error
import ForwardingProxy.Host
import ForwardingProxy.Json.Problem
import ForwardingProxy.Registry

/-!
Contract: everything that can go wrong, with its cause and its wording.

Owns: `Failure` with the reasons of each kind, the failures that concern one declaration only
(`Failure.isLocal`), and `Attempt`, a computation that fails or is broken off by the host.
-/

namespace ForwardingProxy

/-- Why a written type cannot be resolved. -/
inductive TypeProblem where
  | notInScope
  | isTrait (name : String)
  | borrowed
  | traitObject
  | notForwardable
  | notDeclared (name : String)
deriving DecidableEq, Repr

/-- The problem in words. -/
def TypeProblem.describe : TypeProblem → String
  | .notInScope => "no such type is in scope"
  | .isTrait name => "`" ++ name ++ "` is a trait, not a type"
  | .borrowed => "borrowed values cannot be boxed into `Box<dyn Any>`"
  | .traitObject => "trait objects have no static type tag"
  | .notForwardable => "this type syntax cannot be forwarded"
  | .notDeclared name => "`" ++ name ++ "` is not declared in the scanned sources"

/-- Why a type cannot be the handler of an interface. -/
inductive HandlerProblem where
  | notDeclared
  | isPrivate
  | isGeneric
  | notConstructible
  | isTrait
  | otherKind (found : String)
deriving DecidableEq, Repr

/-- The problem in words. -/
def HandlerProblem.describe : HandlerProblem → String
  | .notDeclared => "it is not declared in the scanned sources"
  | .isPrivate => "it is private; declare it `pub` or `pub(crate)`"
  | .isGeneric => "generic structs cannot be instantiated without type arguments"
  | .notConstructible =>
      "it needs `Default` or a public zero-argument constructor returning `Self`"
  | .isTrait => "a trait cannot be instantiated"
  | .otherKind found => "it must be a struct or unit struct, found " ++ found

/-- Why a marker cannot be followed. -/
inductive MarkerProblem where
  | notOnFunction (found : String)
  | privateFunction
  | argumentCount (count : Nat)
  | notPath (text : String)
deriving DecidableEq, Repr

/-- The problem in words. -/
def MarkerProblem.describe : MarkerProblem → String
  | .notOnFunction found => "it can only be placed on a function, found " ++ found
  | .privateFunction => "the function is private; declare it `pub` or `pub(crate)`"
  | .argumentCount count => "expected exactly one path argument, found " ++ toString count
  | .notPath text => "`" ++ text ++ "` is not a path"

/-- Why a trait, or one of its supertraits, cannot be implemented by a proxy. -/
inductive InterfaceProblem where
  | supertraitKind (name found : String)
  | isGeneric (name : String)
  | isPrivate (name : String)
  | boundSyntax (bound : String)
  | genericBound (bound : String)
  | undeclaredBound (bound : String)
  | associatedType (owner name : String)
  | associatedConst (owner name : String)
  | associatedFunction (owner name : String)
  | ownedSelf (owner name : String)
  | genericMethod (owner name : String)
deriving DecidableEq, Repr

/-- The problem in words. -/
def InterfaceProblem.describe : InterfaceProblem → String
  | .supertraitKind name found => "supertrait `" ++ name ++ "` is " ++ found
  | .isGeneric name => "`" ++ name ++ "` has generic parameters"
  | .isPrivate name => "`" ++ name ++ "` is private; declare it `pub` or `pub(crate)`"
  | .boundSyntax bound => "unsupported supertrait bound `" ++ bound ++ "`"
  | .genericBound bound => "generic supertrait `" ++ bound ++ "` cannot be proxied"
  | .undeclaredBound bound =>
      "supertrait `" ++ bound ++ "` is not declared in the scanned sources"
  | .associatedType owner name =>
      "`" ++ owner ++ "` declares the associated type `" ++ name ++ "`"
  | .associatedConst owner name =>
      "`" ++ owner ++ "::" ++ name ++ "` is an associated const without a default"
  | .associatedFunction owner name =>
      "`" ++ owner ++ "::" ++ name ++ "` is an associated function without a default body"
  | .ownedSelf owner name => "`" ++ owner ++ "::" ++ name ++ "` takes `self` by value"
  | .genericMethod owner name => "`" ++ owner ++ "::" ++ name ++ "` has generic parameters"

/-- How a host contradicts itself. -/
inductive HostProblem where
  | unknownDeclaration (id : Nat)
  | markerMissing (declaration marker : String)
  | endlessHierarchy (interface : String)
deriving DecidableEq, Repr

/-- The problem in words. -/
def HostProblem.describe : HostProblem → String
  | .unknownDeclaration id => "Unknown declaration id " ++ toString id
  | .markerMissing declaration marker =>
      "`" ++ declaration ++ "` was listed for `#[" ++ marker ++ "]` but does not carry it"
  | .endlessHierarchy interface => "the supertraits of `" ++ interface ++ "` do not end"

/-- Why settings cannot be used. -/
inductive ConfigProblem where
  | invalid (reason : Config.Invalid)
  | unreadable (error : Json.ReadError)
  | noOutputDirectory
  | noSourceDirectory (path : String)
deriving DecidableEq, Repr

/-- The problem in words. -/
def ConfigProblem.describe : ConfigProblem → String
  | .invalid reason => reason.message
  | .unreadable error => "Failed to parse config: " ++ error.message
  | .noOutputDirectory =>
      "OUT_DIR is not set; call `out_dir` when not running in a build script"
  | .noSourceDirectory path => "Source directory " ++ path ++ " does not exist"

/-- The signature that every dispatch function has, with the function's own name. -/
def dispatchSignature (name : String) : String :=
  "fn " ++ name ++ "(call: &MethodCall, args: Vec<Box<dyn Any>>) -> Box<dyn Any>"

/-- A failure and its cause. -/
inductive Failure where
  /-- A dispatch function of another signature; `name` is the function's simple name. -/
  | signature (function name : String)
  /-- A proxy is asked for something that is no trait. -/
  | notInterface (name found : String)
  | unresolvable (owner type : String) (problem : TypeProblem)
  | handler (interface handler : String) (problem : HandlerProblem)
  | marker (marker declaration : String) (problem : MarkerProblem)
  | interface (interface : String) (problem : InterfaceProblem)
  | refused (refusal : Registry.Refusal)
  | host (problem : HostProblem)
  | config (problem : ConfigProblem)
  | file (error : FileError)
  /-- A text that had to be JSON. -/
  | json (error : Json.ReadError)
  /-- A pass that reported these errors. -/
  | rejected (messages : List String)
deriving DecidableEq, Repr

namespace Failure

/-- The failure in words. -/
def message : Failure → String
  | .signature function name =>
      "`" ++ function ++ "` must have the following signature: " ++ dispatchSignature name
  | .notInterface name found =>
      "Proxy can be generated only for traits, but `" ++ name ++ "` is " ++ found
  | .unresolvable owner type problem =>
      "Cannot resolve type `" ++ type ++ "` used by `" ++ owner ++ "`: " ++ problem.describe
  | .handler name handlerName problem =>
      "`" ++ handlerName ++ "` cannot handle calls for `" ++ name ++ "`: " ++ problem.describe
  | .marker markerName declaration problem =>
      "Malformed `#[" ++ markerName ++ "]` marker on `" ++ declaration ++ "`: "
        ++ problem.describe
  | .interface name problem =>
      "Cannot generate a proxy for `" ++ name ++ "`: " ++ problem.describe
  | .refused refusal => refusal.message
  | .host problem => "Internal fault: " ++ problem.describe
  | .config problem => "Configuration error: " ++ problem.describe
  | .file error => "IO error: " ++ error.message
  | .json error => "Serialization error: " ++ error.message
  | .rejected messages =>
      "Proxy generation failed with " ++ toString messages.length ++ " error(s):\n"
        ++ "\n".intercalate messages

/-- What the failure goes back to: its own message and that of the error inside it. -/
def chain (failure : Failure) : List String :=
  failure.message :: match failure with
    | .file error => [error.message]
    | .json error => [error.message]
    | _ => []

/-- Whether the failure concerns one declaration and leaves the others alone. -/
def isLocal : Failure → Bool
  | .signature _ _ | .notInterface _ _ | .unresolvable _ _ _ | .handler _ _ _
  | .marker _ _ _ | .interface _ _ | .refused _ => true
  | .host _ | .config _ | .file _ | .json _ | .rejected _ => false

end Failure

/-- The fault in words. -/
def Fault.message : Fault → String
  | .stated reason => reason
  | .unstated => "Internal fault: unknown panic"

/-- Why an attempt came to no result. -/
inductive Stop where
  | failed (failure : Failure)
  | broken (fault : Fault)
deriving DecidableEq, Repr

/-- A computation that asks a host. -/
abbrev Attempt (α : Type) := Except Stop α

namespace Attempt

/-- Asks the host; a fault ends the attempt. -/
def ask {α : Type} : Answer α → Attempt α
  | .ok value => .ok value
  | .error fault => .error (.broken fault)

/-- Ends the attempt with a failure. -/
def fail {α : Type} (failure : Failure) : Attempt α :=
  .error (.failed failure)

/-- The value, or else a failure. -/
def require {α : Type} (failure : Failure) : Option α → Attempt α
  | some value => .ok value
  | none => fail failure

/-- The result of an attempt that the host did not break off. -/
def result {α : Type} : Attempt α → Answer (Except Failure α)
  | .ok value => .ok (.ok value)
  | .error (.failed failure) => .ok (.error failure)
  | .error (.broken fault) => .error fault

end Attempt

end ForwardingProxy
