import ForwardingProxy.Failure
import ForwardingProxy.ResolvedType

/-!
Contract: the meaning of written types.

Owns: `Resolution.resolve`, which gives the resolved type of type syntax in a scope or the first
reason why there is none, and `Resolution.validate`, which checks names only and so accepts
borrowed values and trait objects.

A path is looked at before its arguments, and arguments from left to right. An `Option` with one
argument becomes the flag on that argument unless the flag is set already.
-/

namespace ForwardingProxy.Resolution

/-- The qualified names of `Option`. -/
def optionNames : List String :=
  ["std::option::Option", "core::option::Option"]

/-- The type of that qualified name with resolved arguments. -/
def assemble (name : String) (arguments : List ResolvedType) : ResolvedType :=
  let general := (ResolvedType.named name).withArguments arguments
  if optionNames.contains name then
    match arguments with
    | [inner] => if inner.optional then general else inner.asOptional
    | _ => general
  else general

/-- Fails for a type that `owner` uses. -/
def refuse {α : Type} (owner : String) (type : TypeSyntax) (problem : TypeProblem) : Attempt α :=
  Attempt.fail (.unresolvable owner type.render problem)

/-- Whether the host declares a trait of that qualified name. -/
def namesTrait (host : Host) (name : String) : Attempt Bool := do
  match ← Attempt.ask (host.find? name) with
  | none => pure false
  | some id =>
      match ← Attempt.ask (host.declaration? id) with
      | none => pure false
      | some declaration => pure declaration.trait?.isSome

/-- The qualified name of the type `type`, whose path is `segments`. -/
def resolvePath
    (host : Host)
    (owner : String)
    (scope : Nat)
    (type : TypeSyntax)
    (segments : List String) : Attempt String := do
  match ← Attempt.ask (host.resolve? scope segments) with
  | none => refuse owner type .notInScope
  | some name =>
      if ← namesTrait host name then refuse owner type (.isTrait name)
      else pure name

mutual

/-- The resolved type that `type` denotes in the scope; `owner` is named in failures. -/
def resolve (host : Host) (owner : String) (scope : Nat) : TypeSyntax → Attempt ResolvedType
  | .unit => pure .unit
  | .path segments arguments => do
      let name ← resolvePath host owner scope (.path segments arguments) segments
      let resolved ← resolveAll host owner scope arguments
      pure (assemble name resolved)
  | .reference mutable inner => refuse owner (.reference mutable inner) .borrowed
  | .traitObject segments => refuse owner (.traitObject segments) .traitObject
  | .unsupported text => refuse owner (.unsupported text) .notForwardable

/-- The resolved types of several types, from left to right. -/
def resolveAll (host : Host) (owner : String) (scope : Nat) :
    List TypeSyntax → Attempt (List ResolvedType)
  | [] => pure []
  | type :: rest => do
      let first ← resolve host owner scope type
      let others ← resolveAll host owner scope rest
      pure (first :: others)

end

mutual

/-- Whether every name in the type has a meaning in the scope. -/
def validate (host : Host) (scope : Nat) : TypeSyntax → Answer Bool
  | .unit => pure true
  | .path segments arguments => do
      match ← host.resolve? scope segments with
      | none => pure false
      | some _ => validateAll host scope arguments
  | .reference _ inner => validate host scope inner
  | .traitObject segments => do
      let name ← host.resolve? scope segments
      pure name.isSome
  | .unsupported _ => pure false

/-- Whether `validate` holds of all types; the first that it fails for ends the check. -/
def validateAll (host : Host) (scope : Nat) : List TypeSyntax → Answer Bool
  | [] => pure true
  | type :: rest => do
      if ← validate host scope type then validateAll host scope rest
      else pure false

end

end ForwardingProxy.Resolution
