/-!
Contract: building proxies from a table of factories.

Owns: `Dispatch.create`, which runs the first factory of a key, and `Dispatch.instantiate`, which
also takes what was built as the proxy that is asked for.
-/

namespace ForwardingProxy.Dispatch

/-- Why no proxy can be handed out. -/
inductive ProxyError where
  | noProxyFound (interface : String)
  /-- The proxy that was built is for another interface than `requested`. -/
  | typeMismatch (interface requested : String)
deriving DecidableEq, Repr

/-- The error in words. -/
def ProxyError.message : ProxyError → String
  | .noProxyFound interface => "No proxy found for " ++ interface
  | .typeMismatch interface requested =>
      "Proxy for " ++ interface ++ " cannot be returned as " ++ requested

/-- Factories with their keys. -/
abbrev FactoryTable (κ β : Type) := List (κ × (Unit → β))

/-- What the first factory of the key builds; `interface` is named in errors. -/
def create {κ β : Type} [BEq κ]
    (table : FactoryTable κ β)
    (key : κ)
    (interface : String) : Except ProxyError β :=
  match table.find? fun row => row.1 == key with
  | some row => .ok (row.2 ())
  | none => .error (.noProxyFound interface)

/-- What the first factory of the key builds, taken as a proxy of the kind `requested`. -/
def instantiate {κ β γ : Type} [BEq κ]
    (table : FactoryTable κ β)
    (key : κ)
    (interface requested : String)
    (take? : β → Option γ) : Except ProxyError γ :=
  match create table key interface with
  | .error error => .error error
  | .ok built =>
      match take? built with
      | some proxy => .ok proxy
      | none => .error (.typeMismatch interface requested)

end ForwardingProxy.Dispatch
