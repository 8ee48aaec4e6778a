import ForwardingProxy.Interface

/-!
Contract: what has to be known to write one proxy.

Owns: `Target`, `ProxyRequest`, and the naming rule of proxy types.
-/

namespace ForwardingProxy

/-- Where a proxy sends its calls. -/
inductive Target where
  /-- Path of a function that takes the call and its boxed arguments. -/
  | function (path : String)
  /-- Expression that borrows a handler. -/
  | handler (expression : String)
deriving DecidableEq, Repr

namespace Target

/-- The path or expression itself. -/
def describe : Target → String
  | .function path => path
  | .handler expression => expression

/-- Expression that hands the constant `CALL` and the given arguments to the target. -/
def callExpression (runtimePath arguments : String) : Target → String
  | .function path => path ++ "(&CALL, " ++ arguments ++ ")"
  | .handler expression =>
      runtimePath ++ "::ProxyHandler::handle(" ++ expression ++ ", &CALL, " ++ arguments ++ ")"

end Target

/-- Name of the proxy type of an interface: `ProxyFor` and the interface's simple name. -/
def proxyName (interface : String) : String :=
  "ProxyFor" ++ Name.last interface

/-- One proxy to be written; `inherentItems` is item text for the proxy's own `impl` block. -/
structure ProxyRequest where
  interface : Interface
  target : Target
  inherentItems : Option String
  proxy : String
deriving DecidableEq, Repr

/-- A request under the standard proxy name. -/
def ProxyRequest.new
    (interface : Interface)
    (target : Target)
    (inherentItems : Option String) : ProxyRequest :=
  ⟨interface, target, inherentItems, proxyName interface.name⟩

end ForwardingProxy
