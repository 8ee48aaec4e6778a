import ForwardingProxy.ForwardedCall
import ForwardingProxy.Text.Start

/-!
Contract: calls as dispatchers see them at run time.

Owns: `Dispatch.Call`, its text, and the tests by which a dispatcher tells accessors from methods.
-/

namespace ForwardingProxy.Dispatch

/-- A call by name, with the tags of its argument types and of its result type. -/
structure Call where
  name : String
  argumentTypes : List String
  resultType : String
deriving DecidableEq, Repr

namespace Call

/-- The call that a forwarded member makes. -/
def ofForwarded (call : ForwardedCall) : Call :=
  ⟨call.name, call.argumentTypes.map ResolvedType.tag, call.resultType.tag⟩

/-- Whether the call looks like reading a property. -/
def isGetter (call : Call) : Bool :=
  (Text.afterStart? "get" call.name).isSome && call.argumentTypes.isEmpty

/-- Whether the call looks like writing a property. -/
def isSetter (call : Call) : Bool :=
  (Text.afterStart? "set" call.name).isSome && call.argumentTypes.length == 1

/-- The call as text. -/
def describe (call : Call) : String :=
  call.name ++ "(" ++ ", ".intercalate call.argumentTypes ++ ") -> " ++ call.resultType

end Call

end ForwardingProxy.Dispatch
