import ForwardingProxy.ResolvedType
import ForwardingProxy.Text.Casing

/-!
Contract: the calls that proxies send to their dispatchers.

Owns: `ForwardedCall` and its three forms: reading a property, writing a property, calling a method.

A dispatcher sees a property `p` as calls named `getP` and `setP`; a method keeps its name.
-/

namespace ForwardingProxy

/-- One forwarded call: its name, the types of its arguments and the type of its result. -/
structure ForwardedCall where
  name : String
  argumentTypes : List ResolvedType
  resultType : ResolvedType
deriving DecidableEq, Repr

namespace ForwardedCall

/-- Reads a property; takes nothing and gives the property's type. -/
def getter (property : String) (type : ResolvedType) : ForwardedCall :=
  ⟨"get" ++ Text.capitalize property, [], type⟩

/-- Writes a property; takes the property's type and gives unit. -/
def setter (property : String) (type : ResolvedType) : ForwardedCall :=
  ⟨"set" ++ Text.capitalize property, [type], .unit⟩

/-- Calls a method under its own name. -/
def method
    (name : String)
    (argumentTypes : List ResolvedType)
    (resultType : ResolvedType) : ForwardedCall :=
  ⟨name, argumentTypes, resultType⟩

end ForwardedCall

end ForwardingProxy
