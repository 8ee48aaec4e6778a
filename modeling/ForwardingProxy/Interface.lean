import ForwardingProxy.Name
import ForwardingProxy.ResolvedType

/-!
Contract: a trait together with its supertraits, as one flat list of members.

Owns: `Interface`, its properties and methods, lookup by name, and the one-line summary of counts.

Does not own: how an interface is read off declarations; see `Enumeration`.
-/

namespace ForwardingProxy

/-- How a method borrows the value it is called on. -/
inductive Receiver where
  /-- `&self` -/
  | shared
  /-- `&mut self` -/
  | exclusive
deriving DecidableEq, Repr

/-- Source text of the receiver. -/
def Receiver.render : Receiver → String
  | .shared => "&self"
  | .exclusive => "&mut self"

/-- A pair of accessors; `owner` names the trait that declares them. -/
structure Property where
  name : String
  type : ResolvedType
  mutable : Bool
  owner : String
deriving DecidableEq, Repr

/-- Name of the method that reads the property. -/
def Property.getterName (property : Property) : String :=
  "get_" ++ property.name

/-- Name of the method that writes the property. -/
def Property.setterName (property : Property) : String :=
  "set_" ++ property.name

/-- A named parameter of a method. -/
structure Parameter where
  name : String
  type : ResolvedType
deriving DecidableEq, Repr

/-- A method that is no accessor; `owner` names the trait that declares it. -/
structure Method where
  name : String
  receiver : Receiver
  parameters : List Parameter
  returnType : ResolvedType
  owner : String
deriving DecidableEq, Repr

/-- The members of a trait and of all its supertraits; `traits` lists those in visiting order. -/
structure Interface where
  name : String
  traits : List String
  properties : List Property
  methods : List Method
deriving DecidableEq, Repr

namespace Interface

/-- The interface of that name before anything is known about it. -/
def empty (name : String) : Interface :=
  ⟨name, [], [], []⟩

/-- The last segment of the interface's name. -/
def simpleName (interface : Interface) : String :=
  Name.last interface.name

/-- The first property of that name. -/
def property? (interface : Interface) (name : String) : Option Property :=
  interface.properties.find? fun property => property.name == name

/-- The first method of that name. -/
def method? (interface : Interface) (name : String) : Option Method :=
  interface.methods.find? fun method => method.name == name

/-- Counts of properties, mutable properties, methods and traits, in words. -/
def summary (interface : Interface) : String :=
  toString interface.properties.length ++ " properties ("
    ++ toString (interface.properties.countP Property.mutable) ++ " mutable), "
    ++ toString interface.methods.length ++ " methods across "
    ++ toString interface.traits.length ++ " traits"

end Interface

end ForwardingProxy
