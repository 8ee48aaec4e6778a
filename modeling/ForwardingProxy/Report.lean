import ForwardingProxy.Classification
import ForwardingProxy.Json.Value

/-!
Contract: classified declarations as JSON values.

Owns: the JSON form of types, interfaces and proxy requests, and `Report.ofItems`, the list of
what every marked declaration asks for.

Fields that have nothing to tell are left out.
-/

namespace ForwardingProxy

open Json (Value)

mutual

/-- The JSON form of a type. -/
def ResolvedType.toValue : ResolvedType → Value
  | .mk name arguments optional =>
      .object (
        [("qualified_name", .text name)]
        ++ (if arguments.isEmpty then []
          else [("generic_arguments", .list (ResolvedType.toValues arguments))])
        ++ [("nullable", .boolean optional)])

/-- The JSON forms of several types. -/
def ResolvedType.toValues : List ResolvedType → List Value
  | [] => []
  | type :: rest => type.toValue :: ResolvedType.toValues rest

end

/-- The JSON form of a property. -/
def Property.toValue (property : Property) : Value :=
  .object [
    ("name", .text property.name),
    ("ty", property.type.toValue),
    ("mutable", .boolean property.mutable),
    ("owner", .text property.owner)]

/-- The JSON form of a parameter. -/
def Parameter.toValue (parameter : Parameter) : Value :=
  .object [("name", .text parameter.name), ("ty", parameter.type.toValue)]

/-- The JSON form of a receiver. -/
def Receiver.toValue : Receiver → Value
  | .shared => .text "Ref"
  | .exclusive => .text "RefMut"

/-- The JSON form of a method. -/
def Method.toValue (method : Method) : Value :=
  .object [
    ("name", .text method.name),
    ("receiver", method.receiver.toValue),
    ("parameters", .list (method.parameters.map Parameter.toValue)),
    ("return_type", method.returnType.toValue),
    ("owner", .text method.owner)]

/-- The JSON form of an interface. -/
def Interface.toValue (interface : Interface) : Value :=
  .object [
    ("qualified_name", .text interface.name),
    ("traits", .list (interface.traits.map .text)),
    ("properties", .list (interface.properties.map Property.toValue)),
    ("methods", .list (interface.methods.map Method.toValue))]

/-- The JSON form of a target: its text under the name of its kind. -/
def Target.toValue : Target → Value
  | .function path => .object [("FreeFunction", .text path)]
  | .handler expression => .object [("HandlerInstance", .text expression)]

/-- The JSON form of a request. -/
def ProxyRequest.toValue (request : ProxyRequest) : Value :=
  .object (
    [("shape", request.interface.toValue), ("target", request.target.toValue)]
    ++ request.inherentItems.toList.map (fun items => ("initialization_block", .text items))
    ++ [("class_name", .text request.proxy)])

namespace Report

/-- The JSON form of a classified declaration: its request, or else what is wrong with it. -/
def ofItem (item : Classification.Item) : Value :=
  .object [
    ("declaration", .text item.declaration),
    ("marker", .text item.role.describe),
    match item.outcome with
    | .ok request => ("request", request.toValue)
    | .error failure => ("error", .text failure.message)]

/-- The JSON form of classified declarations. -/
def ofItems (items : List Classification.Item) : Value :=
  .list (items.map ofItem)

end Report

end ForwardingProxy
