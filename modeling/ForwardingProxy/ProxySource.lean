import ForwardingProxy.ForwardedCall
import ForwardingProxy.Layout
import ForwardingProxy.ProxyRequest
import ForwardingProxy.Text.Quoted

/-!
Contract: the source text of one proxy.

Owns: the forwarded members of an interface, their division into one block for each trait, and the
layout of a proxy: its type, an optional inherent block, and the trait blocks.

Every member is forwarded the same way: a constant describes the call, the arguments are boxed in
the order of the parameters, and the target's answer is cast to the type the member returns.
-/

namespace ForwardingProxy

/-- A trait member that a proxy overrides; `declaredReturn` is the return type its header shows. -/
structure ForwardedMember where
  owner : String
  name : String
  receiver : Receiver
  parameters : List Parameter
  declaredReturn : Option ResolvedType
  call : ForwardedCall
deriving DecidableEq, Repr

namespace ForwardedMember

/-- The member that reads a property. -/
def ofGetter (property : Property) : ForwardedMember where
  owner := property.owner
  name := property.getterName
  receiver := .shared
  parameters := []
  declaredReturn := some property.type
  call := .getter property.name property.type

/-- The member that writes a property. -/
def ofSetter (property : Property) : ForwardedMember where
  owner := property.owner
  name := property.setterName
  receiver := .exclusive
  parameters := [⟨"value", property.type⟩]
  declaredReturn := none
  call := .setter property.name property.type

/-- The accessors of a property: the writing one only when it is mutable. -/
def ofProperty (property : Property) : List ForwardedMember :=
  if property.mutable then [ofGetter property, ofSetter property] else [ofGetter property]

/-- The member that forwards a method. -/
def ofMethod (method : Method) : ForwardedMember where
  owner := method.owner
  name := method.name
  receiver := method.receiver
  parameters := method.parameters
  declaredReturn := if method.returnType.isUnit then none else some method.returnType
  call := .method method.name (method.parameters.map Parameter.type) method.returnType

/-- The function header of the member. -/
def signature (member : ForwardedMember) : String :=
  let parameters := member.parameters.map fun parameter =>
    parameter.name ++ ": " ++ parameter.type.render
  let result :=
    match member.declaredReturn with
    | none => ""
    | some type => " -> " ++ type.render
  "fn " ++ member.name ++ "("
    ++ ", ".intercalate (member.receiver.render :: parameters) ++ ")" ++ result

/-- The boxed arguments as one expression. -/
def boxedArguments (member : ForwardedMember) : String :=
  if member.parameters.isEmpty then "Vec::new()"
  else
    "vec![" ++ ", ".intercalate (member.parameters.map fun parameter =>
      "Box::new(" ++ parameter.name ++ ") as Box<dyn std::any::Any>") ++ "]"

/-- The constant that describes the call: name, argument tags and result tag as string literals. -/
def callConstant (runtimePath : String) (member : ForwardedMember) : String :=
  "const CALL: " ++ runtimePath ++ "::MethodCall = " ++ runtimePath ++ "::MethodCall::new("
    ++ Text.quoted member.call.name ++ ", &["
    ++ ", ".intercalate (member.call.argumentTypes.map fun type => Text.quoted type.tag) ++ "], "
    ++ Text.quoted member.call.resultType.tag ++ ");"

/-- The expression that forwards the call and casts its answer. -/
def forwardExpression (runtimePath : String) (target : Target) (member : ForwardedMember) :
    String :=
  runtimePath ++ "::cast::<" ++ member.call.resultType.render ++ ">(&CALL, "
    ++ target.callExpression runtimePath member.boxedArguments ++ ")"

/-- The whole overriding function. -/
def layout (runtimePath : String) (target : Target) (member : ForwardedMember) : Layout.Step :=
  .block member.signature [
    .line (member.callConstant runtimePath),
    .line (member.forwardExpression runtimePath target)]

end ForwardedMember

/-- Accessors of all properties, then all methods. -/
def Interface.forwardedMembers (interface : Interface) : List ForwardedMember :=
  interface.properties.flatMap ForwardedMember.ofProperty
    ++ interface.methods.map ForwardedMember.ofMethod

/-- The members that one trait owns. -/
structure TraitBlock where
  owner : String
  members : List ForwardedMember
deriving DecidableEq, Repr

/-- One block for each listed trait, with the members it owns in their order. -/
def Interface.traitBlocks (interface : Interface) : List TraitBlock :=
  interface.traits.map fun owner =>
    ⟨owner, interface.forwardedMembers.filter fun member => member.owner == owner⟩

/-- The steps with an empty line between each two. -/
def Layout.separated (steps : List Layout.Step) : List Layout.Step :=
  steps.intersperse .blank

/-- The `impl` block of one trait; a trait without members of its own gets an empty one. -/
def TraitBlock.layout
    (runtimePath proxy : String)
    (target : Target)
    (traitBlock : TraitBlock) : Layout.Step :=
  let header := "impl " ++ traitBlock.owner ++ " for " ++ proxy
  if traitBlock.members.isEmpty then .line (header ++ " \x7b\x7d")
  else
    .block header
      (Layout.separated (traitBlock.members.map (ForwardedMember.layout runtimePath target)))

namespace ProxyRequest

/-- The inherent `impl` block, when the request brings items for one. -/
def inherentLayout (request : ProxyRequest) : List Layout.Step :=
  match request.inherentItems with
  | none => []
  | some items => [.blank, .block ("impl " ++ request.proxy) [.lines items]]

/-- The proxy as a layout program. -/
def layout (runtimePath : String) (request : ProxyRequest) : List Layout.Step :=
  [.line ("/// Generated proxy for `" ++ request.interface.name ++ "`."),
    .line "#[derive(Debug, Clone, Copy, Default)]",
    .line ("pub struct " ++ request.proxy ++ ";")]
  ++ request.inherentLayout
  ++ request.interface.traitBlocks.flatMap fun traitBlock =>
      [.blank, traitBlock.layout runtimePath request.proxy request.target]

/-- The source text of the proxy. -/
def sourceText (runtimePath : String) (request : ProxyRequest) : String :=
  Layout.text (request.layout runtimePath)

end ProxyRequest

end ForwardingProxy
