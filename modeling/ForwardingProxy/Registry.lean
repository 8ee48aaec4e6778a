import ForwardingProxy.Layout
import ForwardingProxy.Name
import ForwardingProxy.ProxyRequest
import ForwardingProxy.Text.Casing
import ForwardingProxy.Text.Quoted

/-!
Contract: the table of generated proxies.

Owns: `Registry`, registration with its refusals, and the source text of the lookup tables.

Interfaces, proxy names and factory names each stay pairwise distinct. The interface is looked at
first, then the proxy's name, then the factory's.
-/

namespace ForwardingProxy

/-- An interface and the proxy written for it. -/
structure Registry.Entry where
  interface : String
  proxy : String
deriving DecidableEq, Repr

namespace Registry.Entry

/-- The last segment of the interface's name; names the entry in the lookup tables. -/
def simpleName (entry : Entry) : String :=
  Name.last entry.interface

/-- Name of the function that builds the proxy. -/
def factoryName (entry : Entry) : String :=
  "new_proxy_for_" ++ Text.snakeCase entry.simpleName

end Registry.Entry

/-- The entries in the order of their registration. -/
structure Registry where
  entries : List Registry.Entry
deriving DecidableEq, Repr

/-- Why an entry cannot join a registry. -/
inductive Registry.Refusal where
  /-- The interface already has a proxy. -/
  | alreadyRegistered (interface existing : String)
  /-- A generated name already belongs to another interface. -/
  | nameTaken (name interface existing : String)
deriving DecidableEq, Repr

/-- The refusal in words. -/
def Registry.Refusal.message : Registry.Refusal → String
  | .alreadyRegistered interface existing =>
      "`" ++ interface ++ "` already has a registered proxy `" ++ existing ++ "`"
  | .nameTaken name interface existing =>
      "Proxy `" ++ name ++ "` for `" ++ interface
        ++ "` collides with the proxy generated for `" ++ existing ++ "`"

namespace Registry

/-- The registry without entries. -/
def empty : Registry := ⟨[]⟩

/-- The refusal that an entry meets, if any. -/
def refusal? (registry : Registry) (entry : Entry) : Option Refusal :=
  match registry.entries.find? fun existing => existing.interface == entry.interface with
  | some existing => some (.alreadyRegistered entry.interface existing.proxy)
  | none =>
      match registry.entries.find? fun existing => existing.proxy == entry.proxy with
      | some existing => some (.nameTaken entry.proxy entry.interface existing.interface)
      | none =>
          (registry.entries.find? fun existing => existing.factoryName == entry.factoryName).map
            fun existing => .nameTaken entry.factoryName entry.interface existing.interface

/-- Adds the entry at the end unless it is refused. -/
def register (registry : Registry) (entry : Entry) : Except Refusal Registry :=
  match registry.refusal? entry with
  | some refusal => .error refusal
  | none => .ok ⟨registry.entries ++ [entry]⟩

/-- The enumeration of interfaces. -/
def keyLayout (registry : Registry) : List Layout.Step :=
  [.line "/// Interfaces with a generated proxy.",
    .line "#[derive(Debug, Clone, Copy, PartialEq, Eq, Hash)]",
    .block "pub enum ProxyInterface" (registry.entries.map fun entry =>
      .line (entry.simpleName ++ ","))]

/-- The constant that lists every key. -/
def allKeysLayout (registry : Registry) : List Layout.Step :=
  [.line "/// Every interface, in registration order.",
    .line "pub const ALL: &'static [ProxyInterface] = &["]
  ++ (registry.entries.map fun entry =>
      .line ("    ProxyInterface::" ++ entry.simpleName ++ ","))
  ++ [.line "];"]

/-- The two functions between keys and qualified names. -/
def keyNamesLayout (registry : Registry) : List Layout.Step :=
  [.block "pub fn qualified_name(self) -> &'static str" [
      .block "match self" (registry.entries.map fun entry =>
        .line ("ProxyInterface::" ++ entry.simpleName ++ " => "
          ++ Text.quoted entry.interface ++ ","))],
    .blank,
    .block "pub fn from_qualified_name(name: &str) -> Option<Self>" [
      .line "Self::ALL",
      .line "    .iter()",
      .line "    .copied()",
      .line "    .find(|interface| interface.qualified_name() == name)"]]

/-- The display of keys and the trait that ties trait objects to them. -/
def proxiedLayout (registry : Registry) : List Layout.Step :=
  [.block "impl std::fmt::Display for ProxyInterface" [
      .block "fn fmt(&self, f: &mut std::fmt::Formatter<'_>) -> std::fmt::Result" [
        .line "f.write_str(self.qualified_name())"]],
    .blank,
    .line "/// Ties a trait object type to its registry key.",
    .block "pub trait Proxied" [.line "const INTERFACE: ProxyInterface;"]]
  ++ registry.entries.flatMap fun entry =>
      [.blank,
        .block ("impl Proxied for dyn " ++ entry.interface) [
          .line ("const INTERFACE: ProxyInterface = ProxyInterface::" ++ entry.simpleName ++ ";")]]

/-- The functions that build the proxies. -/
def factoriesLayout (registry : Registry) : List Layout.Step :=
  registry.entries.flatMap fun entry =>
    [.blank,
      .block ("fn " ++ entry.factoryName ++ "() -> Box<dyn std::any::Any>") [
        .line ("let proxy: Box<dyn " ++ entry.interface ++ "> = Box::new(" ++ entry.proxy ++ ");"),
        .line "Box::new(proxy)"]]

/-- The table from keys to factories. -/
def factoryTableLayout (runtimePath : String) (registry : Registry) : List Layout.Step :=
  [.line "/// Factory of every generated proxy, keyed by interface.",
    .line ("pub static PROXY_FACTORIES: &[(ProxyInterface, " ++ runtimePath
      ++ "::ProxyFactory)] = &[")]
  ++ (registry.entries.map fun entry =>
      .line ("    (ProxyInterface::" ++ entry.simpleName ++ ", " ++ entry.factoryName ++ "),"))
  ++ [.line "];"]

/-- The accessors for users of the generated code. -/
def providerLayout (runtimePath : String) : List Layout.Step :=
  [.line "/// Entry point for obtaining proxy instances.",
    .line "pub struct ProxyProvider;",
    .blank,
    .block "impl ProxyProvider" [
      .line "/// Proxy for `interface`, boxed as the trait object `T`.",
      .block ("pub fn create_proxy_for<T: ?Sized + 'static>(interface: ProxyInterface) -> "
          ++ "Result<Box<T>, " ++ runtimePath ++ "::ProxyError>") [
        .line (runtimePath
          ++ "::instantiate(PROXY_FACTORIES, interface, interface.qualified_name())")],
      .blank,
      .line ("/// Proxy for the interface with the given qualified name, holding a "
        ++ "`Box<dyn Trait>`."),
      .block ("pub fn create_proxy_by_name(name: &str) -> Result<Box<dyn std::any::Any>, "
          ++ runtimePath ++ "::ProxyError>") [
        .block "match ProxyInterface::from_qualified_name(name)" [
          .line ("Some(interface) => " ++ runtimePath
            ++ "::create(PROXY_FACTORIES, interface, name),"),
          .line ("None => Err(" ++ runtimePath
            ++ "::ProxyError::NoProxyFound \x7b interface: name.to_string() \x7d),")]],
      .blank,
      .line "/// Proxy for the trait object type `T`, e.g. `create_proxy::<dyn Vector>()`.",
      .block ("pub fn create_proxy<T: ?Sized + Proxied + 'static>() -> Result<Box<T>, "
          ++ runtimePath ++ "::ProxyError>") [
        .line "Self::create_proxy_for::<T>(T::INTERFACE)"]]]

/-- The lookup tables as a layout program; valid also for a registry without entries. -/
def layout (runtimePath : String) (registry : Registry) : List Layout.Step :=
  registry.keyLayout
  ++ [.blank,
    .block "impl ProxyInterface"
      (registry.allKeysLayout ++ [.blank] ++ registry.keyNamesLayout),
    .blank]
  ++ registry.proxiedLayout
  ++ registry.factoriesLayout
  ++ [.blank]
  ++ factoryTableLayout runtimePath registry
  ++ [.blank]
  ++ providerLayout runtimePath

/-- The source text of the lookup tables. -/
def sourceText (runtimePath : String) (registry : Registry) : String :=
  Layout.text (registry.layout runtimePath)

end Registry

/-- The registry entry of a request's proxy. -/
def ProxyRequest.entry (request : ProxyRequest) : Registry.Entry :=
  ⟨request.interface.name, request.proxy⟩

end ForwardingProxy
