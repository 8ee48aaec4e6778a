import ForwardingProxy.Dispatch.Factory
import ForwardingProxy.Proofs.Text.LineReader

/-!
Contract: the lookup tables of a generated file, as a program that reads its text finds them.

Owns: `Tables` with the look-ups made in them at run time, and `readTables?`, which reads them off a
text line by line.

The reader knows of the text how each table is headed, how its rows are written and how it is
closed. It shares nothing with the layout that the text is written by.
-/

namespace ForwardingProxy.Registry

open Text

/-! ### Look-ups -/

/-- A trait object of an interface, with the proxy that is behind it. -/
structure Boxed where
  interface : String
  proxy : String
deriving DecidableEq, Repr

/-- The tables of a generated file; each row is kept, in the order of the text. -/
structure Tables where
  keys : List String
  all : List String
  /-- The qualified name of each key. -/
  names : List (String × String)
  /-- The key of each trait object type. -/
  proxied : List (String × String)
  /-- What each factory function boxes. -/
  functions : List (String × Boxed)
  /-- The factory function of each key. -/
  factories : List (String × String)
deriving DecidableEq, Repr

namespace Tables

/-- The first listed key with that qualified name. -/
def fromQualifiedName? (tables : Tables) (name : String) : Option String :=
  tables.all.find? fun key => tables.names.lookup key == some name

/-- The factories by key, if every one of them is a function of the file. -/
def factoryTable? (tables : Tables) : Option (Dispatch.FactoryTable String Boxed) :=
  tables.factories.mapM fun row =>
    (tables.functions.lookup row.2).map fun built => (row.1, fun _ => built)

/-- What the factory of a qualified name builds. -/
def createByName
    (tables : Tables)
    (factories : Dispatch.FactoryTable String Boxed)
    (name : String) : Except Dispatch.ProxyError Boxed :=
  match tables.fromQualifiedName? name with
  | some key => Dispatch.create factories key name
  | none => .error (.noProxyFound name)

end Tables

/-! ### Words -/

/-- A character that is no line end and none of the marks that stand beside names. -/
def isWordCharacter (character : Char) : Bool :=
  !([' ', '\n', ',', ':', ';', '(', ')', '>'].contains character)

/-- A character of a path of words. -/
def isPathCharacter (character : Char) : Bool :=
  isWordCharacter character || character == ':'

/-! ### Rows -/

def keyRow : LineReader String :=
  readBetween isWordCharacter "    " ","

def allRow : LineReader String :=
  readBetween isWordCharacter "        ProxyInterface::" ","

def nameRow : LineReader (String × String) := do
  expect "            ProxyInterface::"
  let key ← readWhile isWordCharacter
  expect " => "
  let name ← readQuoted
  expect ","
  pure (key, name)

def proxiedHead : LineReader String :=
  readBetween isPathCharacter "impl Proxied for dyn " " \x7b"

def proxiedRow : LineReader String :=
  readBetween isWordCharacter "    const INTERFACE: ProxyInterface = ProxyInterface::" ";"

def functionHead : LineReader String :=
  readBetween isWordCharacter "fn " "() -> Box<dyn std::any::Any> \x7b"

/-- The proxy that a factory function builds, as the trait object that it boxes. -/
def functionRow : LineReader Boxed := do
  expect "    let proxy: Box<dyn "
  let interface ← readWhile isPathCharacter
  expect "> = Box::new("
  let proxy ← readWhile isWordCharacter
  expect ");"
  pure ⟨interface, proxy⟩

def factoryRow : LineReader (String × String) := do
  expect "    (ProxyInterface::"
  let key ← readWhile isWordCharacter
  expect ", "
  let function ← readWhile isWordCharacter
  expect "),"
  pure (key, function)

/-! ### Tables of a text -/

/-- The names of the keys, and the search for one of them through the list of all keys. -/
def namesTable : Reader (List (String × String)) := do
  let names ← table "        match self \x7b" "        \x7d" nameRow
  skipPast "    pub fn from_qualified_name(name: &str) -> Option<Self> \x7b"
  expectLines ["        Self::ALL", "            .iter()", "            .copied()",
    "            .find(|interface| interface.qualified_name() == name)", "    \x7d"]
  pure names

/-- An empty line and the block behind it that ties a trait object type to its key. -/
def proxiedBlock : Reader (String × String) := do
  expectLine ""
  let interface ← row proxiedHead
  let key ← row proxiedRow
  expectLine "\x7d"
  pure (interface, key)

/-- The blocks behind the trait that ties trait object types to keys. -/
def proxiedTable : Reader (List (String × String)) := do
  skipPast "pub trait Proxied \x7b"
  skipPast "\x7d"
  pieces proxiedBlock

/-- An empty line and the factory function behind it. -/
def functionBlock : Reader (String × Boxed) := do
  expectLine ""
  let name ← row functionHead
  let built ← row functionRow
  expectLine "    Box::new(proxy)"
  expectLine "\x7d"
  pure (name, built)

/-- All tables in the order in which they stand in the text. -/
def readTables (runtimePath : String) : Reader Tables := do
  let keys ← table "pub enum ProxyInterface \x7b" "\x7d" keyRow
  let all ← table "    pub const ALL: &'static [ProxyInterface] = &[" "    ];" allRow
  let names ← namesTable
  let proxied ← proxiedTable
  let functions ← pieces functionBlock
  let factories ← table ("pub static PROXY_FACTORIES: &[(ProxyInterface, " ++ runtimePath
    ++ "::ProxyFactory)] = &[") "];" factoryRow
  pure ⟨keys, all, names, proxied, functions, factories⟩

/-- The tables of a text whose generated code reaches the run-time library by that path. -/
def readTables? (runtimePath text : String) : Option Tables :=
  (readTables runtimePath (Text.linePieces text.toList)).map Prod.fst

end ForwardingProxy.Registry
