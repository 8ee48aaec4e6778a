import ForwardingProxy.Proofs.ProxySource.Text
import ForwardingProxy.Proofs.Registry.Words
import Mathlib.Tactic.FinCases

/-!
Contract: the names that a generated file defines, as they stand in its layout.

Owns: the words that the steps of a layout have behind the beginnings of definitions, and which of
them proxies and lookup tables define as types, as values, and as items under the type of the keys.

Does not own: whether these names are identifiers and distinct; see `GeneratedNames`.
-/

namespace ForwardingProxy.Registry

open Layout (Step)
open Text (LineReader expect readWhile afterStartOf?)

/-! ### Names in a layout -/

/-- What a step begins with. -/
def headText : Step → String
  | .line text => text
  | .block header _ => header
  | .lines _ | .blank => ""

/-- The word that a line has behind one of these beginnings. -/
def wordBehind? (starts : List String) (line : String) : Option String :=
  starts.findSome? fun start =>
    ((do expect start; readWhile isWordCharacter : LineReader String) line.toList).map Prod.fst

/-- The words that steps have behind one of these beginnings. -/
def wordsBehind (starts : List String) (steps : List Step) : List String :=
  (steps.map headText).filterMap (wordBehind? starts)

/-- The types that the steps define. -/
def typesOf : List Step → List String :=
  wordsBehind ["pub struct ", "pub enum ", "pub trait "]

/-- The functions and constants that the steps define; a struct without fields is its own value. -/
def valuesOf : List Step → List String :=
  wordsBehind ["pub struct ", "fn ", "pub static "]

/-- The steps in the blocks with that header. -/
def bodyOf (header : String) (steps : List Step) : List Step :=
  steps.flatMap fun
    | .block found body => if found = header then body else []
    | _ => []

/-- The keys of the tables, and what else is defined under their type. -/
def keyItemsOf (steps : List Step) : List String :=
  wordsBehind [""] (bodyOf "pub enum ProxyInterface" steps) ++
    wordsBehind ["pub const ", "pub fn "] (bodyOf "impl ProxyInterface" steps)

theorem wordBehind?_eq_none {starts : List String} {line : String}
    (fails : ∀ start ∈ starts, afterStartOf? start.toList line.toList = none) :
    wordBehind? starts line = none := by
  refine List.findSome?_eq_none_iff.mpr fun start member => ?_
  have unread : expect start line.toList = none := by
    rw [expect, fails start member]
    rfl
  rw [Text.read_bind_none unread]
  rfl

theorem wordBehind?_cons_of_fails {start line : String} {others : List String}
    (fails : afterStartOf? start.toList line.toList = none) :
    wordBehind? (start :: others) line = wordBehind? others line := by
  have noWord : wordBehind? [start] line = none :=
    wordBehind?_eq_none fun _ member => List.mem_singleton.mp member ▸ fails
  rw [wordBehind?] at noWord ⊢
  rw [← List.singleton_append, List.findSome?_append, noWord, Option.none_or]
  rfl

/-- A line has the word that stands between the first beginning and a mark. -/
theorem wordBehind?_cons_of_behind {start word : String} (isWord : IsWord word) (ending : String)
    (stops : ending.toList.head?.map isWordCharacter = some false) (others : List String) :
    wordBehind? (start :: others) (start ++ (word ++ ending)) = some word := by
  have read : (do expect start; readWhile isWordCharacter : LineReader String)
      (start ++ (word ++ ending)).toList = some (word, ending.toList) := by
    rw [String.toList_append, String.toList_append, Text.read_bind (Text.expect_append _ _)]
    simpa using isWord.read stops []
  rw [wordBehind?, List.findSome?_cons, read]
  rfl

/-- The beginnings are those of definitions, visible or not. -/
def BeginDefinitions (starts : List String) : Prop :=
  ∀ start ∈ starts, start.toList.head? = some 'p' ∨ start.toList.head? = some 'f'

instance (starts : List String) : Decidable (BeginDefinitions starts) :=
  inferInstanceAs (Decidable (∀ start ∈ starts, _ ∨ _))

/-- A line that begins with any other character defines nothing, and nor does an empty one. -/
theorem BeginDefinitions.wordBehind?_eq_none {starts : List String} {line : String}
    (begin : BeginDefinitions starts) (notVisible : line.toList.head? ≠ some 'p')
    (noFunction : line.toList.head? ≠ some 'f') : wordBehind? starts line = none := by
  refine Registry.wordBehind?_eq_none fun start member => ?_
  cases characters : start.toList with
  | nil => simpa [characters] using begin start member
  | cons first rest =>
      cases others : line.toList with
      | nil => rfl
      | cons next tail =>
          have isFirst : first = 'p' ∨ first = 'f' := by
            simpa [characters] using begin start member
          have differ : first ≠ next := by
            rintro rfl
            rw [others] at notVisible noFunction
            rcases isFirst with rfl | rfl
            · exact notVisible rfl
            · exact noFunction rfl
          rw [afterStartOf?, if_neg differ]

theorem BeginDefinitions.wordBehind?_ofList {starts : List String}
    (begin : BeginDefinitions starts) (first : Char) (rest : List Char)
    (differs : first ≠ 'p' ∧ first ≠ 'f') :
    wordBehind? starts (String.ofList (first :: rest)) = none :=
  begin.wordBehind?_eq_none (by simpa using differs.1) (by simpa using differs.2)

theorem wordsBehind_append (starts : List String) (first second : List Step) :
    wordsBehind starts (first ++ second) =
      wordsBehind starts first ++ wordsBehind starts second := by
  simp [wordsBehind]

theorem wordsBehind_flatMap {α : Type} (starts : List String) (inputs : List α)
    (steps : α → List Step) :
    wordsBehind starts (inputs.flatMap steps) =
      inputs.flatMap fun input => wordsBehind starts (steps input) := by
  simp [wordsBehind, List.map_flatMap, List.filterMap_flatMap]

theorem wordsBehind_cons (starts : List String) (step : Step) (rest : List Step) :
    wordsBehind starts (step :: rest) =
      (wordBehind? starts (headText step)).toList ++ wordsBehind starts rest := by
  rw [wordsBehind, List.map_cons, List.filterMap_cons]
  cases wordBehind? starts (headText step) <;> rfl

/-- Rows of a table, which begin with a blank, define nothing. -/
theorem BeginDefinitions.wordsBehind_rows {α : Type} {starts : List String} {inputs : List α}
    {line : α → String} (begin : BeginDefinitions starts)
    (isRow : ∀ input, (line input).toList.head? = some ' ') :
    wordsBehind starts (inputs.map fun input => .line (line input)) = [] := by
  rw [wordsBehind, List.map_map, List.filterMap_map, List.filterMap_eq_nil_iff]
  intro input _
  exact begin.wordBehind?_eq_none (by simp [headText, isRow]) (by simp [headText, isRow])

/-- Lines with one word each have these words. -/
theorem wordsBehind_lines {α : Type} {starts : List String} {inputs : List α}
    {line word : α → String}
    (hasWord : ∀ input ∈ inputs, wordBehind? starts (line input) = some (word input)) :
    wordsBehind starts (inputs.map fun input => .line (line input)) = inputs.map word := by
  rw [wordsBehind, List.map_map, List.filterMap_map, ← List.filterMap_eq_map]
  exact List.filterMap_congr hasWord

theorem flatMap_wordBehind? {α : Type} {starts : List String} {inputs : List α}
    {line word : α → String}
    (hasWord : ∀ input ∈ inputs, wordBehind? starts (line input) = some (word input)) :
    (inputs.flatMap fun input => (wordBehind? starts (line input)).toList) = inputs.map word := by
  rw [List.map_eq_flatMap]
  exact List.flatMap_congr fun input member => by rw [hasWord input member]; rfl

/-! ### Lookup tables -/

/-- The names that the tables define behind such beginnings; only the functions vary with the
entries. -/
theorem wordsBehind_layout {starts : List String} (begin : BeginDefinitions starts)
    (runtimePath : String) (registry : Registry) :
    wordsBehind starts (registry.layout runtimePath) =
      (wordBehind? starts "pub enum ProxyInterface").toList ++
      (wordBehind? starts "pub trait Proxied").toList ++
      registry.entries.flatMap (fun entry =>
        (wordBehind? starts
          ("fn " ++ entry.factoryName ++ "() -> Box<dyn std::any::Any>")).toList) ++
      (wordBehind? starts ("pub static PROXY_FACTORIES: &[(ProxyInterface, " ++ runtimePath ++
        "::ProxyFactory)] = &[")).toList ++
      (wordBehind? starts "pub struct ProxyProvider;").toList := by
  have nothing : ∀ {line : String}, line.toList.head? ≠ some 'p' → line.toList.head? ≠ some 'f' →
      wordBehind? starts line = none := begin.wordBehind?_eq_none
  have noBlock : ∀ interface, wordBehind? starts ("impl Proxied for dyn " ++ interface) = none :=
    fun _ => nothing (by simp) (by simp)
  have noRows : wordsBehind starts (registry.entries.map fun entry =>
      .line ("    (ProxyInterface::" ++ entry.simpleName ++ ", " ++ entry.factoryName ++ "),")) =
        [] :=
    begin.wordsBehind_rows fun entry => by simp
  have empty : wordsBehind starts [] = [] := rfl
  have noBlank : wordBehind? starts "" = none := nothing (by simp) (by simp)
  simp only [layout, keyLayout, proxiedLayout, factoriesLayout, factoryTableLayout, providerLayout,
    wordsBehind_append, wordsBehind_cons, wordsBehind_flatMap, noRows, headText, empty, noBlock,
    noBlank]
  -- comments, attributes, blocks and the end of a table
  repeat rw [begin.wordBehind?_ofList '/' _ (by decide)]
  repeat rw [begin.wordBehind?_ofList 'i' _ (by decide)]
  rw [begin.wordBehind?_ofList '#' _ (by decide), begin.wordBehind?_ofList ']' _ (by decide)]
  simp

theorem typesOf_layout (runtimePath : String) (registry : Registry) :
    typesOf (registry.layout runtimePath) = ["ProxyInterface", "Proxied", "ProxyProvider"] := by
  have noFunctions : (registry.entries.flatMap fun entry =>
      (wordBehind? ["pub struct ", "pub enum ", "pub trait "]
        ("fn " ++ entry.factoryName ++ "() -> Box<dyn std::any::Any>")).toList) = [] := by
    refine List.flatMap_eq_nil_iff.mpr fun entry _ => ?_
    rw [wordBehind?_eq_none, Option.toList_none]
    intro start member
    rw [String.toList_append, String.toList_append, List.append_assoc]
    fin_cases member <;> rfl
  have noStatic : wordBehind? ["pub struct ", "pub enum ", "pub trait "]
      ("pub static PROXY_FACTORIES: &[(ProxyInterface, " ++ runtimePath ++
        "::ProxyFactory)] = &[") = none := by
    refine wordBehind?_eq_none fun start member => ?_
    rw [String.toList_append, String.toList_append, List.append_assoc]
    fin_cases member <;> rfl
  rw [typesOf, wordsBehind_layout (by decide), noFunctions, noStatic, wordBehind?, wordBehind?,
    wordBehind?]
  repeat rw [String.toList_ofList]
  decide +kernel

theorem valuesOf_layout (runtimePath : String) {registry : Registry}
    (areWords : ∀ entry ∈ registry.entries, IsWord entry.factoryName) :
    valuesOf (registry.layout runtimePath) =
      registry.entries.map Entry.factoryName ++ ["PROXY_FACTORIES", "ProxyProvider"] := by
  have functions : (registry.entries.flatMap fun entry =>
      (wordBehind? ["pub struct ", "fn ", "pub static "]
        ("fn " ++ entry.factoryName ++ "() -> Box<dyn std::any::Any>")).toList) =
      registry.entries.map Entry.factoryName := by
    refine flatMap_wordBehind? fun entry stored => ?_
    rw [String.append_assoc, wordBehind?_cons_of_fails (by rw [String.toList_append]; rfl)]
    exact wordBehind?_cons_of_behind (areWords entry stored) _ (by decide) _
  have isStatic : wordBehind? ["pub struct ", "fn ", "pub static "]
      ("pub static PROXY_FACTORIES: &[(ProxyInterface, " ++ runtimePath ++
        "::ProxyFactory)] = &[") = some "PROXY_FACTORIES" := by
    have cut : "pub static PROXY_FACTORIES: &[(ProxyInterface, " ++ runtimePath ++
        "::ProxyFactory)] = &[" = "pub static " ++ ("PROXY_FACTORIES" ++
          (": &[(ProxyInterface, " ++ runtimePath ++ "::ProxyFactory)] = &[")) := by
      simp [← String.toList_inj]
    rw [cut, wordBehind?_cons_of_fails (by rw [String.toList_append]; rfl),
      wordBehind?_cons_of_fails (by rw [String.toList_append]; rfl)]
    exact wordBehind?_cons_of_behind (by decide) _ (by simp; decide) _
  rw [valuesOf, wordsBehind_layout (by decide), functions, isStatic]
  have others : wordBehind? ["pub struct ", "fn ", "pub static "] "pub enum ProxyInterface" = none ∧
      wordBehind? ["pub struct ", "fn ", "pub static "] "pub trait Proxied" = none ∧
      wordBehind? ["pub struct ", "fn ", "pub static "] "pub struct ProxyProvider;" =
        some "ProxyProvider" := by
    rw [wordBehind?, wordBehind?, wordBehind?]
    repeat rw [String.toList_ofList]
    decide +kernel
  simp [others]

/-- Behind the enumeration and the block of its items there is no further block with such a
header. -/
theorem bodyOf_layout {header : String}
    (isHeader : header ∈ ["pub enum ProxyInterface", "impl ProxyInterface"])
    (runtimePath : String) (registry : Registry) :
    bodyOf header (registry.layout runtimePath) =
      bodyOf header (registry.keyLayout ++ [.block "impl ProxyInterface"
        (registry.allKeysLayout ++ [.blank] ++ registry.keyNamesLayout)]) := by
  have notProxied : ∀ interface, "impl Proxied for dyn " ++ interface ≠ header := by
    intro interface
    rw [ne_eq, ← String.toList_inj]
    fin_cases isHeader <;> simp
  have notFunction : ∀ rest, "fn " ++ rest ≠ header := by
    intro rest
    rw [ne_eq, ← String.toList_inj]
    fin_cases isHeader <;> simp
  have others : "impl std::fmt::Display for ProxyInterface" ≠ header ∧
      "pub trait Proxied" ≠ header ∧ "impl ProxyProvider" ≠ header := by
    fin_cases isHeader <;> decide
  have nothing : ∀ entries : List Entry, (entries.flatMap fun _ => ([] : List Step)) = [] := by
    simp
  simp [bodyOf, layout, keyLayout, proxiedLayout, factoriesLayout, factoryTableLayout,
    providerLayout, List.flatMap_assoc, List.flatMap_map, String.append_assoc, notProxied,
    notFunction, others, nothing]

theorem keyItemsOf_layout (runtimePath : String) {registry : Registry}
    (areWords : ∀ entry ∈ registry.entries, IsWord entry.simpleName) :
    keyItemsOf (registry.layout runtimePath) = registry.entries.map Entry.simpleName ++
      ["ALL", "qualified_name", "from_qualified_name"] := by
  have keys : wordsBehind [""] (bodyOf "pub enum ProxyInterface" (registry.layout runtimePath)) =
      registry.entries.map Entry.simpleName := by
    rw [bodyOf_layout (by decide)]
    have body : bodyOf "pub enum ProxyInterface" (registry.keyLayout ++
        [.block "impl ProxyInterface"
          (registry.allKeysLayout ++ [.blank] ++ registry.keyNamesLayout)]) =
        registry.entries.map fun entry => .line (entry.simpleName ++ ",") := by
      simp [bodyOf, keyLayout]
    rw [body]
    refine wordsBehind_lines fun entry stored => ?_
    have isKey : wordBehind? [""] ("" ++ (entry.simpleName ++ ",")) = some entry.simpleName :=
      wordBehind?_cons_of_behind (areWords entry stored) "," (by decide) []
    rwa [String.empty_append] at isKey
  have items : wordsBehind ["pub const ", "pub fn "]
      (bodyOf "impl ProxyInterface" (registry.layout runtimePath)) =
      ["ALL", "qualified_name", "from_qualified_name"] := by
    rw [bodyOf_layout (by decide)]
    have body : bodyOf "impl ProxyInterface" (registry.keyLayout ++
        [.block "impl ProxyInterface"
          (registry.allKeysLayout ++ [.blank] ++ registry.keyNamesLayout)]) =
        registry.allKeysLayout ++ [.blank] ++ registry.keyNamesLayout := by
      simp [bodyOf, keyLayout]
    have noRows : wordsBehind ["pub const ", "pub fn "] (registry.entries.map fun entry =>
        .line ("    ProxyInterface::" ++ entry.simpleName ++ ",")) = [] :=
      BeginDefinitions.wordsBehind_rows (by decide) fun entry => by simp
    rw [body]
    simp only [allKeysLayout, keyNamesLayout, wordsBehind_append, wordsBehind_cons, headText,
      noRows, wordBehind?]
    repeat rw [String.toList_ofList]
    decide +kernel
  rw [keyItemsOf, keys, items]

/-! ### Proxies -/

/-- The steps of a file with these proxies and the tables of a registry. -/
def fileLayout (runtimePath : String) (requests : List ProxyRequest) (registry : Registry) :
    List Step :=
  (requests.flatMap fun request => request.layout runtimePath ++ [.blank]) ++
    registry.layout runtimePath

/-- A proxy and the blocks that belong to it define the type of the proxy and nothing else. -/
theorem BeginDefinitions.wordsBehind_request {starts : List String}
    (begin : BeginDefinitions starts) (runtimePath : String) (request : ProxyRequest) :
    wordsBehind starts (request.layout runtimePath ++ [.blank]) =
      (wordBehind? starts ("pub struct " ++ request.proxy ++ ";")).toList := by
  have nothing : ∀ {line : String}, line.toList.head? ≠ some 'p' → line.toList.head? ≠ some 'f' →
      wordBehind? starts line = none := begin.wordBehind?_eq_none
  have noImplementation : ∀ rest, wordBehind? starts ("impl " ++ rest) = none :=
    fun _ => nothing (by simp) (by simp)
  have noDescription : wordBehind? starts
      ("/// Generated proxy for `" ++ request.interface.name ++ "`.") = none :=
    nothing (by simp) (by simp)
  have noInherentItems : wordsBehind starts request.inherentLayout = [] := by
    rw [ProxyRequest.inherentLayout]
    cases request.inherentItems with
    | none => rfl
    | some items =>
        rw [wordsBehind_cons, wordsBehind_cons, headText, headText, noImplementation,
          nothing (by decide) (by decide)]
        rfl
  have noTraitBlocks : (request.interface.traitBlocks.flatMap fun traitBlock => wordsBehind starts
      [.blank, traitBlock.layout runtimePath request.proxy request.target]) = [] := by
    refine List.flatMap_eq_nil_iff.mpr fun traitBlock _ => ?_
    have noTraitBlock : wordBehind? starts
        (headText (traitBlock.layout runtimePath request.proxy request.target)) = none := by
      rw [TraitBlock.layout]
      split <;> simp only [headText, String.append_assoc, noImplementation]
    rw [wordsBehind_cons, wordsBehind_cons, noTraitBlock, headText, nothing (by decide) (by decide)]
    rfl
  have empty : wordsBehind starts [] = [] := rfl
  rw [ProxyRequest.layout, wordsBehind_append, wordsBehind_append, wordsBehind_append,
    wordsBehind_flatMap, noInherentItems, noTraitBlocks]
  simp (disch := decide) only [wordsBehind_cons, noDescription, headText, empty, nothing]
  simp

/-- In a file the names of proxies stand before those of the tables. -/
theorem wordsBehind_fileLayout {others : List String}
    (begin : BeginDefinitions ("pub struct " :: others)) (runtimePath : String)
    {requests : List ProxyRequest} (areWords : ∀ request ∈ requests, IsWord request.proxy)
    (registry : Registry) :
    wordsBehind ("pub struct " :: others) (fileLayout runtimePath requests registry) =
      requests.map ProxyRequest.proxy ++
        wordsBehind ("pub struct " :: others) (registry.layout runtimePath) := by
  rw [fileLayout, wordsBehind_append, wordsBehind_flatMap]
  simp only [begin.wordsBehind_request]
  rw [flatMap_wordBehind?]
  intro request member
  rw [String.append_assoc]
  exact wordBehind?_cons_of_behind (areWords request member) _ (by decide) _

/-- The steps stand for the text of a file below its heading. -/
theorem text_fileLayout (runtimePath : String) (requests : List ProxyRequest)
    (registry : Registry) :
    Layout.text (fileLayout runtimePath requests registry) =
      String.join (requests.map fun request => request.sourceText runtimePath ++ "\n") ++
        registry.sourceText runtimePath := by
  have ofRequest : ∀ request : ProxyRequest,
      Layout.renderAll 0 (request.layout runtimePath ++ [.blank]) =
        request.sourceText runtimePath ++ "\n" := by
    intro request
    rw [Layout.renderAll_append, ProxyRequest.sourceText, Layout.text_eq]
    rfl
  rw [Layout.text_eq, fileLayout, Layout.renderAll_append, Layout.renderAll_flatMap]
  simp only [ofRequest]
  rw [sourceText, Layout.text_eq]

end ForwardingProxy.Registry
