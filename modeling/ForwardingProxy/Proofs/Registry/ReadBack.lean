import ForwardingProxy.Proofs.Registry.Words

/-!
Contract: the tables of a registry, read back from its text.

Owns: for each part of the text the lines that it consists of and the fact that its table is read
from them, and `readTables?_sourceText`, which joins them.

Each part has a law of its own, so that a change of one part is a change of one law.
-/

namespace ForwardingProxy.Registry

open Layout Text

/-- The trait object of an entry's interface with its proxy behind it. -/
def Entry.boxed (entry : Entry) : Boxed :=
  ⟨entry.interface, entry.proxy⟩

/-! ### Rows -/

section Rows

variable {entry : Entry} (named : entry.Named)
include named

theorem keyRow_line :
    wholeLine? keyRow (lineAt 1 (entry.simpleName ++ ",")).toList = some entry.simpleName := by
  have isWord := named.simpleName
  have isLine : lineAt 1 (entry.simpleName ++ ",") = "    " ++ (entry.simpleName ++ ",") := by
    rw [lineAt_append isWord.notEmpty, String.append_assoc]
    rfl
  rw [isLine]
  exact isWord.readBetween (by decide) "    "

theorem allRow_line :
    wholeLine? allRow (lineAt 1 ("    ProxyInterface::" ++ entry.simpleName ++ ",")).toList =
      some entry.simpleName := by
  have isLine : lineAt 1 ("    ProxyInterface::" ++ entry.simpleName ++ ",") =
      "        ProxyInterface::" ++ (entry.simpleName ++ ",") := by
    rw [String.append_assoc]
    exact lineAt_append (by decide) _
  rw [isLine]
  exact named.simpleName.readBetween (by decide) "        ProxyInterface::"

theorem nameRow_line :
    wholeLine? nameRow (lineAt 3 ("ProxyInterface::" ++ entry.simpleName ++ " => "
      ++ quoted entry.interface ++ ",")).toList = some (entry.simpleName, entry.interface) := by
  have isLine : lineAt 3 ("ProxyInterface::" ++ entry.simpleName ++ " => "
      ++ quoted entry.interface ++ ",") =
        "            ProxyInterface::" ++
          (entry.simpleName ++ (" => " ++ (quoted entry.interface ++ ("," ++ "")))) := by
    simp only [String.append_assoc]
    exact lineAt_append (by decide) _
  apply wholeLine?_of_read
  simp only [isLine, String.toList_append]
  rw [nameRow, read_bind (expect_append _ _), read_bind (named.simpleName.read (by decide) _),
    read_bind (expect_append _ _), read_bind (readQuoted_append _ _),
    read_bind (expect_append _ _)]
  rfl

theorem proxiedHead_line :
    wholeLine? proxiedHead
        (lineAt 0 ("impl Proxied for dyn " ++ entry.interface ++ " \x7b")).toList =
      some entry.interface := by
  rw [lineAt_zero, String.append_assoc]
  exact wholeLine?_readBetween named.interface_notEmpty named.interface_characters (by decide)
    "impl Proxied for dyn "

theorem proxiedRow_line :
    wholeLine? proxiedRow
        (lineAt 1 ("const INTERFACE: ProxyInterface = ProxyInterface::" ++ entry.simpleName
          ++ ";")).toList = some entry.simpleName := by
  have isLine : lineAt 1 ("const INTERFACE: ProxyInterface = ProxyInterface::" ++ entry.simpleName
      ++ ";") = "    const INTERFACE: ProxyInterface = ProxyInterface::" ++
        (entry.simpleName ++ ";") := by
    rw [String.append_assoc]
    exact lineAt_append (by decide) _
  rw [isLine]
  exact named.simpleName.readBetween (by decide)
    "    const INTERFACE: ProxyInterface = ProxyInterface::"

theorem functionHead_line :
    wholeLine? functionHead
        (lineAt 0 ("fn " ++ entry.factoryName ++ "() -> Box<dyn std::any::Any>"
          ++ " \x7b")).toList = some entry.factoryName := by
  rw [lineAt_zero, String.append_assoc, String.append_assoc]
  exact named.factoryName.readBetween (by decide) "fn "

theorem functionRow_line :
    wholeLine? functionRow
        (lineAt 1 ("let proxy: Box<dyn " ++ entry.interface ++ "> = Box::new(" ++ entry.proxy
          ++ ");")).toList = some entry.boxed := by
  have isLine : lineAt 1 ("let proxy: Box<dyn " ++ entry.interface ++ "> = Box::new("
      ++ entry.proxy ++ ");") = "    let proxy: Box<dyn " ++
        (entry.interface ++ ("> = Box::new(" ++ (entry.proxy ++ (");" ++ "")))) := by
    simp only [String.append_assoc]
    exact lineAt_append (by decide) _
  apply wholeLine?_of_read
  simp only [isLine, String.toList_append]
  rw [functionRow, read_bind (expect_append _ _), read_bind (named.interface_read (by decide) _),
    read_bind (expect_append _ _), read_bind (named.proxy.read (by decide) _),
    read_bind (expect_append _ _)]
  rfl

theorem factoryRow_line :
    wholeLine? factoryRow
        (lineAt 0 ("    (ProxyInterface::" ++ entry.simpleName ++ ", " ++ entry.factoryName
          ++ "),")).toList = some (entry.simpleName, entry.factoryName) := by
  have isLine : lineAt 0 ("    (ProxyInterface::" ++ entry.simpleName ++ ", "
      ++ entry.factoryName ++ "),") = "    (ProxyInterface::" ++
        (entry.simpleName ++ (", " ++ (entry.factoryName ++ ("),"  ++ "")))) := by
    simp only [String.append_assoc]
    exact lineAt_append (by decide) _
  apply wholeLine?_of_read
  simp only [isLine, String.toList_append]
  rw [factoryRow, read_bind (expect_append _ _), read_bind (named.simpleName.read (by decide) _),
    read_bind (expect_append _ _), read_bind (named.factoryName.read (by decide) _),
    read_bind (expect_append _ _)]
  rfl

end Rows

/-! ### Tables -/

section Parts

variable (registry : Registry)

theorem keyLayout_lines :
    programLines 0 registry.keyLayout =
      ["/// Interfaces with a generated proxy.",
        "#[derive(Debug, Clone, Copy, PartialEq, Eq, Hash)]"] ++
      "pub enum ProxyInterface \x7b" ::
        (registry.entries.map (fun entry => lineAt 1 (entry.simpleName ++ ",")) ++ ["\x7d"]) := by
  simp only [keyLayout, programLines, stepLines, programLines_map_line, List.append_nil]
  rfl

theorem allKeysLayout_lines :
    programLines 1 registry.allKeysLayout =
      ["    /// Every interface, in registration order."] ++
      "    pub const ALL: &'static [ProxyInterface] = &[" ::
        (registry.entries.map
          (fun entry => lineAt 1 ("    ProxyInterface::" ++ entry.simpleName ++ ",")) ++
        ["    ];"]) := by
  simp only [allKeysLayout, programLines, stepLines, programLines_append, programLines_map_line,
    List.append_nil]
  rfl

theorem keyNamesLayout_lines :
    programLines 1 registry.keyNamesLayout =
      ["    pub fn qualified_name(self) -> &'static str \x7b"] ++
      "        match self \x7b" ::
        (registry.entries.map (fun entry => lineAt 3 ("ProxyInterface::" ++ entry.simpleName
          ++ " => " ++ quoted entry.interface ++ ",")) ++ ["        \x7d"]) ++
      (["    \x7d", ""] ++
        "    pub fn from_qualified_name(name: &str) -> Option<Self> \x7b" ::
          ["        Self::ALL", "            .iter()", "            .copied()",
            "            .find(|interface| interface.qualified_name() == name)", "    \x7d"]) := by
  simp only [keyNamesLayout, programLines, stepLines, programLines_map_line, List.append_nil,
    List.append_assoc, List.cons_append, List.nil_append]
  rfl

theorem proxiedLayout_lines :
    programLines 0 registry.proxiedLayout =
      ["impl std::fmt::Display for ProxyInterface \x7b",
        "    fn fmt(&self, f: &mut std::fmt::Formatter<'_>) -> std::fmt::Result \x7b",
        "        f.write_str(self.qualified_name())",
        "    \x7d",
        "\x7d",
        "",
        "/// Ties a trait object type to its registry key."] ++
      "pub trait Proxied \x7b" ::
        (["    const INTERFACE: ProxyInterface;"] ++ "\x7d" ::
          registry.entries.flatMap fun entry =>
            ["", lineAt 0 ("impl Proxied for dyn " ++ entry.interface ++ " \x7b"),
              lineAt 1 ("const INTERFACE: ProxyInterface = ProxyInterface::" ++ entry.simpleName
                ++ ";"), "\x7d"]) := by
  simp only [proxiedLayout, programLines, stepLines, programLines_flatMap, List.append_nil,
    List.cons_append, List.nil_append]
  rfl

theorem factoriesLayout_lines :
    programLines 0 registry.factoriesLayout =
      registry.entries.flatMap fun entry =>
        ["", lineAt 0 ("fn " ++ entry.factoryName ++ "() -> Box<dyn std::any::Any>" ++ " \x7b"),
          lineAt 1 ("let proxy: Box<dyn " ++ entry.interface ++ "> = Box::new(" ++ entry.proxy
            ++ ");"), "    Box::new(proxy)", "\x7d"] := by
  simp only [factoriesLayout, programLines, stepLines, programLines_flatMap, List.append_nil,
    List.cons_append, List.nil_append]
  rfl

theorem factoryTableLayout_lines (runtimePath : String) :
    programLines 0 (factoryTableLayout runtimePath registry) =
      ["/// Factory of every generated proxy, keyed by interface."] ++
      ("pub static PROXY_FACTORIES: &[(ProxyInterface, " ++ runtimePath
        ++ "::ProxyFactory)] = &[") ::
        (registry.entries.map (fun entry => lineAt 0 ("    (ProxyInterface::" ++ entry.simpleName
          ++ ", " ++ entry.factoryName ++ "),")) ++ ["];"]) := by
  simp only [factoryTableLayout, programLines, stepLines, programLines_append,
    programLines_map_line, lineAt_zero, List.append_nil, List.cons_append, List.nil_append]

variable {registry}

variable (named : ∀ entry ∈ registry.entries, entry.Named) (rest : List (List Char))
include named

theorem keyTable_read :
    table "pub enum ProxyInterface \x7b" "\x7d" keyRow
        ((programLines 0 registry.keyLayout).map String.toList ++ rest) =
      some (registry.entries.map Entry.simpleName, rest) := by
  rw [keyLayout_lines]
  exact table_read (by simp) (fun entry stored => keyRow_line (named entry stored)) (by decide)
    rest

theorem allTable_read {before : List String}
    (notBefore : "    pub const ALL: &'static [ProxyInterface] = &[" ∉ before) :
    table "    pub const ALL: &'static [ProxyInterface] = &[" "    ];" allRow
        ((before ++ programLines 1 registry.allKeysLayout).map String.toList ++ rest) =
      some (registry.entries.map Entry.simpleName, rest) := by
  rw [allKeysLayout_lines, ← List.append_assoc]
  exact table_read (List.not_mem_append notBefore (by simp))
    (fun entry stored => allRow_line (named entry stored)) (by decide) rest

theorem namesTable_read {before : List String} (notBefore : "        match self \x7b" ∉ before) :
    namesTable ((before ++ programLines 1 registry.keyNamesLayout).map String.toList ++ rest) =
      some (registry.entries.map (fun entry => (entry.simpleName, entry.interface)), rest) := by
  rw [keyNamesLayout_lines, ← List.append_assoc, ← List.append_assoc before, List.map_append,
    List.append_assoc, namesTable, read_bind (table_read
      (List.not_mem_append notBefore (by simp))
      (fun entry stored => nameRow_line (named entry stored)) (by decide) _),
    read_bind (skipPast_append (by simp) _ _), read_bind (expectLines_append _ _)]
  rfl

theorem proxiedTable_read {before : List String} (notBefore : "pub trait Proxied \x7b" ∉ before)
    (stops : proxiedBlock rest = none) :
    proxiedTable ((before ++ programLines 0 registry.proxiedLayout).map String.toList ++ rest) =
      some (registry.entries.map (fun entry => (entry.interface, entry.simpleName)), rest) := by
  rw [proxiedLayout_lines, ← List.append_assoc, proxiedTable,
    read_bind (skipPast_append (List.not_mem_append notBefore (by simp)) _ _),
    read_bind (skipPast_append (by simp) _ _)]
  refine pieces_flatMap (fun entry stored more => ?_) stops
  have head := proxiedHead_line (named entry stored)
  have key := proxiedRow_line (named entry stored)
  simp only [List.map_cons, List.map_nil, List.cons_append, List.nil_append]
  rw [proxiedBlock, read_bind (expectLine_cons _ _), read_bind (row_cons head _),
    read_bind (row_cons key _), read_bind (expectLine_cons _ _)]
  rfl

theorem functions_read (stops : functionBlock rest = none) :
    pieces functionBlock
        ((programLines 0 registry.factoriesLayout).map String.toList ++ rest) =
      some (registry.entries.map (fun entry => (entry.factoryName, entry.boxed)), rest) := by
  rw [factoriesLayout_lines]
  refine pieces_flatMap (fun entry stored more => ?_) stops
  have head := functionHead_line (named entry stored)
  have built := functionRow_line (named entry stored)
  simp only [List.map_cons, List.map_nil, List.cons_append, List.nil_append]
  rw [functionBlock, read_bind (expectLine_cons _ _), read_bind (row_cons head _),
    read_bind (row_cons built _), read_bind (expectLine_cons _ _),
    read_bind (expectLine_cons _ _)]
  rfl

theorem factoryTable_read {runtimePath : String} {before : List String}
    (notBefore : ∀ line ∈ before, line.toList.head? ≠ some 'p') :
    table ("pub static PROXY_FACTORIES: &[(ProxyInterface, " ++ runtimePath
        ++ "::ProxyFactory)] = &[") "];" factoryRow
        ((before ++ programLines 0 (factoryTableLayout runtimePath registry)).map String.toList ++
          rest) =
      some (registry.entries.map (fun entry => (entry.simpleName, entry.factoryName)), rest) := by
  have startsHeading : ("pub static PROXY_FACTORIES: &[(ProxyInterface, " ++ runtimePath
      ++ "::ProxyFactory)] = &[").toList.head? = some 'p' := by
    rw [String.toList_append, String.toList_append, List.append_assoc]
    rfl
  have notHere : "pub static PROXY_FACTORIES: &[(ProxyInterface, " ++ runtimePath
      ++ "::ProxyFactory)] = &[" ∉
        before ++ ["/// Factory of every generated proxy, keyed by interface."] := by
    refine List.not_mem_append (fun isBefore => notBefore _ isBefore startsHeading) fun isHere => ?_
    rw [List.mem_singleton.mp isHere, String.toList_ofList] at startsHeading
    cases startsHeading
  rw [factoryTableLayout_lines, ← List.append_assoc]
  exact table_read notHere (fun entry stored => factoryRow_line (named entry stored)) (by decide)
    rest

end Parts

/-! ### Ends of tables -/

section Ends

variable (runtimePath : String) (registry : Registry) (rest : List (List Char))

theorem functionBlock_stops :
    functionBlock (([""] ++ programLines 0 (factoryTableLayout runtimePath registry)).map
      String.toList ++ rest) = none := by
  rw [factoryTableLayout_lines]
  simp only [List.map_cons, List.cons_append, List.nil_append]
  rw [functionBlock, read_bind (expectLine_cons _ _),
    read_bind_none (row_cons_none (by rw [String.toList_ofList]; decide) _)]

theorem proxiedBlock_stops :
    proxiedBlock ((programLines 0 registry.factoriesLayout).map String.toList ++
      (([""] ++ programLines 0 (factoryTableLayout runtimePath registry)).map String.toList ++
        rest)) = none := by
  rw [factoriesLayout_lines, factoryTableLayout_lines, proxiedBlock]
  -- without entries the table of factories follows, else the first factory function
  cases registry.entries with
  | nil =>
      rw [List.flatMap_nil]
      simp only [List.map_nil, List.map_cons, List.cons_append, List.nil_append]
      rw [read_bind (expectLine_cons _ _), read_bind_none (row_cons_none (by rw [String.toList_ofList]; decide) _)]
  | cons entry entries =>
      have notHead : wholeLine? proxiedHead (lineAt 0 ("fn " ++ entry.factoryName
          ++ "() -> Box<dyn std::any::Any>" ++ " \x7b")).toList = none := by
        apply wholeLine?_of_unread
        rw [lineAt_zero]
        simp only [String.toList_append, List.append_assoc]
        exact read_bind_none rfl
      rw [List.flatMap_cons]
      simp only [List.map_cons, List.cons_append]
      rw [read_bind (expectLine_cons _ _), read_bind_none (row_cons_none notHead _)]

end Ends

/-! ### Lines -/

section Lines

variable {registry : Registry} (named : ∀ entry ∈ registry.entries, entry.Named)
include named

theorem keyLayout_oneLine : ∀ line ∈ programLines 0 registry.keyLayout, IsOneLine line := by
  rw [keyLayout_lines]
  refine isOneLine_of_mem_table ?_ fun entry stored => isOneLine_lineAt ?_
  · and_intros <;> exact isOneLine_ofList (by decide)
  · have isName := (named entry stored).simpleName.isOneLine
    exact isOneLine_append.mpr ⟨isName, isOneLine_ofList (by decide)⟩

theorem allKeysLayout_oneLine :
    ∀ line ∈ programLines 1 registry.allKeysLayout, IsOneLine line := by
  rw [allKeysLayout_lines]
  refine isOneLine_of_mem_table ?_ fun entry stored => isOneLine_lineAt ?_
  · and_intros <;> exact isOneLine_ofList (by decide)
  · have isName := (named entry stored).simpleName.isOneLine
    simp only [isOneLine_append, and_assoc]
    exact ⟨isOneLine_ofList (by decide), isName, isOneLine_ofList (by decide)⟩

theorem keyNamesLayout_oneLine :
    ∀ line ∈ programLines 1 registry.keyNamesLayout, IsOneLine line := by
  rw [keyNamesLayout_lines, List.forall_mem_append]
  refine ⟨isOneLine_of_mem_table ?_ fun entry stored => isOneLine_lineAt ?_,
    List.forall_iff_forall_mem.mp ?_⟩
  · and_intros <;> exact isOneLine_ofList (by decide)
  · have isName := (named entry stored).simpleName.isOneLine
    have isLiteral := isOneLine_quoted entry.interface
    simp only [isOneLine_append, and_assoc]
    exact ⟨isOneLine_ofList (by decide), isName, isOneLine_ofList (by decide), isLiteral,
      isOneLine_ofList (by decide)⟩
  · and_intros <;> exact isOneLine_ofList (by decide)

theorem proxiedLayout_oneLine :
    ∀ line ∈ programLines 0 registry.proxiedLayout, IsOneLine line := by
  rw [proxiedLayout_lines]
  refine List.forall_mem_append.mpr ⟨List.forall_iff_forall_mem.mp ?_,
    List.forall_mem_cons.mpr ⟨isOneLine_ofList (by decide), List.forall_mem_cons.mpr
      ⟨isOneLine_ofList (by decide), List.forall_mem_cons.mpr ⟨isOneLine_ofList (by decide),
        List.forall_mem_flatMap.mpr fun entry stored => ?_⟩⟩⟩⟩
  · and_intros <;> exact isOneLine_ofList (by decide)
  · have isName := (named entry stored).simpleName.isOneLine
    have isInterface := (named entry stored).interface_isOneLine
    refine List.forall_iff_forall_mem.mp ⟨isOneLine_ofList (by decide), isOneLine_lineAt ?_,
      isOneLine_lineAt ?_, isOneLine_ofList (by decide)⟩
    · simp only [isOneLine_append, and_assoc]
      exact ⟨isOneLine_ofList (by decide), isInterface, isOneLine_ofList (by decide)⟩
    · simp only [isOneLine_append, and_assoc]
      exact ⟨isOneLine_ofList (by decide), isName, isOneLine_ofList (by decide)⟩

theorem factoriesLayout_oneLine :
    ∀ line ∈ programLines 0 registry.factoriesLayout, IsOneLine line := by
  rw [factoriesLayout_lines, List.forall_mem_flatMap]
  intro entry stored
  have isFactory := (named entry stored).factoryName.isOneLine
  have isInterface := (named entry stored).interface_isOneLine
  have isProxy := (named entry stored).proxy.isOneLine
  refine List.forall_iff_forall_mem.mp ⟨isOneLine_ofList (by decide), isOneLine_lineAt ?_,
    isOneLine_lineAt ?_, isOneLine_ofList (by decide), isOneLine_ofList (by decide)⟩
  · simp only [isOneLine_append, and_assoc]
    exact ⟨isOneLine_ofList (by decide), isFactory, isOneLine_ofList (by decide),
      isOneLine_ofList (by decide)⟩
  · simp only [isOneLine_append, and_assoc]
    exact ⟨isOneLine_ofList (by decide), isInterface, isOneLine_ofList (by decide), isProxy,
      isOneLine_ofList (by decide)⟩

theorem factoryTableLayout_oneLine {runtimePath : String} (isPath : IsOneLine runtimePath) :
    ∀ line ∈ programLines 0 (factoryTableLayout runtimePath registry), IsOneLine line := by
  rw [factoryTableLayout_lines]
  refine isOneLine_of_mem_table ⟨isOneLine_ofList (by decide), ?_, isOneLine_ofList (by decide)⟩
    fun entry stored => isOneLine_lineAt ?_
  · simp only [isOneLine_append, and_assoc]
    exact ⟨isOneLine_ofList (by decide), isPath, isOneLine_ofList (by decide)⟩
  · have isName := (named entry stored).simpleName.isOneLine
    have isFactory := (named entry stored).factoryName.isOneLine
    simp only [isOneLine_append, and_assoc]
    exact ⟨isOneLine_ofList (by decide), isName, isOneLine_ofList (by decide), isFactory,
      isOneLine_ofList (by decide)⟩

end Lines

/-! ### The whole text -/

/-- The tables that a registry stands for: in each of them one row for each entry, in the order of
registration. -/
def tables (registry : Registry) : Tables where
  keys := registry.entries.map Entry.simpleName
  all := registry.entries.map Entry.simpleName
  names := registry.entries.map fun entry => (entry.simpleName, entry.interface)
  proxied := registry.entries.map fun entry => (entry.interface, entry.simpleName)
  functions := registry.entries.map fun entry => (entry.factoryName, entry.boxed)
  factories := registry.entries.map fun entry => (entry.simpleName, entry.factoryName)

/-- The lines of the text up to the last table, each table with the lines before it. -/
def tableLines (runtimePath : String) (registry : Registry) : List String :=
  programLines 0 registry.keyLayout
    ++ (["", "impl ProxyInterface \x7b"] ++ programLines 1 registry.allKeysLayout)
    ++ ([""] ++ programLines 1 registry.keyNamesLayout)
    ++ (["\x7d", ""] ++ programLines 0 registry.proxiedLayout)
    ++ programLines 0 registry.factoriesLayout
    ++ ([""] ++ programLines 0 (factoryTableLayout runtimePath registry))

theorem sourceText_eq_joinLines (runtimePath : String) (registry : Registry) :
    registry.sourceText runtimePath = joinLines (tableLines runtimePath registry) ++
      joinLines (programLines 0 (.blank :: providerLayout runtimePath)) := by
  rw [← joinLines_append, sourceText, Layout.text_eq, renderAll_eq_joinLines]
  congr 1
  simp only [layout, tableLines, programLines_append, programLines, stepLines, List.append_assoc,
    List.cons_append, List.nil_append]
  rfl

section Text

variable {runtimePath : String} {registry : Registry}
  (named : ∀ entry ∈ registry.entries, entry.Named)
include named

theorem tableLines_oneLine (isPath : IsOneLine runtimePath) :
    ∀ line ∈ tableLines runtimePath registry, IsOneLine line := by
  simp only [tableLines, List.forall_mem_append]
  exact ⟨⟨⟨⟨⟨keyLayout_oneLine named, by decide, allKeysLayout_oneLine named⟩,
    by decide, keyNamesLayout_oneLine named⟩, by decide, proxiedLayout_oneLine named⟩,
    factoriesLayout_oneLine named⟩, by decide, factoryTableLayout_oneLine named isPath⟩

theorem readTables_tableLines (rest : List (List Char)) :
    readTables runtimePath ((tableLines runtimePath registry).map String.toList ++ rest) =
      some (registry.tables, rest) := by
  have isText : (tableLines runtimePath registry).map String.toList ++ rest =
      (programLines 0 registry.keyLayout).map String.toList ++
        ((["", "impl ProxyInterface \x7b"] ++ programLines 1 registry.allKeysLayout).map
          String.toList ++
        (([""] ++ programLines 1 registry.keyNamesLayout).map String.toList ++
        ((["\x7d", ""] ++ programLines 0 registry.proxiedLayout).map String.toList ++
        ((programLines 0 registry.factoriesLayout).map String.toList ++
        (([""] ++ programLines 0 (factoryTableLayout runtimePath registry)).map String.toList ++
          rest))))) := by
    simp only [tableLines, List.map_append, List.append_assoc]
  rw [isText, readTables, read_bind (keyTable_read named _),
    read_bind (allTable_read named _ (by simp)), read_bind (namesTable_read named _ (by simp)),
    read_bind (proxiedTable_read named _ (by simp) (proxiedBlock_stops runtimePath registry rest)),
    read_bind (functions_read named _ (functionBlock_stops runtimePath registry rest)),
    read_bind (factoryTable_read named _ (by decide))]
  rfl

/-- The tables are read back from the text. -/
theorem readTables?_sourceText (isPath : Config.isCodePath runtimePath = true) :
    readTables? runtimePath (registry.sourceText runtimePath) = some registry.tables := by
  have oneLine := tableLines_oneLine named (isOneLine_of_isCodePath isPath)
  rw [readTables?, sourceText_eq_joinLines, linePieces_joinLines oneLine,
    readTables_tableLines named]
  rfl

end Text

end ForwardingProxy.Registry
