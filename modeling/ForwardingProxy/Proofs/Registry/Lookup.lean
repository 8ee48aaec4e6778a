import ForwardingProxy.Proofs.Registry.ReadBack
import ForwardingProxy.Proofs.Registry.Registration
import Mathlib.Data.List.Find

/-!
Contract: what the tables of a generated file answer at run time.

Owns: searches in rows with distinct keys, the factories that a registry stands for, and the fact
that the tables in the text of a registry lead every registered name to its proxy and no other name
to any.

Keys, names and factory functions are looked up by their first hit. That the first hit is the right
one rests on the distinct names of a registry that registrations lead to.
-/

namespace ForwardingProxy.Registry

/-! ### Searches -/

section Searches

variable {entries : List Entry} {key : Entry → String} {entry : Entry}

theorem find?_key_of_mem (distinct : (entries.map key).Nodup) (stored : entry ∈ entries) :
    entries.find? (fun other => key other == key entry) = some entry := by
  cases found : entries.find? fun other => key other == key entry with
  | none =>
      have differs := List.find?_eq_none.mp found entry stored
      simp at differs
  | some other =>
      have sameKey : key other = key entry := by simpa using List.find?_some found
      have isStored := List.mem_of_find?_eq_some found
      rw [List.inj_on_of_nodup_map distinct isStored stored sameKey]

/-- A look-up in rows is a search among the entries of the rows. -/
theorem lookup_rows {β : Type} (entries : List Entry) (key : Entry → String) (value : Entry → β)
    (wanted : String) :
    (entries.map fun entry => (key entry, value entry)).lookup wanted =
      (entries.find? fun entry => key entry == wanted).map value := by
  induction entries with
  | nil => rfl
  | cons first rest inductionHypothesis =>
      rw [List.map_cons, List.lookup_cons, List.find?_cons, inductionHypothesis, BEq.comm]
      cases key first == wanted with
      | true => rfl
      | false => rfl

theorem lookup_row_of_mem {β : Type} (distinct : (entries.map key).Nodup) (value : Entry → β)
    (stored : entry ∈ entries) :
    (entries.map fun other => (key other, value other)).lookup (key entry) =
      some (value entry) := by
  rw [lookup_rows, find?_key_of_mem distinct stored]
  rfl

end Searches

theorem mapM_eq_some_map {α β : Type} {step : α → Option β} {image : α → β} {inputs : List α}
    (each : ∀ input ∈ inputs, step input = some (image input)) :
    inputs.mapM step = some (inputs.map image) := by
  induction inputs with
  | nil => rfl
  | cons input rest inductionHypothesis =>
      have others := inductionHypothesis fun other later =>
        each other (List.mem_cons_of_mem input later)
      rw [List.mapM_cons, each input List.mem_cons_self, others]
      rfl

/-! ### Tables of a registry -/

/-- The factories that a registry stands for. -/
def factoryRows (registry : Registry) : Dispatch.FactoryTable String Boxed :=
  registry.entries.map fun entry => (entry.simpleName, fun _ => entry.boxed)

section Tables

variable {registry : Registry} (distinct : registry.Distinct)
include distinct

/-- A name is found with the key of the entry for that interface, if there is one. -/
theorem fromQualifiedName?_tables (name : String) :
    registry.tables.fromQualifiedName? name =
      (registry.entries.find? fun entry => entry.interface == name).map Entry.simpleName := by
  have sameTest : ∀ entry ∈ registry.entries,
      (registry.tables.names.lookup entry.simpleName == some name) =
        (entry.interface == name) := by
    intro entry stored
    have isRow : registry.tables.names.lookup entry.simpleName = some entry.interface :=
      lookup_row_of_mem distinct.simpleNames Entry.interface stored
    rw [isRow, Option.some_beq_some]
  show (registry.entries.map Entry.simpleName).find? _ = _
  rw [List.find?_map]
  exact congrArg _ (List.find?_congr sameTest)

/-- Every factory of the table is a function of the file. -/
theorem factoryTable?_tables : registry.tables.factoryTable? = some registry.factoryRows := by
  have built : ∀ entry ∈ registry.entries,
      registry.tables.functions.lookup entry.factoryName = some entry.boxed :=
    fun entry stored => lookup_row_of_mem distinct.factories Entry.boxed stored
  show (registry.entries.map fun entry => (entry.simpleName, entry.factoryName)).mapM _ = _
  rw [List.mapM_map]
  refine mapM_eq_some_map fun entry stored => ?_
  show (registry.tables.functions.lookup entry.factoryName).map _ = _
  rw [built entry stored]
  rfl

theorem create_factoryRows {entry : Entry} (stored : entry ∈ registry.entries)
    (interface : String) :
    Dispatch.create registry.factoryRows entry.simpleName interface = .ok entry.boxed := by
  have found : registry.factoryRows.find? (fun row => row.1 == entry.simpleName) =
      some (entry.simpleName, fun _ => entry.boxed) := by
    rw [factoryRows, List.find?_map]
    exact congrArg _ (find?_key_of_mem distinct.simpleNames stored)
  rw [Dispatch.create, found]

end Tables

/-! ### Runs of registrations -/

/-- What is looked up in tables with these factories, for the entries of a registry. -/
structure Serves (registry : Registry) (tables : Tables)
    (factories : Dispatch.FactoryTable String Boxed) : Prop where
  /-- A registered name leads to the factory that boxes its proxy. -/
  byName : ∀ entry ∈ registry.entries,
    tables.fromQualifiedName? entry.interface = some entry.simpleName ∧
      tables.createByName factories entry.interface = .ok entry.boxed
  /-- The key of a trait object type leads to the same factory. -/
  byType : ∀ entry ∈ registry.entries,
    tables.proxied.lookup entry.interface = some entry.simpleName ∧
      tables.factories.lookup entry.simpleName = some entry.factoryName ∧
      Dispatch.create factories entry.simpleName entry.interface = .ok entry.boxed
  /-- A name that is not registered leads nowhere and is named. -/
  unknown : ∀ name, (∀ entry ∈ registry.entries, entry.interface ≠ name) →
    tables.createByName factories name = .error (.noProxyFound name)

theorem serves_tables {registry : Registry} (distinct : registry.Distinct) :
    registry.Serves registry.tables registry.factoryRows where
  byName := by
    intro entry stored
    have found : registry.tables.fromQualifiedName? entry.interface = some entry.simpleName := by
      rw [fromQualifiedName?_tables distinct, find?_key_of_mem distinct.interfaces stored]
      rfl
    refine ⟨found, ?_⟩
    rw [Tables.createByName, found]
    exact create_factoryRows distinct stored entry.interface
  byType := fun entry stored =>
    ⟨lookup_row_of_mem distinct.interfaces Entry.simpleName stored,
      lookup_row_of_mem distinct.simpleNames Entry.factoryName stored,
      create_factoryRows distinct stored entry.interface⟩
  unknown := by
    intro name isNew
    have unfound : registry.entries.find? (fun entry => entry.interface == name) = none := by
      rw [List.find?_eq_none]
      intro entry stored
      simpa using isNew entry stored
    rw [Tables.createByName, fromQualifiedName?_tables distinct, unfound]
    rfl

/-- Whatever is registered, the tables of the text have one row for each entry in the order of
registration, and lead its name and its trait object type to its proxy and all other names to an
error. -/
theorem sourceText_serves_registered (calls : List Entry)
    (named : ∀ entry ∈ calls, entry.Named) {config : Config}
    (accepted : config.validate = .ok ()) :
    ∃ factories,
      readTables? config.runtimePath ((afterCalls calls).sourceText config.runtimePath) =
        some (afterCalls calls).tables ∧
      (afterCalls calls).tables.factoryTable? = some factories ∧
      (afterCalls calls).Serves (afterCalls calls).tables factories := by
  have distinct := distinct_afterCalls calls
  have entriesNamed : ∀ entry ∈ (afterCalls calls).entries, entry.Named :=
    fun entry stored => named entry (mem_calls_of_mem_entries stored)
  exact ⟨_, readTables?_sourceText entriesNamed (isCodePath_of_validate accepted),
    factoryTable?_tables distinct, serves_tables distinct⟩

/-- The third registration is refused. -/
def sizeCalls : List Entry :=
  [⟨"crate::Circle", "ProxyForCircle"⟩, ⟨"crate::r#type::Größe", "ProxyForGröße"⟩,
    ⟨"crate::Circle", "OtherProxy"⟩]

theorem sizeCalls_served :
    (∀ entry ∈ sizeCalls, entry.Named) ∧ Config.standard.validate = .ok () ∧
      ∃ tables factories,
        readTables? "proxygen_runtime"
          ((afterCalls sizeCalls).sourceText "proxygen_runtime") = some tables ∧
        tables.factoryTable? = some factories ∧
        tables.createByName factories "crate::Circle" =
          .ok ⟨"crate::Circle", "ProxyForCircle"⟩ ∧
        tables.createByName factories "crate::r#type::Größe" =
          .ok ⟨"crate::r#type::Größe", "ProxyForGröße"⟩ ∧
        tables.createByName factories "Circle" = .error (.noProxyFound "Circle") := by
  have named : ∀ entry ∈ sizeCalls, entry.Named := by
    refine List.forall_iff_forall_mem.mp ⟨?_, ?_, ?_⟩
    · exact @Entry.named_of_isIdentifier ["crate"] "Circle" "ProxyForCircle" (by decide +kernel)
        (by decide +kernel)
    · exact ⟨⟨["crate", "r#type"], "Größe", rfl, by decide +kernel⟩, by decide +kernel⟩
    · exact @Entry.named_of_isIdentifier ["crate"] "Circle" "OtherProxy" (by decide +kernel)
        (by decide +kernel)
  have accepted : Config.standard.validate = .ok () := by decide +kernel
  obtain ⟨factories, read, areFactories, serves⟩ :=
    sourceText_serves_registered sizeCalls named accepted
  have stored : (afterCalls sizeCalls).entries = sizeCalls.take 2 := by decide +kernel
  refine ⟨named, accepted, _, factories, read, areFactories, ?_, ?_, ?_⟩
  · exact (serves.byName ⟨"crate::Circle", "ProxyForCircle"⟩ (by rw [stored]; decide)).2
  · exact (serves.byName ⟨"crate::r#type::Größe", "ProxyForGröße"⟩ (by rw [stored]; decide)).2
  · refine serves.unknown "Circle" ?_
    rw [stored]
    decide

end ForwardingProxy.Registry
