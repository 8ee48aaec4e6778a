import ForwardingProxy.Proofs.Enumeration.Walk
import ForwardingProxy.Proofs.Registry.DefinedNames
import ForwardingProxy.Proofs.Registry.Registration
import ForwardingProxy.Proofs.Text.Identifiers

/-!
Contract: the names that a generated file introduces.

Owns: names that are made from the names of traits; whether they are identifiers; and whether each
is defined once among all names of a file.

A name is made by a text put before a name, which does no harm to a word but leaves the mark of a
raw name in the middle. Keys are trait names as they are, and stand beside the items of their type.
Identifiers are compared without the mark and otherwise as they are spelled.
-/

namespace ForwardingProxy.Registry

open Enumeration (enumerate enumerate_start)
open Text (WordRules identifier)

/-! ### Names made from names of traits -/

/-- The proxy forwards a trait that is enumerated and has the name of an identifier. -/
def FromTrait (rules : WordRules) (host : Host) (request : ProxyRequest) : Prop :=
  ∃ id declaration, enumerate host id = .ok request.interface ∧
    host.declaration? id = .ok (some declaration) ∧ rules.IsIdentifier declaration.name ∧
    request.proxy = proxyName request.interface.name

/-- The entry's trait has the name of an identifier, and its proxy is named after it. -/
structure Entry.NamedByTrait (rules : WordRules) (entry : Entry) : Prop where
  simpleName : rules.IsIdentifier entry.simpleName
  proxy : entry.proxy = "ProxyFor" ++ entry.simpleName

theorem FromTrait.namedByTrait {rules : WordRules} {host : Host} {request : ProxyRequest}
    (fromTrait : FromTrait rules host request) : request.entry.NamedByTrait rules := by
  obtain ⟨id, declaration, enumerated, declared, isIdentifier, isProxy⟩ := fromTrait
  obtain ⟨found, alsoDeclared, isNamed⟩ := enumerate_start enumerated
  obtain rfl : declaration = found := by
    rw [declared] at alsoDeclared
    exact Option.some.inj (Except.ok.inj alsoDeclared)
  have simpleName : request.entry.simpleName = declaration.name := by
    have joined : request.interface.name =
        Name.join ([declaration.modulePath] ++ [declaration.name]) := isNamed.symm
    rw [Entry.simpleName, ProxyRequest.entry, joined, Name.last_join _ isIdentifier.noColon]
  exact ⟨simpleName ▸ isIdentifier, isProxy⟩

theorem isWordCharacter_of_continues {rules : WordRules} {character : Char}
    (continues : rules.continues character = true) : isWordCharacter character = true := by
  refine isWordCharacter_of_test (List.all_eq_true.mpr fun mark isMark => ?_) continues
  have isOther : ([' ', '\n', ',', ':', ';', '(', ')', '>'].all fun mark =>
      decide (mark.toNat < 128) && !WordRules.isAsciiWord mark) = true := by decide
  obtain ⟨isAscii, noWord⟩ := Bool.and_eq_true_iff.mp (List.all_eq_true.mp isOther mark isMark)
  rw [rules.continues_ascii mark (of_decide_eq_true isAscii)]
  exact noWord

theorem isWord_of_spells {rules : WordRules} {word : String} (spells : rules.Spells word) :
    IsWord word where
  notEmpty := by
    obtain ⟨first, rest, isWord, _⟩ := spells
    rintro rfl
    cases isWord
  characters := fun character member =>
    isWordCharacter_of_continues (spells.continues character member)

theorem isStart_proxy : WordRules.IsStart "ProxyFor" where
  begins := ⟨'P', "roxyFor".toList, by decide, by decide, by decide, by decide +kernel⟩
  continues := by decide

theorem isStart_factory : WordRules.IsStart "new_proxy_for_" where
  begins := ⟨'n', "ew_proxy_for_".toList, by decide, by decide, by decide, by decide +kernel⟩
  continues := by decide

section NamedByTrait

variable {rules : WordRules} {entry : Entry} (named : entry.NamedByTrait rules)
include named

theorem Entry.NamedByTrait.isWord_simpleName : IsWord entry.simpleName := by
  rcases named.simpleName with isPlain | ⟨word, isRaw, spells, _⟩
  · exact isWord_of_spells isPlain.spells
  · rw [isRaw]
    exact IsWord.append (by decide) (isWord_of_spells spells).characters

theorem Entry.NamedByTrait.isWord_proxy : IsWord entry.proxy := by
  rw [named.proxy]
  exact IsWord.append (by decide) named.isWord_simpleName.characters

/-- A proxy's name is an identifier unless the mark of a raw name is in the middle of it. -/
theorem Entry.NamedByTrait.isIdentifier_proxy_iff :
    rules.IsIdentifier entry.proxy ↔ ¬rules.IsRaw entry.simpleName := by
  rw [named.proxy, isStart_proxy.isIdentifier_append, named.simpleName.continues_iff]

theorem Entry.NamedByTrait.isIdentifier_factoryName_iff :
    rules.IsIdentifier entry.factoryName ↔ ¬rules.IsRaw entry.simpleName := by
  rw [Entry.factoryName, isStart_factory.isIdentifier_append,
    named.simpleName.continues_snakeCase_iff]

theorem Entry.NamedByTrait.identifier_proxy : identifier entry.proxy = entry.proxy := by
  rw [named.proxy, isStart_proxy.identifier_append]

theorem Entry.NamedByTrait.proxy_notMem_fixed :
    entry.proxy ∉ ["ProxyInterface", "Proxied", "ProxyProvider", "PROXY_FACTORIES"] := by
  rw [named.proxy]
  simp [← String.toList_inj]

theorem Entry.NamedByTrait.proxy_ne_factoryName (other : Entry) :
    entry.proxy ≠ other.factoryName := by
  rw [named.proxy, Entry.factoryName]
  simp [← String.toList_inj]

end NamedByTrait

theorem Entry.identifier_factoryName (entry : Entry) :
    identifier entry.factoryName = entry.factoryName :=
  isStart_factory.identifier_append _

theorem Entry.factoryName_notMem_fixed (entry : Entry) :
    entry.factoryName ∉ ["PROXY_FACTORIES", "ProxyProvider"] := by
  rw [Entry.factoryName]
  simp [← String.toList_inj]

/-! ### Names of a file -/

/-- Names under the type of the keys that are no keys. -/
def keyTypeItems : List String :=
  ["ALL", "qualified_name", "from_qualified_name"]

/-- All names are identifiers, and none is defined twice in one place. -/
structure NamesUsable (rules : WordRules) (runtimePath : String) (requests : List ProxyRequest)
    (registry : Registry) : Prop where
  identifiers : ∀ entry ∈ registry.entries, rules.IsIdentifier entry.simpleName ∧
    rules.IsIdentifier entry.proxy ∧ rules.IsIdentifier entry.factoryName
  types : ((typesOf (fileLayout runtimePath requests registry)).map identifier).Nodup
  values : ((valuesOf (fileLayout runtimePath requests registry)).map identifier).Nodup
  keyItems : ((keyItemsOf (registry.layout runtimePath)).map identifier).Nodup

/-- Names that are their own identifiers are defined once beside fixed ones. -/
theorem nodup_identifiers {names fixed : List String}
    (ownIdentifier : ∀ name ∈ names, identifier name = name) (distinct : names.Nodup)
    (fixedDistinct : fixed.map identifier = fixed ∧ fixed.Nodup)
    (differ : ∀ name ∈ names, name ∉ fixed) : ((names ++ fixed).map identifier).Nodup := by
  have same : names.map identifier = names := by
    rw [List.map_congr_left ownIdentifier, List.map_id']
  rw [List.map_append, same, fixedDistinct.1]
  exact List.nodup_append'.mpr ⟨distinct, fixedDistinct.2, differ⟩

section NamesUsable

variable {rules : WordRules} {entries : List Entry}
  (named : ∀ entry ∈ entries, entry.NamedByTrait rules)
include named

theorem nodup_types (distinct : (entries.map Entry.proxy).Nodup) :
    ((entries.map Entry.proxy ++ ["ProxyInterface", "Proxied", "ProxyProvider"]).map
      identifier).Nodup := by
  refine nodup_identifiers ?_ distinct (by decide) ?_
  · exact List.forall_mem_map.mpr fun entry stored => (named entry stored).identifier_proxy
  · refine List.forall_mem_map.mpr fun entry stored isFixed => ?_
    exact (named entry stored).proxy_notMem_fixed (List.mem_append_left _ isFixed)

theorem nodup_values (proxiesDistinct : (entries.map Entry.proxy).Nodup)
    (factoriesDistinct : (entries.map Entry.factoryName).Nodup) :
    ((entries.map Entry.proxy ++ entries.map Entry.factoryName ++
      ["PROXY_FACTORIES", "ProxyProvider"]).map identifier).Nodup := by
  refine nodup_identifiers ?_ ?_ (by decide) ?_
  · refine List.forall_mem_append.mpr ⟨?_, ?_⟩
    · exact List.forall_mem_map.mpr fun entry stored => (named entry stored).identifier_proxy
    · exact List.forall_mem_map.mpr fun entry _ => entry.identifier_factoryName
  · refine List.nodup_append'.mpr ⟨proxiesDistinct, factoriesDistinct, ?_⟩
    refine List.forall_mem_map.mpr fun entry stored isFactory => ?_
    obtain ⟨other, _, same⟩ := List.mem_map.mp isFactory
    exact (named entry stored).proxy_ne_factoryName other same.symm
  · refine List.forall_mem_append.mpr ⟨?_, ?_⟩
    · have fixed : ["PROXY_FACTORIES", "ProxyProvider"] ⊆
          ["ProxyInterface", "Proxied", "ProxyProvider", "PROXY_FACTORIES"] := by decide
      refine List.forall_mem_map.mpr fun entry stored isFixed => ?_
      exact (named entry stored).proxy_notMem_fixed (fixed isFixed)
    · exact List.forall_mem_map.mpr fun entry _ => entry.factoryName_notMem_fixed

/-- Keys are told apart as they are spelled, so the mark of a raw name may be all that two of them
differ in, and nothing keeps them from the other names of their type. -/
theorem nodup_keyItems_iff (distinct : (entries.map Entry.simpleName).Nodup) :
    ((entries.map Entry.simpleName ++ keyTypeItems).map identifier).Nodup ↔
      ∀ entry ∈ entries, "r#" ++ entry.simpleName ∉ entries.map Entry.simpleName ∧
        identifier entry.simpleName ∉ keyTypeItems := by
  have areIdentifiers : ∀ name ∈ entries.map Entry.simpleName, rules.IsIdentifier name := by
    intro name member
    obtain ⟨entry, stored, rfl⟩ := List.mem_map.mp member
    exact (named entry stored).simpleName
  have fixed : keyTypeItems.map identifier = keyTypeItems ∧ keyTypeItems.Nodup := by decide
  rw [List.map_append, fixed.1, List.nodup_append', List.nodup_map_iff_inj_on distinct]
  constructor
  · rintro ⟨injective, -, disjoint⟩ entry stored
    have isKey := List.mem_map_of_mem (f := Entry.simpleName) stored
    refine ⟨fun isRaw => ?_, disjoint (List.mem_map_of_mem isKey)⟩
    have same := injective _ isKey _ isRaw
      (((areIdentifiers _ isKey).identifier_eq_iff (areIdentifiers _ isRaw)).mpr (.inr (.inr rfl)))
    simpa using congrArg String.length same
  · intro apart
    refine ⟨?_, fixed.2, ?_⟩
    · intro name isName other isOther same
      rcases ((areIdentifiers _ isName).identifier_eq_iff (areIdentifiers _ isOther)).mp same with
        equal | nameRaw | otherRaw
      · exact equal
      · obtain ⟨entry, stored, rfl⟩ := List.mem_map.mp isOther
        exact absurd (nameRaw ▸ isName) (apart entry stored).1
      · obtain ⟨entry, stored, rfl⟩ := List.mem_map.mp isName
        exact absurd (otherRaw ▸ isOther) (apart entry stored).1
    · intro name isKey isFixed
      obtain ⟨key, isName, rfl⟩ := List.mem_map.mp isKey
      obtain ⟨entry, stored, rfl⟩ := List.mem_map.mp isName
      exact (apart entry stored).2 isFixed

end NamesUsable

/-- The names that a file with these proxies and tables defines. -/
structure DefinesNames (rules : WordRules) (runtimePath : String) (requests : List ProxyRequest)
    (registry : Registry) : Prop where
  text : Layout.text (fileLayout runtimePath requests registry) =
    String.join (requests.map fun request => request.sourceText runtimePath ++ "\n") ++
      registry.sourceText runtimePath
  types : typesOf (fileLayout runtimePath requests registry) =
    registry.entries.map Entry.proxy ++ ["ProxyInterface", "Proxied", "ProxyProvider"]
  values : valuesOf (fileLayout runtimePath requests registry) =
    registry.entries.map Entry.proxy ++ registry.entries.map Entry.factoryName ++
      ["PROXY_FACTORIES", "ProxyProvider"]
  keyItems : keyItemsOf (registry.layout runtimePath) =
    registry.entries.map Entry.simpleName ++ keyTypeItems
  identifiers : ∀ entry ∈ registry.entries, rules.IsIdentifier entry.simpleName ∧
    (rules.IsIdentifier entry.proxy ↔ ¬rules.IsRaw entry.simpleName) ∧
    (rules.IsIdentifier entry.factoryName ↔ ¬rules.IsRaw entry.simpleName)
  typesOnce : ((typesOf (fileLayout runtimePath requests registry)).map identifier).Nodup
  valuesOnce : ((valuesOf (fileLayout runtimePath requests registry)).map identifier).Nodup
  spelledApart : (registry.entries.map Entry.simpleName).Nodup
  keyItemsOnce : ((keyItemsOf (registry.layout runtimePath)).map identifier).Nodup ↔
    ∀ entry ∈ registry.entries,
      "r#" ++ entry.simpleName ∉ registry.entries.map Entry.simpleName ∧
        identifier entry.simpleName ∉ keyTypeItems

theorem definesNames {rules : WordRules} {requests : List ProxyRequest} {registry : Registry}
    (named : ∀ entry ∈ registry.entries, entry.NamedByTrait rules)
    (registered : registry.entries = requests.map ProxyRequest.entry)
    (distinct : registry.Distinct) (runtimePath : String) :
    DefinesNames rules runtimePath requests registry := by
  have proxies : requests.map ProxyRequest.proxy = registry.entries.map Entry.proxy := by
    rw [registered, List.map_map]
    rfl
  have areWords : ∀ request ∈ requests, IsWord request.proxy := by
    intro request member
    exact (named request.entry (registered ▸ List.mem_map_of_mem member)).isWord_proxy
  have types : typesOf (fileLayout runtimePath requests registry) =
      registry.entries.map Entry.proxy ++ ["ProxyInterface", "Proxied", "ProxyProvider"] := by
    rw [typesOf, wordsBehind_fileLayout (by decide) _ areWords, proxies]
    exact congrArg _ (typesOf_layout runtimePath registry)
  have values : valuesOf (fileLayout runtimePath requests registry) =
      registry.entries.map Entry.proxy ++ registry.entries.map Entry.factoryName ++
        ["PROXY_FACTORIES", "ProxyProvider"] := by
    rw [valuesOf, wordsBehind_fileLayout (by decide) _ areWords, proxies, List.append_assoc]
    exact congrArg _ (valuesOf_layout runtimePath fun entry stored =>
      (named entry stored).isWord_simpleName.factoryName)
  have keyItems : keyItemsOf (registry.layout runtimePath) =
      registry.entries.map Entry.simpleName ++ keyTypeItems :=
    keyItemsOf_layout runtimePath fun entry stored => (named entry stored).isWord_simpleName
  exact {
    text := text_fileLayout runtimePath requests registry
    types := types
    values := values
    keyItems := keyItems
    identifiers := fun entry stored => ⟨(named entry stored).simpleName,
      (named entry stored).isIdentifier_proxy_iff,
      (named entry stored).isIdentifier_factoryName_iff⟩
    typesOnce := types ▸ nodup_types named distinct.proxies
    valuesOnce := values ▸ nodup_values named distinct.proxies distinct.factories
    spelledApart := distinct.simpleNames
    keyItemsOnce := keyItems ▸ nodup_keyItems_iff named distinct.simpleNames }

/-- A plain name is its own identifier, and no name of the registry is the raw form of it. -/
theorem DefinesNames.usable_iff {rules : WordRules} {runtimePath : String}
    {requests : List ProxyRequest} {registry : Registry}
    (defines : DefinesNames rules runtimePath requests registry) :
    NamesUsable rules runtimePath requests registry ↔
      ∀ entry ∈ registry.entries,
        ¬rules.IsRaw entry.simpleName ∧ entry.simpleName ∉ keyTypeItems := by
  have ownIdentifier : ∀ entry ∈ registry.entries, ¬rules.IsRaw entry.simpleName →
      identifier entry.simpleName = entry.simpleName := by
    intro entry stored notRaw
    exact ((defines.identifiers entry stored).1.resolve_right notRaw).identifier_eq
  constructor
  · intro usable entry stored
    have notRaw := (defines.identifiers entry stored).2.1.mp (usable.identifiers entry stored).2.1
    refine ⟨notRaw, ?_⟩
    rw [← ownIdentifier entry stored notRaw]
    exact (defines.keyItemsOnce.mp usable.keyItems entry stored).2
  · intro allPlain
    refine ⟨?_, defines.typesOnce, defines.valuesOnce, defines.keyItemsOnce.mpr ?_⟩
    · intro entry stored
      obtain ⟨simpleName, proxy, factory⟩ := defines.identifiers entry stored
      exact ⟨simpleName, proxy.mpr (allPlain entry stored).1,
        factory.mpr (allPlain entry stored).1⟩
    · intro entry stored
      refine ⟨fun hasRaw => ?_, ?_⟩
      · obtain ⟨other, alsoStored, isRaw⟩ := List.mem_map.mp hasRaw
        refine (allPlain other alsoStored).1 ?_
        rw [(defines.identifiers other alsoStored).1.isRaw_iff, isRaw]
        exact WordRules.mark_mem_raw _
      · rw [ownIdentifier entry stored (allPlain entry stored).1]
        exact (allPlain entry stored).2

/-- Whatever is called, for traits that enumerate and have names of identifiers: a file has the
proxies, the factories and the keys of the registry besides the names of its own. Proxies and
factories are identifiers unless the trait's name is raw, and are defined once; keys are unless they
are the same but for the mark, or one of the other names under their type. All names are usable just
when no trait has a raw name or one of these three. -/
theorem generatedNames_usable_iff {rules : WordRules} {host : Host} {calls : List Entry}
    {requests : List ProxyRequest}
    (fromTraits : ∀ request ∈ requests, FromTrait rules host request)
    (registered : (afterCalls calls).entries = requests.map ProxyRequest.entry)
    (runtimePath : String) :
    DefinesNames rules runtimePath requests (afterCalls calls) ∧
      (NamesUsable rules runtimePath requests (afterCalls calls) ↔
        ∀ entry ∈ (afterCalls calls).entries,
          ¬rules.IsRaw entry.simpleName ∧ entry.simpleName ∉ keyTypeItems) := by
  have named : ∀ entry ∈ (afterCalls calls).entries, entry.NamedByTrait rules := by
    intro entry stored
    rw [registered] at stored
    obtain ⟨request, member, rfl⟩ := List.mem_map.mp stored
    exact (fromTraits request member).namedByTrait
  have defines := definesNames named registered (distinct_afterCalls calls) runtimePath
  exact ⟨defines, defines.usable_iff⟩

/-- A trait with one method and without parents. -/
def signalTrait (name : String) : Declaration :=
  ⟨name, "crate", 0, .trait ⟨false, [], [.method ⟨"ping", some .shared, [], none, false, false⟩]⟩,
    [], none, true⟩

/-- The sources that declare three such traits. -/
def signalTable : SymbolTable where
  scopes := [.new "crate" none]
  declarations := [signalTrait "Echo", signalTrait "r#type", signalTrait "ALL"]
  facts := []
  announced := []

/-- The proxy of such a trait. -/
def signalRequest (interface : String) : ProxyRequest :=
  .new ⟨interface, [interface], [], [⟨"ping", .shared, [], .unit, interface⟩]⟩
    (.function "crate::forward") none

/-- The proxies of the three traits. -/
def signalRequests : List ProxyRequest :=
  [signalRequest "crate::Echo", signalRequest "crate::r#type", signalRequest "crate::ALL"]

theorem signalNames_unusable :
    (∀ request ∈ signalRequests, FromTrait WordRules.ascii signalTable.host request) ∧
      (afterCalls (signalRequests.map ProxyRequest.entry)).entries =
        signalRequests.map ProxyRequest.entry ∧
      WordRules.ascii.IsIdentifier "ProxyForEcho" ∧
      ¬WordRules.ascii.IsIdentifier "ProxyForr#type" ∧
      ¬((keyItemsOf ((afterCalls (signalRequests.map ProxyRequest.entry)).layout
        "proxygen_runtime")).map identifier).Nodup := by
  have echo : WordRules.ascii.IsPlain "Echo" :=
    ⟨⟨'E', "cho".toList, rfl, by decide, List.all_eq_true.mp (by decide)⟩, by decide⟩
  have all : WordRules.ascii.IsPlain "ALL" :=
    ⟨⟨'A', "LL".toList, rfl, by decide, List.all_eq_true.mp (by decide)⟩, by decide⟩
  have type : WordRules.ascii.IsRaw "r#type" :=
    ⟨"type", rfl, ⟨'t', "ype".toList, rfl, by decide, List.all_eq_true.mp (by decide)⟩, by decide⟩
  have fromTraits : ∀ request ∈ signalRequests,
      FromTrait WordRules.ascii signalTable.host request := by
    refine List.forall_iff_forall_mem.mp ⟨?_, ?_, ?_⟩
    · exact ⟨0, signalTrait "Echo", rfl, rfl, .inl echo, rfl⟩
    · exact ⟨1, signalTrait "r#type", rfl, rfl, .inr type, rfl⟩
    · exact ⟨2, signalTrait "ALL", rfl, rfl, .inl all, rfl⟩
  have registered : (afterCalls (signalRequests.map ProxyRequest.entry)).entries =
      signalRequests.map ProxyRequest.entry := by decide +kernel
  obtain ⟨defines, _⟩ := generatedNames_usable_iff fromTraits registered "proxygen_runtime"
  have inRegistry : ∀ request ∈ signalRequests, request.entry ∈
      (afterCalls (signalRequests.map ProxyRequest.entry)).entries := by
    intro request member
    rw [registered]
    exact List.mem_map_of_mem member
  refine ⟨fromTraits, registered, ?_, ?_, ?_⟩
  · have ofEcho := defines.identifiers _ (inRegistry (signalRequest "crate::Echo") (by decide))
    exact ofEcho.2.1.mpr (mt ofEcho.1.isRaw_iff.mp (by decide))
  · have ofType := defines.identifiers _ (inRegistry (signalRequest "crate::r#type") (by decide))
    exact mt ofType.2.1.mp (not_not.mpr type)
  · intro once
    have ofAll := defines.keyItemsOnce.mp once _
      (inRegistry (signalRequest "crate::ALL") (by decide))
    exact ofAll.2 (by decide)

end ForwardingProxy.Registry
