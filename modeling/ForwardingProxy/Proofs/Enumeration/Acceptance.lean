import ForwardingProxy.Proofs.Enumeration.Locality
import ForwardingProxy.Proofs.Resolution.Meaning

/-!
Contract: which traits have an interface.

Owns: `Implementable`, what a trait has to fulfil by itself, and the fact that an enumeration
succeeds exactly when all traits of the hierarchy fulfil it.

A writer that is paired with a reader is passed over before its types are looked at. Nothing
unresolvable gets through that way, since the reader has the same written type.
-/

namespace ForwardingProxy.Enumeration

open Attempt (Ensures)
open Resolution (Resolvable)

variable {host : Host} {interface : String} {owner : Declaration}

/-- A method of a trait is no obstacle: it has a body or takes a receiver; with a receiver it
borrows, has no parameters of its own, and all its types have a meaning. -/
structure Forwardable (host : Host) (owner : Declaration) (signature : FunctionSignature) :
    Prop where
  bodied : signature.receiver = none → signature.hasBody = true
  borrows : signature.receiver ≠ some .owned
  plain : signature.receiver ≠ none → signature.generic = false
  types : signature.receiver ≠ none → ∀ type ∈ signature.types, Resolvable host owner.scope type

/-- A bound is a path without arguments that is passed over or means a declared trait. -/
def Followable (host : Host) (owner : Declaration) (bound : TypeSyntax) : Prop :=
  ∃ segments, bound = .path segments [] ∧
    (isAutoTrait segments = true ∨
      ∃ name, host.resolve? owner.scope segments = .ok (some name) ∧ host.NamesTrait name)

/-- What a trait has to fulfil so that an interface can include it. -/
structure Implementable (host : Host) (owner : Declaration) (body : TraitBody) : Prop where
  plain : body.generic = false
  visible : owner.visible = true
  noAssociatedType : ∀ name, .associatedType name ∉ body.items
  constDefaults : ∀ name, .associatedConst name false ∉ body.items
  methods : ∀ signature ∈ body.methods, Forwardable host owner signature
  bounds : ∀ bound ∈ body.supertraits, Followable host owner bound

/-! ### Items and methods -/

theorem findSome?_itemProblem?_eq_none {name : String} {items : List TraitItem} :
    items.findSome? (itemProblem? name) = none ↔
      (∀ type, .associatedType type ∉ items) ∧ ∀ const, .associatedConst const false ∉ items := by
  rw [List.findSome?_eq_none_iff]
  constructor
  · intro noProblem
    constructor
    · intro type isItem
      exact nomatch noProblem _ isItem
    · intro const isItem
      exact nomatch noProblem _ isItem
  · rintro ⟨noType, defaults⟩ item isItem
    cases item with
    | method signature => rfl
    | associatedType type => exact absurd isItem (noType type)
    | associatedConst const hasDefault =>
        cases hasDefault with
        | true => rfl
        | false => exact absurd isItem (defaults const)

theorem types_of_reads {signature : FunctionSignature} {property : String} {type : TypeSyntax}
    (reads : readProperty? signature = some (property, type)) : signature.types = [type] := by
  obtain ⟨_, _, returned, _, _, noParameters, _⟩ := readProperty?_eq_some.mp reads
  rw [FunctionSignature.types, noParameters, returned]
  rfl

theorem mem_types_of_writes {signature : FunctionSignature} {property : String}
    {type written : TypeSyntax} (writes : writesProperty property type signature = true)
    (isWritten : written ∈ signature.types) : written = type ∨ written = .unit := by
  obtain ⟨_, _, _, parameters, returned⟩ := writesProperty_iff.mp writes
  rw [FunctionSignature.types, parameters] at isWritten
  rcases returned with isNone | isUnit
  · exact .inl (by simpa [isNone] using isWritten)
  · simpa [isUnit] using isWritten

theorem resolvable_of_returnType {written : Option TypeSyntax} {type : ResolvedType}
    (resolves : returnType host owner written = .ok type) :
    ∀ syntaxOf ∈ written, Resolvable host owner.scope syntaxOf := by
  rintro syntaxOf rfl
  exact Resolution.resolvable_of_resolve resolves

theorem returnType_answered (answers : host.Answers) {written : Option TypeSyntax}
    (resolvable : ∀ type ∈ written, Resolvable host owner.scope type) :
    ∃ type, returnType host owner written = .ok type := by
  cases written with
  | none => exact ⟨.unit, rfl⟩
  | some type => exact Resolution.resolve_of_resolvable answers _ (resolvable type rfl)

theorem resolvable_of_reads {methods : List FunctionSignature} {reader : FunctionSignature}
    {found : Option Member} {property : String} {type : TypeSyntax}
    (answered : member? host interface owner methods reader = .ok found)
    (reads : readProperty? reader = some (property, type)) : Resolvable host owner.scope type := by
  obtain ⟨_, _, _, _, taken, _, _⟩ := readProperty?_eq_some.mp reads
  rcases member?_eq_ok.mp answered with ⟨noReceiver, _⟩ | ⟨_, _, _, _, kinds⟩
  · exact nomatch taken.symm.trans noReceiver
  · rcases kinds with ⟨_, _, _, readsAgain, resolves, _⟩ | ⟨noReader, _⟩ | ⟨noReader, _⟩
    · cases reads.symm.trans readsAgain
      exact Resolution.resolvable_of_resolve resolves
    · exact nomatch reads.symm.trans noReader
    · exact nomatch reads.symm.trans noReader

/-- A method that stands for a member is no obstacle. Of a writer that is passed over, this is known
through the reader that it is paired with. -/
theorem forwardable_of_member? {methods : List FunctionSignature} {signature : FunctionSignature}
    {found : Option Member}
    (answered : member? host interface owner methods signature = .ok found)
    (readersResolve : ∀ reader ∈ methods, ∀ property type,
      readProperty? reader = some (property, type) → Resolvable host owner.scope type) :
    Forwardable host owner signature := by
  rcases member?_eq_ok.mp answered with ⟨noReceiver, hasBody, _⟩ |
    ⟨receiver, taken, borrows, plain, kinds⟩
  · exact ⟨fun _ => hasBody, by simp [noReceiver], fun taken => absurd noReceiver taken,
      fun taken => absurd noReceiver taken⟩
  · refine ⟨by simp [taken], by simpa [taken] using borrows, fun _ => plain, ?_⟩
    intro _ type isType
    rcases kinds with ⟨_, written, _, reads, _⟩ | ⟨_, paired, _⟩ |
      ⟨_, _, parameters, result, areParameters, isResult, _⟩
    · obtain rfl : type = written := by simpa [types_of_reads reads] using isType
      exact resolvable_of_reads answered reads
    · obtain ⟨reader, isReader, property, written, reads, writes⟩ := isPairedWriter_iff.mp paired
      rcases mem_types_of_writes writes isType with rfl | rfl
      · exact readersResolve reader isReader property type reads
      · exact .unit
    · rcases List.mem_append.mp isType with isParameter | isReturned
      · obtain ⟨parameter, declared, rfl⟩ := List.mem_map.mp isParameter
        obtain ⟨_, _, resolves⟩ :=
          partner_of_mem_left (parametersFrom_resolves areParameters) declared
        exact Resolution.resolvable_of_resolve resolves
      · exact resolvable_of_returnType isResult type (Option.mem_toList.mp isReturned)

theorem member?_answered (answers : host.Answers) (interface : String)
    (methods : List FunctionSignature) {signature : FunctionSignature}
    (forwardable : Forwardable host owner signature) :
    ∃ found, member? host interface owner methods signature = .ok found := by
  cases taken : signature.receiver with
  | none => exact ⟨none, member?_eq_ok.mpr (.inl ⟨taken, forwardable.bodied taken, rfl⟩)⟩
  | some receiver =>
      have borrows : receiver ≠ .owned := fun owned => forwardable.borrows (owned ▸ taken)
      have plain := forwardable.plain (by simp [taken])
      have types := forwardable.types (by simp [taken])
      cases reads : readProperty? signature with
      | some read =>
          obtain ⟨property, written⟩ := read
          rw [types_of_reads reads] at types
          obtain ⟨type, resolves⟩ := Resolution.resolve_of_resolvable answers owner.qualifiedName
            (types written (by simp))
          exact ⟨_, member?_eq_ok.mpr (.inr ⟨receiver, taken, borrows, plain,
            .inl ⟨property, written, type, reads, resolves, rfl⟩⟩)⟩
      | none =>
          cases paired : isPairedWriter methods signature with
          | true =>
              exact ⟨none, member?_eq_ok.mpr (.inr ⟨receiver, taken, borrows, plain,
                .inr (.inl ⟨reads, paired, rfl⟩)⟩)⟩
          | false =>
              obtain ⟨parameters, areParameters⟩ := parametersFrom_answered
                (fun written isWritten => Resolution.resolve_of_resolvable answers
                  owner.qualifiedName (types written.type
                    (List.mem_append_left _ (List.mem_map_of_mem isWritten)))) 0
              obtain ⟨type, isType⟩ := returnType_answered answers fun written isWritten =>
                types written (List.mem_append_right _ (Option.mem_toList.mpr isWritten))
              exact ⟨_, member?_eq_ok.mpr (.inr ⟨receiver, taken, borrows, plain,
                .inr (.inr ⟨reads, paired, parameters, type, areParameters, isType, rfl⟩)⟩)⟩

theorem ownMembers_answered (answers : host.Answers) (interface : String) {body : TraitBody}
    (implementable : Implementable host owner body) :
    ∃ members, ownMembers host interface owner body = .ok members := by
  obtain ⟨found, areFound⟩ := mapM_answered fun signature isMethod =>
    member?_answered answers interface body.methods (implementable.methods signature isMethod)
  have noProblem : body.items.findSome? (itemProblem? owner.qualifiedName) = none :=
    findSome?_itemProblem?_eq_none.mpr
      ⟨implementable.noAssociatedType, implementable.constDefaults⟩
  exact ⟨_, ownMembers_eq_ok.mpr ⟨noProblem, found, mapM_eq_ok.mp areFound, rfl⟩⟩

theorem forwardable_of_ownMembers {body : TraitBody} {members : List Member}
    (enumerated : ownMembers host interface owner body = .ok members) :
    ∀ signature ∈ body.methods, Forwardable host owner signature := by
  obtain ⟨_, found, areFound, _⟩ := ownMembers_eq_ok.mp enumerated
  intro signature isMethod
  obtain ⟨_, _, answered⟩ := partner_of_mem_left areFound isMethod
  refine forwardable_of_member? answered fun reader isReader property type reads => ?_
  obtain ⟨_, _, readerAnswered⟩ := partner_of_mem_left areFound isReader
  exact resolvable_of_reads readerAnswered reads

/-! ### Whole hierarchies -/

/-- The declaration is a trait, and every trait it leads to can be implemented. -/
structure HierarchyImplementable (host : Host) (id : Nat) : Prop where
  start : ∃ declaration body, host.declaration? id = .ok (some declaration) ∧
    declaration.trait? = some body
  every : ∀ {reached declaration body}, Relation.ReflTransGen (Supertrait host) id reached →
    host.declaration? reached = .ok (some declaration) → declaration.trait? = some body →
      Implementable host declaration body

/-- The visits of such a hierarchy do not fail at any step. -/
theorem steps_of_hierarchy (answers : host.Answers) (coherent : host.Coherent) :
    Steps host (fun _ => False) (HierarchyImplementable host) where
  declared := by
    intro id hierarchy
    obtain ⟨found, _, declared, _⟩ := hierarchy.start
    exact .ofOk (declaration_eq_ok.mpr declared) declared
  included := by
    intro id found hierarchy declared interface
    obtain ⟨_, body, declaredAgain, isTrait⟩ := hierarchy.start
    cases declared.symm.trans declaredAgain
    have implementable := hierarchy.every .refl declared isTrait
    exact .ofOk (includedTrait_eq_ok.mpr
      ⟨isTrait, implementable.plain, implementable.visible⟩) isTrait
  members := by
    intro id found body hierarchy declared isTrait interface
    obtain ⟨members, areMembers⟩ :=
      ownMembers_answered answers interface (hierarchy.every .refl declared isTrait)
    exact .ofOk areMembers trivial
  followed := by
    intro id found body hierarchy declared isTrait interface bound isBound
    obtain ⟨segments, rfl, kinds⟩ := (hierarchy.every .refl declared isTrait).bounds bound isBound
    by_cases isAuto : isAutoTrait segments = true
    · exact .ofOk (supertrait?_eq_ok.mpr ⟨segments, rfl, .inl ⟨isAuto, rfl⟩⟩) nofun
    · obtain ⟨name, resolves, upper, above, aboveBody, isFound, aboveDeclared, aboveTrait⟩ :=
        kinds.resolve_left isAuto
      have notAuto : isAutoTrait segments = false := by simpa using isAuto
      have leads : supertrait? host interface found (.path segments []) = .ok (some upper) :=
        supertrait?_eq_ok.mpr
          ⟨segments, rfl, .inr ⟨notAuto, name, upper, resolves, isFound, rfl⟩⟩
      refine .ofOk leads fun target isTarget => ?_
      cases isTarget
      have isSupertrait : Supertrait host id upper :=
        ⟨found, body, segments, name, declared, isTrait, isBound, notAuto, resolves, isFound⟩
      exact ⟨⟨above, aboveBody, aboveDeclared, aboveTrait⟩,
        fun reaches => hierarchy.every (.head isSupertrait reaches)⟩
  exhausted := fun bounded => bounded.exhausted coherent

theorem enumerate_answered (answers : host.Answers) (coherent : host.Coherent) {id : Nat}
    (hierarchy : HierarchyImplementable host id) :
    ∃ interface, enumerate host id = .ok interface := by
  obtain ⟨found, body, declared, isTrait⟩ := hierarchy.start
  obtain ⟨interface, visited⟩ := ((steps_of_hierarchy answers coherent).visit hierarchy
    (Bounded.empty host found.qualifiedName)).succeeds
  exact ⟨interface, enumerate_eq_ok.mpr ⟨found, body, declared, isTrait, visited⟩⟩

/-- A trait that was entered in a walk can be implemented. -/
theorem Walk.implementable (coherent : host.Coherent) (distinct : DistinctNames host)
    {start : Nat} {parts : List Part} (walk : Walk host interface [] [start] parts)
    {reached : Nat} (leads : Relation.ReflTransGen (Supertrait host) start reached)
    {body : TraitBody} (declared : host.declaration? reached = .ok (some owner))
    (isTrait : owner.trait? = some body) : Implementable host owner body := by
  -- a trait that was passed over as known is the entered one of its name
  have traitAt : ∀ {id : Nat} {declaration : Declaration},
      Relation.ReflTransGen (Supertrait host) start id →
        host.declaration? id = .ok (some declaration) →
          ∃ part ∈ parts, part.id = id ∧ part.owner = declaration := by
    intro id declaration leads declared
    obtain ⟨part, isPart, rfl⟩ := walk.entered distinct leads declared
    cases declared.symm.trans (walk.belongs part isPart).declared
    exact ⟨part, isPart, rfl, rfl⟩
  obtain ⟨part, isPart, rfl, rfl⟩ := traitAt leads declared
  have belongs := walk.belongs part isPart
  obtain ⟨isBody, plain, visible⟩ := includedTrait_eq_ok.mp belongs.included
  cases isTrait.symm.trans isBody
  obtain ⟨noAssociatedType, constDefaults⟩ :=
    findSome?_itemProblem?_eq_none.mp (ownMembers_eq_ok.mp belongs.members).1
  refine ⟨plain, visible, noAssociatedType, constDefaults,
    forwardable_of_ownMembers belongs.members, fun bound isBound => ?_⟩
  obtain ⟨_, followed⟩ := walk.followed part isPart
  obtain ⟨_, _, leadsUp⟩ := partner_of_mem_left followed isBound
  obtain ⟨segments, rfl, ⟨isAuto, _⟩ | ⟨notAuto, name, upper, resolves, isFound, _⟩⟩ :=
    supertrait?_eq_ok.mp leadsUp
  · exact ⟨segments, rfl, .inl isAuto⟩
  · obtain ⟨above, aboveDeclared⟩ := coherent.found isFound
    have isSupertrait : Supertrait host part.id upper :=
      ⟨part.owner, part.body, segments, name, declared, isBody, isBound, notAuto, resolves, isFound⟩
    obtain ⟨abovePart, isAbovePart, _, rfl⟩ := traitAt (leads.tail isSupertrait) aboveDeclared
    have aboveTrait := (includedTrait_eq_ok.mp (walk.belongs abovePart isAbovePart).included).1
    exact ⟨segments, rfl, .inr ⟨name, resolves, upper, _, _, isFound, aboveDeclared, aboveTrait⟩⟩

/-- Over a table with distinct names, exactly the traits have an interface that lead to none but
implementable ones. -/
theorem enumerate_succeeds_iff {table : SymbolTable}
    (distinct : (table.declarations.map Declaration.qualifiedName).Nodup) (id : Nat) :
    (∃ interface, enumerate table.host id = .ok interface) ↔
      (∃ declaration body, table.declaration? id = some declaration ∧
        declaration.trait? = some body) ∧
      ∀ reached declaration body, Relation.ReflTransGen (Supertrait table.host) id reached →
        table.declaration? reached = some declaration → declaration.trait? = some body →
          Implementable table.host declaration body := by
  constructor
  · rintro ⟨interface, enumerated⟩
    obtain ⟨found, body, declared, isTrait, _⟩ := enumerate_eq_ok.mp enumerated
    obtain ⟨parts, _, walk⟩ := enumerate_walk enumerated
    refine ⟨⟨found, body, Except.ok.inj declared, isTrait⟩, ?_⟩
    intro reached declaration reachedBody leads isReached
    exact walk.implementable table.host_coherent (distinctNames_of_nodup distinct) leads
      (congrArg Except.ok isReached)
  · rintro ⟨⟨found, body, declared, isTrait⟩, every⟩
    refine enumerate_answered table.host_answers table.host_coherent ⟨?_, ?_⟩
    · exact ⟨found, body, congrArg Except.ok declared, isTrait⟩
    · intro reached declaration reachedBody leads isReached
      exact every reached declaration reachedBody leads (Except.ok.inj isReached)

/-- A trait with a type that has a meaning in its own module only. -/
def stock : Declaration :=
  ⟨"Stock", "crate::store", 1,
    .trait ⟨false, [], [
      .method ⟨"count", some .shared, [], some (.path ["Option"] [.path ["Amount"] []]), false,
        false⟩]⟩,
    [], none, true⟩

/-- A trait with a type that has no meaning. -/
def ledger : Declaration :=
  ⟨"Ledger", "crate", 0,
    .trait ⟨false, [], [
      .method ⟨"audit", some .shared, [⟨some "by", .path ["Auditor"] []⟩], none, false, false⟩]⟩,
    [], none, true⟩

/-- Two traits, each with one of these above it. -/
def shelfTable : SymbolTable where
  scopes := [.new "crate" none, .new "crate::store" none]
  declarations := [
    ⟨"Shelf", "crate", 0,
      .trait ⟨false, [.path ["Send"] [], .path ["store", "Stock"] []], [
        .associatedConst "LIMIT" true,
        .method ⟨"standard", none, [], some (.path ["Auditor"] []), false, true⟩,
        .method ⟨"get_label", some .shared, [], some (.path ["String"] []), false, false⟩,
        .method ⟨"set_label", some .exclusive, [⟨none, .path ["String"] []⟩], none, false,
          false⟩]⟩,
      [], none, true⟩,
    stock,
    ⟨"Amount", "crate::store", 1, .unitStruct, [], none, true⟩,
    ⟨"Till", "crate", 0, .trait ⟨false, [.path ["Ledger"] []], []⟩, [], none, true⟩,
    ledger]
  facts := []
  announced := []

theorem shelfTable_acceptance :
    (shelfTable.declarations.map Declaration.qualifiedName).Nodup ∧
      (∃ interface, enumerate shelfTable.host 0 = .ok interface) ∧
      (∀ body, stock.trait? = some body → Implementable shelfTable.host stock body) ∧
      ¬∃ interface, enumerate shelfTable.host 3 = .ok interface := by
  have distinct : (shelfTable.declarations.map Declaration.qualifiedName).Nodup := by decide
  have accepted : ∃ interface, enumerate shelfTable.host 0 = .ok interface := ⟨_, rfl⟩
  refine ⟨distinct, accepted, ?_, ?_⟩
  · intro body isTrait
    have leads : Supertrait shelfTable.host 0 1 :=
      ⟨_, _, ["store", "Stock"], "crate::store::Stock", rfl, rfl, by simp, rfl, rfl, rfl⟩
    exact ((enumerate_succeeds_iff distinct 0).mp accepted).2 1 stock body (.single leads) rfl
      isTrait
  · intro wrongly
    have leads : Supertrait shelfTable.host 3 4 :=
      ⟨_, _, ["Ledger"], "crate::Ledger", rfl, rfl, by simp, rfl, rfl, rfl⟩
    have implementable := ((enumerate_succeeds_iff distinct 3).mp wrongly).2 4 ledger _
      (.single leads) rfl rfl
    have types := (implementable.methods _ (List.mem_singleton.mpr rfl)).types nofun
    cases types (.path ["Auditor"] []) (by decide) with
    | path resolves noTrait each => exact nomatch resolves

end ForwardingProxy.Enumeration
