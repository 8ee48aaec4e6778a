import ForwardingProxy.Proofs.Enumeration.Accessors
import ForwardingProxy.Proofs.ProxySource.Text

/-!
Contract: the trait blocks of a proxy against the traits they implement.

Owns: when a forwarded member overrides a declared method, the members that one part of an
interface is forwarded with, and the fact that every block of a proxy overrides each method with a
receiver of its own trait once and holds nothing else.

A block lists a reader before its writer and both before the methods that stand alone, so it follows
the order of accessors rather than the order of declaration.
-/

namespace ForwardingProxy.Enumeration

/-! ### Overriding members -/

/-- The receiver as a trait declares it. -/
def declaredAs : Receiver → SelfParameter
  | .shared => .shared
  | .exclusive => .exclusive

/-- The member overrides the declared method: same name and receiver, the declared parameter types
in their order, and the resolved return type. Only a reader writes a unit result down. -/
structure Overrides
    (host : Host)
    (owner : Declaration)
    (signature : FunctionSignature)
    (member : ForwardedMember) : Prop where
  name : member.name = signature.name
  receiver : signature.receiver = some (declaredAs member.receiver)
  parameters : List.Forall₂
    (fun declared parameter =>
      Resolution.resolve host owner.qualifiedName owner.scope declared.type = .ok parameter.type)
    signature.parameters member.parameters
  result : ∃ type, returnType host owner signature.returnType = .ok type ∧
    member.declaredReturn = if type.isUnit && !reads signature then none else some type

/-- A reader of a property is overridden by the getter of that property. -/
private theorem getter_overrides {host : Host} {owner : Declaration}
    {signature : FunctionSignature} {property : Property} {written : TypeSyntax}
    (read : readProperty? signature = some (property.name, written))
    (resolved : Resolution.resolve host owner.qualifiedName owner.scope written =
      .ok property.type) :
    Overrides host owner signature (.ofGetter property) := by
  have isReader : reads signature = true := reads_eq_true.mpr ⟨_, _, read⟩
  obtain ⟨named, _, returned, _, taken, noParameters, _⟩ := readProperty?_eq_some.mp read
  refine ⟨named.symm, taken, ?_, property.type, ?_, ?_⟩
  · rw [noParameters]
    exact .nil
  · rw [returned]
    exact resolved
  · rw [isReader, Bool.not_true, Bool.and_false]
    rfl

/-- A writer of a property is overridden by the setter of that property. -/
private theorem setter_overrides {host : Host} {owner : Declaration}
    {signature : FunctionSignature} {property : Property} {written : TypeSyntax}
    (writes : writesProperty property.name written signature = true)
    (resolved : Resolution.resolve host owner.qualifiedName owner.scope written =
      .ok property.type) :
    Overrides host owner signature (.ofSetter property) := by
  obtain ⟨named, taken, _, types, returned⟩ := writesProperty_iff.mp writes
  have noReader : reads signature = false := by
    cases isReader : reads signature with
    | false => rfl
    | true => exact absurd (taken.symm.trans (receiver_of_reads isReader)) (by decide)
  refine ⟨named.symm, taken, ?_, .unit, ?_, ?_⟩
  · obtain ⟨parameter, isParameter, rfl⟩ := List.map_eq_singleton_iff.mp types
    rw [isParameter]
    exact .cons resolved .nil
  · rcases returned with isNone | isUnit
    · rw [isNone]
      rfl
    · rw [isUnit]
      rfl
  · rw [noReader]
    rfl

/-- A method that is no accessor is overridden by its forwarding method. -/
private theorem method_overrides {host : Host} {owner : Declaration}
    {signature : FunctionSignature} {receiver : SelfParameter} {parameters : List Parameter}
    {type : ResolvedType} {ownerName : String}
    (taken : signature.receiver = some receiver) (borrows : receiver ≠ .owned)
    (noReader : readProperty? signature = none)
    (parametersResolved : parametersFrom host owner 0 signature.parameters = .ok parameters)
    (resultResolved : returnType host owner signature.returnType = .ok type) :
    Overrides host owner signature
      (.ofMethod ⟨signature.name, borrow receiver, parameters, type, ownerName⟩) := by
  refine ⟨rfl, ?_, parametersFrom_resolves parametersResolved, type, resultResolved, ?_⟩
  · rw [taken]
    cases receiver with
    | shared => rfl
    | exclusive => rfl
    | owned => exact absurd rfl borrows
  · simp [ForwardedMember.ofMethod, reads, noReader]

/-! ### Members of one trait -/

/-- Where each selected element has one result and every other element none, the results belong to
the selected elements. -/
private theorem filter_filterMap {α β γ : Type} {relation : α → β → Prop} {goal : α → γ → Prop}
    {selected : α → Bool} {result : β → Option γ} {left : List α} {right : List β}
    (related : List.Forall₂ relation left right)
    (kept : ∀ {first second}, relation first second → selected first = true →
      ∃ value, result second = some value ∧ goal first value)
    (dropped : ∀ {first second}, relation first second → selected first = false →
      result second = none) :
    List.Forall₂ goal (left.filter selected) (right.filterMap result) := by
  induction related with
  | nil => exact .nil
  | @cons first second left right holds rest inductionHypothesis =>
      cases isSelected : selected first with
      | true =>
          obtain ⟨value, isResult, fits⟩ := kept holds isSelected
          rw [List.filter_cons_of_pos isSelected, List.filterMap_cons_some isResult]
          exact .cons fits inductionHypothesis
      | false =>
          rw [List.filter_cons_of_neg (by rw [isSelected]; decide),
            List.filterMap_cons_none (dropped holds isSelected)]
          exact inductionHypothesis

/-- The writers of a reader are what `hasWriter` looks for: none, or a single method. -/
private theorem writersOf_of_hasWriter {methods : List FunctionSignature}
    (distinct : (methods.map FunctionSignature.name).Nodup) {reader : FunctionSignature}
    {property : String} {written : TypeSyntax}
    (read : readProperty? reader = some (property, written)) :
    if hasWriter methods property written then
      ∃ writer, writesProperty property written writer = true ∧
        writersOf methods reader = [writer]
    else writersOf methods reader = [] := by
  have areWriters : writersOf methods reader =
      methods.filter (writesProperty property written) := by
    rw [writersOf, read]
  rw [areWriters]
  cases found : hasWriter methods property written with
  | false =>
      simpa [hasWriter, List.filter_eq_nil_iff] using found
  | true =>
      obtain ⟨writer, isWriter, writes⟩ := List.any_eq_true.mp found
      refine ⟨writer, writes, List.perm_singleton.mp ?_⟩
      refine (List.perm_ext_iff_of_nodup (distinct.of_map.filter _)
        (List.nodup_singleton writer)).mpr fun other => ?_
      rw [List.mem_filter, List.mem_singleton]
      constructor
      · rintro ⟨isMethod, alsoWrites⟩
        apply List.inj_on_of_nodup_map distinct isMethod isWriter
        rw [(writesProperty_iff.mp alsoWrites).1, (writesProperty_iff.mp writes).1]
      · rintro rfl
        exact ⟨isWriter, writes⟩

/-- The members that forward the properties and methods of one trait. -/
def forwarded (members : List Member) : List ForwardedMember :=
  (members.filterMap Member.property?).flatMap ForwardedMember.ofProperty
    ++ (members.filterMap Member.method?).map ForwardedMember.ofMethod

/-- The property is what its trait makes of a reader. -/
structure ForReader
    (host : Host)
    (owner : Declaration)
    (methods : List FunctionSignature)
    (reader : FunctionSignature)
    (property : Property) : Prop where
  resolved : ∃ written, readProperty? reader = some (property.name, written) ∧
    Resolution.resolve host owner.qualifiedName owner.scope written = .ok property.type ∧
    property.mutable = hasWriter methods property.name written
  owned : property.owner = owner.qualifiedName

/-- The method is what its trait makes of a declared one that stands alone. -/
structure ForMethod
    (host : Host)
    (owner : Declaration)
    (signature : FunctionSignature)
    (method : Method) : Prop where
  overridden : Overrides host owner signature (.ofMethod method)
  owned : method.owner = owner.qualifiedName
  parameters : parametersFrom host owner 0 signature.parameters = .ok method.parameters

section Members

variable {host : Host} {interface : String} {owner : Declaration} {methods : List FunctionSignature}
  {signature : FunctionSignature} {found : Option Member}

private theorem property_of_reader
    (isMember : member? host interface owner methods signature = .ok found)
    (isReader : reads signature = true) :
    ∃ property, found.bind Member.property? = some property ∧
      ForReader host owner methods signature property := by
  obtain ⟨name, written, read⟩ := reads_eq_true.mp isReader
  have taken := receiver_of_reads isReader
  rcases member?_eq_ok.mp isMember with ⟨noReceiver, _⟩ | ⟨receiver, _, _, _, isRead | other⟩
  · cases taken.symm.trans noReceiver
  · obtain ⟨_, _, type, readAgain, resolved, rfl⟩ := isRead
    cases read.symm.trans readAgain
    exact ⟨_, rfl, ⟨written, read, resolved, rfl⟩, rfl⟩
  · rcases other with ⟨notRead, _⟩ | ⟨notRead, _⟩ <;> cases read.symm.trans notRead

private theorem no_property_otherwise
    (isMember : member? host interface owner methods signature = .ok found)
    (noReader : reads signature = false) : found.bind Member.property? = none := by
  rcases member?_eq_ok.mp isMember with ⟨_, _, rfl⟩ | ⟨_, _, _, _, isRead | other⟩
  · rfl
  · obtain ⟨property, written, _, read, _⟩ := isRead
    rw [reads_eq_true.mpr ⟨property, written, read⟩] at noReader
    cases noReader
  · rcases other with ⟨_, _, rfl⟩ | ⟨_, _, _, _, _, _, rfl⟩ <;> rfl

private theorem method_of_standsAlone
    (isMember : member? host interface owner methods signature = .ok found)
    (alone : standsAlone methods signature = true) :
    ∃ method, found.bind Member.method? = some method ∧
      ForMethod host owner signature method := by
  simp only [standsAlone, Bool.and_eq_true, Bool.not_eq_true'] at alone
  obtain ⟨⟨hasReceiver, noReader⟩, notPaired⟩ := alone
  rcases member?_eq_ok.mp isMember with ⟨noReceiver, _⟩ |
    ⟨receiver, taken, borrows, _, isRead | paired | notAccessor⟩
  · rw [noReceiver] at hasReceiver
    cases hasReceiver
  · obtain ⟨property, written, _, read, _⟩ := isRead
    rw [reads_eq_true.mpr ⟨property, written, read⟩] at noReader
    cases noReader
  · cases notPaired.symm.trans paired.2.1
  · obtain ⟨notRead, _, parameters, type, areParameters, isResult, rfl⟩ := notAccessor
    exact ⟨_, rfl, method_overrides taken borrows notRead areParameters isResult, rfl,
      areParameters⟩

private theorem no_method_otherwise
    (isMember : member? host interface owner methods signature = .ok found)
    (notAlone : standsAlone methods signature = false) : found.bind Member.method? = none := by
  rcases member?_eq_ok.mp isMember with ⟨_, _, rfl⟩ |
    ⟨receiver, taken, _, _, isRead | paired | notAccessor⟩
  · rfl
  · obtain ⟨_, _, _, _, _, rfl⟩ := isRead
    rfl
  · obtain ⟨_, _, rfl⟩ := paired
    rfl
  · obtain ⟨notRead, notPaired, _⟩ := notAccessor
    simp [standsAlone, taken, reads, notRead, notPaired] at notAlone

end Members

section OwnMembers

variable {host : Host} {interface : String} {owner : Declaration} {body : TraitBody}
  {members : List Member}

/-- The properties of a trait stand in the order in which it declares their readers. -/
theorem ownMembers_properties (enumerated : ownMembers host interface owner body = .ok members) :
    List.Forall₂ (ForReader host owner body.methods) (body.methods.filter reads)
      (members.filterMap Member.property?) := by
  obtain ⟨_, found, areMembers, rfl⟩ := ownMembers_eq_ok.mp enumerated
  rw [List.filterMap_filterMap]
  exact filter_filterMap areMembers property_of_reader no_property_otherwise

/-- The methods of a trait stand in the order in which it declares them. -/
theorem ownMembers_forMethods (enumerated : ownMembers host interface owner body = .ok members) :
    List.Forall₂ (ForMethod host owner)
      (body.methods.filter (standsAlone body.methods)) (members.filterMap Member.method?) := by
  obtain ⟨_, found, areMembers, rfl⟩ := ownMembers_eq_ok.mp enumerated
  rw [List.filterMap_filterMap]
  exact filter_filterMap areMembers method_of_standsAlone no_method_otherwise

theorem ownMembers_methods (enumerated : ownMembers host interface owner body = .ok members) :
    List.Forall₂
      (fun signature method => Overrides host owner signature (.ofMethod method) ∧
        method.owner = owner.qualifiedName)
      (body.methods.filter (standsAlone body.methods)) (members.filterMap Member.method?) :=
  (ownMembers_forMethods enumerated).imp fun _ _ forMethod =>
    ⟨forMethod.overridden, forMethod.owned⟩

theorem ownMembers_property_owner (enumerated : ownMembers host interface owner body = .ok members)
    {property : Property} (isProperty : property ∈ members.filterMap Member.property?) :
    property.owner = owner.qualifiedName := by
  obtain ⟨_, _, forReader⟩ := partner_of_mem_right (ownMembers_properties enumerated) isProperty
  exact forReader.owned

theorem ownMembers_method_owner (enumerated : ownMembers host interface owner body = .ok members)
    {method : Method} (isMethod : method ∈ members.filterMap Member.method?) :
    method.owner = owner.qualifiedName := by
  obtain ⟨_, _, forMethod⟩ := partner_of_mem_right (ownMembers_forMethods enumerated) isMethod
  exact forMethod.owned

end OwnMembers

/-- The members that forward a property override its reader and the writers of that reader. -/
private theorem accessors_override {host : Host} {owner : Declaration}
    {methods : List FunctionSignature} {reader : FunctionSignature} {property : Property}
    (distinct : (methods.map FunctionSignature.name).Nodup)
    (isProperty : ForReader host owner methods reader property) :
    List.Forall₂
      (fun signature member =>
        Overrides host owner signature member ∧ member.owner = owner.qualifiedName)
      (reader :: writersOf methods reader) (ForwardedMember.ofProperty property) := by
  obtain ⟨written, read, resolved, isMutable⟩ := isProperty.resolved
  have overridden := getter_overrides read resolved
  have writers := writersOf_of_hasWriter distinct read
  rw [← isMutable] at writers
  unfold ForwardedMember.ofProperty
  cases mutable : property.mutable with
  | false =>
      simp only [mutable, Bool.false_eq_true, if_false] at writers
      rw [writers]
      exact .cons ⟨overridden, isProperty.owned⟩ .nil
  | true =>
      simp only [mutable, if_true] at writers
      obtain ⟨writer, writes, areWriters⟩ := writers
      rw [areWriters]
      have writerOverridden := setter_overrides writes resolved
      exact .cons ⟨overridden, isProperty.owned⟩ (.cons ⟨writerOverridden, isProperty.owned⟩ .nil)

/-- The forwarded members of a trait override its methods with a receiver, each method once and in
the order of accessors, and belong to the trait. -/
theorem forwarded_overrides {host : Host} {interface : String} {owner : Declaration}
    {body : TraitBody} {members : List Member}
    (distinct : (body.methods.map FunctionSignature.name).Nodup)
    (enumerated : ownMembers host interface owner body = .ok members) :
    List.Forall₂
      (fun signature member =>
        Overrides host owner signature member ∧ member.owner = owner.qualifiedName)
      (accessorOrder body.methods) (forwarded members) := by
  have properties := ownMembers_properties enumerated
  have methods := ownMembers_methods enumerated
  refine List.rel_append (List.rel_flatMap properties ?_) (List.forall₂_map_right_iff.mpr methods)
  exact fun reader property isProperty => accessors_override distinct isProperty

/-! ### Blocks -/

/-- The members that a part of an interface is forwarded with all name the part as their owner. -/
private theorem owner_of_forwarded {host : Host} {interface : String} {part : Part}
    (belongs : part.BelongsTo host interface)
    (distinct : (part.body.methods.map FunctionSignature.name).Nodup) {member : ForwardedMember}
    (isForwarded : member ∈ forwarded part.members) : member.owner = part.name := by
  obtain ⟨_, _, _, owned⟩ :=
    partner_of_mem_right (forwarded_overrides distinct belongs.members) isForwarded
  exact owned

/-- Of what distinct parts contribute, only the contribution of a part itself names that part. -/
theorem filter_owner {α : Type} {owner : α → String} {parts : List Part}
    {contribution : Part → List α} (distinct : (parts.map Part.name).Nodup)
    (owned : ∀ part ∈ parts, ∀ member ∈ contribution part, owner member = part.name)
    {part : Part} (isPart : part ∈ parts) :
    (parts.flatMap contribution).filter (fun member => owner member == part.name) =
      contribution part := by
  induction parts with
  | nil => cases isPart
  | cons first rest inductionHypothesis =>
      rw [List.map_cons, List.nodup_cons] at distinct
      obtain ⟨notLater, distinctRest⟩ := distinct
      have ownedLater : ∀ other ∈ rest, ∀ member ∈ contribution other, owner member = other.name :=
        fun other later => owned other (List.mem_cons_of_mem first later)
      rw [List.flatMap_cons, List.filter_append]
      rcases List.mem_cons.mp isPart with rfl | later
      · have all : (contribution part).filter (fun member => owner member == part.name) =
            contribution part := by
          apply List.filter_eq_self.mpr
          intro member isMember
          rw [beq_iff_eq]
          exact owned part (by simp) member isMember
        have none : (rest.flatMap contribution).filter (fun member => owner member == part.name) =
            [] := by
          apply List.filter_eq_nil_iff.mpr
          intro member isMember
          obtain ⟨other, isOther, contributes⟩ := List.mem_flatMap.mp isMember
          rw [ownedLater other isOther member contributes, beq_iff_eq]
          exact fun same => notLater (List.mem_map.mpr ⟨other, isOther, same⟩)
        rw [all, none, List.append_nil]
      · have none : (contribution first).filter (fun member => owner member == part.name) = [] := by
          apply List.filter_eq_nil_iff.mpr
          intro member isMember
          rw [owned first (by simp) member isMember, beq_iff_eq]
          exact fun same => notLater (List.mem_map.mpr ⟨part, later, same.symm⟩)
        rw [none, List.nil_append]
        exact inductionHypothesis distinctRest ownedLater later

/-- The trait blocks of an interface are its parts, each with its own forwarded members. -/
theorem traitBlocks_withParts (name : String) {parts : List Part}
    (distinct : (parts.map Part.name).Nodup)
    (owned : ∀ part ∈ parts, ∀ member ∈ forwarded part.members, member.owner = part.name) :
    (withParts (.empty name) parts).traitBlocks =
      parts.map fun part => ⟨part.name, forwarded part.members⟩ := by
  have properties : ∀ part ∈ parts, ∀ member ∈
      (part.members.filterMap Member.property?).flatMap ForwardedMember.ofProperty,
        member.owner = part.name :=
    fun part isPart member isMember =>
      owned part isPart member (List.mem_append_left _ isMember)
  have methods : ∀ part ∈ parts, ∀ member ∈
      (part.members.filterMap Member.method?).map ForwardedMember.ofMethod,
        member.owner = part.name :=
    fun part isPart member isMember =>
      owned part isPart member (List.mem_append_right _ isMember)
  simp only [Interface.traitBlocks, withParts, Interface.empty, List.nil_append, List.map_map]
  apply List.map_congr_left
  intro part isPart
  have isOwn := filter_owner distinct properties isPart
  have isOwnMethod := filter_owner distinct methods isPart
  simp only [Function.comp_apply, Interface.forwardedMembers, List.filter_append,
    List.flatMap_assoc, List.map_flatMap, isOwn, isOwnMethod, forwarded]

/-! ### Whole proxies -/

/-- Qualified names tell the declarations of the table apart, and method names the methods of each
of its traits. -/
structure Unambiguous (table : SymbolTable) : Prop where
  declarations : (table.declarations.map Declaration.qualifiedName).Nodup
  methods : ∀ declaration ∈ table.declarations, ∀ body ∈ declaration.trait?,
    (body.methods.map FunctionSignature.name).Nodup

theorem Unambiguous.distinctNames {table : SymbolTable} (unambiguous : Unambiguous table) :
    DistinctNames table.host :=
  distinctNames_of_nodup unambiguous.declarations

/-- The source text of the proxy consists of its opening and of one block for each trait that
supertraits lead to from the trait `id`. The block of a trait overrides each of the trait's methods
that take a receiver once, and holds nothing else. -/
structure ImplementsHierarchy
    (table : SymbolTable)
    (id : Nat)
    (runtimePath : String)
    (request : ProxyRequest)
    (blocks : List TraitBlock) : Prop where
  text : request.sourceText runtimePath =
    request.openingText ++ String.join (blocks.map fun traitBlock =>
      "\n" ++ traitBlock.implText runtimePath request.proxy request.target)
  distinct : (blocks.map TraitBlock.owner).Nodup
  traits : ∀ name, name ∈ blocks.map TraitBlock.owner ↔ InHierarchy table.host id name
  members : ∀ traitBlock ∈ blocks, ∃ declaration ∈ table.declarations, ∃ body order,
    declaration.qualifiedName = traitBlock.owner ∧ declaration.trait? = some body ∧
      List.Perm order (body.methods.filter fun signature => signature.receiver.isSome) ∧
      List.Forall₂ (Overrides table.host declaration) order traitBlock.members

/-- A property with both accessors, and a trait that adds a method to it. -/
def badgeTable : SymbolTable where
  scopes := [.new "crate" none]
  declarations := [
    ⟨"Named", "crate", 0,
      .trait ⟨false, [], [
        .method ⟨"set_name", some .exclusive, [⟨some "name", .path ["String"] []⟩], none, false,
          false⟩,
        .method ⟨"get_name", some .shared, [], some (.path ["String"] []), false, false⟩]⟩,
      [], none, true⟩,
    ⟨"Badge", "crate", 0,
      .trait ⟨false, [.path ["Named"] []], [
        .method ⟨"print", some .shared, [⟨some "copies", .path ["u8"] []⟩], none, false, false⟩]⟩,
      [], none, true⟩]
  facts := []
  announced := []

/-- The proxy of the trait that adds the method. -/
def badgeRequest : ProxyRequest :=
  .new
    ⟨"crate::Badge", ["crate::Badge", "crate::Named"],
      [⟨"name", .named "std::string::String", true, "crate::Named"⟩],
      [⟨"print", .shared, [⟨"copies", .named "u8"⟩], .unit, "crate::Badge"⟩]⟩
    (.function "crate::answer") none

/-- Two methods without a result worth showing, under a name that an import gives to unit. -/
def unitAliasTable : SymbolTable where
  scopes := [(Scope.new "crate" none).withImport "Nothing" ["()"]]
  declarations := [
    ⟨"Echo", "crate", 0, .unitStruct, [], none, true⟩,
    ⟨"Probe", "crate", 0,
      .trait ⟨false, [], [
        .method ⟨"get_state", some .shared, [], some (.path ["Nothing"] []), false, false⟩,
        .method ⟨"reset", some .shared, [], some (.path ["Nothing"] []), false, false⟩]⟩,
      [⟨"with_proxy", some "Echo"⟩], none, true⟩]
  facts := []
  announced := []

/-- The proxy of the trait with the two methods. -/
def unitAliasRequest : ProxyRequest :=
  .new
    ⟨"crate::Probe", ["crate::Probe"], [⟨"state", .unit, false, "crate::Probe"⟩],
      [⟨"reset", .shared, [], .unit, "crate::Probe"⟩]⟩
    (.handler "&crate::Echo") none

end ForwardingProxy.Enumeration
