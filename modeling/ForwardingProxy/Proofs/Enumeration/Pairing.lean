import ForwardingProxy.Proofs.Enumeration.Acceptance

/-!
Contract: readers and writers that are paired by the types they mean.

Owns: `Interface.pairedByType`, the interface in which a property has every writer of its type, and
the fact that it depends only on what the methods of the traits stand for by themselves.

The enumeration pairs by spelling, so it leaves a writer among the methods whose parameter is
spelled otherwise than the result of its reader. What it pairs has the same type in any case.
-/

namespace ForwardingProxy

/-! ### Interfaces -/

/-- The property without the flag that tells of a writer. -/
def Property.unpaired (property : Property) : Property :=
  { property with mutable := false }

/-- Whether the method writes the property: its setter in the same trait, by the types. -/
def Property.isWrittenBy (property : Property) (method : Method) : Bool :=
  method.name == property.setterName && method.receiver == .exclusive
    && method.parameters.map Parameter.type == [property.type]
    && method.returnType == .unit && method.owner == property.owner

namespace Interface

/-- Whether the property has a writer among the methods, or one that is left out for its flag. -/
def hasWriter (interface : Interface) (property : Property) : Bool :=
  interface.methods.any property.isWrittenBy
    || interface.properties.any fun other => other.mutable && other.unpaired == property.unpaired

/-- The interface with every writer paired, whichever way its type is spelled. -/
def pairedByType (interface : Interface) : Interface :=
  { interface with
    properties := interface.properties.map fun property =>
      { property with mutable := interface.hasWriter property }
    methods := interface.methods.filter fun method =>
      !interface.properties.any fun property => property.isWrittenBy method }

/-- The interface comes about from one in which nothing is paired: some properties get the flag, and
then methods that write them are left out. -/
structure PairsUp (raw interface : Interface) : Prop where
  name : interface.name = raw.name
  traits : interface.traits = raw.traits
  properties : interface.properties.map Property.unpaired = raw.properties
  methods : interface.methods.Sublist raw.methods
  written : ∀ property ∈ interface.properties, property.mutable = true →
    ∃ method ∈ raw.methods, property.isWrittenBy method = true
  /-- Only methods are left out that a property with the flag is written by. -/
  leftOut : ∀ test : Method → Bool,
    (∀ property ∈ interface.properties, property.mutable = true → ∀ method,
      property.isWrittenBy method = true → test method = false) →
      raw.methods.filter test = interface.methods.filter test

end Interface

theorem Property.isWrittenBy_iff {property : Property} {method : Method} :
    property.isWrittenBy method = true ↔
      method.name = property.setterName ∧ method.receiver = .exclusive ∧
        method.parameters.map Parameter.type = [property.type] ∧ method.returnType = .unit ∧
        method.owner = property.owner := by
  simp [isWrittenBy, and_assoc]

theorem Property.isWrittenBy_unpaired (property : Property) :
    property.unpaired.isWrittenBy = property.isWrittenBy :=
  rfl

/-- A method writes properties of one name, type and trait only. -/
theorem Property.unpaired_eq_of_isWrittenBy {property other : Property} {method : Method}
    (writes : property.isWrittenBy method = true) (writesOther : other.isWrittenBy method = true) :
    property.unpaired = other.unpaired := by
  obtain ⟨isName, _, isType, _, isOwner⟩ := isWrittenBy_iff.mp writes
  obtain ⟨isOtherName, _, isOtherType, _, isOtherOwner⟩ := isWrittenBy_iff.mp writesOther
  have sameName : property.name = other.name :=
    (String.append_right_inj "set_").mp (isName.symm.trans isOtherName)
  have sameType : property.type = other.type :=
    List.singleton_inj.mp (isType.symm.trans isOtherType)
  unfold unpaired
  rw [sameName, sameType, isOwner.symm.trans isOtherOwner]

namespace Interface.PairsUp

variable {raw interface : Interface}

theorem hasWriter_eq (pairs : PairsUp raw interface) (property : Property) :
    interface.hasWriter property = raw.methods.any property.isWrittenBy := by
  rw [Bool.eq_iff_iff, hasWriter]
  simp only [Bool.or_eq_true, List.any_eq_true, Bool.and_eq_true, beq_iff_eq]
  constructor
  · rintro (⟨method, isMethod, writes⟩ | ⟨other, isOther, flagged, same⟩)
    · exact ⟨method, pairs.methods.subset isMethod, writes⟩
    · obtain ⟨method, isMethod, writes⟩ := pairs.written other isOther flagged
      rw [← Property.isWrittenBy_unpaired, same, Property.isWrittenBy_unpaired] at writes
      exact ⟨method, isMethod, writes⟩
  · rintro ⟨method, isMethod, writes⟩
    -- the method is still there, unless some property has the flag for it
    by_contra! unwritten
    have stays := pairs.leftOut (fun candidate => candidate == method)
      (fun other isOther flagged candidate writesOther => by
        by_contra isSame
        rw [Bool.not_eq_false, beq_iff_eq] at isSame
        subst isSame
        exact unwritten.2 other isOther flagged
          (Property.unpaired_eq_of_isWrittenBy writesOther writes))
    have isKept : method ∈ interface.methods.filter fun candidate => candidate == method := by
      rw [← stays]
      exact List.mem_filter.mpr ⟨isMethod, beq_self_eq_true method⟩
    exact unwritten.1 method (List.mem_of_mem_filter isKept) writes

theorem any_isWrittenBy (pairs : PairsUp raw interface) (method : Method) :
    (interface.properties.any fun property => property.isWrittenBy method) =
      raw.properties.any fun property => property.isWrittenBy method := by
  rw [← pairs.properties, List.any_map]
  rfl

/-- What is paired by type is known before anything is paired. -/
theorem pairedByType_eq (pairs : PairsUp raw interface) :
    interface.pairedByType = {
      name := raw.name
      traits := raw.traits
      properties := raw.properties.map fun property =>
        { property with mutable := raw.methods.any property.isWrittenBy }
      methods := raw.methods.filter fun method =>
        !raw.properties.any fun property => property.isWrittenBy method } := by
  have properties : (interface.properties.map fun property =>
      { property with mutable := interface.hasWriter property }) =
        raw.properties.map fun property =>
          { property with mutable := raw.methods.any property.isWrittenBy } := by
    rw [← pairs.properties, List.map_map]
    refine List.map_congr_left fun property _ => ?_
    rw [pairs.hasWriter_eq]
    rfl
  have methods : (interface.methods.filter fun method =>
      !interface.properties.any fun property => property.isWrittenBy method) =
        raw.methods.filter fun method =>
          !raw.properties.any fun property => property.isWrittenBy method := by
    simp only [pairs.any_isWrittenBy]
    refine (pairs.leftOut _ fun property isProperty _ method writes => ?_).symm
    rw [← pairs.any_isWrittenBy, Bool.not_eq_false', List.any_eq_true]
    exact ⟨property, isProperty, writes⟩
  simp only [pairedByType, properties, methods, pairs.name, pairs.traits]

end Interface.PairsUp

/-! ### Members -/

namespace Enumeration

variable {host : Host} {interface : String} {owner : Declaration}

/-- What pairing with the methods of its trait makes of the member that a method stands for. -/
def pairing (methods : List FunctionSignature) (signature : FunctionSignature) :
    Option Member → Option Member
  | some (.property property) =>
      some (.property { property with
        mutable := (readProperty? signature).any fun read =>
          Enumeration.hasWriter methods read.1 read.2 })
  | some (.method method) =>
      if isPairedWriter methods signature then none else some (.method method)
  | none => none

/-- A method that stands for a member by itself stands for what pairing makes of it. -/
theorem member?_pairing {signature : FunctionSignature} {found : Option Member}
    (alone : member? host interface owner [] signature = .ok found)
    (methods : List FunctionSignature) :
    member? host interface owner methods signature = .ok (pairing methods signature found) := by
  rw [member?_eq_ok] at alone ⊢
  rcases alone with ⟨noReceiver, hasBody, rfl⟩ | ⟨receiver, taken, borrows, plain, kinds⟩
  · exact .inl ⟨noReceiver, hasBody, rfl⟩
  · refine .inr ⟨receiver, taken, borrows, plain, ?_⟩
    rcases kinds with ⟨property, written, type, reads, resolves, rfl⟩ | ⟨_, paired, _⟩ |
      ⟨noReader, _, parameters, type, areParameters, isType, rfl⟩
    · refine .inl ⟨property, written, type, reads, resolves, ?_⟩
      simp [pairing, reads]
    · cases paired
    · refine .inr ?_
      by_cases paired : isPairedWriter methods signature = true
      · exact .inl ⟨noReader, paired, by simp [pairing, paired]⟩
      · refine .inr ⟨noReader, by simpa using paired, parameters, type, areParameters, isType, ?_⟩
        simp [pairing, paired]

/-- The methods of a trait and what each of them stands for by itself. -/
def StandAlone (host : Host) (interface : String) (owner : Declaration)
    (methods : List FunctionSignature) (found : List (Option Member)) : Prop :=
  List.Forall₂ (fun signature member => member? host interface owner [] signature = .ok member)
    methods found

theorem StandAlone.paired {methods : List FunctionSignature} {found : List (Option Member)}
    (alone : StandAlone host interface owner methods found) (all : List FunctionSignature) :
    List.Forall₂ (fun signature member => member? host interface owner all signature = .ok member)
      methods (List.zipWith (pairing all) methods found) := by
  induction alone with
  | nil => exact .nil
  | cons first rest inductionHypothesis =>
      exact .cons (member?_pairing first all) inductionHypothesis

/-- The members of a trait are those that its methods stand for, after pairing. -/
theorem ownMembers_of_standAlone {body : TraitBody} {found : List (Option Member)}
    (noProblem : body.items.findSome? (itemProblem? owner.qualifiedName) = none)
    (alone : StandAlone host interface owner body.methods found) :
    ownMembers host interface owner body =
      .ok ((List.zipWith (pairing body.methods) body.methods found).filterMap id) :=
  ownMembers_eq_ok.mpr ⟨noProblem, _, alone.paired body.methods, rfl⟩

/-- Where a trait has members, each of its methods stands for something by itself. -/
theorem standAlone_of_ownMembers (answers : host.Answers) {body : TraitBody} {members : List Member}
    (areMembers : ownMembers host interface owner body = .ok members) :
    ∃ found, StandAlone host interface owner body.methods found ∧
      members = (List.zipWith (pairing body.methods) body.methods found).filterMap id := by
  have forwardable := forwardable_of_ownMembers areMembers
  obtain ⟨found, areFound⟩ := mapM_answered fun signature isMethod =>
    member?_answered answers interface [] (forwardable signature isMethod)
  have alone : StandAlone host interface owner body.methods found := mapM_eq_ok.mp areFound
  have noProblem := (ownMembers_eq_ok.mp areMembers).1
  exact ⟨found, alone,
    Except.ok.inj (areMembers.symm.trans (ownMembers_of_standAlone noProblem alone))⟩

/-- The method is a setter of the property by what its types mean. -/
structure SetsByType (host : Host) (owner : Declaration) (property : String) (type : ResolvedType)
    (signature : FunctionSignature) : Prop where
  name : signature.name = "set_" ++ property
  receiver : signature.receiver = some .exclusive
  plain : signature.generic = false
  parameter : ∃ parameter, signature.parameters = [parameter] ∧
    Resolution.resolve host owner.qualifiedName owner.scope parameter.type = .ok type
  result : returnType host owner signature.returnType = .ok .unit

/-- A method writes a property of its trait exactly when it is a setter by its types. -/
theorem setsByType_iff {signature : FunctionSignature} {found : Option Member}
    (alone : member? host interface owner [] signature = .ok found) {property : Property}
    (isOwner : property.owner = owner.qualifiedName) :
    SetsByType host owner property.name property.type signature ↔
      ∃ method, found = some (.method method) ∧ property.isWrittenBy method = true := by
  constructor
  · rintro ⟨isName, isExclusive, plain, ⟨parameter, isParameter, resolves⟩, isUnit⟩
    have noReader : readProperty? signature = none := by
      rw [Option.eq_none_iff_forall_ne_some]
      rintro ⟨read, written⟩ reads
      have isShared := (readProperty?_eq_some.mp reads).2.2.2.2.1
      exact absurd (isExclusive.symm.trans isShared) (by decide)
    rcases member?_eq_ok.mp alone with ⟨noReceiver, _⟩ | ⟨receiver, taken, _, _, kinds⟩
    · cases isExclusive.symm.trans noReceiver
    cases isExclusive.symm.trans taken
    rcases kinds with ⟨_, _, _, reads, _⟩ | ⟨_, paired, _⟩ |
      ⟨_, _, parameters, type, areParameters, isType, rfl⟩
    · cases noReader.symm.trans reads
    · cases paired
    · refine ⟨_, rfl, Property.isWrittenBy_iff.mpr ⟨isName, rfl, ?_, ?_, isOwner.symm⟩⟩
      · have areTypes := parametersFrom_resolves areParameters
        rw [isParameter] at areTypes
        obtain ⟨only, others, resolvesOnly, noOthers, rfl⟩ := List.forall₂_cons_left_iff.mp areTypes
        cases noOthers
        exact congrArg (fun type => [type]) (Except.ok.inj (resolvesOnly.symm.trans resolves))
      · exact Except.ok.inj (isType.symm.trans isUnit)
  · rintro ⟨method, rfl, writes⟩
    obtain ⟨isName, isExclusive, isParameter, isUnit, _⟩ := Property.isWrittenBy_iff.mp writes
    rcases member?_eq_ok.mp alone with ⟨_, _, isNone⟩ | ⟨receiver, taken, borrows, plain, kinds⟩
    · cases isNone
    rcases kinds with ⟨_, _, _, _, _, isProperty⟩ | ⟨_, paired, _⟩ |
      ⟨_, _, parameters, type, areParameters, isType, same⟩
    · cases isProperty
    · cases paired
    · cases same
      refine ⟨isName, ?_, plain, ?_, isUnit ▸ isType⟩
      · cases receiver with
        | exclusive => exact taken
        | shared => cases isExclusive
        | owned => exact absurd rfl borrows
      · have areTypes := parametersFrom_resolves areParameters
        obtain ⟨only, rfl, isOnly⟩ := List.map_eq_singleton_iff.mp isParameter
        obtain ⟨parameter, others, resolves, noOthers, isParameters⟩ :=
          List.forall₂_cons_right_iff.mp areTypes
        cases noOthers
        exact ⟨parameter, isParameters, isOnly ▸ resolves⟩

/-- A writer that is paired by spelling is a setter by its types, too. -/
theorem setsByType_of_writes {property : Property} {written : TypeSyntax}
    {signature : FunctionSignature}
    (resolves : Resolution.resolve host owner.qualifiedName owner.scope written = .ok property.type)
    (writes : writesProperty property.name written signature = true) :
    SetsByType host owner property.name property.type signature := by
  obtain ⟨isName, isExclusive, plain, types, returned⟩ := writesProperty_iff.mp writes
  obtain ⟨parameter, isParameter, rfl⟩ := List.map_eq_singleton_iff.mp types
  refine ⟨isName, isExclusive, plain, ⟨parameter, isParameter, resolves⟩, ?_⟩
  rcases returned with isNone | isUnit
  · rw [isNone]
    rfl
  · rw [isUnit, returnType, Resolution.resolve]
    rfl

/-- The property that a reader stands for by itself. -/
theorem reads_of_alone {signature : FunctionSignature} {property : Property}
    (alone : member? host interface owner [] signature = .ok (some (.property property))) :
    ∃ written, readProperty? signature = some (property.name, written) ∧
      Resolution.resolve host owner.qualifiedName owner.scope written = .ok property.type ∧
      property.mutable = false ∧ property.owner = owner.qualifiedName := by
  rcases member?_eq_ok.mp alone with ⟨_, _, isNone⟩ | ⟨_, _, _, _, kinds⟩
  · cases isNone
  rcases kinds with ⟨name, written, type, reads, resolves, same⟩ | ⟨_, _, isNone⟩ |
    ⟨_, _, _, _, _, _, isMethod⟩
  · cases same
    exact ⟨written, reads, resolves, rfl, rfl⟩
  · cases isNone
  · cases isMethod

/-- What a reader stands for by itself. -/
theorem alone_of_reads {signature : FunctionSignature} {found : Option Member}
    (alone : member? host interface owner [] signature = .ok found) {name : String}
    {written : TypeSyntax} (reads : readProperty? signature = some (name, written)) :
    ∃ property, found = some (.property property) ∧ property.name = name ∧
      Resolution.resolve host owner.qualifiedName owner.scope written = .ok property.type ∧
      property.owner = owner.qualifiedName := by
  obtain ⟨_, _, _, _, isShared, _⟩ := readProperty?_eq_some.mp reads
  rcases member?_eq_ok.mp alone with ⟨noReceiver, _⟩ | ⟨_, _, _, _, kinds⟩
  · cases isShared.symm.trans noReceiver
  rcases kinds with ⟨property, _, type, readsAgain, resolves, rfl⟩ | ⟨noReader, _⟩ | ⟨noReader, _⟩
  · cases reads.symm.trans readsAgain
    exact ⟨_, rfl, rfl, resolves, rfl⟩
  · cases reads.symm.trans noReader
  · cases reads.symm.trans noReader

namespace StandAlone

variable {methods : List FunctionSignature} {found : List (Option Member)}

/-- The members that pairing leaves. -/
abbrev members (methods : List FunctionSignature) (found : List (Option Member)) : List Member :=
  (List.zipWith (pairing methods) methods found).filterMap id

theorem mem_members (alone : StandAlone host interface owner methods found) {member : Member} :
    member ∈ members methods found ↔ ∃ signature ∈ methods, ∃ single ∈ found,
      member? host interface owner [] signature = .ok single ∧
        pairing methods signature single = some member := by
  simp only [members, List.mem_filterMap, id_eq, exists_eq_right]
  constructor
  · intro isMember
    obtain ⟨signature, isMethod, answered⟩ := partner_of_mem_right (alone.paired methods) isMember
    obtain ⟨single, isSingle, standsAlone⟩ := partner_of_mem_left alone isMethod
    have same := (member?_pairing standsAlone methods).symm.trans answered
    exact ⟨signature, isMethod, single, isSingle, standsAlone, Except.ok.inj same⟩
  · rintro ⟨signature, isMethod, single, _, standsAlone, isMember⟩
    obtain ⟨paired, isPaired, answered⟩ := partner_of_mem_left (alone.paired methods) isMethod
    have same := (member?_pairing standsAlone methods).symm.trans answered
    rwa [← isMember, Except.ok.inj same]

/-- A reader that has a writer stands for a property that a method writes. -/
theorem written (alone : StandAlone host interface owner methods found) {property : Property}
    (isMember : .property property ∈ members methods found) (flagged : property.mutable = true) :
    ∃ method, some (.method method) ∈ found ∧ property.isWrittenBy method = true := by
  obtain ⟨reader, _, single, _, standsAlone, isPaired⟩ := alone.mem_members.mp isMember
  match single, standsAlone, isPaired with
  | some (.property before), standsAlone, isPaired =>
      obtain ⟨written, reads, resolves, _, isOwner⟩ := reads_of_alone standsAlone
      cases isPaired
      simp only [reads, Option.any_some, Enumeration.hasWriter, List.any_eq_true] at flagged
      obtain ⟨writer, isWriter, writes⟩ := flagged
      obtain ⟨other, isOther, writerAlone⟩ := partner_of_mem_left alone isWriter
      obtain ⟨method, rfl, isWritten⟩ := (setsByType_iff writerAlone isOwner).mp
        (setsByType_of_writes resolves writes)
      exact ⟨method, isOther, isWritten⟩
  | some (.method method), _, isPaired =>
      rw [pairing] at isPaired
      split at isPaired <;> simp at isPaired

/-- A writer that is paired writes a property that has the flag. -/
theorem paired_writes (alone : StandAlone host interface owner methods found)
    {signature : FunctionSignature} {method : Method}
    (standsAlone : member? host interface owner [] signature = .ok (some (.method method)))
    (isWriter : signature ∈ methods) (paired : isPairedWriter methods signature = true) :
    ∃ property, .property property ∈ members methods found ∧ property.mutable = true ∧
      property.isWrittenBy method = true := by
  obtain ⟨reader, isReader, name, written, reads, writes⟩ := isPairedWriter_iff.mp paired
  obtain ⟨single, isSingle, readerAlone⟩ := partner_of_mem_left alone isReader
  obtain ⟨property, rfl, rfl, resolves, isOwner⟩ := alone_of_reads readerAlone reads
  obtain ⟨_, same, isWritten⟩ := (setsByType_iff standsAlone isOwner).mp
    (setsByType_of_writes resolves writes)
  cases same
  have hasWriter : Enumeration.hasWriter methods property.name written = true :=
    List.any_eq_true.mpr ⟨signature, isWriter, writes⟩
  refine ⟨{ property with mutable := true }, ?_, rfl, isWritten⟩
  refine alone.mem_members.mpr ⟨reader, isReader, _, isSingle, readerAlone, ?_⟩
  simp [pairing, reads, hasWriter]

theorem unpaired_properties {signatures : List FunctionSignature} {singles : List (Option Member)}
    (alone : StandAlone host interface owner signatures singles)
    (all : List FunctionSignature) :
    (((List.zipWith (pairing all) signatures singles).filterMap id).filterMap
        Member.property?).map Property.unpaired =
      (singles.filterMap id).filterMap Member.property? := by
  induction alone with
  | nil => rfl
  | @cons signature single signatures singles first rest inductionHypothesis =>
      match single, first with
      | none, _ => exact inductionHypothesis
      | some (.property property), first =>
          obtain ⟨_, _, _, noFlag, _⟩ := reads_of_alone first
          have same : property.unpaired = property := by rw [Property.unpaired, ← noFlag]
          refine List.cons_eq_cons.mpr ⟨?_, inductionHypothesis⟩
          exact same
      | some (.method method), _ =>
          rw [List.zipWith_cons_cons, pairing]
          split <;> exact inductionHypothesis

/-- Only paired writers are left out. -/
theorem filter_methods {signatures : List FunctionSignature} {singles : List (Option Member)}
    (alone : StandAlone host interface owner signatures singles)
    (all : List FunctionSignature) {test : Method → Bool}
    (fails : ∀ signature ∈ signatures, ∀ method, isPairedWriter all signature = true →
      member? host interface owner [] signature = .ok (some (.method method)) →
        test method = false) :
    ((singles.filterMap id).filterMap Member.method?).filter test =
      (((List.zipWith (pairing all) signatures singles).filterMap id).filterMap
        Member.method?).filter test := by
  induction alone with
  | nil => rfl
  | @cons signature single signatures singles first rest inductionHypothesis =>
      have others := inductionHypothesis fun later isLater =>
        fails later (List.mem_cons_of_mem signature isLater)
      match single, first with
      | none, _ => exact others
      | some (.property property), _ => exact others
      | some (.method method), first =>
          rw [List.zipWith_cons_cons, pairing]
          split
          next paired =>
            have failsHere := fails signature List.mem_cons_self method paired first
            exact (List.filter_cons_of_neg (by simp [failsHere])).trans others
          next unpaired =>
            show List.filter test (method :: _) = List.filter test (method :: _)
            rw [List.filter_cons, List.filter_cons, others]

theorem methods_sublist {signatures : List FunctionSignature} {singles : List (Option Member)}
    (alone : StandAlone host interface owner signatures singles)
    (all : List FunctionSignature) :
    (((List.zipWith (pairing all) signatures singles).filterMap id).filterMap
        Member.method?).Sublist ((singles.filterMap id).filterMap Member.method?) := by
  induction alone with
  | nil => exact .slnil
  | @cons signature single signatures singles first rest inductionHypothesis =>
      match single with
      | none => exact inductionHypothesis
      | some (.property property) => exact inductionHypothesis
      | some (.method method) =>
          rw [List.zipWith_cons_cons, pairing]
          split
          · exact inductionHypothesis.cons method
          · exact inductionHypothesis.cons_cons method

end StandAlone

/-- A trait adds to an interface what its methods stand for, and pairing leaves it related to the
interface in which nothing is paired. -/
theorem pairsUp_extend {raw joined : Interface} (pairs : raw.PairsUp joined)
    {methods : List FunctionSignature} {found : List (Option Member)}
    (alone : StandAlone host interface owner methods found) (trait : String) :
    (extend raw trait (found.filterMap id)).PairsUp
      (extend joined trait (StandAlone.members methods found)) where
  name := pairs.name
  traits := congrArg (· ++ [trait]) pairs.traits
  properties := by
    simp only [extend, List.map_append, pairs.properties, alone.unpaired_properties methods]
  methods := pairs.methods.append (alone.methods_sublist methods)
  written := by
    intro property isProperty flagged
    simp only [extend, List.mem_append] at isProperty ⊢
    rcases isProperty with isBefore | isNew
    · obtain ⟨method, isMethod, writes⟩ := pairs.written property isBefore flagged
      exact ⟨method, .inl isMethod, writes⟩
    · obtain ⟨member, isMember, same⟩ := List.mem_filterMap.mp isNew
      cases member with
      | method method => cases same
      | property property =>
          cases same
          obtain ⟨method, isMethod, writes⟩ := alone.written isMember flagged
          refine ⟨method, .inr (List.mem_filterMap.mpr ⟨.method method, ?_, rfl⟩), writes⟩
          exact List.mem_filterMap.mpr ⟨_, isMethod, rfl⟩
  leftOut := by
    intro test fails
    simp only [extend, List.filter_append]
    congr 1
    · exact pairs.leftOut test fun property isProperty =>
        fails property (List.mem_append_left _ isProperty)
    · refine alone.filter_methods methods fun signature isMethod method paired standsAlone => ?_
      obtain ⟨property, isMember, flagged, writes⟩ :=
        alone.paired_writes standsAlone isMethod paired
      refine fails property (List.mem_append_right _ ?_) flagged method writes
      exact List.mem_filterMap.mpr ⟨_, isMember, rfl⟩

theorem pairsUp_empty (name : String) : (Interface.empty name).PairsUp (.empty name) :=
  ⟨rfl, rfl, rfl, .refl _, nofun, fun _ _ => rfl⟩

theorem any_writes_extend {raw : Interface} {methods : List FunctionSignature}
    {found : List (Option Member)} (alone : StandAlone host interface owner methods found)
    (property : Property) :
    (extend raw owner.qualifiedName (found.filterMap id)).methods.any property.isWrittenBy = true ↔
      raw.methods.any property.isWrittenBy = true ∨
        owner.qualifiedName = property.owner ∧
          ∃ signature ∈ methods, SetsByType host owner property.name property.type signature := by
  simp only [extend, List.any_append, Bool.or_eq_true]
  refine or_congr_right ?_
  simp only [List.any_eq_true, List.mem_filterMap, id_eq, exists_eq_right]
  constructor
  · rintro ⟨method, ⟨member, isFound, same⟩, writes⟩
    cases member with
    | property other => cases same
    | method other =>
        cases same
        obtain ⟨signature, isMethod, standsAlone⟩ := partner_of_mem_right alone isFound
        have isOwner : method.owner = owner.qualifiedName := by
          rcases member?_eq_ok.mp standsAlone with ⟨_, _, isNone⟩ | ⟨_, _, _, _, kinds⟩
          · cases isNone
          rcases kinds with ⟨_, _, _, _, _, isProperty⟩ | ⟨_, _, isNone⟩ | ⟨_, _, _, _, _, _, same⟩
          · cases isProperty
          · cases isNone
          · cases same
            rfl
        have sameOwner := isOwner.symm.trans (Property.isWrittenBy_iff.mp writes).2.2.2.2
        exact ⟨sameOwner, signature, isMethod,
          (setsByType_iff standsAlone sameOwner.symm).mpr ⟨method, rfl, writes⟩⟩
  · rintro ⟨sameOwner, signature, isMethod, sets⟩
    obtain ⟨single, isFound, standsAlone⟩ := partner_of_mem_left alone isMethod
    obtain ⟨method, rfl, writes⟩ := (setsByType_iff standsAlone sameOwner.symm).mp sets
    exact ⟨method, ⟨.method method, isFound, rfl⟩, writes⟩

/-- Parts are put together from what is not paired yet, whose writers are the setters by type. -/
theorem pairsUp_withParts (answers : host.Answers) {parts : List Part}
    (belong : ∀ part ∈ parts, part.BelongsTo host interface) {raw joined : Interface}
    (pairs : raw.PairsUp joined) :
    ∃ further : Interface, further.PairsUp (withParts joined parts) ∧ ∀ property : Property,
      further.methods.any property.isWrittenBy = true ↔
        raw.methods.any property.isWrittenBy = true ∨
          ∃ part ∈ parts, part.name = property.owner ∧
            ∃ signature ∈ part.body.methods,
              SetsByType host part.owner property.name property.type signature := by
  induction parts generalizing raw joined with
  | nil => exact ⟨raw, by simpa using pairs, by simp⟩
  | cons part parts inductionHypothesis =>
      obtain ⟨found, alone, areMembers⟩ :=
        standAlone_of_ownMembers answers (belong part List.mem_cons_self).members
      have extended := pairsUp_extend pairs alone part.name
      rw [StandAlone.members, ← areMembers] at extended
      obtain ⟨further, isFurther, writers⟩ := inductionHypothesis
        (fun later isLater => belong later (List.mem_cons_of_mem part isLater)) extended
      rw [withParts_cons] at isFurther
      refine ⟨further, isFurther, fun property => ?_⟩
      rw [writers, List.exists_mem_cons_iff, ← or_assoc]
      exact or_congr_left (any_writes_extend alone property)

/-- Paired by type, a property can be written exactly when its trait has a setter of its type. -/
theorem mutable_pairedByType_iff (answers : host.Answers) {joined : Interface} {parts : List Part}
    (isJoined : joined = withParts (.empty joined.name) parts)
    (belong : ∀ part ∈ parts, part.BelongsTo host joined.name) {property : Property}
    (isProperty : property ∈ joined.pairedByType.properties) :
    property.mutable = true ↔
      ∃ part ∈ parts, part.name = property.owner ∧
        ∃ signature ∈ part.body.methods,
          SetsByType host part.owner property.name property.type signature := by
  obtain ⟨raw, pairs, writers⟩ := pairsUp_withParts answers belong (pairsUp_empty joined.name)
  rw [← isJoined] at pairs
  rw [pairs.pairedByType_eq] at isProperty
  obtain ⟨before, _, rfl⟩ := List.mem_map.mp isProperty
  exact (writers before).trans (or_iff_right Bool.false_ne_true)

/-! ### Types that are spelled alike -/

/-- Each setter by type of a property takes the type as the reader of the property writes it. -/
def SpellsAlike (host : Host) (owner : Declaration) (methods : List FunctionSignature) : Prop :=
  ∀ reader ∈ methods, ∀ writer ∈ methods, ∀ property written type,
    readProperty? reader = some (property, written) →
      Resolution.resolve host owner.qualifiedName owner.scope written = .ok type →
        SetsByType host owner property type writer → writesProperty property written writer = true

theorem mem_of_ownMembers {body : TraitBody} {members : List Member}
    (areMembers : ownMembers host interface owner body = .ok members) {member : Member}
    (isMember : member ∈ members) :
    ∃ signature ∈ body.methods,
      member? host interface owner body.methods signature = .ok (some member) := by
  obtain ⟨_, found, areFound, rfl⟩ := ownMembers_eq_ok.mp areMembers
  simp only [List.mem_filterMap, id_eq, exists_eq_right] at isMember
  exact partner_of_mem_right areFound isMember

/-- A property comes from a reader, and its flag tells of a writer that is spelled alike. -/
theorem reader_of_property {parts : List Part}
    (belong : ∀ part ∈ parts, part.BelongsTo host interface) {name : String} {property : Property}
    (isProperty : property ∈ (withParts (.empty name) parts).properties) :
    ∃ part ∈ parts, part.name = property.owner ∧ ∃ reader ∈ part.body.methods, ∃ written,
      readProperty? reader = some (property.name, written) ∧
        Resolution.resolve host part.owner.qualifiedName part.owner.scope written =
          .ok property.type ∧
        property.mutable = hasWriter part.body.methods property.name written := by
  simp only [withParts, Interface.empty, List.nil_append, List.mem_flatMap, List.mem_filterMap]
    at isProperty
  obtain ⟨part, isPart, member, isMember, same⟩ := isProperty
  obtain ⟨reader, isReader, answered⟩ := mem_of_ownMembers (belong part isPart).members isMember
  refine ⟨part, isPart, ?_⟩
  cases member with
  | method method => cases same
  | property found =>
      cases same
      rcases member?_eq_ok.mp answered with ⟨_, _, isNone⟩ | ⟨_, _, _, _, kinds⟩
      · cases isNone
      rcases kinds with ⟨_, written, _, reads, resolves, same⟩ | ⟨_, _, isNone⟩ |
        ⟨_, _, _, _, _, _, isMethod⟩
      · cases same
        exact ⟨rfl, reader, isReader, written, reads, resolves, rfl⟩
      · cases isNone
      · cases isMethod

/-- A method of an interface is not paired, and it stands for itself. -/
theorem signature_of_method {parts : List Part}
    (belong : ∀ part ∈ parts, part.BelongsTo host interface) {name : String} {method : Method}
    (isMethod : method ∈ (withParts (.empty name) parts).methods) :
    ∃ part ∈ parts, part.name = method.owner ∧ ∃ signature ∈ part.body.methods,
      isPairedWriter part.body.methods signature = false ∧
        member? host interface part.owner [] signature = .ok (some (.method method)) := by
  simp only [withParts, Interface.empty, List.nil_append, List.mem_flatMap, List.mem_filterMap]
    at isMethod
  obtain ⟨part, isPart, member, isMember, same⟩ := isMethod
  obtain ⟨signature, isDeclared, answered⟩ :=
    mem_of_ownMembers (belong part isPart).members isMember
  refine ⟨part, isPart, ?_⟩
  cases member with
  | property property => cases same
  | method found =>
      cases same
      rcases member?_eq_ok.mp answered with ⟨_, _, isNone⟩ | ⟨receiver, taken, borrows, plain, kinds⟩
      · cases isNone
      rcases kinds with ⟨_, _, _, _, _, isProperty⟩ | ⟨_, _, isNone⟩ |
        ⟨noReader, unpaired, parameters, type, areParameters, isType, same⟩
      · cases isProperty
      · cases isNone
      · cases same
        refine ⟨rfl, signature, isDeclared, unpaired, member?_eq_ok.mpr ?_⟩
        exact .inr ⟨receiver, taken, borrows, plain,
          .inr (.inr ⟨noReader, rfl, parameters, type, areParameters, isType, rfl⟩)⟩

section SpelledAlike

variable {parts : List Part} (belong : ∀ part ∈ parts, part.BelongsTo host interface)
  (distinct : (parts.map Part.name).Nodup)
  (alike : ∀ part ∈ parts, SpellsAlike host part.owner part.body.methods) {name : String}

include belong distinct alike

/-- No method is left that sets a property. -/
theorem isWrittenBy_eq_false {method : Method} {property : Property}
    (isMethod : method ∈ (withParts (.empty name) parts).methods)
    (isProperty : property ∈ (withParts (.empty name) parts).properties) :
    property.isWrittenBy method = false := by
  rw [← Bool.not_eq_true]
  intro writes
  obtain ⟨part, isPart, isOwner, writer, isWriter, unpaired, standsAlone⟩ :=
    signature_of_method belong isMethod
  obtain ⟨other, isOther, isOtherOwner, reader, isReader, written, reads, resolves, _⟩ :=
    reader_of_property belong isProperty
  have sameOwner : part.name = other.name := by
    rw [isOwner, isOtherOwner, (Property.isWrittenBy_iff.mp writes).2.2.2.2]
  cases List.inj_on_of_nodup_map distinct isPart isOther sameOwner
  have sets := (setsByType_iff standsAlone isOtherOwner.symm).mpr ⟨method, rfl, writes⟩
  have spelled := alike part isPart reader isReader writer isWriter _ _ _ reads resolves sets
  rw [isPairedWriter_iff.mpr ⟨reader, isReader, _, _, reads, spelled⟩] at unpaired
  cases unpaired

/-- Properties of one name, type and owner have the same writers, so their flags are equal. -/
theorem mutable_of_alike {property flagged : Property}
    (isProperty : property ∈ (withParts (.empty name) parts).properties)
    (isFlagged : flagged ∈ (withParts (.empty name) parts).properties)
    (same : flagged.unpaired = property.unpaired) (isMutable : flagged.mutable = true) :
    property.mutable = true := by
  have sameOwner : flagged.owner = property.owner := congrArg (·.owner) same
  have sameName : flagged.name = property.name := congrArg (·.name) same
  have sameType : flagged.type = property.type := congrArg (·.type) same
  obtain ⟨part, isPart, isOwner, reader, isReader, written, reads, resolves, flag⟩ :=
    reader_of_property belong isProperty
  obtain ⟨other, isOther, isOtherOwner, _, _, otherWritten, _, otherResolves, otherFlag⟩ :=
    reader_of_property belong isFlagged
  have samePart : part.name = other.name := isOwner.trans (sameOwner.symm.trans isOtherOwner.symm)
  cases List.inj_on_of_nodup_map distinct isPart isOther samePart
  obtain ⟨writer, isWriter, writes⟩ := List.any_eq_true.mp (otherFlag.symm.trans isMutable)
  have sets := setsByType_of_writes otherResolves writes
  rw [sameName, sameType] at sets
  have spelled := alike part isPart reader isReader writer isWriter _ _ _ reads resolves sets
  rw [flag]
  exact List.any_eq_true.mpr ⟨writer, isWriter, spelled⟩

/-- A property has a writer by type just where it is flagged. -/
theorem hasWriter_eq_mutable {property : Property}
    (isProperty : property ∈ (withParts (.empty name) parts).properties) :
    (withParts (.empty name) parts).hasWriter property = property.mutable := by
  rw [Bool.eq_iff_iff, Interface.hasWriter, Bool.or_eq_true, List.any_eq_true, List.any_eq_true]
  constructor
  · rintro (⟨method, isMethod, writes⟩ | ⟨flagged, isFlagged, hasFlag⟩)
    · cases (isWrittenBy_eq_false belong distinct alike isMethod isProperty).symm.trans writes
    · rw [Bool.and_eq_true, beq_iff_eq] at hasFlag
      exact mutable_of_alike belong distinct alike isProperty isFlagged hasFlag.2 hasFlag.1
  · intro isMutable
    exact .inr ⟨property, isProperty, by simp [isMutable]⟩

/-- Where the types of setters are spelled like those of their readers, an interface is paired by
type as it is. -/
theorem pairedByType_eq_self (name : String) :
    (withParts (.empty name) parts).pairedByType = withParts (.empty name) parts := by
  have methods : ((withParts (.empty name) parts).methods.filter fun method =>
      !(withParts (.empty name) parts).properties.any fun property =>
        property.isWrittenBy method) = (withParts (.empty name) parts).methods := by
    refine List.filter_eq_self.mpr fun method isMethod => ?_
    rw [Bool.not_eq_true', List.any_eq_false]
    intro property isProperty
    rw [isWrittenBy_eq_false belong distinct alike isMethod isProperty]
    exact Bool.false_ne_true
  have properties : ((withParts (.empty name) parts).properties.map fun property =>
      { property with mutable := (withParts (.empty name) parts).hasWriter property }) =
        (withParts (.empty name) parts).properties := by
    refine (List.map_congr_left fun property isProperty => ?_).trans (List.map_id _)
    rw [hasWriter_eq_mutable belong distinct alike isProperty]
    rfl
  unfold Interface.pairedByType
  rw [methods, properties]

end SpelledAlike

end Enumeration

end ForwardingProxy
