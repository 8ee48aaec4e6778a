import ForwardingProxy.Proofs.Enumeration.Walk
import Mathlib.Data.List.Nodup
import Mathlib.Data.List.Perm.Basic

/-!
Contract: what becomes of the methods of one trait.

Owns: when a method reads or writes a property, the member that a method stands for, and the fact
that readers, the writers paired with them, and all other methods that take a receiver make up
exactly the methods that take one.

Pairing is looked at twice: a reader asks whether it has a writer, and a writer whether it has a
reader. Where names are distinct, both find the same pairs.
-/

namespace ForwardingProxy.Enumeration

/-! ### Accessors -/

theorem readProperty?_eq_some {signature : FunctionSignature} {property : String}
    {type : TypeSyntax} :
    readProperty? signature = some (property, type) ↔
      signature.name = "get_" ++ property ∧ property.isEmpty = false ∧
        signature.returnType = some type ∧ type ≠ .unit ∧ signature.receiver = some .shared ∧
        signature.parameters = [] ∧ signature.generic = false := by
  unfold readProperty?
  cases isStart : Text.afterStart? "get_" signature.name with
  | none =>
      have differs : signature.name ≠ "get_" ++ property := fun same => by
        rw [Text.afterStart?_eq_some.mpr same] at isStart
        cases isStart
      simp [differs]
  | some rest =>
      rw [Text.afterStart?_eq_some] at isStart
      cases returned : signature.returnType with
      | none => simp
      | some written =>
          have sameRest : "get_" ++ rest = "get_" ++ property ↔ rest = property :=
            ⟨fun same => String.append_right_inj _ |>.mp same, fun same => by rw [same]⟩
          simp only [isStart, sameRest, Option.ite_none_right_eq_some, Bool.and_eq_true,
            Bool.not_eq_true', bne_iff_ne, beq_iff_eq, List.isEmpty_iff, Option.some.injEq,
            Prod.mk.injEq]
          constructor
          · rintro ⟨⟨⟨⟨⟨named, notUnit⟩, shared⟩, noParameters⟩, notGeneric⟩, rfl, rfl⟩
            exact ⟨rfl, named, rfl, notUnit, shared, noParameters, notGeneric⟩
          · rintro ⟨rfl, named, rfl, notUnit, shared, noParameters, notGeneric⟩
            exact ⟨⟨⟨⟨⟨named, notUnit⟩, shared⟩, noParameters⟩, notGeneric⟩, rfl, rfl⟩

theorem writesProperty_iff {property : String} {type : TypeSyntax}
    {signature : FunctionSignature} :
    writesProperty property type signature = true ↔
      signature.name = "set_" ++ property ∧ signature.receiver = some .exclusive ∧
        signature.generic = false ∧ signature.parameters.map ParameterSyntax.type = [type] ∧
        (signature.returnType = none ∨ signature.returnType = some .unit) := by
  simp [writesProperty, Text.afterStart?_eq_some, and_assoc]

theorem isPairedWriter_iff {methods : List FunctionSignature} {signature : FunctionSignature} :
    isPairedWriter methods signature = true ↔
      ∃ reader ∈ methods, ∃ property type, readProperty? reader = some (property, type) ∧
        writesProperty property type signature = true := by
  unfold isPairedWriter
  rw [List.any_eq_true]
  refine exists_congr fun reader => and_congr_right fun _ => ?_
  cases readProperty? reader with
  | none => simp
  | some read => simp [Prod.ext_iff]

/-- What a method stands for that borrows the value it is called on. -/
theorem member?_borrowing {host : Host} {interface : String} {owner : Declaration}
    {methods : List FunctionSignature} {signature : FunctionSignature} {receiver : SelfParameter}
    (taken : signature.receiver = some receiver) (borrows : receiver ≠ .owned) :
    member? host interface owner methods signature =
      if signature.generic then
        refuse interface (.genericMethod owner.qualifiedName signature.name)
      else
        match readProperty? signature with
        | some (property, written) =>
            Resolution.resolve host owner.qualifiedName owner.scope written >>= fun type =>
              pure (some (.property
                ⟨property, type, hasWriter methods property written, owner.qualifiedName⟩))
        | none =>
            if isPairedWriter methods signature then pure none
            else
              parametersFrom host owner 0 signature.parameters >>= fun parameters =>
                returnType host owner signature.returnType >>= fun result =>
                  pure (some (.method ⟨signature.name, borrow receiver, parameters, result,
                    owner.qualifiedName⟩)) := by
  unfold member?
  rw [taken]
  cases receiver with
  | shared => rfl
  | exclusive => rfl
  | owned => exact absurd rfl borrows

/-- Without a receiver a method needs a body and adds nothing. With one it borrows, has no
parameters of its own, and is a reader, a writer that has a reader, or a method in its own right. -/
theorem member?_eq_ok {host : Host} {interface : String} {owner : Declaration}
    {methods : List FunctionSignature} {signature : FunctionSignature} {found : Option Member} :
    member? host interface owner methods signature = .ok found ↔
      signature.receiver = none ∧ signature.hasBody = true ∧ found = none ∨
      ∃ receiver, signature.receiver = some receiver ∧ receiver ≠ .owned ∧
        signature.generic = false ∧
        ((∃ property written type, readProperty? signature = some (property, written) ∧
            Resolution.resolve host owner.qualifiedName owner.scope written = .ok type ∧
            found = some (.property ⟨property, type, hasWriter methods property written,
              owner.qualifiedName⟩)) ∨
          readProperty? signature = none ∧ isPairedWriter methods signature = true ∧
            found = none ∨
          readProperty? signature = none ∧ isPairedWriter methods signature = false ∧
            ∃ parameters type, parametersFrom host owner 0 signature.parameters = .ok parameters ∧
              returnType host owner signature.returnType = .ok type ∧
              found = some (.method ⟨signature.name, borrow receiver, parameters, type,
                owner.qualifiedName⟩)) := by
  cases taken : signature.receiver with
  | none =>
      cases hasBody : signature.hasBody <;> simp [member?, taken, hasBody, refuse]
  | some receiver =>
      simp only [reduceCtorEq, false_and, false_or, Option.some.injEq, exists_eq_left']
      by_cases borrows : receiver = .owned
      · simp [member?, taken, borrows, refuse]
      · rw [member?_borrowing taken borrows]
        cases generic : signature.generic with
        | true => simp [refuse]
        | false =>
            cases read : readProperty? signature with
            | some pair =>
                obtain ⟨property, written⟩ := pair
                simp [borrows, map_eq_ok]
            | none =>
                cases paired : isPairedWriter methods signature <;>
                  simp [borrows, bind_eq_ok, map_eq_ok]

theorem parametersFrom_resolves {host : Host} {owner : Declaration} {place : Nat}
    {declared : List ParameterSyntax} {parameters : List Parameter}
    (resolved : parametersFrom host owner place declared = .ok parameters) :
    List.Forall₂
      (fun written parameter =>
        Resolution.resolve host owner.qualifiedName owner.scope written.type = .ok parameter.type)
      declared parameters := by
  induction declared generalizing place parameters with
  | nil =>
      rw [parametersFrom, pure_eq_ok] at resolved
      rw [resolved]
      exact .nil
  | cons written rest inductionHypothesis =>
      simp only [parametersFrom, bind_eq_ok, pure_eq_ok] at resolved
      obtain ⟨type, isType, others, areOthers, rfl⟩ := resolved
      exact .cons isType (inductionHypothesis areOthers)

theorem parametersFrom_answered {host : Host} {owner : Declaration}
    {declared : List ParameterSyntax}
    (each : ∀ written ∈ declared, ∃ type,
      Resolution.resolve host owner.qualifiedName owner.scope written.type = .ok type)
    (place : Nat) : ∃ parameters, parametersFrom host owner place declared = .ok parameters := by
  induction declared generalizing place with
  | nil => exact ⟨[], rfl⟩
  | cons written rest inductionHypothesis =>
      obtain ⟨type, isType⟩ := each written (by simp)
      obtain ⟨others, areOthers⟩ := inductionHypothesis
        (fun later member => each later (List.mem_cons_of_mem written member)) (place + 1)
      refine ⟨⟨written.name.getD ("arg" ++ toString place), type⟩ :: others, ?_⟩
      simp only [parametersFrom, bind_eq_ok, pure_eq_ok]
      exact ⟨type, isType, others, areOthers, rfl⟩

/-- The members of a trait are those that its methods stand for, unless an item is in the way. -/
theorem ownMembers_eq_ok {host : Host} {interface : String} {owner : Declaration}
    {body : TraitBody} {members : List Member} :
    ownMembers host interface owner body = .ok members ↔
      body.items.findSome? (itemProblem? owner.qualifiedName) = none ∧
        ∃ found, List.Forall₂
          (fun signature member => member? host interface owner body.methods signature = .ok member)
          body.methods found ∧ members = found.filterMap id := by
  unfold ownMembers
  cases body.items.findSome? (itemProblem? owner.qualifiedName) with
  | some cause => simp [refuse]
  | none => simp only [bind_eq_ok, pure_eq_ok, mapM_eq_ok, true_and]

/-! ### Pairs of accessors -/

/-- Whether a method reads a property. -/
def reads (signature : FunctionSignature) : Bool :=
  (readProperty? signature).isSome

/-- The methods that write the property a method reads. -/
def writersOf (methods : List FunctionSignature) (reader : FunctionSignature) :
    List FunctionSignature :=
  match readProperty? reader with
  | some (property, type) => methods.filter (writesProperty property type)
  | none => []

/-- Whether a method takes a receiver and is no accessor of a property. -/
def standsAlone (methods : List FunctionSignature) (signature : FunctionSignature) : Bool :=
  signature.receiver.isSome && !reads signature && !isPairedWriter methods signature

/-- The methods of a trait that take a receiver: each reader with its writers, then the others. -/
def accessorOrder (methods : List FunctionSignature) : List FunctionSignature :=
  (methods.filter reads).flatMap (fun reader => reader :: writersOf methods reader)
    ++ methods.filter (standsAlone methods)

theorem reads_eq_true {signature : FunctionSignature} :
    reads signature = true ↔ ∃ property type, readProperty? signature = some (property, type) := by
  simp [reads, Option.isSome_iff_exists]

theorem receiver_of_reads {signature : FunctionSignature} (isReader : reads signature = true) :
    signature.receiver = some .shared := by
  obtain ⟨property, type, read⟩ := reads_eq_true.mp isReader
  exact (readProperty?_eq_some.mp read).2.2.2.2.1

theorem receiver_of_isPairedWriter {methods : List FunctionSignature}
    {signature : FunctionSignature} (paired : isPairedWriter methods signature = true) :
    signature.receiver = some .exclusive := by
  obtain ⟨reader, _, property, type, _, writes⟩ := isPairedWriter_iff.mp paired
  exact (writesProperty_iff.mp writes).2.1

theorem mem_writersOf {methods : List FunctionSignature} {reader writer : FunctionSignature} :
    writer ∈ writersOf methods reader ↔
      writer ∈ methods ∧ ∃ property type, readProperty? reader = some (property, type) ∧
        writesProperty property type writer = true := by
  unfold writersOf
  cases readProperty? reader with
  | none => simp
  | some read => simp [Prod.ext_iff]

/-- Distinct readers have distinct writers, since the names of both end in the property. -/
private theorem writersOf_disjoint {methods : List FunctionSignature}
    (distinct : (methods.map FunctionSignature.name).Nodup) {first second : FunctionSignature}
    (isFirst : first ∈ methods) (isSecond : second ∈ methods) (different : first ≠ second) :
    List.Disjoint (writersOf methods first) (writersOf methods second) := by
  intro writer ofFirst ofSecond
  obtain ⟨_, property, type, readFirst, writesFirst⟩ := mem_writersOf.mp ofFirst
  obtain ⟨_, other, otherType, readSecond, writesSecond⟩ := mem_writersOf.mp ofSecond
  have sameProperty : property = other := by
    have sameName := (writesProperty_iff.mp writesFirst).1.symm.trans
      (writesProperty_iff.mp writesSecond).1
    exact (String.append_right_inj _).mp sameName
  have sameName : first.name = second.name := by
    rw [(readProperty?_eq_some.mp readFirst).1, (readProperty?_eq_some.mp readSecond).1,
      sameProperty]
  exact different (List.inj_on_of_nodup_map distinct isFirst isSecond sameName)

/-- The writers that readers ask for are the writers that ask for a reader. -/
private theorem writersOf_perm {methods : List FunctionSignature}
    (distinct : (methods.map FunctionSignature.name).Nodup) :
    ((methods.filter reads).flatMap (writersOf methods)).Perm
      (methods.filter (isPairedWriter methods)) := by
  have nodup : methods.Nodup := distinct.of_map
  have writersNodup : ((methods.filter reads).flatMap (writersOf methods)).Nodup := by
    rw [List.nodup_flatMap]
    constructor
    · intro reader _
      unfold writersOf
      cases readProperty? reader with
      | none => exact List.nodup_nil
      | some read => exact nodup.filter _
    · refine (nodup.filter reads).pairwise_of_forall_ne fun first isFirst second isSecond => ?_
      exact writersOf_disjoint distinct (List.mem_of_mem_filter isFirst)
        (List.mem_of_mem_filter isSecond)
  apply (List.perm_ext_iff_of_nodup writersNodup (nodup.filter _)).mpr
  intro writer
  simp only [List.mem_flatMap, List.mem_filter, mem_writersOf, isPairedWriter_iff, reads_eq_true]
  constructor
  · rintro ⟨reader, ⟨isReader, _⟩, isWriter, property, type, read, writes⟩
    exact ⟨isWriter, reader, isReader, property, type, read, writes⟩
  · rintro ⟨isWriter, reader, isReader, property, type, read, writes⟩
    exact ⟨reader, ⟨isReader, property, type, read⟩, isWriter, property, type, read, writes⟩

/-- A method with a receiver is a reader, or a writer that a reader asks for, or stands alone. -/
private theorem receiving_perm (methods : List FunctionSignature) :
    (methods.filter reads ++
      (methods.filter (isPairedWriter methods) ++ methods.filter (standsAlone methods))).Perm
        (methods.filter fun signature => signature.receiver.isSome) := by
  let receiving := methods.filter fun signature => signature.receiver.isSome
  have readers : receiving.filter reads = methods.filter reads := by
    rw [List.filter_filter]
    apply List.filter_congr
    intro signature _
    cases isReader : reads signature with
    | false => simp
    | true => simp [receiver_of_reads isReader]
  have writers : (receiving.filter (!reads ·)).filter (isPairedWriter methods) =
      methods.filter (isPairedWriter methods) := by
    rw [List.filter_filter, List.filter_filter]
    apply List.filter_congr
    intro signature _
    cases paired : isPairedWriter methods signature with
    | false => simp
    | true =>
        have taken := receiver_of_isPairedWriter paired
        have noReader : reads signature = false := by
          cases isReader : reads signature with
          | false => rfl
          | true => exact absurd (taken.symm.trans (receiver_of_reads isReader)) (by decide)
        simp [taken, noReader]
  have alone : (receiving.filter (!reads ·)).filter (!isPairedWriter methods ·) =
      methods.filter (standsAlone methods) := by
    rw [List.filter_filter, List.filter_filter]
    apply List.filter_congr
    intro signature _
    simp [standsAlone, Bool.and_comm, Bool.and_left_comm]
  have others : (methods.filter (isPairedWriter methods)
      ++ methods.filter (standsAlone methods)).Perm (receiving.filter (!reads ·)) := by
    rw [← writers, ← alone]
    exact List.filter_append_perm _ _
  rw [← readers]
  exact (others.append_left _).trans (List.filter_append_perm _ _)

/-- Every method with a receiver stands in the order of accessors exactly once, and no other. -/
theorem accessorOrder_perm {methods : List FunctionSignature}
    (distinct : (methods.map FunctionSignature.name).Nodup) :
    (accessorOrder methods).Perm (methods.filter fun signature => signature.receiver.isSome) := by
  have readersFirst : ((methods.filter reads).flatMap fun reader =>
      reader :: writersOf methods reader).Perm
        (methods.filter reads ++ methods.filter (isPairedWriter methods)) := by
    have apart := (List.flatMap_append_perm (methods.filter reads) (fun reader => [reader])
      (writersOf methods)).symm
    simp only [List.flatMap_singleton', List.singleton_append] at apart
    exact apart.trans ((writersOf_perm distinct).append_left _)
  refine (readersFirst.append_right _).trans ?_
  rw [List.append_assoc]
  exact receiving_perm methods

end ForwardingProxy.Enumeration
