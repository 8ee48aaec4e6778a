import ForwardingProxy.Proofs.Enumeration.Mirroring
import ForwardingProxy.Proofs.Enumeration.Pairing
import ForwardingProxy.Proofs.Resolution.Respelling
import ForwardingProxy.Proofs.SymbolTable.Matching

/-!
Contract: programs whose member types are spelled with other paths of the same meaning.

Owns: tables that are respelled, the pairs of readers and writers that a respelling keeps or breaks,
and what of an interface depends on the spelling.

Everything in an interface is resolved but the pairing of writers, which compares types as they are
written.
-/

namespace ForwardingProxy

/-! ### Respelled tables -/

structure ParameterSyntax.Respells (host : Host) (scope : Nat) (one other : ParameterSyntax) :
    Prop where
  name : one.name = other.name
  type : Resolution.Respells host scope one.type other.type

/-- The signatures differ in the spelling of their types only. -/
structure FunctionSignature.Respells (host : Host) (scope : Nat) (one other : FunctionSignature) :
    Prop where
  name : one.name = other.name
  receiver : one.receiver = other.receiver
  parameters : List.Forall₂ (ParameterSyntax.Respells host scope) one.parameters other.parameters
  returnType : Option.Rel (Resolution.Respells host scope) one.returnType other.returnType
  generic : one.generic = other.generic
  hasBody : one.hasBody = other.hasBody

inductive TraitItem.Respells (host : Host) (scope : Nat) : TraitItem → TraitItem → Prop where
  | method {one other : FunctionSignature} (same : one.Respells host scope other) :
      Respells host scope (.method one) (.method other)
  | associatedType (name : String) :
      Respells host scope (.associatedType name) (.associatedType name)
  | associatedConst (name : String) (hasDefault : Bool) :
      Respells host scope (.associatedConst name hasDefault) (.associatedConst name hasDefault)

structure TraitBody.Respells (host : Host) (scope : Nat) (one other : TraitBody) : Prop where
  generic : one.generic = other.generic
  supertraits : one.supertraits = other.supertraits
  items : List.Forall₂ (TraitItem.Respells host scope) one.items other.items

inductive DeclarationKind.Respells (host : Host) (scope : Nat) :
    DeclarationKind → DeclarationKind → Prop where
  | trait {one other : TraitBody} (same : one.Respells host scope other) :
      Respells host scope (.trait one) (.trait other)
  | same (kind : DeclarationKind) : Respells host scope kind kind

/-- The declarations are the same, apart from how the types of a trait's methods are spelled. -/
structure Declaration.Respells (host : Host) (one other : Declaration) : Prop where
  kind : one.kind.Respells host one.scope other.kind
  others : other = { one with kind := other.kind }

/-- The tables are the same, apart from how the types of traits' methods are spelled. -/
structure SymbolTable.Respells (table other : SymbolTable) : Prop where
  declarations : List.Forall₂ (Declaration.Respells table.host) table.declarations
    other.declarations
  others : other = { table with declarations := other.declarations }

/-- Where paths have the same meanings, what is respelled may be spelled back. -/
theorem FunctionSignature.Respells.back {host right : Host} {scope : Nat}
    (resolves : ∀ path, host.resolve? scope path = right.resolve? scope path)
    {one other : FunctionSignature} (respells : one.Respells host scope other) :
    other.Respells right scope one := by
  obtain ⟨name, receiver, parameters, returnType, generic, hasBody⟩ := respells
  refine ⟨name.symm, receiver.symm, ?_, ?_, generic.symm, hasBody.symm⟩
  · exact (parameters.imp fun _ _ same => ⟨same.name.symm, (same.type.transfer resolves).symm⟩).flip
  · generalize one.returnType = left at returnType
    generalize other.returnType = right at returnType
    cases returnType with
    | none => exact .none
    | some same => exact .some (same.transfer resolves).symm

theorem TraitBody.Respells.back {host right : Host} {scope : Nat}
    (resolves : ∀ path, host.resolve? scope path = right.resolve? scope path)
    {one other : TraitBody} (respells : one.Respells host scope other) :
    other.Respells right scope one := by
  refine ⟨respells.generic.symm, respells.supertraits.symm, ?_⟩
  have items : List.Forall₂ (fun left right' => TraitItem.Respells right scope right' left)
      one.items other.items := by
    refine respells.items.imp ?_
    rintro _ _ (same | name | ⟨name, hasDefault⟩)
    · exact .method (same.back resolves)
    · exact .associatedType name
    · exact .associatedConst name hasDefault
  exact items.flip

theorem TraitBody.Respells.refl {host : Host} {scope : Nat} (body : TraitBody) :
    body.Respells host scope body := by
  refine ⟨rfl, rfl, List.forall₂_same.mpr fun item _ => ?_⟩
  cases item with
  | method signature =>
      refine .method ⟨rfl, rfl, List.forall₂_same.mpr fun parameter _ => ?_, ?_, rfl, rfl⟩
      · exact ⟨rfl, .refl parameter.type⟩
      · cases signature.returnType with
        | none => exact .none
        | some type => exact .some (.refl type)
  | associatedType name => exact .associatedType name
  | associatedConst name hasDefault => exact .associatedConst name hasDefault

theorem TraitBody.Respells.methods {host : Host} {scope : Nat} {one other : TraitBody}
    (respells : one.Respells host scope other) :
    List.Forall₂ (FunctionSignature.Respells host scope) one.methods other.methods := by
  refine List.rel_filterMap ?_ respells.items
  rintro _ _ (same | _ | _)
  · exact .some same
  · exact .none
  · exact .none

theorem TraitBody.Respells.findSome?_itemProblem? {host : Host} {scope : Nat}
    {one other : TraitBody} (respells : one.Respells host scope other) (name : String) :
    one.items.findSome? (Enumeration.itemProblem? name) =
      other.items.findSome? (Enumeration.itemProblem? name) := by
  obtain ⟨_, _, items⟩ := respells
  generalize one.items = left at items
  generalize other.items = right at items
  induction items with
  | nil => rfl
  | cons first rest inductionHypothesis =>
      rw [List.findSome?_cons, List.findSome?_cons, inductionHypothesis]
      cases first <;> rfl

namespace Declaration.Respells

variable {host : Host} {one other : Declaration}

theorem qualifiedName (respells : one.Respells host other) :
    one.qualifiedName = other.qualifiedName := by
  rw [respells.others]
  rfl

theorem scope (respells : one.Respells host other) : one.scope = other.scope := by
  rw [respells.others]

theorem visible (respells : one.Respells host other) : one.visible = other.visible := by
  rw [respells.others]

/-- Both declare no trait, or both declare traits whose bodies differ in spelling only. -/
theorem trait?_cases (respells : one.Respells host other) :
    one.trait? = none ∧ other.trait? = none ∨
      ∃ body respelled, one.trait? = some body ∧ other.trait? = some respelled ∧
        body.Respells host one.scope respelled := by
  obtain ⟨kinds, _⟩ := respells
  unfold Declaration.trait?
  generalize one.kind = left at kinds
  generalize other.kind = right at kinds
  cases kinds with
  | @trait body respelled same => exact .inr ⟨body, respelled, rfl, rfl, same⟩
  | same =>
      cases left with
      | trait body => exact .inr ⟨body, body, rfl, rfl, .refl body⟩
      | struct _ | unitStruct | enum | union | function _ | typeAlias => exact .inl ⟨rfl, rfl⟩

theorem isSome_trait? (respells : one.Respells host other) :
    one.trait?.isSome = other.trait?.isSome := by
  rcases respells.trait?_cases with ⟨isLeft, isRight⟩ | ⟨_, _, isLeft, isRight, _⟩
  · rw [isLeft, isRight]
  · rw [isLeft, isRight]
    rfl

end Declaration.Respells

namespace SymbolTable.Respells

variable {table other : SymbolTable}

theorem names (respells : table.Respells other) :
    table.declarations.map Declaration.qualifiedName =
      other.declarations.map Declaration.qualifiedName := by
  refine List.forall₂_eq_eq_eq ▸ ?_
  rw [List.forall₂_map_left_iff, List.forall₂_map_right_iff]
  exact respells.declarations.imp fun _ _ same => same.qualifiedName

theorem find? (respells : table.Respells other) (name : String) :
    table.find? name = other.find? name := by
  have byNames : ∀ any : SymbolTable, any.find? name =
      (any.declarations.map Declaration.qualifiedName).findIdx? (· == name) := fun any => by
    rw [List.findIdx?_map]
    rfl
  rw [byNames, byNames, respells.names]

/-- Under one number both tables declare nothing, or declarations that differ in spelling only. -/
theorem declaration?_cases (respells : table.Respells other) (id : Nat) :
    table.declaration? id = none ∧ other.declaration? id = none ∨
      ∃ one respelled, table.declaration? id = some one ∧ other.declaration? id = some respelled ∧
        one.Respells table.host respelled := by
  obtain ⟨declarations, _⟩ := respells
  unfold SymbolTable.declaration?
  generalize table.declarations = left at declarations
  generalize other.declarations = right at declarations
  induction declarations generalizing id with
  | nil => exact .inl ⟨rfl, rfl⟩
  | cons first rest inductionHypothesis =>
      cases id with
      | zero => exact .inr ⟨_, _, rfl, rfl, first⟩
      | succ id => exact inductionHypothesis id

theorem resolve? (respells : table.Respells other) (scope : Nat) (path : List String) :
    table.resolve? scope path = other.resolve? scope path := by
  have declares : ∀ name, table.declares name = other.declares name := fun name => by
    have byNames : ∀ any : SymbolTable, any.declares name =
        (any.declarations.map Declaration.qualifiedName).any (· == name) := fun any => by
      rw [List.any_map]
      rfl
    rw [byNames, byNames, respells.names]
  refine resolve?_congr (fun path => ?_) declares ?_ path
  · rw [respells.others]
    rfl
  · rw [respells.others]
    rfl

theorem namesTrait (respells : table.Respells other) (name : String) :
    Resolution.namesTrait table.host name = Resolution.namesTrait other.host name := by
  unfold Resolution.namesTrait
  rw [host_find?, host_find?, ← respells.find?]
  cases table.find? name with
  | none => rfl
  | some id =>
      simp only [Attempt.ask, ok_bind, host_declaration?]
      rcases respells.declaration?_cases id with ⟨isLeft, isRight⟩ | ⟨_, _, isLeft, isRight, same⟩
      · rw [isLeft, isRight]
      · rw [isLeft, isRight]
        exact congrArg Except.ok same.isSome_trait?

theorem symm (respells : table.Respells other) : other.Respells table := by
  refine ⟨?_, by rw [respells.others]⟩
  refine (respells.declarations.imp fun one respelled same => ?_).flip
  refine ⟨?_, ?_⟩
  · obtain ⟨kinds, others⟩ := same
    have sameScope := congrArg Declaration.scope others
    generalize one.kind = left at kinds
    generalize respelled.kind = right at kinds
    rw [show respelled.scope = one.scope from sameScope]
    cases kinds with
    | trait sameBody =>
        exact .trait (sameBody.back fun path => congrArg Except.ok (respells.resolve? _ path))
    | same => exact .same left
  · rw [same.others]

end SymbolTable.Respells

/-! ### Members of respelled traits -/

namespace Enumeration

variable {table other : SymbolTable} {interface : String} {one respelled : Declaration}

/-- A reader stays a reader of the same property. -/
theorem readProperty?_respelled {host : Host} {scope : Nat} {first second : FunctionSignature}
    (same : first.Respells host scope second) {property : String} {written : TypeSyntax}
    (reads : readProperty? first = some (property, written)) :
    ∃ type, readProperty? second = some (property, type) ∧
      Resolution.Respells host scope written type := by
  obtain ⟨isName, notEmpty, returned, notUnit, shared, noParameters, plain⟩ :=
    readProperty?_eq_some.mp reads
  obtain ⟨sameName, sameReceiver, parameters, returnTypes, generic, _⟩ := same
  rw [returned] at returnTypes
  rw [noParameters] at parameters
  obtain ⟨type, isType, sameType⟩ : ∃ type, second.returnType = some type ∧
      Resolution.Respells host scope written type := by
    generalize second.returnType = right at returnTypes
    cases returnTypes with
    | some sameType => exact ⟨_, rfl, sameType⟩
  refine ⟨type, readProperty?_eq_some.mpr ⟨sameName ▸ isName, notEmpty, isType, ?_,
    sameReceiver ▸ shared, List.forall₂_nil_left_iff.mp parameters, generic ▸ plain⟩, sameType⟩
  exact fun isUnit => notUnit (sameType.eq_unit_iff.mpr isUnit)

section Types

variable (respells : table.Respells other) (same : one.Respells table.host respelled)

include respells same

theorem resolve_respelled {written type : TypeSyntax}
    (sameType : Resolution.Respells table.host one.scope written type) {resolved : ResolvedType}
    (resolves : Resolution.resolve table.host one.qualifiedName one.scope written = .ok resolved) :
    Resolution.resolve other.host respelled.qualifiedName respelled.scope type = .ok resolved := by
  have sameScope : ∀ path, table.host.resolve? one.scope path =
      other.host.resolve? respelled.scope path := fun path => by
    rw [SymbolTable.host_resolve?, SymbolTable.host_resolve?, respells.resolve?, same.scope]
  rw [← same.qualifiedName, ← Resolution.resolve_congr respells.namesTrait sameScope]
  exact sameType.resolve_eq_ok resolves

theorem parametersFrom_respelled {place : Nat} {written types : List ParameterSyntax}
    (sameTypes : List.Forall₂ (ParameterSyntax.Respells table.host one.scope) written types)
    {parameters : List Parameter}
    (resolved : parametersFrom table.host one place written = .ok parameters) :
    parametersFrom other.host respelled place types = .ok parameters := by
  induction sameTypes generalizing place parameters with
  | nil => exact resolved
  | cons first rest inductionHypothesis =>
      simp only [parametersFrom, bind_eq_ok, pure_eq_ok] at resolved ⊢
      obtain ⟨type, isType, others, areOthers, rfl⟩ := resolved
      exact ⟨type, resolve_respelled respells same first.type isType, others,
        inductionHypothesis areOthers, by rw [first.name]⟩

theorem returnType_respelled {written type : Option TypeSyntax}
    (sameType : Option.Rel (Resolution.Respells table.host one.scope) written type)
    {resolved : ResolvedType} (returned : returnType table.host one written = .ok resolved) :
    returnType other.host respelled type = .ok resolved := by
  cases sameType with
  | none => exact returned
  | some sameType => exact resolve_respelled respells same sameType returned

/-- A method stands for the same member by itself, however its types are spelled. -/
theorem member?_respelled {first second : FunctionSignature}
    (sameMethod : first.Respells table.host one.scope second) {found : Option Member}
    (alone : member? table.host interface one [] first = .ok found) :
    member? other.host interface respelled [] second = .ok found := by
  rw [member?_eq_ok] at alone ⊢
  rcases alone with ⟨noReceiver, hasBody, rfl⟩ | ⟨receiver, taken, borrows, plain, kinds⟩
  · exact .inl ⟨sameMethod.receiver ▸ noReceiver, sameMethod.hasBody ▸ hasBody, rfl⟩
  refine .inr ⟨receiver, sameMethod.receiver ▸ taken, borrows, sameMethod.generic ▸ plain, ?_⟩
  rcases kinds with ⟨property, written, type, reads, resolves, rfl⟩ | ⟨_, paired, _⟩ |
    ⟨noReader, _, areParameters, result, isParameters, isResult, rfl⟩
  · obtain ⟨otherWritten, readsToo, sameWritten⟩ := readProperty?_respelled sameMethod reads
    refine .inl ⟨property, otherWritten, type, readsToo,
      resolve_respelled respells same sameWritten resolves, ?_⟩
    rw [same.qualifiedName]
    rfl
  · cases paired
  · have noReaderEither : readProperty? second = none := by
      rw [Option.eq_none_iff_forall_ne_some]
      rintro ⟨property, written⟩ reads
      obtain ⟨_, readsFirst, _⟩ := readProperty?_respelled (sameMethod.back fun _ => rfl) reads
      cases noReader.symm.trans readsFirst
    refine .inr (.inr ⟨noReaderEither, rfl, areParameters, result,
      parametersFrom_respelled respells same sameMethod.parameters isParameters,
      returnType_respelled respells same sameMethod.returnType isResult, ?_⟩)
    rw [same.qualifiedName, sameMethod.name]

theorem standAlone_respelled {methods spelled : List FunctionSignature}
    (sameMethods : List.Forall₂ (FunctionSignature.Respells table.host one.scope) methods spelled)
    {found : List (Option Member)} (alone : StandAlone table.host interface one methods found) :
    StandAlone other.host interface respelled spelled found :=
  forall₂_through sameMethods alone fun _ _ _ _ sameMethod standsAlone =>
    member?_respelled respells same sameMethod standsAlone

end Types

/-! ### Pairs -/

/-- The method at the one place reads a property that the method at the other place writes. -/
def PairedAt (methods : List FunctionSignature) (reader writer : Nat) : Prop :=
  ∃ one other property type, methods[reader]? = some one ∧ methods[writer]? = some other ∧
    readProperty? one = some (property, type) ∧ writesProperty property type other = true

theorem any_hasWriter_iff {methods : List FunctionSignature} {place : Nat}
    {signature : FunctionSignature} (isPlaced : methods[place]? = some signature) :
    ((readProperty? signature).any fun read => hasWriter methods read.1 read.2) = true ↔
      ∃ writer, PairedAt methods place writer := by
  simp only [Option.any_eq_true, hasWriter, List.any_eq_true, List.mem_iff_getElem?]
  constructor
  · rintro ⟨⟨property, type⟩, reads, found, ⟨writer, isFound⟩, writes⟩
    exact ⟨writer, signature, found, property, type, isPlaced, isFound, reads, writes⟩
  · rintro ⟨writer, one, found, property, type, isOne, isFound, reads, writes⟩
    cases isPlaced.symm.trans isOne
    exact ⟨(property, type), reads, found, ⟨writer, isFound⟩, writes⟩

theorem isPairedWriter_iff_pairedAt {methods : List FunctionSignature} {place : Nat}
    {signature : FunctionSignature} (isPlaced : methods[place]? = some signature) :
    isPairedWriter methods signature = true ↔ ∃ reader, PairedAt methods reader place := by
  rw [isPairedWriter_iff]
  constructor
  · rintro ⟨found, isMethod, property, type, reads, writes⟩
    obtain ⟨reader, isFound⟩ := List.mem_iff_getElem?.mp isMethod
    exact ⟨reader, found, signature, property, type, isFound, isPlaced, reads, writes⟩
  · rintro ⟨reader, found, one, property, type, isFound, isOne, reads, writes⟩
    cases isPlaced.symm.trans isOne
    exact ⟨found, List.mem_of_getElem? isFound, property, type, reads, writes⟩

/-- Where methods pair at the same places, pairing leaves the same members. -/
theorem members_of_pairedAt {methods spelled : List FunctionSignature}
    {found : List (Option Member)} (sameLength : methods.length = spelled.length)
    (pairs : ∀ reader writer, PairedAt methods reader writer ↔ PairedAt spelled reader writer) :
    StandAlone.members methods found = StandAlone.members spelled found := by
  refine congrArg (List.filterMap id) (List.ext_getElem? fun place => ?_)
  rw [List.getElem?_zipWith, List.getElem?_zipWith]
  by_cases isInside : place < methods.length
  · have isFirst := List.getElem?_eq_getElem isInside
    have isSecond := List.getElem?_eq_getElem (sameLength ▸ isInside)
    rw [isFirst, isSecond]
    cases found[place]? with
    | none => rfl
    | some single =>
        have writers := (any_hasWriter_iff isFirst).trans
          ((exists_congr fun writer => pairs place writer).trans (any_hasWriter_iff isSecond).symm)
        have readers := (isPairedWriter_iff_pairedAt isFirst).trans
          ((exists_congr fun reader => pairs reader place).trans
            (isPairedWriter_iff_pairedAt isSecond).symm)
        rw [← Bool.eq_iff_iff] at writers readers
        match single with
        | none => rfl
        | some (.property property) => simp only [pairing, writers]
        | some (.method method) => simp only [pairing, readers]
  · have isBehind : methods.length ≤ place := Nat.le_of_not_lt isInside
    have isBehindToo : spelled.length ≤ place := sameLength ▸ isBehind
    rw [List.getElem?_eq_none isBehind, List.getElem?_eq_none isBehindToo]

end Enumeration

namespace SymbolTable

/-- In every trait the same methods pair before and after. -/
def KeepsPairs (table other : SymbolTable) : Prop :=
  ∀ id one respelled body spelled, table.declaration? id = some one →
    other.declaration? id = some respelled → one.trait? = some body →
      respelled.trait? = some spelled → ∀ reader writer,
        Enumeration.PairedAt body.methods reader writer ↔
          Enumeration.PairedAt spelled.methods reader writer

end SymbolTable

namespace Enumeration

variable {table other : SymbolTable}

/-! ### Interfaces of respelled tables -/

/-- Both interfaces come about from one in which nothing is paired, and are the same where the
tables pair alike. -/
structure Comparable (table other : SymbolTable) (left right : Interface) : Prop where
  raw : ∃ raw : Interface, raw.PairsUp left ∧ raw.PairsUp right
  same : table.KeepsPairs other → left = right

theorem Comparable.name {left right : Interface} (comparable : Comparable table other left right) :
    left.name = right.name := by
  obtain ⟨raw, isLeft, isRight⟩ := comparable.raw
  exact isLeft.name.trans isRight.name.symm

theorem Comparable.traits {left right : Interface} (comparable : Comparable table other left right) :
    left.traits = right.traits := by
  obtain ⟨raw, isLeft, isRight⟩ := comparable.raw
  exact isLeft.traits.trans isRight.traits.symm

variable (respells : table.Respells other)

include respells

/-- The members of a respelled trait differ by pairing at most. -/
theorem ownMembers_respelled {id : Nat} {one respelled : Declaration} {body spelled : TraitBody}
    (same : one.Respells table.host respelled) (isOne : table.declaration? id = some one)
    (isRespelled : other.declaration? id = some respelled) (isBody : one.trait? = some body)
    (isSpelled : respelled.trait? = some spelled)
    (sameBody : body.Respells table.host one.scope spelled) {interface : String}
    {members : List Member} (areMembers : ownMembers table.host interface one body = .ok members) :
    ∃ others, ownMembers other.host interface respelled spelled = .ok others ∧
      ∀ left right trait, Comparable table other left right →
        Comparable table other (extend left trait members) (extend right trait others) := by
  obtain ⟨found, alone, rfl⟩ := standAlone_of_ownMembers table.host_answers areMembers
  have aloneToo := standAlone_respelled respells same sameBody.methods alone
  have noProblem := (ownMembers_eq_ok.mp areMembers).1
  rw [sameBody.findSome?_itemProblem?, same.qualifiedName] at noProblem
  refine ⟨_, ownMembers_of_standAlone noProblem aloneToo, fun left right trait comparable => ?_⟩
  obtain ⟨raw, isLeft, isRight⟩ := comparable.raw
  refine ⟨⟨_, pairsUp_extend isLeft alone trait, pairsUp_extend isRight aloneToo trait⟩, ?_⟩
  intro keeps
  have pairs := keeps id one respelled body spelled isOne isRespelled isBody isSpelled
  rw [comparable.same keeps]
  exact congrArg (extend right trait)
    (members_of_pairedAt sameBody.methods.length_eq pairs)

theorem supertrait?_respelled {one respelled : Declaration}
    (same : one.Respells table.host respelled) (interface : String) (bound : TypeSyntax) :
    supertrait? table.host interface one bound =
      supertrait? other.host interface respelled bound := by
  unfold supertrait?
  simp only [SymbolTable.host_resolve?, SymbolTable.host_find?, respells.resolve?,
    respells.find?, same.scope]

/-- Bounds that are visited one after the other are visited alike. -/
theorem bounds_respelled {fuel : Nat}
    (visits : ∀ {id : Nat} {left right after : Interface}, Comparable table other left right →
      visit table.host fuel id left = .ok after →
        ∃ afterToo, visit other.host fuel id right = .ok afterToo ∧
          Comparable table other after afterToo)
    {one respelled : Declaration} (same : one.Respells table.host respelled)
    {bounds : List TypeSyntax} {left right after : Interface}
    (comparable : Comparable table other left right)
    (visited : bounds.foldlM (fun interface bound => do
      match ← supertrait? table.host interface.name one bound with
      | none => pure interface
      | some supertrait => visit table.host fuel supertrait interface) left = .ok after) :
    ∃ afterToo, bounds.foldlM (fun interface bound => do
        match ← supertrait? other.host interface.name respelled bound with
        | none => pure interface
        | some supertrait => visit other.host fuel supertrait interface) right = .ok afterToo ∧
      Comparable table other after afterToo := by
  induction bounds generalizing left right with
  | nil =>
      rw [List.foldlM_nil, pure_eq_ok] at visited
      subst visited
      exact ⟨right, rfl, comparable⟩
  | cons bound rest inductionHypothesis =>
      rw [List.foldlM_cons, bind_eq_ok] at visited
      obtain ⟨middle, stepped, remaining⟩ := visited
      obtain ⟨target, followed, continued⟩ := bind_eq_ok.mp stepped
      rw [supertrait?_respelled respells same, comparable.name] at followed
      simp only [List.foldlM_cons, followed, ok_bind]
      cases target with
      | none =>
          rw [pure_eq_ok] at continued
          subst continued
          exact inductionHypothesis comparable remaining
      | some upper =>
          obtain ⟨middleToo, visitedToo, comparableToo⟩ := visits comparable continued
          simp only [visitedToo, ok_bind]
          exact inductionHypothesis comparableToo remaining

/-- To visit a trait succeeds however member types are spelled. -/
theorem visit_respelled {fuel id : Nat} {left right after : Interface}
    (comparable : Comparable table other left right)
    (visited : visit table.host fuel id left = .ok after) :
    ∃ afterToo, visit other.host fuel id right = .ok afterToo ∧
      Comparable table other after afterToo := by
  induction fuel generalizing id left right after with
  | zero => exact absurd visited Attempt.fail_ne_ok
  | succ fuel inductionHypothesis =>
      rw [visit, bind_eq_ok] at visited
      obtain ⟨one, declared, continued⟩ := visited
      rw [declaration_eq_ok] at declared
      obtain ⟨isNone, _⟩ | ⟨_, respelled, isOne, isRespelled, same⟩ :=
        respells.declaration?_cases id
      · cases (Except.ok.inj declared).symm.trans isNone
      cases (Except.ok.inj declared).symm.trans isOne
      have declaredToo : declaration other.host id = .ok respelled :=
        declaration_eq_ok.mpr (congrArg Except.ok isRespelled)
      rw [visit, declaredToo, ok_bind, ← same.qualifiedName, ← comparable.traits,
        ← comparable.name]
      by_cases known : left.traits.contains one.qualifiedName = true
      · rw [if_pos known, pure_eq_ok] at continued
        subst continued
        exact ⟨right, by rw [if_pos known]; rfl, comparable⟩
      · rw [if_neg known, bind_eq_ok] at continued
        rw [if_neg known]
        obtain ⟨body, included, continued⟩ := continued
        obtain ⟨members, areMembers, continued⟩ := bind_eq_ok.mp continued
        obtain ⟨isBody, plain, visible⟩ := includedTrait_eq_ok.mp included
        obtain ⟨isNone, _⟩ | ⟨_, spelled, isBodyToo, isSpelled, sameBody⟩ := same.trait?_cases
        · cases isBody.symm.trans isNone
        cases isBody.symm.trans isBodyToo
        have includedToo : includedTrait left.name respelled = .ok spelled :=
          includedTrait_eq_ok.mpr
            ⟨isSpelled, sameBody.generic ▸ plain, same.visible ▸ visible⟩
        obtain ⟨others, areOthers, joins⟩ := ownMembers_respelled respells same isOne
          isRespelled isBody isSpelled sameBody areMembers
        rw [includedToo, ok_bind, areOthers, ok_bind, ← sameBody.supertraits]
        exact bounds_respelled respells inductionHypothesis same
          (joins left right one.qualifiedName comparable) continued

/-- A trait has an interface however its member types are spelled, and both are comparable. -/
theorem enumerate_comparable {id : Nat} {interface : Interface}
    (enumerated : enumerate table.host id = .ok interface) :
    ∃ respelled, enumerate other.host id = .ok respelled ∧
      Comparable table other interface respelled := by
  obtain ⟨one, body, declared, isBody, visited⟩ := enumerate_eq_ok.mp enumerated
  obtain ⟨isNone, _⟩ | ⟨_, respelled, isOne, isRespelled, same⟩ := respells.declaration?_cases id
  · cases (Except.ok.inj declared).symm.trans isNone
  cases (Except.ok.inj declared).symm.trans isOne
  obtain ⟨isNone, _⟩ | ⟨_, spelled, _, isSpelled, _⟩ := same.trait?_cases
  · cases isBody.symm.trans isNone
  have start : Comparable table other (.empty one.qualifiedName) (.empty one.qualifiedName) :=
    ⟨⟨_, pairsUp_empty _, pairsUp_empty _⟩, fun _ => rfl⟩
  obtain ⟨after, visitedToo, comparable⟩ := visit_respelled respells start visited
  refine ⟨after, enumerate_eq_ok.mpr ⟨respelled, spelled, congrArg Except.ok isRespelled,
    isSpelled, ?_⟩, comparable⟩
  have sameSize : table.host.size = other.host.size := respells.declarations.length_eq
  rwa [← sameSize, ← same.qualifiedName]

/-- Interfaces exist however member types are spelled, and they are the same once writers are paired
by type; as they are, they are the same where the same methods pair. Paired by type, a property can
be written exactly when its trait has a setter of its type, and where such setters spell the type
like the reader, the interface is paired so already. -/
theorem enumerate_respelled (id : Nat) :
    ((∃ interface, enumerate table.host id = .ok interface) ↔
      ∃ interface, enumerate other.host id = .ok interface) ∧
    ∀ interface, enumerate table.host id = .ok interface →
      (∀ respelled, enumerate other.host id = .ok respelled →
        respelled.pairedByType = interface.pairedByType ∧
          (table.KeepsPairs other → respelled = interface)) ∧
      ∃ visited : List Declaration,
        visited.map Declaration.qualifiedName = interface.traits ∧ visited ⊆ table.declarations ∧
          (∀ property ∈ interface.pairedByType.properties, property.mutable = true ↔
            ∃ owner ∈ visited, owner.qualifiedName = property.owner ∧
              ∃ body, owner.trait? = some body ∧ ∃ signature ∈ body.methods,
                SetsByType table.host owner property.name property.type signature) ∧
          ((∀ owner ∈ visited, ∀ body, owner.trait? = some body →
              SpellsAlike table.host owner body.methods) →
            interface.pairedByType = interface) := by
  constructor
  · constructor
    · rintro ⟨interface, enumerated⟩
      obtain ⟨respelled, isRespelled, _⟩ := enumerate_comparable respells enumerated
      exact ⟨respelled, isRespelled⟩
    · rintro ⟨respelled, enumerated⟩
      obtain ⟨interface, isInterface, _⟩ := enumerate_comparable respells.symm enumerated
      exact ⟨interface, isInterface⟩
  intro interface enumerated
  constructor
  · intro respelled isRespelled
    obtain ⟨_, isRespelledToo, comparable⟩ := enumerate_comparable respells enumerated
    cases isRespelled.symm.trans isRespelledToo
    obtain ⟨raw, isLeft, isRight⟩ := comparable.raw
    exact ⟨isRight.pairedByType_eq.trans isLeft.pairedByType_eq.symm,
      fun keeps => (comparable.same keeps).symm⟩
  · obtain ⟨parts, areParts, walk⟩ := enumerate_walk enumerated
    have belong := walk.belongs
    have isTrait : ∀ part ∈ parts, part.owner.trait? = some part.body := fun part isPart =>
      (includedTrait_eq_ok.mp (belong part isPart).included).1
    refine ⟨parts.map Part.owner, ?_, ?_, fun property isProperty => ?_, fun alike => ?_⟩
    · rw [List.map_map, areParts]
      rfl
    · intro owner isOwner
      obtain ⟨part, isPart, rfl⟩ := List.mem_map.mp isOwner
      exact List.mem_of_getElem? (Except.ok.inj (belong part isPart).declared)
    · rw [mutable_pairedByType_iff table.host_answers areParts belong isProperty]
      constructor
      · rintro ⟨part, isPart, isOwner, signature, isMethod, sets⟩
        exact ⟨part.owner, List.mem_map_of_mem isPart, isOwner, part.body, isTrait part isPart,
          signature, isMethod, sets⟩
      · rintro ⟨owner, isOwner, sameName, body, isBody, signature, isMethod, sets⟩
        obtain ⟨part, isPart, rfl⟩ := List.mem_map.mp isOwner
        cases isBody.symm.trans (isTrait part isPart)
        exact ⟨part, isPart, sameName, signature, isMethod, sets⟩
    · rw [areParts]
      refine pairedByType_eq_self belong walk.names_nodup.1 (fun part isPart => ?_) interface.name
      exact alike part.owner (List.mem_map_of_mem isPart) part.body (isTrait part isPart)

omit respells

/-- A trait whose property is read as one spelling of a type and written as the given one. -/
def lampTable (written : List String) : SymbolTable where
  scopes := [.new "crate" none]
  declarations := [
    ⟨"Lamp", "crate", 0, .trait ⟨false, [], [
      .method ⟨"get_level", some .shared, [], some (.path ["Vec"] [.path ["u8"] []]), false, false⟩,
      .method ⟨"set_level", some .exclusive,
        [⟨some "value", .path written [.path ["u8"] []]⟩], none, false, false⟩]⟩,
      [], none, true⟩]
  facts := []
  announced := []

/-- The property, with the writer that is spelled like its reader. -/
def lampInterface : Interface where
  name := "crate::Lamp"
  traits := ["crate::Lamp"]
  properties := [⟨"level", .mk "std::vec::Vec" [.named "u8"] false, true, "crate::Lamp"⟩]
  methods := []

/-- The full path makes the writer a method of its own, although it means the same type. -/
theorem lampTable_respelled :
    (lampTable ["Vec"]).Respells (lampTable ["std", "vec", "Vec"]) ∧
      enumerate (lampTable ["Vec"]).host 0 = .ok lampInterface ∧
      ∃ respelled, enumerate (lampTable ["std", "vec", "Vec"]).host 0 = .ok respelled ∧
        respelled ≠ lampInterface ∧
        respelled.pairedByType = lampInterface.pairedByType := by
  have sameMeaning : (lampTable ["Vec"]).host.SameMeaning 0 ["Vec"] ["std", "vec", "Vec"] :=
    .inr ⟨"std::vec::Vec", by rfl, by rfl⟩
  have respells : (lampTable ["Vec"]).Respells (lampTable ["std", "vec", "Vec"]) := by
    refine ⟨.cons ⟨.trait ⟨rfl, rfl, ?_⟩, rfl⟩ .nil, rfl⟩
    refine .cons (.method ⟨rfl, rfl, .nil, .some (.refl _), rfl, rfl⟩) (.cons (.method ?_) .nil)
    exact ⟨rfl, rfl, .cons ⟨rfl, .path sameMeaning (.cons (.refl _) .nil)⟩ .nil, .none, rfl, rfl⟩
  have enumerated : enumerate (lampTable ["Vec"]).host 0 = .ok lampInterface := by rfl
  obtain ⟨respelled, isRespelled⟩ := (enumerate_respelled respells 0).1.mp ⟨_, enumerated⟩
  refine ⟨respells, enumerated, respelled, isRespelled, ?_,
    (((enumerate_respelled respells 0).2 _ enumerated).1 respelled isRespelled).1⟩
  rintro rfl
  have differs : enumerate (lampTable ["std", "vec", "Vec"]).host 0 ≠ .ok lampInterface := by
    decide +kernel
  exact differs isRespelled

end Enumeration

end ForwardingProxy
