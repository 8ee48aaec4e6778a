import ForwardingProxy.Proofs.Classification.Attributes
import ForwardingProxy.Proofs.Classification.MarkerPath
import ForwardingProxy.Proofs.SymbolTable.Matching

/-!
Contract: which functions are dispatch functions.

Owns: `IsDispatcher`, the signature that dispatch functions have, `Requirement`, what a marked
function has to meet in the order in which it is checked, with the failure that reports each
requirement, and the fact that a function leads to a request exactly when it meets them all and
otherwise to the failure of the first one that it does not meet.
-/

namespace ForwardingProxy.Classification

/-! ### Signatures -/

/-- `Box<dyn Any>`, with any paths before its names. -/
inductive BoxedAny : TypeSyntax → Prop where
  | boxed (beforeBox beforeAny : List String) :
      BoxedAny (.path (beforeBox ++ ["Box"]) [.traitObject (beforeAny ++ ["Any"])])

/-- `Vec<Box<dyn Any>>`, with any paths before its names. -/
inductive BoxedAnyList : TypeSyntax → Prop where
  | list (beforeVec : List String) {element : TypeSyntax} (boxed : BoxedAny element) :
      BoxedAnyList (.path (beforeVec ++ ["Vec"]) [element])

/-- `&MethodCall`, with any path before the name. -/
inductive SharedCall : TypeSyntax → Prop where
  | shared (before : List String) :
      SharedCall (.reference false (.path (before ++ ["MethodCall"]) []))

/-- The function takes `&MethodCall` and `Vec<Box<dyn Any>>` and gives `Box<dyn Any>`, and has no
parameters besides these two. -/
structure IsDispatcher (signature : FunctionSignature) : Prop where
  noReceiver : signature.receiver = none
  plain : signature.generic = false
  parameters : ∃ call arguments, signature.parameters = [call, arguments] ∧
    SharedCall call.type ∧ BoxedAnyList arguments.type
  result : ∃ type, signature.returnType = some type ∧ BoxedAny type

theorem onlyArgument?_eq_some {name : String} {type argument : TypeSyntax} :
    onlyArgument? name type = some argument ↔
      ∃ before, type = .path (before ++ [name]) [argument] := by
  cases type with
  | path segments arguments =>
      match arguments with
      | [] => simp [onlyArgument?]
      | [only] =>
          simp only [onlyArgument?, beq_iff_eq, List.getLast?_eq_some_iff,
            Option.ite_none_right_eq_some, Option.some.injEq, TypeSyntax.path.injEq,
            List.cons.injEq, and_true, exists_and_right]
      | _ :: _ :: _ => simp [onlyArgument?]
  | _ => simp [onlyArgument?]

theorem isBoxedAny_iff {type : TypeSyntax} : isBoxedAny type = true ↔ BoxedAny type := by
  have isAnyObject_iff : ∀ {inner : TypeSyntax}, isAnyObject inner = true ↔
      ∃ before, inner = .traitObject (before ++ ["Any"]) := by
    intro inner
    cases inner <;> simp [isAnyObject, List.getLast?_eq_some_iff]
  simp only [isBoxedAny, Option.any_eq_true, onlyArgument?_eq_some, isAnyObject_iff]
  constructor
  · rintro ⟨_, ⟨beforeBox, rfl⟩, beforeAny, rfl⟩
    exact .boxed beforeBox beforeAny
  · rintro ⟨beforeBox, beforeAny⟩
    exact ⟨_, ⟨beforeBox, rfl⟩, beforeAny, rfl⟩

theorem isBoxedAnyList_iff {type : TypeSyntax} :
    isBoxedAnyList type = true ↔ BoxedAnyList type := by
  simp only [isBoxedAnyList, Option.any_eq_true, onlyArgument?_eq_some, isBoxedAny_iff]
  constructor
  · rintro ⟨_, ⟨before, rfl⟩, boxed⟩
    exact .list before boxed
  · rintro ⟨before, boxed⟩
    exact ⟨_, ⟨before, rfl⟩, boxed⟩

theorem isCallReference_iff {type : TypeSyntax} :
    isCallReference type = true ↔ SharedCall type := by
  have isPlain_iff : ∀ {inner : TypeSyntax}, isPlain "MethodCall" inner = true ↔
      ∃ before, inner = .path (before ++ ["MethodCall"]) [] := by
    intro inner
    cases inner with
    | path segments arguments =>
        cases arguments <;> simp [isPlain, List.getLast?_eq_some_iff]
    | _ => simp [isPlain]
  constructor
  · intro isCall
    match type, isCall with
    | .reference false inner, isCall =>
        obtain ⟨before, rfl⟩ := isPlain_iff.mp isCall
        exact .shared before
  · rintro ⟨before⟩
    exact isPlain_iff.mpr ⟨before, rfl⟩

theorem hasDispatchSignature_iff {signature : FunctionSignature} :
    hasDispatchSignature signature = true ↔ IsDispatcher signature := by
  unfold hasDispatchSignature
  rw [Bool.and_eq_true, Bool.and_eq_true, Option.isNone_iff_eq_none, Bool.not_eq_true']
  constructor
  · rintro ⟨⟨noReceiver, plain⟩, fits⟩
    split at fits
    next call arguments areParameters =>
      simp only [Bool.and_eq_true, isCallReference_iff, isBoxedAnyList_iff, Option.any_eq_true,
        isBoxedAny_iff] at fits
      obtain ⟨⟨isCall, areArguments⟩, result⟩ := fits
      exact ⟨noReceiver, plain, ⟨call, arguments, areParameters, isCall, areArguments⟩, result⟩
    next => cases fits
  · rintro ⟨noReceiver, plain, ⟨call, arguments, areParameters, isCall, areArguments⟩, result⟩
    refine ⟨⟨noReceiver, plain⟩, ?_⟩
    rw [areParameters]
    simp only [Bool.and_eq_true, isCallReference_iff, isBoxedAnyList_iff, Option.any_eq_true,
      isBoxedAny_iff]
    exact ⟨⟨isCall, areArguments⟩, result⟩

/-! ### Requirements -/

/-- What a marked function has to meet. -/
inductive Requirement where
  | kind
  | visibility
  | signature
  | argument
  | resolution
  | interface
  | enumeration
deriving DecidableEq, Repr

namespace Requirement

/-- All requirements, in the order in which they are checked. -/
def order : List Requirement :=
  [.kind, .visibility, .signature, .argument, .resolution, .interface, .enumeration]

theorem mem_order (requirement : Requirement) : requirement ∈ order := by
  cases requirement <;> decide

/-- The declaration meets the requirement with the attribute that marks it. -/
def Met (table : SymbolTable) (declaration : Declaration) (written : Attribute) :
    Requirement → Prop
  | kind => ∃ signature, declaration.kind = .function signature
  | visibility => declaration.visible = true
  | signature => ∃ signature, declaration.kind = .function signature ∧ IsDispatcher signature
  | argument => ∃ path, OnlyPath (argumentsOf written) path
  | resolution => ∃ name target, Refers table declaration.scope written name target
  | interface => ∃ name target found body, Refers table declaration.scope written name target ∧
      table.declaration? target = some found ∧ found.kind = .trait body
  | enumeration => ∃ name target interface, Refers table declaration.scope written name target ∧
      Enumeration.enumerate table.host target = .ok interface

/-- The failure that tells of a requirement which is not met. -/
inductive Reports (table : SymbolTable) (marker : String) (declaration : Declaration)
    (written : Attribute) : Requirement → Failure → Prop where
  | kind : Reports table marker declaration written kind
      (.marker marker declaration.qualifiedName (.notOnFunction declaration.kind.describe))
  | visibility : Reports table marker declaration written visibility
      (.marker marker declaration.qualifiedName .privateFunction)
  | signature {given : FunctionSignature} (isFunction : declaration.kind = .function given) :
      Reports table marker declaration written signature
        (.signature declaration.qualifiedName given.name)
  | argument {problem : MarkerProblem}
      (malformed : markerPath (argumentsOf written) = .error problem) :
      Reports table marker declaration written argument
        (.marker marker declaration.qualifiedName problem)
  | notInScope {path : List String} (isPath : OnlyPath (argumentsOf written) path)
      (meaningless : table.resolve? declaration.scope path = none) :
      Reports table marker declaration written resolution
        (.unresolvable declaration.qualifiedName (Name.join path) .notInScope)
  | notDeclared {path : List String} {name : String}
      (isPath : OnlyPath (argumentsOf written) path)
      (means : table.resolve? declaration.scope path = some name)
      (missing : table.find? name = none) :
      Reports table marker declaration written resolution
        (.unresolvable declaration.qualifiedName (Name.join path) (.notDeclared name))
  | interface {name : String} {target : Nat} {found : Declaration}
      (refers : Refers table declaration.scope written name target)
      (declared : table.declaration? target = some found) :
      Reports table marker declaration written interface
        (.notInterface found.qualifiedName found.kind.describe)
  | enumeration {name : String} {target : Nat} {failure : Failure}
      (refers : Refers table declaration.scope written name target)
      (fails : Enumeration.enumerate table.host target = .error (.failed failure)) :
      Reports table marker declaration written enumeration failure

/-- The requirement is not met, and all that are checked before it are. -/
structure FirstUnmet (table : SymbolTable) (declaration : Declaration) (written : Attribute)
    (requirement : Requirement) : Prop where
  earlier : ∀ other ∈ order.takeWhile (· ≠ requirement), other.Met table declaration written
  unmet : ¬requirement.Met table declaration written

/-- In a list with an element that does not fulfil the property, one of these is the first. -/
theorem exists_first {α : Type} [DecidableEq α] (property : α → Prop) {elements : List α}
    (fails : ∃ element ∈ elements, ¬property element) :
    ∃ first, (∀ earlier ∈ elements.takeWhile (· ≠ first), property earlier) ∧ ¬property first := by
  induction elements with
  | nil => simp at fails
  | cons head rest inductionHypothesis =>
      by_cases holds : property head
      · obtain ⟨element, member, wrong⟩ := fails
        rcases List.mem_cons.mp member with rfl | later
        · exact absurd holds wrong
        obtain ⟨first, earlier, unmet⟩ := inductionHypothesis ⟨element, later, wrong⟩
        have different : head ≠ first := by
          rintro rfl
          exact unmet holds
        refine ⟨first, ?_, unmet⟩
        rw [List.takeWhile_cons_of_pos (by simpa using different)]
        exact List.forall_mem_cons.mpr ⟨holds, earlier⟩
      · refine ⟨head, ?_, holds⟩
        rw [List.takeWhile_cons_of_neg (by simp)]
        exact List.forall_mem_nil _

variable {table : SymbolTable} {marker : String} {declaration : Declaration} {written : Attribute}

theorem exists_firstUnmet (wrong : ¬∀ requirement : Requirement,
    requirement.Met table declaration written) :
    ∃ requirement, FirstUnmet table declaration written requirement := by
  obtain ⟨requirement, unmet⟩ := Classical.not_forall.mp wrong
  obtain ⟨first, earlier, firstUnmet⟩ :=
    exists_first (fun requirement : Requirement => requirement.Met table declaration written)
      ⟨requirement, requirement.mem_order, unmet⟩
  exact ⟨first, earlier, firstUnmet⟩

/-- The first requirement that is not met is reported. -/
theorem FirstUnmet.reported {requirement : Requirement}
    (first : FirstUnmet table declaration written requirement) :
    ∃ failure, Reports table marker declaration written requirement failure := by
  obtain ⟨earlier, unmet⟩ := first
  cases requirement with
  | kind => exact ⟨_, .kind⟩
  | visibility => exact ⟨_, .visibility⟩
  | signature =>
      obtain ⟨given, isFunction⟩ := earlier kind (by decide)
      exact ⟨_, .signature isFunction⟩
  | argument =>
      cases isPath : markerPath (argumentsOf written) with
      | ok path => exact absurd ⟨path, markerPath_eq_ok.mp isPath⟩ unmet
      | error problem => exact ⟨_, .argument isPath⟩
  | resolution =>
      obtain ⟨path, isPath⟩ := earlier argument (by decide)
      cases means : table.resolve? declaration.scope path with
      | none => exact ⟨_, .notInScope isPath means⟩
      | some name =>
          cases found : table.find? name with
          | none => exact ⟨_, .notDeclared isPath means found⟩
          | some target => exact absurd ⟨name, target, ⟨path, isPath, means⟩, found⟩ unmet
  | interface =>
      obtain ⟨name, target, refers⟩ := earlier resolution (by decide)
      obtain ⟨found, declared, _⟩ := SymbolTable.find?_eq_some refers.found
      exact ⟨_, .interface refers declared⟩
  | enumeration =>
      obtain ⟨name, target, refers⟩ := earlier resolution (by decide)
      obtain ⟨found, declared, _⟩ := SymbolTable.find?_eq_some refers.found
      cases outcome : Enumeration.enumerate table.host target with
      | ok interface => exact absurd ⟨name, target, interface, refers, outcome⟩ unmet
      | error stop =>
          have ensured := Enumeration.enumerate_ensures table.host_answers fun _ =>
            ⟨found, congrArg Except.ok declared⟩
          obtain ⟨failure, rfl, _⟩ := ensured.fails outcome
          exact ⟨failure, .enumeration refers outcome⟩

end Requirement

/-! ### Requests -/

section Requests

variable {table : SymbolTable} {marker : String} {declaration : Declaration} {written : Attribute}

theorem dispatchFunction_eq_ok :
    dispatchFunction marker declaration = .ok () ↔
      declaration.visible = true ∧
        ∃ signature, declaration.kind = .function signature ∧ IsDispatcher signature := by
  unfold dispatchFunction
  simp only [← Declaration.function?_eq_some, ← hasDispatchSignature_iff]
  cases declaration.function? with
  | none => simp
  | some signature =>
      cases visible : declaration.visible <;>
        cases fits : hasDispatchSignature signature <;> simp [fits]

theorem markedTarget_eq_ok {path : List String} {target : Nat} :
    markedTarget table.host declaration path = .ok target ↔
      ∃ name, table.resolve? declaration.scope path = some name ∧
        table.find? name = some target := by
  simp only [markedTarget, SymbolTable.host, bind_eq_ok, Attempt.ask_eq_ok, Attempt.require_eq_ok,
    Except.ok.injEq, exists_eq_left']

theorem markedTarget_eq_error {path : List String} {stop : Stop} :
    markedTarget table.host declaration path = .error stop ↔
      table.resolve? declaration.scope path = none ∧
          stop = .failed (.unresolvable declaration.qualifiedName (Name.join path) .notInScope) ∨
        ∃ name, table.resolve? declaration.scope path = some name ∧ table.find? name = none ∧
          stop = .failed
            (.unresolvable declaration.qualifiedName (Name.join path) (.notDeclared name)) := by
  simp only [markedTarget, SymbolTable.host, Attempt.ask, ok_bind]
  cases table.resolve? declaration.scope path with
  | none => simp [Attempt.require, Attempt.fail, error_bind, eq_comm]
  | some name =>
      simp only [Attempt.require, ok_bind]
      cases found : table.find? name with
      | none => simp [found, Attempt.fail, eq_comm]
      | some target => simp [found]

/-- What is no trait has no interface. -/
theorem enumerate_of_noTrait {target : Nat} {found : Declaration}
    (declared : table.declaration? target = some found) (noTrait : found.trait? = none) :
    Enumeration.enumerate table.host target =
      Attempt.fail (.notInterface found.qualifiedName found.kind.describe) := by
  have isFound : Enumeration.declaration table.host target = .ok found :=
    Enumeration.declaration_eq_ok.mpr (congrArg Except.ok declared)
  rw [Enumeration.enumerate, isFound, ok_bind, noTrait]

/-- A function of the right signature goes on to its marker. -/
theorem functionRequest_of_dispatched (dispatched : dispatchFunction marker declaration = .ok ()) :
    functionRequest table.host marker declaration (some written) = (do
      let path ← attributePath marker declaration.qualifiedName written
      let target ← markedTarget table.host declaration path
      let interface ← Enumeration.enumerate table.host target
      pure (.new interface (.function declaration.qualifiedName) none)) := by
  rw [functionRequest, dispatched]
  rfl

/-- Once the argument refers to a declaration, only the interface is left to do. -/
theorem functionRequest_of_refers {name : String} {target : Nat}
    (dispatched : dispatchFunction marker declaration = .ok ())
    (refers : Refers table declaration.scope written name target) :
    functionRequest table.host marker declaration (some written) = (do
      let interface ← Enumeration.enumerate table.host target
      pure (.new interface (.function declaration.qualifiedName) none)) := by
  obtain ⟨⟨path, isPath, means⟩, isTarget⟩ := refers
  rw [functionRequest_of_dispatched dispatched, attributePath_eq_ok.mpr isPath, ok_bind,
    markedTarget_eq_ok.mpr ⟨name, means, isTarget⟩, ok_bind]

/-- A path that leads nowhere ends the request. -/
theorem functionRequest_of_lost {path : List String} {failure : Failure}
    (dispatched : dispatchFunction marker declaration = .ok ())
    (isPath : OnlyPath (argumentsOf written) path)
    (lost : markedTarget table.host declaration path = Attempt.fail failure) :
    functionRequest table.host marker declaration (some written) = Attempt.fail failure := by
  rw [functionRequest_of_dispatched dispatched, attributePath_eq_ok.mpr isPath, ok_bind, lost]
  rfl

theorem functionRequest_of_rejected {failure : Failure}
    (rejected : dispatchFunction marker declaration = Attempt.fail failure) :
    functionRequest table.host marker declaration (some written) = Attempt.fail failure := by
  rw [functionRequest, rejected]
  rfl

theorem functionRequest_eq_ok {request : ProxyRequest} :
    functionRequest table.host marker declaration (some written) = .ok request ↔
      dispatchFunction marker declaration = .ok () ∧
        ∃ name target interface, Refers table declaration.scope written name target ∧
          Enumeration.enumerate table.host target = .ok interface ∧
            request = .new interface (.function declaration.qualifiedName) none := by
  simp only [functionRequest, bind_eq_ok, attributePath_eq_ok, markedTarget_eq_ok, pure_eq_ok,
    Attempt.require_eq_ok, Option.some.injEq, exists_eq_left']
  constructor
  · rintro ⟨_, dispatched, path, isPath, target, ⟨name, means, found⟩, interface, enumerated, same⟩
    exact ⟨dispatched, name, target, interface, ⟨⟨path, isPath, means⟩, found⟩, enumerated, same⟩
  · rintro ⟨dispatched, name, target, interface, ⟨⟨path, isPath, means⟩, found⟩, enumerated, same⟩
    exact ⟨(), dispatched, path, isPath, target, ⟨name, means, found⟩, interface, enumerated, same⟩

/-- A marked function leads to a request exactly when it meets all requirements. -/
theorem functionRequest_succeeds_iff :
    (∃ request, functionRequest table.host marker declaration (some written) = .ok request) ↔
      ∀ requirement : Requirement, requirement.Met table declaration written := by
  simp only [functionRequest_eq_ok, dispatchFunction_eq_ok]
  constructor
  · rintro ⟨_, ⟨visible, given, isFunction, isDispatcher⟩, name, target, interface, refers,
      enumerated, _⟩ requirement
    obtain ⟨found, body, declared, isTrait, _⟩ := Enumeration.enumerate_eq_ok.mp enumerated
    obtain ⟨path, isPath, _⟩ := refers.argument
    cases requirement with
    | kind => exact ⟨given, isFunction⟩
    | visibility => exact visible
    | signature => exact ⟨given, isFunction, isDispatcher⟩
    | argument => exact ⟨path, isPath⟩
    | resolution => exact ⟨name, target, refers⟩
    | interface =>
        exact ⟨name, target, found, body, refers, Except.ok.inj declared,
          Declaration.trait?_eq_some.mp isTrait⟩
    | enumeration => exact ⟨name, target, interface, refers, enumerated⟩
  · intro met
    obtain ⟨name, target, interface, refers, enumerated⟩ := met .enumeration
    exact ⟨_, ⟨met .visibility, met .signature⟩, name, target, interface, refers, enumerated, rfl⟩

/-- The first requirement that a marked function does not meet decides about its failure. -/
theorem functionRequest_of_reports {requirement : Requirement} {failure : Failure}
    (first : Requirement.FirstUnmet table declaration written requirement)
    (reports : Requirement.Reports table marker declaration written requirement failure) :
    functionRequest table.host marker declaration (some written) = Attempt.fail failure := by
  obtain ⟨earlier, unmet⟩ := first
  have dispatched (visible : Requirement.visibility ∈ Requirement.order.takeWhile (· ≠ requirement))
      (fits : Requirement.signature ∈ Requirement.order.takeWhile (· ≠ requirement)) :
      dispatchFunction marker declaration = .ok () :=
    dispatchFunction_eq_ok.mpr ⟨earlier _ visible, earlier _ fits⟩
  cases reports with
  | kind =>
      have noFunction : declaration.function? = none := by
        refine Option.eq_none_iff_forall_ne_some.mpr fun given isFunction => unmet ⟨given, ?_⟩
        exact Declaration.function?_eq_some.mp isFunction
      refine functionRequest_of_rejected ?_
      rw [dispatchFunction, noFunction]
  | visibility =>
      obtain ⟨given, isFunction⟩ := earlier .kind (by decide)
      have isPrivate : (!declaration.visible) = true := by simpa [Requirement.Met] using unmet
      refine functionRequest_of_rejected ?_
      rw [dispatchFunction, Declaration.function?_eq_some.mpr isFunction]
      exact if_pos isPrivate
  | @signature given isFunction =>
      have visible : declaration.visible = true := earlier .visibility (by decide)
      have misfit : (!hasDispatchSignature given) = true := by
        rw [Bool.not_eq_true', Bool.eq_false_iff, Ne, hasDispatchSignature_iff]
        exact fun isDispatcher => unmet ⟨given, isFunction, isDispatcher⟩
      refine functionRequest_of_rejected ?_
      rw [dispatchFunction, Declaration.function?_eq_some.mpr isFunction]
      dsimp only
      rw [if_neg (by simp [visible]), if_pos misfit]
  | argument malformed =>
      rw [functionRequest_of_dispatched (dispatched (by decide) (by decide)),
        attributePath_eq_error malformed]
      rfl
  | notInScope isPath meaningless =>
      exact functionRequest_of_lost (dispatched (by decide) (by decide)) isPath
        (markedTarget_eq_error.mpr (.inl ⟨meaningless, rfl⟩))
  | @notDeclared path name isPath means missing =>
      exact functionRequest_of_lost (dispatched (by decide) (by decide)) isPath
        (markedTarget_eq_error.mpr (.inr ⟨name, means, missing, rfl⟩))
  | @interface name target found refers declared =>
      have noTrait : found.trait? = none := by
        refine Option.eq_none_iff_forall_ne_some.mpr fun body isTrait => unmet ?_
        exact ⟨name, target, found, body, refers, declared, Declaration.trait?_eq_some.mp isTrait⟩
      rw [functionRequest_of_refers (dispatched (by decide) (by decide)) refers,
        enumerate_of_noTrait declared noTrait]
      rfl
  | @enumeration name target _ refers fails =>
      rw [functionRequest_of_refers (dispatched (by decide) (by decide)) refers, fails]
      rfl

theorem functionRequest_eq_error {stop : Stop} :
    functionRequest table.host marker declaration (some written) = .error stop ↔
      ∃ requirement failure, Requirement.FirstUnmet table declaration written requirement ∧
        Requirement.Reports table marker declaration written requirement failure ∧
          stop = .failed failure := by
  constructor
  · intro stops
    have wrong : ¬∀ requirement : Requirement, requirement.Met table declaration written := by
      intro met
      obtain ⟨request, succeeds⟩ := functionRequest_succeeds_iff.mpr met
      exact nomatch stops.symm.trans succeeds
    obtain ⟨requirement, first⟩ := Requirement.exists_firstUnmet wrong
    obtain ⟨failure, reports⟩ := first.reported
    have fails := functionRequest_of_reports first reports
    exact ⟨requirement, failure, first, reports, Except.error.inj (stops.symm.trans fails)⟩
  · rintro ⟨requirement, failure, first, reports, rfl⟩
    exact functionRequest_of_reports first reports

/-- A marked declaration becomes a request exactly when it meets all requirements of dispatch
functions. The request is for the interface that its first marker refers to and sends calls to the
function itself. Otherwise the first requirement that is not met decides about the failure. -/
theorem classifyFunction_meets_requirements (table : SymbolTable) (markers : Markers) {id : Nat}
    {declaration : Declaration} {written : Attribute}
    (declared : table.declaration? id = some declaration)
    (marked : declaration.marker? markers.dispatchFunction = some written) :
    ((∃ request, classifyFunction table.host markers id = .ok request) ↔
        ∀ requirement : Requirement, requirement.Met table declaration written) ∧
      (∀ request, classifyFunction table.host markers id = .ok request →
        ∃ name target interface, Refers table declaration.scope written name target ∧
          Enumeration.enumerate table.host target = .ok interface ∧
            request = .new interface (.function declaration.qualifiedName) none) ∧
      ∀ stop, classifyFunction table.host markers id = .error stop ↔
        ∃ requirement failure, Requirement.FirstUnmet table declaration written requirement ∧
          Requirement.Reports table markers.dispatchFunction declaration written requirement
            failure ∧ stop = .failed failure := by
  have isRequest : classifyFunction table.host markers id =
      functionRequest table.host markers.dispatchFunction declaration (some written) := by
    rw [← marked]
    exact classify_of_declared markers .dispatchFunction (congrArg Except.ok declared)
  rw [isRequest]
  exact ⟨functionRequest_succeeds_iff, fun _ succeeds => (functionRequest_eq_ok.mp succeeds).2,
    fun _ => functionRequest_eq_error⟩

/-- A signature of dispatch functions, with a path before one of its names. -/
def connectSignature : FunctionSignature :=
  ⟨"connect", none,
    [⟨some "call", .reference false (.path ["MethodCall"] [])⟩,
      ⟨some "args", .path ["Vec"] [.path ["Box"] [.traitObject ["std", "any", "Any"]]]⟩],
    some (.path ["Box"] [.traitObject ["Any"]]), false, true⟩

/-- A dispatch function whose marker has blanks and a last comma. -/
def connect : Declaration :=
  ⟨"connect", "crate", 0, .function connectSignature,
    [⟨"inline", none⟩, ⟨"proxy_for", some " crate :: Phone , "⟩], none, true⟩

/-- The interface of the trait that the marker refers to. -/
def phone : Interface :=
  ⟨"crate::Phone", ["crate::Phone"], [], [⟨"ring", .shared, [], .unit, "crate::Phone"⟩]⟩

/-- A private function that takes nothing, with two arguments in its marker. -/
def hold : Declaration :=
  ⟨"hold", "crate", 0, .function ⟨"hold", none, [], none, false, true⟩,
    [⟨"proxy_for", some "Phone, Bell"⟩], none, false⟩

/-- A trait and these functions. -/
def switchboard : SymbolTable where
  scopes := [.new "crate" none]
  declarations := [
    ⟨"Phone", "crate", 0,
      .trait ⟨false, [], [.method ⟨"ring", some .shared, [], none, false, false⟩]⟩, [], none, true⟩,
    connect, hold]
  facts := []
  announced := []

theorem switchboard_meets_requirements :
    classifyFunction switchboard.host .standard 1 =
        .ok (.new phone (.function "crate::connect") none) ∧
      classifyFunction switchboard.host .standard 2 =
        .error (.failed (.marker "proxy_for" "crate::hold" .privateFunction)) := by
  have isConnect : switchboard.declaration? 1 = some connect := rfl
  have isHold : switchboard.declaration? 2 = some hold := rfl
  have connectMarked : connect.marker? Markers.standard.dispatchFunction =
      some ⟨"proxy_for", some " crate :: Phone , "⟩ := by decide
  have holdMarked : hold.marker? Markers.standard.dispatchFunction =
      some ⟨"proxy_for", some "Phone, Bell"⟩ := by decide
  constructor
  · obtain ⟨succeeds, gives, _⟩ :=
      classifyFunction_meets_requirements switchboard .standard isConnect connectMarked
    have isDispatcher : IsDispatcher connectSignature :=
      ⟨rfl, rfl, ⟨_, _, rfl, .shared [], .list [] (.boxed [] ["std", "any"])⟩, _, rfl,
        .boxed [] []⟩
    have spells : SpellsPath ["crate", "Phone"]
        ("crate".toList ++ [' '] ++ ':' :: ':' :: ([' '] ++ "Phone".toList)) :=
      .more (by decide) (by decide) (by decide) (.last (by decide))
    have isPath : OnlyPath " crate :: Phone , " ["crate", "Phone"] :=
      ⟨[' '], _, [' ', ',', ' '], rfl, by decide, by decide, spells⟩
    have refers : Refers switchboard 0 ⟨"proxy_for", some " crate :: Phone , "⟩ "crate::Phone" 0 :=
      ⟨⟨_, isPath, rfl⟩, rfl⟩
    have isPhone : Enumeration.enumerate switchboard.host 0 = .ok phone := rfl
    obtain ⟨request, isRequest⟩ := succeeds.mpr fun requirement => by
      cases requirement with
      | kind => exact ⟨_, rfl⟩
      | visibility => rfl
      | signature => exact ⟨_, rfl, isDispatcher⟩
      | argument => exact ⟨_, isPath⟩
      | resolution => exact ⟨_, _, refers⟩
      | interface => exact ⟨_, _, _, _, refers, rfl, rfl⟩
      | enumeration => exact ⟨_, _, _, refers, isPhone⟩
    obtain ⟨name, target, interface, alsoRefers, enumerated, rfl⟩ := gives request isRequest
    obtain ⟨rfl, rfl⟩ := refers.unique alsoRefers
    cases isPhone.symm.trans enumerated
    exact isRequest
  · refine ((classifyFunction_meets_requirements switchboard .standard isHold holdMarked).2.2
      _).mpr ⟨.visibility, _, ⟨?_, nofun⟩, .visibility, rfl⟩
    intro earlier isEarlier
    cases List.mem_singleton.mp isEarlier
    exact ⟨_, rfl⟩

end Requests

end ForwardingProxy.Classification
