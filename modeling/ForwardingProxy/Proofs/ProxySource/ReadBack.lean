import ForwardingProxy.Dispatch.Call
import ForwardingProxy.Proofs.ProxySource.Text
import ForwardingProxy.Proofs.Registry.Words

/-!
Contract: the functions of a proxy read back from its source text.

Owns: readers of a call constant and of boxed arguments, and the fact that constant, arguments and
cast of every function agree with its header.

Does not own: the types that a header shows; their names may hold any character, so that a header
is compared as a text and not read.
-/

namespace ForwardingProxy

open Text

/-! ### Readers -/

/-- A call constant: the path of its type, the path it is built through, and the call. -/
structure CallLine where
  type : String
  constructor : String
  call : Dispatch.Call
deriving DecidableEq, Repr

def readCallLine : LineReader CallLine := do
  expect "const CALL: "
  let type ← readWhile Registry.isPathCharacter
  expect " = "
  let constructor ← readWhile Registry.isPathCharacter
  expect "("
  let name ← readQuoted
  expect ", &["
  let tags ← readList ", " readQuoted
  expect "], "
  let result ← readQuoted
  expect ");"
  pure ⟨type, constructor, name, tags, result⟩

def readBox : LineReader String :=
  readBetween Registry.isWordCharacter "Box::new(" ") as Box<dyn std::any::Any>"

def readArguments : LineReader (List String) := fun characters =>
  match expect "Vec::new()" characters with
  | some (_, rest) => some ([], rest)
  | none =>
      (do
        expect "vec!["
        let names ← readList ", " readBox
        expect "]"
        pure names : LineReader (List String)) characters

theorem readBox_append {name : String} (isWord : Registry.IsWord name) (rest : List Char) :
    readBox (("Box::new(" ++ name ++ ") as Box<dyn std::any::Any>").toList ++ rest) =
      some (name, rest) := by
  have isText : ("Box::new(" ++ name ++ ") as Box<dyn std::any::Any>").toList ++ rest =
      "Box::new(".toList ++ (name.toList ++ (") as Box<dyn std::any::Any>".toList ++ rest)) := by
    simp only [String.toList_append, List.append_assoc]
  rw [isText, readBox, readBetween, read_bind (expect_append _ _),
    read_bind (isWord.read (by decide) _), read_bind (expect_append _ _)]
  rfl

namespace ForwardedMember

variable {runtimePath : String} {member : ForwardedMember}

theorem callConstant_reads_back (isPath : Config.isCodePath runtimePath = true) :
    wholeLine? readCallLine (member.callConstant runtimePath).toList =
      some ⟨runtimePath ++ "::MethodCall", runtimePath ++ "::MethodCall::new",
        .ofForwarded member.call⟩ := by
  obtain ⟨notEmpty, inPath⟩ := Registry.pathCharacters_of_isCodePath isPath
  have extended : ∀ ending : String, ending.toList.all Registry.isPathCharacter = true →
      runtimePath ++ ending ≠ "" ∧
        ∀ character ∈ (runtimePath ++ ending).toList, Registry.isPathCharacter character = true := by
    intro ending inEnding
    refine ⟨fun isEmpty => notEmpty (String.append_eq_empty_iff.mp isEmpty).1, ?_⟩
    rw [String.toList_append]
    exact List.forall_mem_append.mpr ⟨inPath, List.all_eq_true.mp inEnding⟩
  obtain ⟨someType, inType⟩ := extended "::MethodCall" (by decide)
  obtain ⟨someConstructor, inConstructor⟩ := extended "::MethodCall::new" (by decide)
  -- the path is read together with what the line puts behind it
  have isLine : (member.callConstant runtimePath).toList =
      "const CALL: ".toList ++ ((runtimePath ++ "::MethodCall").toList ++ (" = ".toList ++
        ((runtimePath ++ "::MethodCall::new").toList ++ ("(".toList ++
          ((quoted member.call.name).toList ++ (", &[".toList ++
            ((", ".intercalate (member.call.argumentTypes.map fun type =>
                quoted type.tag)).toList ++ ("], ".toList ++
              ((quoted member.call.resultType.tag).toList ++ (");".toList ++ [])))))))))) := by
    have typeEnds : "::MethodCall = ".toList = "::MethodCall".toList ++ " = ".toList := rfl
    have constructorEnds : "::MethodCall::new(".toList =
      "::MethodCall::new".toList ++ "(".toList := rfl
    unfold callConstant
    simp only [String.toList_append, typeEnds, constructorEnds, List.append_assoc,
      List.append_nil]
  have readsEach : ∀ type ∈ member.call.argumentTypes, ∀ more : List Char,
      readQuoted ((quoted type.tag).toList ++ more) = some (type.tag, more) :=
    fun type _ => readQuoted_append type.tag
  have noTag : ∀ more, readQuoted ("], ".toList ++ more) = none := fun _ => rfl
  have noSeparator : ∀ more, expect ", " ("], ".toList ++ more) = none := fun _ => rfl
  apply wholeLine?_of_read
  rw [isLine, readCallLine, read_bind (expect_append _ _),
    read_bind (readWhile_append someType inType (by decide) _), read_bind (expect_append _ _),
    read_bind (readWhile_append someConstructor inConstructor (by decide) _),
    read_bind (expect_append _ _), read_bind (readQuoted_append _ _),
    read_bind (expect_append _ _),
    read_bind (readList_append readsEach (noTag _) (noSeparator _)),
    read_bind (expect_append _ _), read_bind (readQuoted_append _ _),
    read_bind (expect_append _ _)]
  rfl

theorem boxedArguments_read_back
    (areWords : ∀ parameter ∈ member.parameters, Registry.IsWord parameter.name) :
    wholeLine? readArguments member.boxedArguments.toList =
      some (member.parameters.map Parameter.name) := by
  apply wholeLine?_of_read
  cases areParameters : member.parameters with
  | nil =>
      rw [boxedArguments, areParameters]
      rfl
  | cons first others =>
      have isText : member.boxedArguments.toList =
          "vec![".toList ++ ((", ".intercalate (member.parameters.map fun parameter =>
            "Box::new(" ++ parameter.name ++ ") as Box<dyn std::any::Any>")).toList ++
              ("]".toList ++ [])) := by
        simp only [boxedArguments, areParameters, List.isEmpty_cons, Bool.false_eq_true, if_false,
          String.toList_append, List.append_assoc, List.append_nil]
      have readsEach : ∀ parameter ∈ member.parameters, ∀ more : List Char,
          readBox (("Box::new(" ++ parameter.name ++ ") as Box<dyn std::any::Any>").toList ++ more) =
            some (parameter.name, more) :=
        fun parameter isParameter => readBox_append (areWords parameter isParameter)
      have noBox : ∀ more, readBox ("]".toList ++ more) = none := fun _ => rfl
      have noSeparator : ∀ more, expect ", " ("]".toList ++ more) = none := fun _ => rfl
      have notNone : expect "Vec::new()" member.boxedArguments.toList = none := by
        rw [isText]
        rfl
      rw [readArguments, notNone, isText]
      show (expect "vec![" >>= fun _ => _) _ = _
      rw [read_bind (expect_append _ _), read_bind (readList_append readsEach (noBox _) (noSeparator _)),
        read_bind (expect_append _ _), areParameters]
      rfl

theorem boxedArguments_eq_new :
    member.boxedArguments = "Vec::new()" ↔ member.parameters = [] := by
  unfold boxedArguments
  cases member.parameters with
  | nil => simp
  | cons first others =>
      refine iff_of_false (fun same => ?_) nofun
      have sameHead := congrArg (fun text => text.toList.head?) same
      simp [String.toList_append] at sameHead

end ForwardedMember

/-! ### Calls and headers -/

/-- Parameters are named by words, and a unit result has no arguments. -/
structure Interface.Writable (interface : Interface) : Prop where
  parameters : ∀ method ∈ interface.methods, ∀ parameter ∈ method.parameters,
    Registry.IsWord parameter.name
  units : ∀ method ∈ interface.methods, method.returnType.isUnit = true →
    method.returnType.arguments = []

/-- The type that a header promises; unit when it shows none. -/
def ForwardedMember.result (member : ForwardedMember) : ResolvedType :=
  member.declaredReturn.getD .unit

/-- The call of a member has the types of its header. -/
structure ForwardedMember.Aligned (member : ForwardedMember) : Prop where
  arguments : member.call.argumentTypes = member.parameters.map Parameter.type
  result : member.call.resultType = member.result
  words : ∀ parameter ∈ member.parameters, Registry.IsWord parameter.name

theorem ResolvedType.eq_unit_of_isUnit {type : ResolvedType} (isUnit : type.isUnit = true)
    (noArguments : type.arguments = []) : type = .unit := by
  obtain ⟨name, arguments, optional⟩ := type
  obtain ⟨rfl, rfl⟩ : name = "()" ∧ optional = false := by
    simpa [ResolvedType.isUnit, ResolvedType.name, ResolvedType.optional] using isUnit
  obtain rfl : arguments = [] := noArguments
  rfl

theorem ForwardedMember.aligned_ofMethod {method : Method}
    (words : ∀ parameter ∈ method.parameters, Registry.IsWord parameter.name)
    (units : method.returnType.isUnit = true → method.returnType.arguments = []) :
    (ofMethod method).Aligned := by
  refine ⟨rfl, ?_, words⟩
  show method.returnType =
    (if method.returnType.isUnit then none else some method.returnType).getD .unit
  by_cases isUnit : method.returnType.isUnit = true
  · rw [if_pos isUnit, ResolvedType.eq_unit_of_isUnit isUnit (units isUnit)]
    rfl
  · rw [if_neg isUnit]
    rfl

theorem Interface.Writable.aligned {interface : Interface} (writable : interface.Writable)
    {member : ForwardedMember} (isForwarded : member ∈ interface.forwardedMembers) :
    member.Aligned := by
  rcases List.mem_append.mp isForwarded with isAccessor | isMapped
  · obtain ⟨property, _, ofProperty⟩ := List.mem_flatMap.mp isAccessor
    have getter : (ForwardedMember.ofGetter property).Aligned := ⟨rfl, rfl, nofun⟩
    have setter : (ForwardedMember.ofSetter property).Aligned := by
      refine ⟨rfl, rfl, fun parameter isParameter => ?_⟩
      obtain rfl := List.mem_singleton.mp isParameter
      have isWord : Registry.IsWord "value" := by decide
      exact isWord
    unfold ForwardedMember.ofProperty at ofProperty
    split at ofProperty
    · rcases List.mem_pair.mp ofProperty with rfl | rfl
      · exact getter
      · exact setter
    · obtain rfl := List.mem_singleton.mp ofProperty
      exact getter
  · obtain ⟨method, isMethod, rfl⟩ := List.mem_map.mp isMapped
    exact ForwardedMember.aligned_ofMethod (writable.parameters method isMethod)
      (writable.units method isMethod)

/-! ### Functions in a source text -/

/-- The first text is a connected part of the second one. -/
def Text.IsPart (part whole : String) : Prop :=
  ∃ before after, whole = before ++ part ++ after

theorem Text.IsPart.surround {part whole : String} (isPart : IsPart part whole)
    (before after : String) : IsPart part (before ++ whole ++ after) := by
  obtain ⟨first, last, rfl⟩ := isPart
  exact ⟨before ++ first, last ++ after, by simp only [String.append_assoc]⟩

theorem Text.isPart_join {texts : List String} {part text : String} (isPart : IsPart part text)
    (isText : text ∈ texts) : IsPart part (String.join texts) := by
  obtain ⟨left, right, rfl⟩ := List.append_of_mem isText
  rw [String.join_append, String.join_cons, ← String.append_assoc]
  exact isPart.surround _ _

theorem Text.isPart_intercalate (separator : String) {texts : List String} {text : String}
    (isText : text ∈ texts) : IsPart text (separator.intercalate texts) := by
  induction texts with
  | nil => cases isText
  | cons first others inductionHypothesis =>
      cases others with
      | nil =>
          obtain rfl := List.mem_singleton.mp isText
          exact ⟨"", "", by simp⟩
      | cons second others =>
          rw [String.intercalate_cons_cons]
          rcases List.mem_cons.mp isText with rfl | later
          · exact ⟨"", _, by rw [String.empty_append, String.append_assoc]⟩
          · simpa using (inductionHypothesis later).surround (first ++ separator) ""

/-- Every member of a listed trait has its function in the source text. -/
theorem ProxyRequest.isPart_functionText (runtimePath : String) {request : ProxyRequest}
    {member : ForwardedMember} (isForwarded : member ∈ request.interface.forwardedMembers)
    (isOwned : member.owner ∈ request.interface.traits) :
    IsPart (member.functionText runtimePath request.target) (request.sourceText runtimePath) := by
  let traitBlock : TraitBlock := ⟨member.owner,
    request.interface.forwardedMembers.filter fun other => other.owner == member.owner⟩
  have isBlock : traitBlock ∈ request.interface.traitBlocks := List.mem_map.mpr ⟨_, isOwned, rfl⟩
  have isMember : member ∈ traitBlock.members := List.mem_filter.mpr ⟨isForwarded, by simp⟩
  have someMember : traitBlock.members.isEmpty = false :=
    List.isEmpty_eq_false_iff.mpr (List.ne_nil_of_mem isMember)
  have inFunctions : IsPart (member.functionText runtimePath request.target) ("\n".intercalate
      (traitBlock.members.map (ForwardedMember.functionText runtimePath request.target))) :=
    isPart_intercalate "\n" (List.mem_map_of_mem isMember)
  have inBlock : IsPart (member.functionText runtimePath request.target)
      (traitBlock.implText runtimePath request.proxy request.target) := by
    unfold TraitBlock.implText
    rw [someMember]
    exact inFunctions.surround _ _
  have inBlocks : IsPart (member.functionText runtimePath request.target)
      (String.join (request.interface.traitBlocks.map fun traitBlock =>
        "\n" ++ traitBlock.implText runtimePath request.proxy request.target)) := by
    refine isPart_join ?_ (List.mem_map.mpr ⟨traitBlock, isBlock, rfl⟩)
    simpa using inBlock.surround "\n" ""
  rw [request.sourceText_eq]
  simpa using inBlocks.surround request.openingText ""

theorem ForwardedMember.isOneLine_callConstant {runtimePath : String} {member : ForwardedMember}
    (isPath : Config.isCodePath runtimePath = true) :
    IsOneLine (member.callConstant runtimePath) := by
  have oneLinePath := Registry.isOneLine_of_isCodePath isPath
  have oneLineTags : IsOneLine (", ".intercalate
      (member.call.argumentTypes.map fun type => quoted type.tag)) := by
    refine isOneLine_intercalate (by decide) fun text isText => ?_
    obtain ⟨type, _, rfl⟩ := List.mem_map.mp isText
    exact isOneLine_quoted type.tag
  unfold callConstant
  simp only [isOneLine_append, oneLinePath, oneLineTags, isOneLine_quoted, and_true]
  decide

/-- The source text has the function of the member: its header, a line that declares the call, and
the cast of what the target makes of the call and the boxed arguments. The line reads as the call
with the tags of the header's parameters and of its result, the arguments as the names of these
parameters. The cast is to the type that the header shows, or to unit. -/
structure ProxyRequest.ReadsBack
    (runtimePath : String)
    (request : ProxyRequest)
    (member : ForwardedMember)
    (callLine arguments : String) : Prop where
  text : IsPart
    ("    " ++ member.signature ++ " \x7b\n"
      ++ ("        " ++ callLine ++ "\n")
      ++ ("        " ++ (runtimePath ++ "::cast::<"
        ++ member.declaredReturn.elim "()" ResolvedType.render ++ ">(&CALL, "
        ++ request.target.callExpression runtimePath arguments ++ ")") ++ "\n")
      ++ "    \x7d\n")
    (request.sourceText runtimePath)
  oneLine : IsOneLine callLine
  call : wholeLine? readCallLine callLine.toList =
    some ⟨runtimePath ++ "::MethodCall", runtimePath ++ "::MethodCall::new",
      member.call.name, member.parameters.map fun parameter => parameter.type.tag,
      member.call.resultType.tag⟩
  result : member.call.resultType = member.result
  boxed : wholeLine? readArguments arguments.toList =
    some (member.parameters.map Parameter.name)
  noneBoxed : arguments = "Vec::new()" ↔ member.parameters = []

/-- A property and a method whose names and types are not made of letters alone. -/
def oddRequest : ProxyRequest :=
  .new
    ⟨"crate::Sign", ["crate::Sign"],
      [⟨"größe\"\\", .mk "crate::Tag\t\"\x00\u0301\"" [.named "u8"] true, true, "crate::Sign"⟩],
      [⟨"put\ndown", .exclusive,
        [⟨"first", .named "a\\b, \"c\""⟩, ⟨"r#type", .mk "std::vec::Vec" [.named "i32"] false⟩],
        .unit, "crate::Sign"⟩]⟩
    (.handler "&crate::Echo") none

end ForwardingProxy
