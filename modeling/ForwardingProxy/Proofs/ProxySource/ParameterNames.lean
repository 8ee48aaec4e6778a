import ForwardingProxy.Proofs.ProxySource.Overrides
import ForwardingProxy.Proofs.ProxySource.ReadBack
import Mathlib.Data.List.Nodup

/-!
Contract: what the names of a forwarded method's parameters refer to.

Owns: declared names and names by place, identifiers, the references in the body of a forwarding
function, and the conditions under which each boxed argument is its own parameter.

A name by place depends on nothing but the place. So two of them never meet, but a declared name may
be one of them, and nothing keeps a declared name off the name of the call constant.
-/

namespace ForwardingProxy

/-- The identifier that a name stands for: the mark `r#` before it lets a keyword be a name and is
no part of it. -/
def Text.identifier (name : String) : String :=
  (afterStart? "r#" name).getD name

/-! ### Declared names and names by place -/

namespace FunctionSignature

/-- The name of the parameter at a place where no name is declared. -/
def placeName (place : Nat) : String :=
  "arg" ++ toString place

/-- The identifiers that are declared for parameters. -/
def declaredIdentifiersOf (parameters : List ParameterSyntax) : List String :=
  (parameters.filterMap ParameterSyntax.name).map Text.identifier

/-- The names by place of parameters without a declared name, the first one having that place. -/
def placeNamesFrom (start : Nat) (parameters : List ParameterSyntax) : List String :=
  (parameters.zipIdx start).filterMap fun (parameter, place) =>
    if parameter.name.isNone then some (placeName place) else none

/-- A name for every parameter, the first one having that place. -/
def parameterNamesFrom (start : Nat) (parameters : List ParameterSyntax) : List String :=
  (parameters.zipIdx start).map fun (parameter, place) => parameter.name.getD (placeName place)

/-- The identifiers that a method declares for its parameters. -/
def declaredIdentifiers (signature : FunctionSignature) : List String :=
  declaredIdentifiersOf signature.parameters

/-- The names by place of the method's parameters that have no declared name. -/
def placeNames (signature : FunctionSignature) : List String :=
  placeNamesFrom 0 signature.parameters

/-- The declared name of each parameter, or else its name by place. -/
def parameterNames (signature : FunctionSignature) : List String :=
  parameterNamesFrom 0 signature.parameters

theorem toList_placeName (place : Nat) :
    (placeName place).toList = 'a' :: 'r' :: 'g' :: Nat.toDigits 10 place := by
  have isText : placeName place = "arg" ++ Nat.repr place := rfl
  rw [isText, String.toList_append, Nat.toList_repr]
  rfl

/-- The digits of a number give it back. -/
theorem placeName_injective : Function.Injective placeName := by
  intro first second same
  have sameText := congrArg String.toList same
  simp only [toList_placeName, List.cons.injEq, true_and] at sameText
  rw [← Nat.ofDigitChars_ten_toDigits (n := first), sameText, Nat.ofDigitChars_ten_toDigits]

theorem identifier_placeName (place : Nat) :
    Text.identifier (placeName place) = placeName place := by
  have notRaw : Text.afterStart? "r#" (placeName place) = none := by
    rw [Text.afterStart?, toList_placeName]
    rfl
  rw [Text.identifier, notRaw]
  rfl

theorem placeName_ne_call (place : Nat) : placeName place ≠ "CALL" := by
  intro same
  have sameHead := congrArg (fun text => text.toList.head?) same
  simp only [toList_placeName, List.head?_cons] at sameHead
  exact absurd sameHead (by decide)

theorem isWord_placeName (place : Nat) : Registry.IsWord (placeName place) where
  notEmpty := by
    intro isEmpty
    have sameHead := congrArg (fun text => text.toList.head?) isEmpty
    simp only [toList_placeName, List.head?_cons] at sameHead
    exact absurd sameHead (by decide)
  characters := by
    rw [toList_placeName]
    simp only [List.forall_mem_cons]
    refine ⟨by decide, by decide, by decide, fun character member => ?_⟩
    have isDigit : character.isDigit = true :=
      Nat.isDigit_of_mem_toDigits (by decide) (by decide) member
    exact Registry.isWordCharacter_of_test (by decide) isDigit

/-- Names by place differ because places do. -/
theorem nodup_placeNamesFrom (start : Nat) (parameters : List ParameterSyntax) :
    (placeNamesFrom start parameters).Nodup := by
  have places : (parameters.zipIdx start).Pairwise fun one other => one.2 ≠ other.2 := by
    rw [← List.pairwise_map (R := (· ≠ ·)), List.zipIdx_map_snd]
    exact List.nodup_range'
  unfold placeNamesFrom
  rw [List.Nodup, List.pairwise_filterMap]
  refine places.imp fun differ first isFirst second isSecond same => differ ?_
  rw [Option.ite_none_right_eq_some, Option.some_inj] at isFirst isSecond
  obtain ⟨_, rfl⟩ := isFirst
  obtain ⟨_, rfl⟩ := isSecond
  exact placeName_injective same

/-- Up to their order, the identifiers of all names are the declared ones and the names by place. -/
theorem identifiers_perm (start : Nat) (parameters : List ParameterSyntax) :
    ((parameterNamesFrom start parameters).map Text.identifier).Perm
      (declaredIdentifiersOf parameters ++ placeNamesFrom start parameters) := by
  induction parameters generalizing start with
  | nil => exact .refl _
  | cons parameter rest inductionHypothesis =>
      have others := inductionHypothesis (start + 1)
      unfold parameterNamesFrom declaredIdentifiersOf placeNamesFrom at others ⊢
      cases named : parameter.name with
      | some name => simpa [List.zipIdx_cons, named] using others
      | none =>
          -- the name by place stands in front, and behind all declared ones on the other side
          simp only [List.zipIdx_cons, List.map_cons, named, Option.getD_none, List.filterMap_cons,
            identifier_placeName, Option.isNone_none, if_true]
          exact (others.cons _).trans List.perm_middle.symm

theorem call_notMem_placeNamesFrom (start : Nat) (parameters : List ParameterSyntax) :
    "CALL" ∉ placeNamesFrom start parameters := by
  intro isPlace
  obtain ⟨⟨parameter, place⟩, _, isName⟩ := List.mem_filterMap.mp isPlace
  obtain ⟨_, same⟩ := Option.ite_none_right_eq_some.mp isName
  exact placeName_ne_call place (Option.some.inj same)

theorem isWord_of_mem_parameterNamesFrom (start : Nat) {parameters : List ParameterSyntax}
    (areWords : ∀ declared ∈ parameters.filterMap ParameterSyntax.name, Registry.IsWord declared)
    {name : String} (isName : name ∈ parameterNamesFrom start parameters) :
    Registry.IsWord name := by
  obtain ⟨⟨parameter, place⟩, isParameter, rfl⟩ := List.mem_map.mp isName
  show Registry.IsWord (parameter.name.getD (placeName place))
  cases declares : parameter.name with
  | none => exact isWord_placeName place
  | some declared =>
      exact areWords declared
        (List.mem_filterMap.mpr ⟨parameter, List.fst_mem_of_mem_zipIdx isParameter, declares⟩)

end FunctionSignature

/-! ### References in a body -/

/-- What a name in the body of a forwarding function may refer to. -/
inductive Referent where
  | callConstant
  | parameter (place : Nat)
deriving DecidableEq, Repr

namespace ForwardedMember

variable {member : ForwardedMember}

/-- The identifiers of the parameters in the member's header. -/
def identifiers (member : ForwardedMember) : List String :=
  member.parameters.map fun parameter => Text.identifier parameter.name

/-- What the name of a parameter refers to in the body. The call constant is declared there and
hides a parameter of its name; an identifier that several parameters share refers to none of them,
since no function may declare it twice. -/
def referent? (member : ForwardedMember) (name : String) : Option Referent :=
  if Text.identifier name = "CALL" then some .callConstant
  else if member.identifiers.count (Text.identifier name) = 1 then
    some (.parameter (member.identifiers.idxOf (Text.identifier name)))
  else none

/-- Each boxed argument is the parameter that stands in its place. -/
def PassesOwnParameters (member : ForwardedMember) : Prop :=
  ∀ place parameter, member.parameters[place]? = some parameter →
    member.referent? parameter.name = some (.parameter place)

/-- The parameter behind an identifier, together with its place. -/
private theorem parameter_of_mem_identifiers {identifier : String}
    (isIdentifier : identifier ∈ member.identifiers) :
    ∃ (place : Nat) (parameter : Parameter), member.parameters[place]? = some parameter ∧
      Text.identifier parameter.name = identifier := by
  obtain ⟨parameter, isParameter, same⟩ := List.mem_map.mp isIdentifier
  obtain ⟨place, atPlace⟩ := List.mem_iff_getElem?.mp isParameter
  exact ⟨place, parameter, atPlace, same⟩

theorem passesOwnParameters_iff :
    member.PassesOwnParameters ↔ member.identifiers.Nodup ∧ "CALL" ∉ member.identifiers := by
  constructor
  · -- a reference to a parameter is neither to the constant nor through a shared identifier
    intro passes
    constructor
    · refine List.nodup_iff_count_eq_one.mpr fun identifier isIdentifier => ?_
      obtain ⟨place, parameter, atPlace, rfl⟩ := parameter_of_mem_identifiers isIdentifier
      have refers := passes place parameter atPlace
      unfold referent? at refers
      split at refers
      · cases refers
      · split at refers
        · assumption
        · cases refers
    · intro isConstant
      obtain ⟨place, parameter, atPlace, same⟩ := parameter_of_mem_identifiers isConstant
      have refers := passes place parameter atPlace
      rw [referent?, if_pos same] at refers
      cases refers
  · rintro ⟨distinct, noConstant⟩ place parameter atPlace
    have atSamePlace : member.identifiers[place]? = some (Text.identifier parameter.name) := by
      rw [identifiers, List.getElem?_map, atPlace]
      rfl
    obtain ⟨inside, same⟩ := List.getElem?_eq_some_iff.mp atSamePlace
    have isIdentifier := List.mem_of_getElem? atSamePlace
    have notConstant : Text.identifier parameter.name ≠ "CALL" :=
      fun isConstant => noConstant (isConstant ▸ isIdentifier)
    rw [referent?, if_neg notConstant, if_pos (List.count_eq_one_of_mem distinct isIdentifier),
      ← same, distinct.idxOf_getElem]

/-- The accessors of a property pass on what they take. -/
theorem passesOwnParameters_ofProperty (property : Property) {accessor : ForwardedMember}
    (isAccessor : accessor ∈ ofProperty property) : accessor.PassesOwnParameters := by
  rw [passesOwnParameters_iff]
  have getter : (ofGetter property).identifiers = [] := rfl
  have setter : (ofSetter property).identifiers = [Text.identifier "value"] := rfl
  unfold ofProperty at isAccessor
  split at isAccessor
  · rcases List.mem_pair.mp isAccessor with rfl | rfl
    · rw [getter]
      decide
    · rw [setter]
      decide
  · obtain rfl := List.mem_singleton.mp isAccessor
    rw [getter]
    decide

end ForwardedMember

/-! ### Parameters of enumerated methods -/

namespace Enumeration

variable {host : Host} {owner : Declaration}

theorem parametersFrom_names {start : Nat} {declared : List ParameterSyntax}
    {parameters : List Parameter}
    (resolved : parametersFrom host owner start declared = .ok parameters) :
    parameters.map Parameter.name = FunctionSignature.parameterNamesFrom start declared := by
  induction declared generalizing start parameters with
  | nil =>
      rw [parametersFrom, pure_eq_ok] at resolved
      rw [resolved]
      rfl
  | cons written rest inductionHypothesis =>
      simp only [parametersFrom, bind_eq_ok, pure_eq_ok] at resolved
      obtain ⟨type, _, others, areOthers, rfl⟩ := resolved
      rw [List.map_cons, inductionHypothesis areOthers]
      rfl

/-- The parameters of the method have the declared names and names by place. Each is passed on as
itself exactly when no identifier is declared twice, none is the name by place of another parameter,
and none is the name of the call constant. -/
structure NamesParameters (signature : FunctionSignature) (method : Method) : Prop where
  name : method.name = signature.name
  parameters : method.parameters.map Parameter.name = signature.parameterNames
  boxed : (∀ declared ∈ signature.parameters.filterMap ParameterSyntax.name,
      Registry.IsWord declared) →
    Text.wholeLine? readArguments (ForwardedMember.ofMethod method).boxedArguments.toList =
      some signature.parameterNames
  distinct : (ForwardedMember.ofMethod method).identifiers.Nodup ↔
    signature.declaredIdentifiers.Nodup ∧
      signature.declaredIdentifiers.Disjoint signature.placeNames
  constant : "CALL" ∈ (ForwardedMember.ofMethod method).identifiers ↔
    "CALL" ∈ signature.declaredIdentifiers
  own : (ForwardedMember.ofMethod method).PassesOwnParameters ↔
    signature.declaredIdentifiers.Nodup ∧
      signature.declaredIdentifiers.Disjoint signature.placeNames ∧
      "CALL" ∉ signature.declaredIdentifiers

theorem ForMethod.namesParameters {signature : FunctionSignature} {method : Method}
    (forMethod : ForMethod host owner signature method) : NamesParameters signature method := by
  have names : method.parameters.map Parameter.name = signature.parameterNames :=
    parametersFrom_names forMethod.parameters
  have same : (ForwardedMember.ofMethod method).identifiers =
      signature.parameterNames.map Text.identifier := by
    rw [← names, List.map_map]
    rfl
  have identifiers : (ForwardedMember.ofMethod method).identifiers.Perm
      (signature.declaredIdentifiers ++ signature.placeNames) := by
    rw [same]
    exact FunctionSignature.identifiers_perm 0 signature.parameters
  have distinct : (ForwardedMember.ofMethod method).identifiers.Nodup ↔
      signature.declaredIdentifiers.Nodup ∧
        signature.declaredIdentifiers.Disjoint signature.placeNames := by
    have placesDistinct : signature.placeNames.Nodup :=
      FunctionSignature.nodup_placeNamesFrom 0 signature.parameters
    rw [identifiers.nodup_iff, List.nodup_append', and_iff_right placesDistinct]
  have noPlace : "CALL" ∉ signature.placeNames :=
    FunctionSignature.call_notMem_placeNamesFrom 0 signature.parameters
  have constant : "CALL" ∈ (ForwardedMember.ofMethod method).identifiers ↔
      "CALL" ∈ signature.declaredIdentifiers := by
    rw [identifiers.mem_iff, List.mem_append, or_iff_left noPlace]
  exact {
    name := forMethod.overridden.name
    parameters := names
    boxed := by
      intro areWords
      rw [← names]
      refine ForwardedMember.boxedArguments_read_back fun parameter isParameter => ?_
      refine FunctionSignature.isWord_of_mem_parameterNamesFrom 0 areWords ?_
      show parameter.name ∈ signature.parameterNames
      rw [← names]
      exact List.mem_map_of_mem isParameter
    distinct := distinct
    constant := constant
    own := by rw [ForwardedMember.passesOwnParameters_iff, distinct, constant, and_assoc] }

/-- The methods of the interface name their parameters, trait by trait and in the order of
declaration, and the accessors of its properties pass on what they take. -/
structure NamesAllParameters (host : Host) (interface : Interface) : Prop where
  methods : ∃ groups : List (List Method),
    List.Forall₂
      (fun trait group => ∃ reached owner body,
        host.declaration? reached = .ok (some owner) ∧ owner.qualifiedName = trait ∧
          owner.trait? = some body ∧
          List.Forall₂ NamesParameters (body.methods.filter (standsAlone body.methods)) group)
      interface.traits groups ∧
    interface.methods = groups.flatten
  accessors : ∀ property ∈ interface.properties,
    ∀ accessor ∈ ForwardedMember.ofProperty property, accessor.PassesOwnParameters

/-- Parameters of an enumerated trait keep their declared names and are otherwise named by place.
So a method whose declared names are distinct may still have two parameters of one name, and the
call constant may hide one; all other methods and all accessors pass on what they take. -/
theorem enumerate_names_parameters {host : Host} {id : Nat} {interface : Interface}
    (enumerated : enumerate host id = .ok interface) : NamesAllParameters host interface := by
  obtain ⟨parts, areParts, walk⟩ := enumerate_walk enumerated
  have traits : interface.traits = parts.map Part.name := by
    rw [areParts]
    rfl
  have methods : interface.methods =
      (parts.map fun part => part.members.filterMap Member.method?).flatten := by
    rw [areParts, List.flatten_eq_flatMap, List.flatMap_map]
    rfl
  refine ⟨⟨_, ?_, methods⟩, fun property _ accessor =>
    ForwardedMember.passesOwnParameters_ofProperty property⟩
  rw [traits, List.forall₂_map_left_iff, List.forall₂_map_right_iff, List.forall₂_same]
  intro part isPart
  have belongs := walk.belongs part isPart
  have isTrait := (includedTrait_eq_ok.mp belongs.included).1
  exact ⟨part.id, part.owner, part.body, belongs.declared, rfl, isTrait,
    (ownMembers_forMethods belongs.members).imp fun _ _ => ForMethod.namesParameters⟩

/-- A method that mixes names with patterns, one that declares a name by place, and one that
declares the name of the call constant. -/
def mixerTable : SymbolTable where
  scopes := [.new "crate" none]
  declarations := [
    ⟨"Mixer", "crate", 0,
      .trait ⟨false, [], [
        .method ⟨"mix", some .shared,
          [⟨some "level", .path ["u8"] []⟩, ⟨none, .path ["u8"] []⟩,
            ⟨some "r#type", .path ["u8"] []⟩], none, false, false⟩,
        .method ⟨"dim", some .shared,
          [⟨some "arg1", .path ["u8"] []⟩, ⟨none, .path ["u8"] []⟩], none, false, false⟩,
        .method ⟨"ring", some .shared, [⟨some "CALL", .path ["u8"] []⟩], none, false, false⟩]⟩,
      [], none, true⟩]
  facts := []
  announced := []

/-- The interface of the trait with the three methods. -/
def mixerInterface : Interface where
  name := "crate::Mixer"
  traits := ["crate::Mixer"]
  properties := []
  methods := [
    ⟨"mix", .shared, [⟨"level", .named "u8"⟩, ⟨"arg1", .named "u8"⟩, ⟨"r#type", .named "u8"⟩],
      .unit, "crate::Mixer"⟩,
    ⟨"dim", .shared, [⟨"arg1", .named "u8"⟩, ⟨"arg1", .named "u8"⟩], .unit, "crate::Mixer"⟩,
    ⟨"ring", .shared, [⟨"CALL", .named "u8"⟩], .unit, "crate::Mixer"⟩]

/-- The first method passes on what it takes. The header of the second one declares a name twice,
and the third one boxes its own call constant. -/
theorem mixerInterface_names_parameters :
    enumerate mixerTable.host 0 = .ok mixerInterface ∧
      NamesAllParameters mixerTable.host mixerInterface ∧
      (mixerInterface.methods.map ForwardedMember.ofMethod).map
          (fun member => member.parameters.map fun parameter => member.referent? parameter.name) =
        [[some (.parameter 0), some (.parameter 1), some (.parameter 2)],
          [none, none], [some .callConstant]] := by
  have enumerated : enumerate mixerTable.host 0 = .ok mixerInterface := rfl
  exact ⟨enumerated, enumerate_names_parameters enumerated, by decide⟩

end Enumeration

end ForwardingProxy
