import ForwardingProxy.Proofs.Resolution.Offenders
import ForwardingProxy.Proofs.Resolution.Rendering
import ForwardingProxy.Proofs.Text.LineReader
import ForwardingProxy.Text.Identifier

/-!
Contract: resolved types that are told apart by their texts.

Owns: the names that hold no mark of a type's text; the texts of types under such names, which end
where the type ends; `ResolvedType.Normal`, the types that resolution gives; and the fact that two
types of that kind are equal when their texts are.

A flag and a name may stand for the same `Option`, so that texts alone do not tell types apart.
Resolution uses the name only where the flag is taken. Of two types with one text, a difference at
the top would then come back inside, in smaller types, and go on without end.
-/

namespace ForwardingProxy

/-! ### Names -/

/-- A character that begins, ends or separates the arguments of a type. -/
def isTypeMark (character : Char) : Bool :=
  character == '<' || character == '>' || character == ','

/-- A name without marks of a type's text, as identifiers with `::` between them are. -/
def IsTypeName (name : String) : Prop :=
  ∀ character ∈ name.toList, isTypeMark character = false

instance (name : String) : Decidable (IsTypeName name) :=
  decidable_of_iff (name.toList.all (fun character => !isTypeMark character) = true)
    (by simp [IsTypeName])

/-- A name is cut off a text at the first mark. -/
theorem IsTypeName.append_inj {first second : String} {rest others : List Char}
    (isFirst : IsTypeName first) (isSecond : IsTypeName second)
    (stops : rest.head?.all isTypeMark = true) (othersStop : others.head?.all isTypeMark = true)
    (same : first.toList ++ rest = second.toList ++ others) : first = second ∧ rest = others := by
  have cut : ∀ {name : String} {rest : List Char}, IsTypeName name →
      rest.head?.all isTypeMark = true →
      (name.toList ++ rest).takeWhile (fun character => !isTypeMark character) = name.toList := by
    intro name rest isName stops
    rw [List.takeWhile_append_of_pos fun character member => by rw [isName character member]; rfl]
    cases rest with
    | nil => simp
    | cons next tail =>
        have isMark : isTypeMark next = true := by simpa using stops
        rw [List.takeWhile_cons_of_neg (by rw [isMark]; decide), List.append_nil]
  have sameName : first.toList = second.toList := by
    rw [← cut isFirst stops, same, cut isSecond othersStop]
  refine ⟨String.toList_injective sameName, ?_⟩
  rw [sameName] at same
  exact List.append_cancel_left same

theorem IsTypeName.append {first second : String} (isFirst : IsTypeName first)
    (isSecond : IsTypeName second) : IsTypeName (first ++ second) := by
  intro character member
  rw [String.toList_append, List.mem_append] at member
  exact member.elim (isFirst character) (isSecond character)

theorem IsTypeName.join {segments : List String} (each : ∀ segment ∈ segments, IsTypeName segment) :
    IsTypeName (Name.join segments) := by
  induction segments with
  | nil => exact nofun
  | cons segment rest inductionHypothesis =>
      have ofRest := inductionHypothesis fun later member => each later (.tail _ member)
      cases rest with
      | nil => simpa [Name.join] using each segment List.mem_cons_self
      | cons next rest =>
          rw [Name.join, String.intercalate_cons_cons]
          exact ((each segment List.mem_cons_self).append (by decide)).append ofRest

theorem not_isTypeMark {character : Char} (continues : Text.continuesIdentifier character = true) :
    isTypeMark character = false := by
  rw [← Bool.not_eq_true]
  intro isMark
  have isOne : character = '<' ∨ character = '>' ∨ character = ',' := by
    simpa [isTypeMark, or_assoc] using isMark
  rcases isOne with rfl | rfl | rfl <;> exact absurd continues (by decide +kernel)

/-- Identifiers are names without marks, also behind the sign that lets keywords be names. -/
theorem IsTypeName.of_isIdentifier {name : String} (isIdentifier : Text.isIdentifier name = true) :
    IsTypeName name ∧ IsTypeName ("r#" ++ name) := by
  have noMark : IsTypeName name := fun _ member =>
    not_isTypeMark (Text.continuesIdentifier_of_isIdentifierOf isIdentifier member)
  exact ⟨noMark, IsTypeName.append (by decide) noMark⟩

/-! ### Texts of types -/

namespace TypeSyntax

/-- A type of names and arguments alone, under names without marks. -/
inductive Named : TypeSyntax → Prop where
  | path {name : String} {arguments : List TypeSyntax} (isName : IsTypeName name)
      (each : ∀ argument ∈ arguments, Named argument) : Named (.path [name] arguments)

/-- The text goes on with nothing that belongs to a type before it. -/
def EndsType (rest : List Char) : Prop :=
  ∀ next, rest.head? = some next → next = '>' ∨ next = ','

/-- The text from behind the first argument of a list on: the other arguments, the end of the list
and what follows it. -/
def furtherText : List TypeSyntax → List Char → List Char
  | [], rest => '>' :: rest
  | type :: others, rest => ',' :: ' ' :: (type.render.toList ++ furtherText others rest)

/-- The text from behind a name on: its arguments and what follows them. -/
def argumentsText : List TypeSyntax → List Char → List Char
  | [], rest => rest
  | first :: others, rest => '<' :: (first.render.toList ++ furtherText others rest)

theorem renderAll_eq_map (types : List TypeSyntax) : renderAll types = types.map render := by
  induction types with
  | nil => rw [renderAll, List.map_nil]
  | cons type rest inductionHypothesis => rw [renderAll, List.map_cons, inductionHypothesis]

theorem subtermsOfAll_eq_flatMap (types : List TypeSyntax) :
    subtermsOfAll types = types.flatMap subterms := by
  induction types with
  | nil => rw [subtermsOfAll, List.flatMap_nil]
  | cons type rest inductionHypothesis =>
      rw [subtermsOfAll, List.flatMap_cons, inductionHypothesis]

theorem furtherText_eq (types : List TypeSyntax) (rest : List Char) :
    furtherText types rest =
      (types.flatMap fun type => ", ".toList ++ type.render.toList) ++ '>' :: rest := by
  induction types with
  | nil => rfl
  | cons type others inductionHypothesis => simp [furtherText, inductionHypothesis]

theorem render_named (name : String) (arguments : List TypeSyntax) (rest : List Char) :
    (path [name] arguments).render.toList ++ rest =
      name.toList ++ argumentsText arguments rest := by
  cases arguments with
  | nil => simp [render, argumentsText, Name.join]
  | cons first others =>
      have inside : (", ".intercalate (renderAll (first :: others))).toList =
          first.render.toList ++ others.flatMap fun type => ", ".toList ++ type.render.toList := by
        rw [renderAll_eq_map, List.map_cons, Text.toList_intercalate_cons, List.flatMap_map]
      rw [render, argumentsText, furtherText_eq, List.isEmpty_cons, if_neg Bool.false_ne_true]
      simp [-String.toList_intercalate, inside, Name.join]

theorem endsType_furtherText (types : List TypeSyntax) (rest : List Char) :
    EndsType (furtherText types rest) := by
  intro next isNext
  cases types with
  | nil => exact .inl (Option.some.inj isNext).symm
  | cons type others => exact .inr (Option.some.inj isNext).symm

theorem stops_argumentsText (types : List TypeSyntax) {rest : List Char} (ends : EndsType rest) :
    (argumentsText types rest).head?.all isTypeMark = true := by
  cases types with
  | cons first others => rfl
  | nil =>
      rw [argumentsText]
      cases next : rest.head? with
      | none => rfl
      | some mark => rcases ends mark next with rfl | rfl <;> rfl

/-- No other type of the list has a text that begins like the text of this one. -/
def CutFrom (type : TypeSyntax) (others : List TypeSyntax) : Prop :=
  ∀ other ∈ others, ∀ rest following : List Char, EndsType rest → EndsType following →
    type.render.toList ++ rest = other.render.toList ++ following →
      type = other ∧ rest = following

theorem furtherText_inj {types others : List TypeSyntax} {rest following : List Char}
    (each : ∀ type ∈ types, type.CutFrom others)
    (same : furtherText types rest = furtherText others following) :
    types = others ∧ rest = following := by
  induction types generalizing others with
  | nil =>
      cases others with
      | nil => exact ⟨rfl, List.cons.inj same |>.2⟩
      | cons other others => exact absurd (List.cons.inj same).1 (by decide)
  | cons type types inductionHypothesis =>
      cases others with
      | nil => exact absurd (List.cons.inj same).1 (by decide)
      | cons other others =>
          obtain ⟨rfl, sameFurther⟩ := each type List.mem_cons_self other List.mem_cons_self _ _
            (endsType_furtherText types rest) (endsType_furtherText others following)
            (List.cons.inj (List.cons.inj same).2).2
          obtain ⟨rfl, sameRest⟩ := inductionHypothesis
            (fun type isType other isOther => each type (List.mem_cons_of_mem _ isType) other
              (List.mem_cons_of_mem _ isOther)) sameFurther
          exact ⟨rfl, sameRest⟩

theorem argumentsText_inj {types others : List TypeSyntax} {rest following : List Char}
    (each : ∀ type ∈ types, type.CutFrom others) (ends : EndsType rest)
    (otherEnds : EndsType following)
    (same : argumentsText types rest = argumentsText others following) :
    types = others ∧ rest = following := by
  have noList : ∀ {rest tail : List Char}, EndsType rest → rest ≠ '<' :: tail := by
    rintro _ tail ends rfl
    rcases ends '<' rfl with isEnd | isEnd <;> exact absurd isEnd (by decide)
  cases types with
  | nil =>
      cases others with
      | nil => exact ⟨rfl, same⟩
      | cons other others => exact absurd same (noList ends)
  | cons type types =>
      cases others with
      | nil => exact absurd same.symm (noList otherEnds)
      | cons other others =>
          obtain ⟨rfl, sameFurther⟩ := each type List.mem_cons_self other List.mem_cons_self _ _
            (endsType_furtherText types rest) (endsType_furtherText others following)
            (List.cons.inj same).2
          obtain ⟨rfl, sameRest⟩ := furtherText_inj
            (fun type isType other isOther => each type (List.mem_cons_of_mem _ isType) other
              (List.mem_cons_of_mem _ isOther)) sameFurther
          exact ⟨rfl, sameRest⟩

/-- The text of a type ends where the type ends, so that it is read in one way only. -/
theorem Named.append_inj {type other : TypeSyntax} (named : type.Named) (otherNamed : other.Named)
    {rest following : List Char} (ends : EndsType rest) (otherEnds : EndsType following)
    (same : type.render.toList ++ rest = other.render.toList ++ following) :
    type = other ∧ rest = following := by
  induction named generalizing other rest following with
  | @path name arguments isName each inductionHypothesis =>
      obtain @⟨otherName, others, isOtherName, eachOther⟩ := otherNamed
      rw [render_named, render_named] at same
      obtain ⟨rfl, sameArguments⟩ := isName.append_inj isOtherName
        (stops_argumentsText arguments ends) (stops_argumentsText others otherEnds) same
      have each : ∀ argument ∈ arguments, argument.CutFrom others :=
        fun argument isArgument other isOther _ _ => inductionHypothesis argument isArgument
          (eachOther other isOther)
      obtain ⟨rfl, sameRest⟩ := argumentsText_inj each ends otherEnds sameArguments
      exact ⟨rfl, sameRest⟩

theorem Named.render_inj {type other : TypeSyntax} (named : type.Named)
    (otherNamed : other.Named) (same : type.render = other.render) : type = other := by
  have noRest : EndsType [] := nofun
  exact (named.append_inj otherNamed noRest noRest (by rw [same])).1

end TypeSyntax

/-! ### Types that resolution gives -/

namespace ResolvedType

/-- A name and a flag are not two spellings of one type: an `Option` with one argument is kept by
name only around an argument with a flag. -/
inductive Normal : ResolvedType → Prop where
  | mk {name : String} {arguments : List ResolvedType} {optional : Bool} (isName : IsTypeName name)
      (flagFirst : name ∈ Resolution.optionNames → ∀ inner, arguments = [inner] →
        inner.optional = true)
      (each : ∀ argument ∈ arguments, Normal argument) : Normal (.mk name arguments optional)

theorem Normal.withFlag {name : String} {arguments : List ResolvedType} {optional : Bool}
    (normal : Normal (.mk name arguments optional)) (other : Bool) :
    Normal (.mk name arguments other) := by
  obtain @⟨_, _, _, isName, flagFirst, each⟩ := normal
  exact .mk isName flagFirst each

theorem Normal.named_written {type : ResolvedType} (normal : type.Normal) :
    type.written.Named := by
  induction normal with
  | @mk name arguments optional isName _ _ inductionHypothesis =>
      have base : (TypeSyntax.path [name] (writtenAll arguments)).Named := by
        refine .path isName fun argument member => ?_
        rw [writtenAll_eq_map] at member
        obtain ⟨type, isArgument, rfl⟩ := List.mem_map.mp member
        exact inductionHypothesis type isArgument
      cases optional with
      | false => exact base
      | true => exact .path (by decide) (by simpa using base)

theorem writtenAll_inj {types others : List ResolvedType}
    (each : ∀ type ∈ types, ∀ other ∈ others, type.written = other.written → type = other)
    (same : writtenAll types = writtenAll others) : types = others := by
  induction types generalizing others with
  | nil =>
      cases others with
      | nil => rfl
      | cons other others => cases same
  | cons type types inductionHypothesis =>
      cases others with
      | nil => cases same
      | cons other others =>
          obtain ⟨sameFirst, sameOthers⟩ := List.cons.inj same
          rw [each type List.mem_cons_self other List.mem_cons_self sameFirst,
            inductionHypothesis (fun type isType other isOther => each type (.tail _ isType) other
              (.tail _ isOther)) sameOthers]

/-- What a flag is written as may also be an `Option` by name, but then around the same type without
a flag. -/
theorem eq_of_written_flagged {name other : String} {arguments others : List ResolvedType}
    (same : (mk name arguments true).written = (mk other others false).written) :
    other = "std::option::Option" ∧
      ∃ inner, others = [inner] ∧ (mk name arguments false).written = inner.written := by
  obtain ⟨sameName, sameArguments⟩ := TypeSyntax.path.inj same
  refine ⟨(List.singleton_inj.mp sameName).symm, ?_⟩
  rw [writtenAll_eq_map others] at sameArguments
  obtain ⟨inner, rfl, sameInner⟩ := List.map_eq_singleton_iff.mp sameArguments.symm
  exact ⟨inner, rfl, sameInner.symm⟩

theorem Normal.written_inj {type other : ResolvedType} (normal : type.Normal)
    (otherNormal : other.Normal) (same : type.written = other.written) : type = other := by
  induction normal generalizing other with
  | @mk name arguments optional isName flagFirst each inductionHypothesis =>
      have byArguments : ∀ {other others flag}, Normal (.mk other others flag) →
          TypeSyntax.path [name] (writtenAll arguments) =
            .path [other] (writtenAll others) → name = other ∧ arguments = others := by
        intro other others flag otherNormal same
        obtain @⟨_, _, _, _, _, eachOther⟩ := otherNormal
        obtain ⟨sameName, sameArguments⟩ := TypeSyntax.path.inj same
        refine ⟨List.singleton_inj.mp sameName, writtenAll_inj ?_ sameArguments⟩
        intro type isType other isOther
        exact inductionHypothesis type isType (eachOther other isOther)
      -- the argument under the name would be the other type without its flag
      have notByName : ∀ {other others}, Normal (.mk other others true) →
          (ResolvedType.mk name arguments false).written ≠
            (ResolvedType.mk other others true).written := by
        intro other others otherNormal same
        obtain ⟨rfl, inner, rfl, sameInner⟩ := eq_of_written_flagged same.symm
        obtain rfl :=
          inductionHypothesis inner (.head _) (otherNormal.withFlag false) sameInner.symm
        exact absurd (flagFirst (by decide) _ rfl) Bool.false_ne_true
      obtain ⟨otherName, others, otherOptional⟩ := other
      cases optional with
      | false =>
          cases otherOptional with
          | false =>
              obtain ⟨rfl, rfl⟩ := byArguments otherNormal same
              rfl
          | true => exact absurd same (notByName otherNormal)
      | true =>
          cases otherOptional with
          | true =>
              obtain ⟨-, sameBase⟩ := TypeSyntax.path.inj same
              obtain ⟨rfl, rfl⟩ := byArguments otherNormal (List.singleton_inj.mp sameBase)
              rfl
          | false =>
              obtain ⟨rfl, inner, rfl, sameInner⟩ := eq_of_written_flagged same
              obtain @⟨_, _, _, _, isFlagged, ofInner⟩ := otherNormal
              obtain ⟨innerName, innerArguments, innerOptional⟩ := inner
              obtain rfl : innerOptional = true := isFlagged (by decide) _ rfl
              exact absurd sameInner (notByName (ofInner _ (.head _)))

theorem Normal.render_inj {type other : ResolvedType} (normal : type.Normal)
    (otherNormal : other.Normal) (same : type.render = other.render) : type = other := by
  rw [← render_written, ← render_written] at same
  exact normal.written_inj otherNormal
    (normal.named_written.render_inj otherNormal.named_written same)

end ResolvedType

namespace Resolution

variable {host : Host} {owner : String} {scope : Nat}

/-- If the type is a path that means anything, then it means a name without marks. -/
def MeansName (host : Host) (scope : Nat) : TypeSyntax → Prop
  | .path segments _ => ∀ name, host.resolve? scope segments = .ok (some name) → IsTypeName name
  | _ => True

/-- No path in the type means anything but a name without marks, as at a host that gives paths of
identifiers only. -/
def MeansNames (host : Host) (scope : Nat) (type : TypeSyntax) : Prop :=
  ∀ subterm ∈ type.subterms, MeansName host scope subterm

instance (host : Host) (scope : Nat) : DecidablePred (MeansName host scope)
  | .path segments arguments =>
      match asked : host.resolve? scope segments with
      | .ok (some name) => decidable_of_iff (IsTypeName name) (by simp [MeansName, asked])
      | .ok none => isTrue (by simp [MeansName, asked])
      | .error fault => isTrue (by simp [MeansName, asked])
  | .reference _ _ | .traitObject _ | .unit | .unsupported _ => isTrue trivial

instance (host : Host) (scope : Nat) (type : TypeSyntax) : Decidable (MeansNames host scope type) :=
  inferInstanceAs (Decidable (∀ subterm ∈ type.subterms, MeansName host scope subterm))

/-- An only argument without a flag takes the place of an `Option` around it, and the flag with
it. -/
theorem assemble_cases (name : String) (arguments : List ResolvedType) :
    (name ∈ optionNames ∧ ∃ innerName innerArguments,
        arguments = [.mk innerName innerArguments false] ∧
        assemble name arguments = .mk innerName innerArguments true) ∨
      ((name ∈ optionNames → ∀ inner, arguments = [inner] → inner.optional = true) ∧
        assemble name arguments = .mk name arguments false) := by
  by_cases takesFlag : name ∈ optionNames ∧ ∃ inner, arguments = [inner] ∧ inner.optional = false
  · obtain ⟨isOption, ⟨innerName, innerArguments, innerOptional⟩, rfl, plain⟩ := takesFlag
    obtain rfl : innerOptional = false := plain
    refine .inl ⟨isOption, innerName, innerArguments, rfl, ?_⟩
    simp [assemble, isOption, ResolvedType.optional, ResolvedType.asOptional, ResolvedType.name,
      ResolvedType.arguments]
  · refine .inr ⟨fun isOption inner alone => ?_, ?_⟩
    · by_contra plain
      exact takesFlag ⟨isOption, inner, alone, Bool.eq_false_iff.mpr plain⟩
    · unfold assemble
      grind [ResolvedType.named, ResolvedType.withArguments, ResolvedType.name,
        ResolvedType.optional]

theorem normal_assemble {name : String} {arguments : List ResolvedType} (isName : IsTypeName name)
    (each : ∀ argument ∈ arguments, argument.Normal) : (assemble name arguments).Normal := by
  rcases assemble_cases name arguments with ⟨_, innerName, innerArguments, rfl, isFlagged⟩ | byName
  · rw [isFlagged]
    exact (each _ (.head _)).withFlag true
  · rw [byName.2]
    exact .mk isName byName.1 each

/-- At a host that gives nothing but identifiers with `::` between them, every type is such a
type. -/
theorem meansNames_of_identifiers
    (givesIdentifiers : ∀ segments name, host.resolve? scope segments = .ok (some name) →
      ∃ path, name = Name.join path ∧ ∀ segment ∈ path, ∃ identifier,
        Text.isIdentifier identifier = true ∧ (segment = identifier ∨ segment = "r#" ++ identifier))
    (type : TypeSyntax) : MeansNames host scope type := by
  intro subterm _
  cases subterm with
  | path segments arguments =>
      intro name resolves
      obtain ⟨path, rfl, each⟩ := givesIdentifiers segments name resolves
      refine .join fun segment member => ?_
      obtain ⟨identifier, isIdentifier, rfl | rfl⟩ := each segment member
      · exact (IsTypeName.of_isIdentifier isIdentifier).1
      · exact (IsTypeName.of_isIdentifier isIdentifier).2
  | reference | traitObject | unit | unsupported => trivial

theorem MeansNames.of_argument {segments : List String} {arguments : List TypeSyntax}
    (meansNames : MeansNames host scope (.path segments arguments)) {argument : TypeSyntax}
    (member : argument ∈ arguments) : MeansNames host scope argument := by
  intro subterm isPart
  refine meansNames subterm ?_
  rw [TypeSyntax.subterms, TypeSyntax.subtermsOfAll_eq_flatMap]
  exact .tail _ (List.mem_flatMap.mpr ⟨argument, member, isPart⟩)

/-- Resolution gives types in which a name and a flag are not two spellings of one type. -/
theorem normal_of_resolve {type : TypeSyntax} {resolved : ResolvedType}
    (meansNames : MeansNames host scope type)
    (resolves : resolve host owner scope type = .ok resolved) : resolved.Normal := by
  induction type using TypeSyntax.induction generalizing resolved with
  | unit =>
      obtain rfl := resolve_unit_eq_ok.mp resolves
      refine .mk (by decide) ?_ ?_
      · intro _ inner noArgument
        cases noArgument
      · intro argument noArgument
        cases noArgument
  | path segments arguments inductionHypothesis =>
      obtain ⟨name, results, meaning, _, each, rfl⟩ := resolve_path_eq_ok.mp resolves
      have isName : IsTypeName name :=
        meansNames (.path segments arguments) (by simp [TypeSyntax.subterms]) name meaning
      refine normal_assemble isName fun result member => ?_
      obtain ⟨argument, isArgument, ofArgument⟩ := partner_of_mem_right each member
      exact inductionHypothesis argument isArgument (meansNames.of_argument isArgument) ofArgument
  | reference mutable inner _ => cases resolvable_of_resolve resolves
  | traitObject segments => cases resolvable_of_resolve resolves
  | unsupported text => cases resolvable_of_resolve resolves

/-- Two types that resolve, in whatever scopes, have one meaning exactly when their meanings have
one text: neither holds an `Option` by name where a flag would do. -/
theorem resolve_render_inj {owner otherOwner : String} {scope otherScope : Nat}
    {type other : TypeSyntax} {resolved otherResolved : ResolvedType}
    (meansNames : MeansNames host scope type) (otherMeansNames : MeansNames host otherScope other)
    (resolves : resolve host owner scope type = .ok resolved)
    (otherResolves : resolve host otherOwner otherScope other = .ok otherResolved) :
    resolved.Normal ∧ otherResolved.Normal ∧
      (resolved = otherResolved ↔ resolved.render = otherResolved.render) := by
  have normal := normal_of_resolve meansNames resolves
  have otherNormal := normal_of_resolve otherMeansNames otherResolves
  exact ⟨normal, otherNormal, congrArg ResolvedType.render, normal.render_inj otherNormal⟩

/-- `core::option::Option<Option<Vec<Layered>>>`, where `Layered` is
`core::option::Option<Maybe<core::option::Option<String>>>`. -/
def respelledSyntax : TypeSyntax :=
  .path ["core", "option", "Option"] [.path ["Option"] [.path ["Vec"] [
    .path ["core", "option", "Option"] [.path ["Maybe"] [
      .path ["core", "option", "Option"] [.path ["String"] []]]]]]]

/-- The same with the two outer names exchanged, of which only the outermost one is kept. -/
def exchangedSyntax : TypeSyntax :=
  .path ["Option"] [.path ["core", "option", "Option"] [.path ["Vec"] [
    .path ["core", "option", "Option"] [.path ["Maybe"] [
      .path ["core", "option", "Option"] [.path ["String"] []]]]]]]

theorem layeredSyntax_render_inj :
    ∃ respelled exchanged,
      resolve optionTable.host "crate::Shape" 0 layeredSyntax = .ok layeredType ∧
      resolve optionTable.host "crate::Motor" 0 respelledSyntax = .ok respelled ∧
      resolve optionTable.host "crate::Motor" 0 exchangedSyntax = .ok exchanged ∧
      layeredType = respelled ∧ layeredType.render ≠ exchanged.render := by
  have meansNames : MeansNames optionTable.host 0 layeredSyntax := by decide
  have respelledMeansNames : MeansNames optionTable.host 0 respelledSyntax := by decide
  have exchangedMeansNames : MeansNames optionTable.host 0 exchangedSyntax := by decide
  have resolves : resolve optionTable.host "crate::Shape" 0 layeredSyntax = .ok layeredType := rfl
  have respelledResolves : resolve optionTable.host "crate::Motor" 0 respelledSyntax = .ok _ := rfl
  have exchangedResolves : resolve optionTable.host "crate::Motor" 0 exchangedSyntax = .ok _ := rfl
  refine ⟨_, _, resolves, respelledResolves, exchangedResolves, ?_, ?_⟩
  · exact (resolve_render_inj meansNames respelledMeansNames resolves
      respelledResolves).2.2.mpr rfl
  · refine (resolve_render_inj meansNames exchangedMeansNames resolves
      exchangedResolves).2.2.not.mp ?_
    decide

end Resolution

end ForwardingProxy
