import ForwardingProxy.Proofs.Resolution.Meaning

/-!
Contract: resolved types keep the shape of the types they are resolved from.

Owns: resolved types written out as syntax, `Qualifies`, which relates a type to its spelling with
resolved paths, and the number of `Option`s around a type, which both spellings share.

One `Option` may be kept as a flag and the next one around it by name. Written out, both are the
same path again, so that the induction over written types does not have to tell them apart.
-/

namespace ForwardingProxy

/-! ### Resolved types as syntax -/

mutual

/-- The type written out under qualified names; a flag is the `Option` that it stands for. -/
def ResolvedType.written : ResolvedType → TypeSyntax
  | .mk name arguments optional =>
      let base := TypeSyntax.path [name] (writtenAll arguments)
      if optional then .path ["std::option::Option"] [base] else base

def ResolvedType.writtenAll : List ResolvedType → List TypeSyntax
  | [] => []
  | type :: rest => type.written :: writtenAll rest

end

theorem ResolvedType.writtenAll_eq_map (types : List ResolvedType) :
    writtenAll types = types.map written := by
  induction types with
  | nil => rw [writtenAll, List.map_nil]
  | cons type rest inductionHypothesis => rw [writtenAll, List.map_cons, inductionHypothesis]

mutual

theorem ResolvedType.render_written : ∀ type : ResolvedType, type.written.render = type.render
  | .mk name arguments optional => by
      have sameArguments := renderAll_writtenAll arguments
      have sameEmpty : (writtenAll arguments).isEmpty = arguments.isEmpty := by
        cases arguments <;> rfl
      cases optional <;>
        simp [written, render, TypeSyntax.render, TypeSyntax.renderAll, sameArguments, sameEmpty,
          Name.join]

theorem ResolvedType.renderAll_writtenAll :
    ∀ types : List ResolvedType, TypeSyntax.renderAll (writtenAll types) = renderAll types
  | [] => rfl
  | type :: rest => by
      rw [writtenAll, TypeSyntax.renderAll, renderAll, render_written type,
        renderAll_writtenAll rest]

end

/-! ### Layers of `Option` -/

/-- How many `Option`s stand around one another at the top of the type, the flag counting as one. -/
def ResolvedType.optionLayers : ResolvedType → Nat
  | .mk name [inner] optional =>
      optional.toNat + if Resolution.optionNames.contains name then inner.optionLayers + 1 else 0
  | .mk _ _ optional => optional.toNat

namespace TypeSyntax

/-- The part of a type at a place, given by the position of an argument at every step down. -/
def at? : TypeSyntax → (place : List Nat) → Option TypeSyntax
  | type, [] => some type
  | .path _ arguments, position :: place =>
      arguments[position]?.bind fun argument => argument.at? place
  | _, _ :: _ => none

/-- How many `Option`s with one argument stand around one another at the top of a type; `isOption`
tells which paths mean `Option`. -/
def optionLayers (isOption : List String → Bool) : TypeSyntax → Nat
  | .path segments [inner] =>
      if isOption segments then inner.optionLayers isOption + 1 else 0
  | _ => 0

end TypeSyntax

namespace Resolution

/-- Whether the path means `Option` in the scope. -/
def meansOption (host : Host) (scope : Nat) (segments : List String) : Bool :=
  match host.resolve? scope segments with
  | .ok (some name) => optionNames.contains name
  | _ => false

def namesOption (segments : List String) : Bool :=
  optionNames.contains (Name.join segments)

/-- The spelling is the name, up to the two names of `Option`. -/
def Spells (name spelling : String) : Prop :=
  spelling = name ∨ (name = "core::option::Option" ∧ spelling = "std::option::Option")

/-- The second type is the first one with every path replaced by the name it has in the scope, and
with the unit type under its name. -/
inductive Qualifies (host : Host) (scope : Nat) : TypeSyntax → TypeSyntax → Prop where
  | unit : Qualifies host scope .unit (.path ["()"] [])
  | path {segments : List String} {name spelling : String} {arguments written : List TypeSyntax}
      (resolves : host.resolve? scope segments = .ok (some name))
      (spelled : Spells name spelling)
      (each : List.Forall₂ (Qualifies host scope) arguments written) :
      Qualifies host scope (.path segments arguments) (.path [spelling] written)

variable {host : Host} {owner : String} {scope : Nat}

/-- A flag and a name put the same `Option` around an argument. -/
theorem written_assemble (name : String) (arguments : List ResolvedType) :
    ∃ spelling, Spells name spelling ∧
      (assemble name arguments).written =
        .path [spelling] (arguments.map ResolvedType.written) := by
  have general : ((ResolvedType.named name).withArguments arguments).written =
      .path [name] (arguments.map ResolvedType.written) := by
    simp [ResolvedType.named, ResolvedType.withArguments, ResolvedType.name,
      ResolvedType.optional, ResolvedType.written, ResolvedType.writtenAll_eq_map]
  -- one argument takes the flag, unless it has the flag already
  by_cases isFlagged : name ∈ optionNames ∧
      ∃ inner, arguments = [inner] ∧ inner.optional = false
  · obtain ⟨isOption, inner, rfl, plain⟩ := isFlagged
    obtain ⟨innerName, innerArguments, optional⟩ := inner
    obtain rfl : optional = false := plain
    refine ⟨"std::option::Option", ?_, ?_⟩
    · have isName : name = "std::option::Option" ∨ name = "core::option::Option" := by
        simpa [optionNames] using isOption
      rcases isName with isStd | isCore
      · exact .inl isStd.symm
      · exact .inr ⟨isCore, rfl⟩
    · simp [assemble, isOption, ResolvedType.asOptional, ResolvedType.optional,
        ResolvedType.name, ResolvedType.arguments, ResolvedType.written]
  · refine ⟨name, .inl rfl, ?_⟩
    rw [← general]
    congr 1
    unfold assemble
    grind

theorem qualifies_of_resolve {type : TypeSyntax} {resolved : ResolvedType}
    (resolves : resolve host owner scope type = .ok resolved) :
    Qualifies host scope type resolved.written := by
  induction type using TypeSyntax.induction generalizing resolved with
  | unit =>
      obtain rfl := resolve_unit_eq_ok.mp resolves
      exact .unit
  | path segments arguments inductionHypothesis =>
      obtain ⟨name, results, meaning, _, each, rfl⟩ := resolve_path_eq_ok.mp resolves
      obtain ⟨spelling, spelled, isWritten⟩ := written_assemble name results
      rw [isWritten]
      refine .path meaning spelled (List.forall₂_map_right_iff.mpr ?_)
      rw [List.forall₂_iff_zip] at each ⊢
      exact ⟨each.1, fun pair => inductionHypothesis _ (List.of_mem_zip pair).1 (each.2 pair)⟩
  | reference mutable inner _ => exact absurd (resolvable_of_resolve resolves) nofun
  | traitObject segments => exact absurd (resolvable_of_resolve resolves) nofun
  | unsupported text => exact absurd (resolvable_of_resolve resolves) nofun

/-- A flag counts as the `Option` it is written as. -/
theorem optionLayers_written :
    ∀ type : ResolvedType, type.written.optionLayers namesOption = type.optionLayers
  | .mk name [inner] optional => by
      have ofInner := optionLayers_written inner
      have byName : (TypeSyntax.path [name] [inner.written]).optionLayers namesOption =
          if optionNames.contains name then inner.optionLayers + 1 else 0 := by
        rw [TypeSyntax.optionLayers, ofInner]
        rfl
      cases optional with
      | false => simp [ResolvedType.written, ResolvedType.writtenAll, ResolvedType.optionLayers,
          byName]
      | true =>
          have flagged : (ResolvedType.mk name [inner] true).written =
              .path ["std::option::Option"] [.path [name] [inner.written]] := rfl
          have isOption : namesOption ["std::option::Option"] = true := rfl
          rw [flagged, TypeSyntax.optionLayers, if_pos isOption, byName,
            ResolvedType.optionLayers, Nat.add_comm]
          rfl
  | .mk name [] optional => by cases optional <;> rfl
  | .mk name (first :: second :: rest) optional => by cases optional <;> rfl

theorem Spells.namesOption {name spelling : String} (spelled : Spells name spelling) :
    namesOption [spelling] = optionNames.contains name := by
  rcases spelled with rfl | ⟨rfl, rfl⟩
  · rfl
  · rfl

theorem Qualifies.optionLayers {type written : TypeSyntax}
    (qualifies : Qualifies host scope type written) :
    type.optionLayers (meansOption host scope) = written.optionLayers namesOption := by
  induction type using TypeSyntax.induction generalizing written with
  | unit => cases qualifies; rfl
  | path segments arguments inductionHypothesis =>
      cases qualifies with
      | @path _ name spelling _ written resolves spelled each =>
          have sameOption : meansOption host scope segments = namesOption [spelling] := by
            simp [meansOption, resolves, spelled.namesOption]
          rcases each with _ | ⟨ofFirst, _ | ⟨ofSecond, others⟩⟩
          · rfl
          · rw [TypeSyntax.optionLayers, TypeSyntax.optionLayers, sameOption,
              inductionHypothesis _ (by simp) ofFirst]
          · rfl
  | reference mutable inner _ => nomatch qualifies
  | traitObject segments => nomatch qualifies
  | unsupported text => nomatch qualifies

/-- Both spellings have the same parts, with as many `Option`s around each. -/
theorem Qualifies.optionLayers_at? {type written : TypeSyntax}
    (qualifies : Qualifies host scope type written) (place : List Nat) :
    (type.at? place).map (TypeSyntax.optionLayers (meansOption host scope)) =
      (written.at? place).map (TypeSyntax.optionLayers namesOption) := by
  induction place generalizing type written with
  | nil => exact congrArg some qualifies.optionLayers
  | cons position place inductionHypothesis =>
      cases qualifies with
      | unit => rfl
      | @path segments name spelling arguments written resolves spelled each =>
          rw [TypeSyntax.at?, TypeSyntax.at?]
          obtain ⟨sameLength, atEach⟩ := List.forall₂_iff_get.mp each
          by_cases inRange : position < arguments.length
          · rw [List.getElem?_eq_getElem inRange, List.getElem?_eq_getElem (sameLength ▸ inRange)]
            exact inductionHypothesis (atEach position inRange (sameLength ▸ inRange))
          · rw [List.getElem?_eq_none (by omega), List.getElem?_eq_none (by omega)]
            rfl

/-- A resolved type reads as the written type with every path replaced by its resolved name and
with its arguments in order. It has as many `Option`s around one another as the written type, and so
has every part of it. -/
theorem resolve_keeps_shape {type : TypeSyntax} {resolved : ResolvedType}
    (resolves : resolve host owner scope type = .ok resolved) :
    resolved.render = resolved.written.render ∧
      Qualifies host scope type resolved.written ∧
      type.optionLayers (meansOption host scope) = resolved.optionLayers ∧
      ∀ place, (type.at? place).map (TypeSyntax.optionLayers (meansOption host scope)) =
        (resolved.written.at? place).map (TypeSyntax.optionLayers namesOption) := by
  have qualifies := qualifies_of_resolve resolves
  refine ⟨resolved.render_written.symm, qualifies, ?_, qualifies.optionLayers_at?⟩
  rw [qualifies.optionLayers, optionLayers_written]

/-- A table with a second name for `Option` in its only scope. -/
def optionTable : SymbolTable :=
  ⟨[⟨"crate", [("Maybe", ["core", "option", "Option"])], [], none⟩], [], [], []⟩

/-- `Maybe<Option<Vec<Option<Maybe<Option<String>>>>>>` -/
def layeredSyntax : TypeSyntax :=
  .path ["Maybe"] [.path ["Option"] [.path ["Vec"] [.path ["Option"] [.path ["Maybe"]
    [.path ["Option"] [.path ["String"] []]]]]]]

/-- Flags and names alternate, from the innermost `Option` outwards. -/
def layeredType : ResolvedType :=
  .mk "core::option::Option" [.mk "std::vec::Vec" [.mk "core::option::Option"
    [.mk "std::string::String" [] true] true] true] false

theorem layeredSyntax_keeps_shape :
    resolve optionTable.host "crate::Shape" 0 layeredSyntax = .ok layeredType ∧
      layeredType.render = "core::option::Option<std::option::Option<std::vec::Vec<" ++
        "std::option::Option<core::option::Option<std::option::Option<std::string::String>>>>>>" ∧
      Qualifies optionTable.host 0 layeredSyntax layeredType.written ∧
      layeredType.optionLayers = 2 ∧
      (layeredType.written.at? [0, 0, 0]).map (TypeSyntax.optionLayers namesOption) = some 3 := by
  have resolves : resolve optionTable.host "crate::Shape" 0 layeredSyntax = .ok layeredType := rfl
  obtain ⟨renders, qualifies, layers, layersAt⟩ := resolve_keeps_shape resolves
  refine ⟨resolves, ?_, qualifies, ?_, ?_⟩
  · rw [renders]
    decide
  · rw [← layers]
    decide
  · rw [← layersAt]
    decide

end Resolution

end ForwardingProxy
