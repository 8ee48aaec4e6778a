import ForwardingProxy.Proofs.Classification.Attributes
import ForwardingProxy.Proofs.Classification.MarkerPath
import ForwardingProxy.Proofs.SymbolTable.Facts

/-!
Contract: which types are handlers, and how their values are reached.

Owns: `Builds`, the order of preference among the ways to build a value, `Reaches`, which says what
a request contains for a handler, and the fact that a marked trait becomes such a request exactly
when it has an interface and a handler whose values can be reached.
-/

namespace ForwardingProxy.Classification

/-! ### Handlers -/

/-- The expression that builds a value of a struct without arguments: by `Default` if it has that,
else by the constructor `new` if any is recorded, else by the first constructor. -/
inductive Builds (table : SymbolTable) (handler : Declaration) (body : StructBody)
    (path : String) : String → Prop where
  | default
      (hasDefault : body.derivesDefault = true ∨ table.Told handler.qualifiedName .default) :
      Builds table handler body path ("<" ++ path ++ " as Default>::default")
  | new
      (noDefault : ¬(body.derivesDefault = true ∨ table.Told handler.qualifiedName .default))
      (hasNew : table.Told handler.qualifiedName (.constructor "new")) :
      Builds table handler body path (path ++ "::" ++ "new")
  | first {name : String}
      (noDefault : ¬(body.derivesDefault = true ∨ table.Told handler.qualifiedName .default))
      (noNew : ¬table.Told handler.qualifiedName (.constructor "new"))
      (isFirst : table.ToldFirst handler.qualifiedName name) :
      Builds table handler body path (path ++ "::" ++ name)

/-- How a request under the name `proxy` reaches the handler at `path`: a unit struct by a borrow
of its only value, a struct without parameters by a value that an inherent item shares. -/
inductive Reaches (table : SymbolTable) (handler : Declaration) (path proxy : String) :
    Target → Option String → Prop where
  | unit (isUnit : handler.kind = .unitStruct) :
      Reaches table handler path proxy (.handler ("&" ++ path)) none
  | shared {body : StructBody} {expression : String}
      (isStruct : handler.kind = .struct body)
      (plain : body.generic = false)
      (builds : Builds table handler body path expression) :
      Reaches table handler path proxy (.handler (proxy ++ "::proxy_handler()"))
        (some (handlerAccessor path expression))

/-- Values of the handler can be reached: it is a unit struct, or a struct without parameters that
has `Default` or some recorded constructor. -/
def Reachable (table : SymbolTable) (handler : Declaration) : Prop :=
  handler.kind = .unitStruct ∨ ∃ body, handler.kind = .struct body ∧ body.generic = false ∧
    (body.derivesDefault = true ∨ table.Told handler.qualifiedName .default ∨
      ∃ name, table.Told handler.qualifiedName (.constructor name))

variable {table : SymbolTable} {handler : Declaration} {interface path : String} {id : Nat}

theorem implementsDefault_struct {body : StructBody}
    (declared : table.declaration? id = some handler) (isStruct : handler.kind = .struct body) :
    table.implementsDefault id = true ↔
      body.derivesDefault = true ∨ table.Told handler.qualifiedName .default := by
  rw [SymbolTable.implementsDefault_iff declared, isStruct]
  simp

/-- The target and the items for a struct whose values the expression builds. -/
def shared (interface path expression : String) : Target × Option String :=
  (.handler (proxyName interface ++ "::proxy_handler()"), some (handlerAccessor path expression))

theorem handlerTarget_struct {body : StructBody} (isStruct : handler.kind = .struct body)
    (plain : body.generic = false) :
    handlerTarget table.host interface path id handler =
      if table.implementsDefault id then
        pure (shared interface path ("<" ++ path ++ " as Default>::default"))
      else
        match table.constructor? id with
        | some constructor => pure (shared interface path (path ++ "::" ++ constructor))
        | none => Attempt.fail (.handler interface path .notConstructible) := by
  unfold handlerTarget
  rw [isStruct]
  dsimp only
  rw [plain]
  rfl

/-- A struct is reached exactly by the preferred way to build its values. -/
theorem handlerTarget_struct_eq_ok {body : StructBody} {result : Target × Option String}
    (declared : table.declaration? id = some handler) (isStruct : handler.kind = .struct body)
    (plain : body.generic = false) :
    handlerTarget table.host interface path id handler = .ok result ↔
      ∃ expression, Builds table handler body path expression ∧
        result = shared interface path expression := by
  rw [handlerTarget_struct isStruct plain]
  have hasDefault := implementsDefault_struct declared isStruct
  cases implements : table.implementsDefault id with
  | true =>
      rw [implements, eq_self, true_iff] at hasDefault
      rw [if_pos rfl, pure_eq_ok]
      constructor
      · rintro rfl
        exact ⟨_, .default hasDefault, rfl⟩
      · rintro ⟨_, _ | ⟨noDefault, _⟩ | ⟨noDefault, _, _⟩, rfl⟩
        · rfl
        · exact absurd hasDefault noDefault
        · exact absurd hasDefault noDefault
  | false =>
      rw [implements] at hasDefault
      have noDefault := mt hasDefault.mpr Bool.false_ne_true
      rw [if_neg Bool.false_ne_true]
      constructor
      · intro succeeds
        split at succeeds
        next name isName =>
          rw [pure_eq_ok] at succeeds
          rcases (SymbolTable.constructor?_eq_some declared).mp isName with
            ⟨hasNew, rfl⟩ | ⟨noNew, isFirst⟩
          · exact ⟨_, .new noDefault hasNew, succeeds⟩
          · exact ⟨_, .first noDefault noNew isFirst, succeeds⟩
        next => exact absurd succeeds Attempt.fail_ne_ok
      · rintro ⟨_, hasDefault | ⟨_, hasNew⟩ | ⟨_, noNew, isFirst⟩, rfl⟩
        · exact absurd hasDefault noDefault
        · rw [(SymbolTable.constructor?_eq_some declared).mpr (.inl ⟨hasNew, rfl⟩)]
          rfl
        · rw [(SymbolTable.constructor?_eq_some declared).mpr (.inr ⟨noNew, isFirst⟩)]
          rfl

/-- The target and the items for a handler are those that reach it. -/
theorem handlerTarget_eq_ok {target : Target} {items : Option String}
    (declared : table.declaration? id = some handler) :
    handlerTarget table.host interface path id handler = .ok (target, items) ↔
      Reaches table handler path (proxyName interface) target items := by
  constructor
  · intro succeeds
    cases kind : handler.kind with
    | unitStruct =>
        rw [handlerTarget, kind] at succeeds
        obtain ⟨rfl, rfl⟩ := Prod.mk.inj (pure_eq_ok.mp succeeds)
        exact .unit kind
    | struct body =>
        cases generic : body.generic with
        | true =>
            rw [handlerTarget, kind] at succeeds
            dsimp only at succeeds
            rw [generic] at succeeds
            exact absurd succeeds Attempt.fail_ne_ok
        | false =>
            obtain ⟨expression, builds, same⟩ :=
              (handlerTarget_struct_eq_ok declared kind generic).mp succeeds
            obtain ⟨rfl, rfl⟩ := Prod.mk.inj same
            exact .shared kind generic builds
    | _ =>
        rw [handlerTarget, kind] at succeeds
        exact absurd succeeds Attempt.fail_ne_ok
  · rintro (isUnit | ⟨isStruct, plain, builds⟩)
    · rw [handlerTarget, isUnit]
      rfl
    · exact (handlerTarget_struct_eq_ok declared isStruct plain).mpr ⟨_, builds, rfl⟩

/-- Something reaches a handler exactly when its values can be reached. -/
theorem reaches_iff_reachable (declared : table.declaration? id = some handler) (proxy : String) :
    (∃ target items, Reaches table handler path proxy target items) ↔
      Reachable table handler := by
  constructor
  · rintro ⟨_, _, isUnit | ⟨isStruct, plain, builds⟩⟩
    · exact .inl isUnit
    · refine .inr ⟨_, isStruct, plain, ?_⟩
      rcases builds with (derived | isTold) | ⟨_, hasNew⟩ | ⟨_, _, isFirst⟩
      · exact .inl derived
      · exact .inr (.inl isTold)
      · exact .inr (.inr ⟨_, hasNew⟩)
      · obtain ⟨before, fact, after, split, tells, _⟩ := isFirst
        exact .inr (.inr ⟨_, fact, by simp [split], tells⟩)
  · rintro (isUnit | ⟨body, isStruct, plain, constructible⟩)
    · exact ⟨_, _, .unit isUnit⟩
    · suffices ∃ expression, Builds table handler body path expression by
        obtain ⟨expression, builds⟩ := this
        exact ⟨_, _, .shared isStruct plain builds⟩
      by_cases hasDefault :
          body.derivesDefault = true ∨ table.Told handler.qualifiedName .default
      · exact ⟨_, .default hasDefault⟩
      · have isTold : ∃ name, table.Told handler.qualifiedName (.constructor name) := by
          rcases constructible with derived | isTold | isTold
          · exact absurd (.inl derived) hasDefault
          · exact absurd (.inr isTold) hasDefault
          · exact isTold
        obtain ⟨name, isName⟩ := (SymbolTable.constructor?_isSome declared).mpr isTold
        rcases (SymbolTable.constructor?_eq_some declared).mp isName with
          ⟨hasNew, _⟩ | ⟨noNew, isFirst⟩
        · exact ⟨_, .new hasDefault hasNew⟩
        · exact ⟨_, .first hasDefault noNew isFirst⟩

/-! ### Requests -/

variable {marker : String} {declaration : Declaration} {written : Attribute}

theorem traitRequest_eq_ok {request : ProxyRequest} :
    traitRequest table.host marker id declaration (some written) = .ok request ↔
      ∃ body, declaration.kind = .trait body ∧
        ∃ path handlerId handler, Refers table declaration.scope written path handlerId ∧
          table.declaration? handlerId = some handler ∧ handler.visible = true ∧
          ∃ target items, Reaches table handler path (proxyName declaration.qualifiedName)
              target items ∧
            ∃ interface, Enumeration.enumerate table.host id = .ok interface ∧
              request = .new interface target items := by
  unfold traitRequest
  simp only [← Declaration.trait?_eq_some]
  cases declaration.trait? with
  | none => simp
  | some body =>
      simp only [bind_eq_ok, attributePath_eq_ok, Attempt.require_eq_ok, Attempt.ask_eq_ok,
        Option.some.injEq, exists_eq_left', Enumeration.declaration_eq_ok,
        SymbolTable.host_declaration?, SymbolTable.host_find?, SymbolTable.host_resolve?,
        Except.ok.injEq]
      constructor
      · rintro ⟨segments, isPath, path, means, handlerId, found, handler, declared, continued⟩
        cases visible : handler.visible with
        | false =>
            rw [visible] at continued
            exact absurd continued Attempt.fail_ne_ok
        | true =>
            rw [visible, if_neg (by decide)] at continued
            simp only [bind_eq_ok, pure_eq_ok] at continued
            obtain ⟨⟨target, items⟩, reaches, interface, enumerated, same⟩ := continued
            exact ⟨path, handlerId, handler, ⟨⟨segments, isPath, means⟩, found⟩, declared, visible,
              target, items, (handlerTarget_eq_ok declared).mp reaches, interface, enumerated, same⟩
      · rintro ⟨path, handlerId, handler, ⟨⟨segments, isPath, means⟩, found⟩, declared, visible,
          target, items, reaches, interface, enumerated, same⟩
        refine ⟨segments, isPath, path, means, handlerId, found, handler, declared, ?_⟩
        rw [visible, if_neg (by decide)]
        simp only [bind_eq_ok, pure_eq_ok]
        exact ⟨(target, items), (handlerTarget_eq_ok declared).mpr reaches, interface, enumerated,
          same⟩

/-- The marker refers to a visible handler whose values can be reached. -/
def HasHandler (table : SymbolTable) (declaration : Declaration) (written : Attribute) : Prop :=
  ∃ path handlerId handler, Refers table declaration.scope written path handlerId ∧
    table.declaration? handlerId = some handler ∧ handler.visible = true ∧ Reachable table handler

/-- A struct without `Default` that records two constructors, each in another scope. -/
def wheel : Declaration :=
  ⟨"Wheel", "crate::shop", 1, .struct ⟨false, false⟩, [], none, true⟩

/-- A trait that is handled by the struct. -/
def cart : Declaration :=
  ⟨"Cart", "crate", 0,
    .trait ⟨false, [], [.method ⟨"roll", some .shared, [], none, false, false⟩]⟩,
    [⟨"with_proxy", some "shop::Wheel"⟩], none, true⟩

/-- A trait that is handled by a function. -/
def sledge : Declaration :=
  ⟨"Sledge", "crate", 0, .trait ⟨false, [], []⟩, [⟨"with_proxy", some "slide"⟩], none, true⟩

/-- These traits with what is named in their markers. -/
def garage : SymbolTable where
  scopes := [.new "crate" none, .new "crate::shop" none]
  declarations := [cart, wheel, sledge,
    ⟨"slide", "crate", 0, .function ⟨"slide", none, [], none, false, true⟩, [], none, true⟩]
  facts := [⟨1, .path ["Wheel"] [], .constructor "spare"⟩,
    ⟨0, .path ["shop", "Wheel"] [], .constructor "new"⟩]
  announced := []

end ForwardingProxy.Classification
