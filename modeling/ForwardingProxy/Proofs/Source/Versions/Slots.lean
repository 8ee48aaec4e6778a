import ForwardingProxy.Proofs.Source.Braces

/-!
Contract: the tokens of two versions of a text that differ in groups of braces only.

Owns: `Source.Slot`, a token that both versions have or a group of braces that each version has its
own inside of; and what it means that both versions of a reading go the same way: `Lands`,
`MayLand` and `Reads`.

Every reading below is shown to go the same way in both versions, so that it ends at the same slot;
what it reads may differ only if it passes over a group that the versions do not share.
-/

namespace ForwardingProxy.Source

/-- A text before and after groups of braces in it are replaced. -/
inductive Version where
  | original
  | changed
deriving DecidableEq, Repr

/-- A token that both versions have, each on a line of its own. -/
structure Shared where
  kind : Lexeme.Kind
  text : String
  before : List Lexeme
  line : Version → Nat

/-- The token in a version. -/
def Shared.on (shared : Shared) (version : Version) : Token :=
  ⟨shared.kind, shared.text, shared.line version, shared.before⟩

/-- A group of braces that each version has its own inside of. -/
structure Body where
  opening : Shared
  inside : Version → List Token
  closing : Version → Token
  encloses : ∀ version, Encloses (opening.on version) (inside version) (closing version)

/-- A place in a text with two versions. -/
inductive Slot where
  | token (shared : Shared)
  | body (body : Body)

/-- What stands first at a place. -/
def Slot.first : Slot → Shared
  | .token shared => shared
  | .body group => group.opening

/-- The tokens of a version. -/
def tokensOn (version : Version) : List Slot → List Token
  | [] => []
  | .token shared :: rest => shared.on version :: tokensOn version rest
  | .body body :: rest =>
      body.opening.on version ::
        (body.inside version ++ body.closing version :: tokensOn version rest)

/-- What stands first at the places, without the line. -/
def faces (slots : List Slot) : List Token :=
  slots.map fun slot => ⟨slot.first.kind, slot.first.text, 0, slot.first.before⟩

/-- Both versions have all tokens. -/
def Plain (slots : List Slot) : Prop :=
  ∀ slot ∈ slots, ∃ shared, slot = .token shared

section Slots

variable {version : Version} {shared : Shared} {body : Body} {slots rest passed : List Slot}

@[simp] theorem tokensOn_nil : tokensOn version [] = [] := rfl

@[simp] theorem tokensOn_token :
    tokensOn version (.token shared :: rest) = shared.on version :: tokensOn version rest := rfl

@[simp] theorem tokensOn_body :
    tokensOn version (.body body :: rest) =
      body.opening.on version ::
        (body.inside version ++ body.closing version :: tokensOn version rest) := rfl

@[simp] theorem Shared.kind_on : (shared.on version).kind = shared.kind := rfl

@[simp] theorem Shared.text_on : (shared.on version).text = shared.text := rfl

@[simp] theorem Shared.before_on : (shared.on version).before = shared.before := rfl

@[simp] theorem faces_nil : faces [] = [] := rfl

@[simp] theorem faces_cons (slot : Slot) :
    faces (slot :: rest) = ⟨slot.first.kind, slot.first.text, 0, slot.first.before⟩ :: faces rest :=
  rfl

@[simp] theorem Slot.first_token : (Slot.token shared).first = shared := rfl

@[simp] theorem Slot.first_body : (Slot.body body).first = body.opening := rfl

theorem Body.kind (body : Body) : body.opening.kind = .mark :=
  beq_iff_eq.mp (Bool.and_eq_true_iff.mp (body.encloses .original).isOpening).1

theorem Body.text (body : Body) : body.opening.text = "\x7b" :=
  beq_iff_eq.mp (Bool.and_eq_true_iff.mp (body.encloses .original).isOpening).2

theorem tokensOn_append (version : Version) (passed rest : List Slot) :
    tokensOn version (passed ++ rest) = tokensOn version passed ++ tokensOn version rest := by
  induction passed with
  | nil => rfl
  | cons slot passed inductionHypothesis =>
      cases slot <;> simp [inductionHypothesis]

theorem length_le_tokensOn (version : Version) (slots : List Slot) :
    slots.length ≤ (tokensOn version slots).length := by
  induction slots with
  | nil => exact Nat.le_refl 0
  | cons slot rest inductionHypothesis =>
      cases slot <;> simp only [tokensOn_token, tokensOn_body, List.length_cons,
        List.length_append] <;> omega

theorem Plain.left (plain : Plain (passed ++ rest)) : Plain passed :=
  fun slot member => plain slot (List.mem_append_left rest member)

theorem Plain.right (plain : Plain (passed ++ rest)) : Plain rest :=
  fun slot member => plain slot (List.mem_append_right passed member)

theorem Plain.append (ofPassed : Plain passed) (ofRest : Plain rest) : Plain (passed ++ rest) :=
  fun slot member => (List.mem_append.mp member).elim (ofPassed slot) (ofRest slot)

theorem Plain.of_suffix (plain : Plain slots) (isLast : rest <:+ slots) : Plain rest :=
  fun slot member => plain slot (isLast.subset member)

theorem Plain.of_infix (plain : Plain slots) (areIn : rest <:+: slots) : Plain rest :=
  fun slot member => plain slot (areIn.subset member)

theorem Plain.not_body (plain : Plain slots) : .body body ∉ slots :=
  fun member => nomatch plain _ member

theorem length_tokensOn (plain : Plain slots) (version : Version) :
    (tokensOn version slots).length = slots.length := by
  induction slots with
  | nil => rfl
  | cons slot rest inductionHypothesis =>
      obtain ⟨shared, rfl⟩ := plain slot List.mem_cons_self
      rw [tokensOn_token, List.length_cons, List.length_cons,
        inductionHypothesis (plain.of_suffix (List.suffix_cons _ rest))]

/-! ### What comes first -/

theorem startsWithMark_on (marks : List String) (version : Version) (slots : List Slot) :
    startsWithMark marks (tokensOn version slots) = startsWithMark marks (faces slots) := by
  cases slots with
  | nil => rfl
  | cons slot rest => cases slot <;> rfl

theorem startsWithWord_on (words : List String) (version : Version) (slots : List Slot) :
    startsWithWord words (tokensOn version slots) = startsWithWord words (faces slots) := by
  cases slots with
  | nil => rfl
  | cons slot rest => cases slot <;> rfl

theorem startsWithKind_on (kind : Lexeme.Kind) (version : Version) (slots : List Slot) :
    startsWithKind kind (tokensOn version slots) = startsWithKind kind (faces slots) := by
  cases slots with
  | nil => rfl
  | cons slot rest => cases slot <;> rfl

theorem startsWithLifetime_on (version : Version) (slots : List Slot) :
    startsWithLifetime (tokensOn version slots) = startsWithLifetime (faces slots) :=
  startsWithKind_on .lifetime version slots

/-- A mark that comes first is a token of its own, unless it is the brace of a group. -/
theorem exists_of_startsWithMark {marks : List String}
    (starts : startsWithMark marks (faces slots) = true) (noBrace : "\x7b" ∉ marks) :
    ∃ shared rest, slots = .token shared :: rest ∧ shared.kind = .mark ∧ shared.text ∈ marks := by
  cases slots with
  | nil => cases starts
  | cons slot rest =>
      have isFirst : slot.first.kind = .mark ∧ slot.first.text ∈ marks := by
        simpa [startsWithMark] using starts
      cases slot with
      | token shared => exact ⟨shared, rest, rfl, isFirst⟩
      | body body => exact absurd (body.text ▸ isFirst.2) noBrace

theorem exists_of_startsWithKind {kind : Lexeme.Kind}
    (starts : startsWithKind kind (faces slots) = true) (noMark : kind ≠ .mark) :
    ∃ shared rest, slots = .token shared :: rest ∧ shared.kind = kind := by
  cases slots with
  | nil => cases starts
  | cons slot rest =>
      have isFirst : slot.first.kind = kind := by
        simpa [startsWithKind] using starts
      cases slot with
      | token shared => exact ⟨shared, rest, rfl, isFirst⟩
      | body body => exact absurd (isFirst.symm.trans body.kind) noMark

theorem exists_of_startsWithWord {words : List String}
    (starts : startsWithWord words (faces slots) = true) :
    ∃ shared rest, slots = .token shared :: rest ∧ shared.kind = .word ∧ shared.text ∈ words := by
  cases slots with
  | nil => cases starts
  | cons slot rest =>
      have isFirst : slot.first.kind = .word ∧ slot.first.text ∈ words := by
        simpa [startsWithWord] using starts
      cases slot with
      | token shared => exact ⟨shared, rest, rfl, isFirst⟩
      | body body => exact nomatch isFirst.1.symm.trans body.kind

end Slots

/-! ### Going the same way -/

/-- Both versions go on at the same place. -/
def Lands (slots : List Slot) (after : Version → List Token) : Prop :=
  ∃ rest, rest <:+ slots ∧ ∀ version, after version = tokensOn version rest

/-- Both versions go on at the same place, or neither of them goes on. -/
inductive MayLand (slots : List Slot) (after : Version → Option (List Token)) : Prop
  | nowhere (isNone : ∀ version, after version = none)
  | lands {rest : List Slot} (isLast : rest <:+ slots)
      (isSome : ∀ version, after version = some (tokensOn version rest))

/-- Both versions read something and go on at the same place, or neither of them reads anything.
What they read agrees in the given sense, which may depend on the places that are passed over. -/
inductive Reads {Value : Type} (agree : List Slot → (Version → Value) → Prop) (slots : List Slot)
    (read : Version → Option (Value × List Token)) : Prop
  | fails (isNone : ∀ version, read version = none)
  | passes {passed rest : List Slot} {value : Version → Value} (isAll : slots = passed ++ rest)
      (isSome : ∀ version, read version = some (value version, tokensOn version rest))
      (agrees : agree passed value)

/-- Where both versions have all tokens that are passed over, they read the same. -/
def Settled {Value : Type} (passed : List Slot) (value : Version → Value) : Prop :=
  Plain passed → value .original = value .changed

/-- Both versions read the same whatever is passed over. -/
def Same {Value : Type} (_ : List Slot) (value : Version → Value) : Prop :=
  value .original = value .changed

section Ways

variable {slots rest passed : List Slot} {Value : Type}
  {agree : List Slot → (Version → Value) → Prop}

theorem Lands.of_suffix (isLast : rest <:+ slots) :
    Lands slots fun version => tokensOn version rest :=
  ⟨rest, isLast, fun _ => rfl⟩

theorem Lands.congr {after other : Version → List Token} (lands : Lands slots other)
    (same : ∀ version, after version = other version) : Lands slots after := by
  obtain ⟨rest, isLast, isRest⟩ := lands
  exact ⟨rest, isLast, fun version => (same version).trans (isRest version)⟩

theorem Lands.mono {after : Version → List Token} (lands : Lands rest after)
    (isLast : rest <:+ slots) : Lands slots after := by
  obtain ⟨further, isFurther, isRest⟩ := lands
  exact ⟨further, isFurther.trans isLast, isRest⟩

theorem Lands.branch {condition : Prop} {decides : Version → Decidable condition}
    {first second : Version → List Token}
    (ofFirst : condition → Lands slots first) (ofSecond : ¬condition → Lands slots second) :
    Lands slots fun version =>
      @ite _ condition (decides version) (first version) (second version) := by
  by_cases holds : condition
  · exact (ofFirst holds).congr fun version => if_pos holds
  · exact (ofSecond holds).congr fun version => if_neg holds

theorem MayLand.congr {after other : Version → Option (List Token)} (lands : MayLand slots other)
    (same : ∀ version, after version = other version) : MayLand slots after := by
  cases lands with
  | nowhere isNone => exact .nowhere fun version => (same version).trans (isNone version)
  | lands isLast isSome => exact .lands isLast fun version => (same version).trans (isSome version)

theorem MayLand.branch {condition : Prop} {decides : Version → Decidable condition}
    {first second : Version → Option (List Token)} (ofFirst : condition → MayLand slots first)
    (ofSecond : ¬condition → MayLand slots second) :
    MayLand slots fun version =>
      @ite _ condition (decides version) (first version) (second version) := by
  by_cases holds : condition
  · exact (ofFirst holds).congr fun version => if_pos holds
  · exact (ofSecond holds).congr fun version => if_neg holds

theorem MayLand.mono {after : Version → Option (List Token)} (lands : MayLand rest after)
    (isLast : rest <:+ slots) : MayLand slots after := by
  cases lands with
  | nowhere isNone => exact .nowhere isNone
  | lands isFurther isSome => exact .lands (isFurther.trans isLast) isSome

/-- What goes on where something else lands. -/
theorem MayLand.bind {first : Version → Option (List Token)}
    {next : Version → List Token → Option (List Token)} (lands : MayLand slots first)
    (goesOn : ∀ rest, rest <:+ slots →
      MayLand rest fun version => next version (tokensOn version rest)) :
    MayLand slots fun version => (first version).bind (next version) := by
  cases lands with
  | nowhere isNone =>
      exact .nowhere fun version => by rw [isNone version, Option.bind_none]
  | @lands rest isLast isSome =>
      refine ((goesOn rest isLast).mono isLast).congr fun version => ?_
      rw [isSome version, Option.bind_some]

theorem Lands.mayLand {after : Version → List Token} (lands : Lands slots after) :
    MayLand slots fun version => some (after version) := by
  obtain ⟨rest, isLast, isRest⟩ := lands
  exact .lands isLast fun version => congrArg some (isRest version)

theorem Reads.congr {read other : Version → Option (Value × List Token)}
    (reads : Reads agree slots other) (same : ∀ version, read version = other version) :
    Reads agree slots read := by
  cases reads with
  | fails isNone => exact .fails fun version => (same version).trans (isNone version)
  | passes isAll isSome agrees =>
      exact .passes isAll (fun version => (same version).trans (isSome version)) agrees

theorem Reads.isSome {read : Version → Option (Value × List Token)}
    (reads : Reads agree slots read) (version : Version) :
    (read version).isSome = (read .original).isSome := by
  cases reads with
  | fails isNone => rw [isNone version, isNone .original]
  | passes isAll isSome agrees => rw [isSome version, isSome .original]; rfl

/-- What is read from places behind others. -/
theorem Reads.widen {agreeToo : List Slot → (Version → Value) → Prop}
    {read : Version → Option (Value × List Token)} (reads : Reads agree rest read)
    (isLast : rest <:+ slots)
    (agreement : ∀ before passed value, agree passed value → agreeToo (before ++ passed) value) :
    Reads agreeToo slots read := by
  cases reads with
  | fails isNone => exact .fails isNone
  | passes isAll isSome agrees =>
      obtain ⟨before, rfl⟩ := isLast
      exact .passes (by rw [isAll, List.append_assoc]) isSome (agreement before _ _ agrees)

theorem Reads.branch {condition : Prop} {decides : Version → Decidable condition}
    {first second : Version → Option (Value × List Token)}
    (ofFirst : condition → Reads agree slots first)
    (ofSecond : ¬condition → Reads agree slots second) :
    Reads agree slots fun version =>
      @ite _ condition (decides version) (first version) (second version) := by
  by_cases holds : condition
  · exact (ofFirst holds).congr fun version => if_pos holds
  · exact (ofSecond holds).congr fun version => if_neg holds

theorem Reads.mayLand {read : Version → Option (Value × List Token)}
    (reads : Reads agree slots read) :
    MayLand slots fun version => (read version).map Prod.snd := by
  cases reads with
  | fails isNone => exact .nowhere fun version => by rw [isNone version, Option.map_none]
  | passes isAll isSome agrees =>
      exact .lands ⟨_, isAll.symm⟩ fun version => by rw [isSome version, Option.map_some]

/-- What goes on where something is read. -/
theorem Reads.bindLands {read : Version → Option (Value × List Token)}
    {next : Version → List Token → Option (List Token)} (reads : Reads agree slots read)
    (goesOn : ∀ rest, rest <:+ slots →
      MayLand rest fun version => next version (tokensOn version rest)) :
    MayLand slots fun version => (read version).bind fun found => next version found.2 := by
  refine (reads.mayLand.bind goesOn).congr fun version => ?_
  rw [Option.bind_map]
  rfl

/-- A reading that always reads something. -/
theorem Reads.exists_of_some {read : Version → Value × List Token}
    (reads : Reads agree slots fun version => some (read version)) :
    ∃ passed rest value, slots = passed ++ rest ∧
      (∀ version, read version = (value version, tokensOn version rest)) ∧ agree passed value := by
  cases reads with
  | fails isNone => cases isNone .original
  | passes isAll isSome agrees =>
      exact ⟨_, _, _, isAll, fun version => Option.some.inj (isSome version), agrees⟩

/-- Behind what is always read. -/
theorem Reads.lands {read : Version → Value × List Token}
    (reads : Reads agree slots fun version => some (read version)) :
    Lands slots fun version => (read version).2 := by
  obtain ⟨passed, rest, value, isAll, areRead, -⟩ := reads.exists_of_some
  exact ⟨rest, ⟨passed, isAll.symm⟩, fun version => congrArg Prod.snd (areRead version)⟩

/-- What is read on where something else was read. -/
theorem Reads.bind {Other : Type} {agreeToo : List Slot → (Version → Other) → Prop}
    {first : Version → Option (Value × List Token)}
    {next : Version → Value × List Token → Option (Other × List Token)}
    (reads : Reads agree rest first) (isLast : rest <:+ slots)
    (goesOn : ∀ before passed after value, slots = before ++ (passed ++ after) →
      rest = passed ++ after → agree passed value →
        Reads agreeToo slots fun version => next version (value version, tokensOn version after)) :
    Reads agreeToo slots fun version => first version >>= next version := by
  cases reads with
  | fails isNone => exact .fails fun version => by rw [isNone version]; rfl
  | passes isAll isSome agrees =>
      obtain ⟨before, rfl⟩ := isLast
      refine (goesOn before _ _ _ (by rw [isAll]) isAll agrees).congr fun version => ?_
      rw [isSome version]
      rfl

/-- What is read where something else lands. -/
theorem MayLand.bindReads {first : Version → Option (List Token)}
    {next : Version → List Token → Option (Value × List Token)} (lands : MayLand rest first)
    (goesOn : ∀ after, after <:+ rest →
      Reads agree slots fun version => next version (tokensOn version after)) :
    Reads agree slots fun version => first version >>= next version := by
  cases lands with
  | nowhere isNone => exact .fails fun version => by rw [isNone version]; rfl
  | lands isFurther isSome =>
      refine (goesOn _ isFurther).congr fun version => ?_
      rw [isSome version]
      rfl

/-- What is read in front of what both versions pass over. -/
theorem Reads.mapLands {Other : Type} {agreeToo : List Slot → (Version → Other) → Prop}
    {read : Version → Option (Value × List Token)} {make : Version → Value → Other}
    {next : List Token → List Token} (reads : Reads agree slots read)
    (lands : ∀ places, Lands places fun version => next (tokensOn version places))
    (agreement : ∀ passed more value, agree passed value →
      agreeToo (passed ++ more) fun version => make version (value version)) :
    Reads agreeToo slots fun version =>
      (read version).map fun found => (make version found.1, next found.2) := by
  cases reads with
  | fails isNone => exact .fails fun version => by rw [isNone version]; rfl
  | @passes passed after value isAll isSome agrees =>
      obtain ⟨rest, ⟨more, rfl⟩, isRest⟩ := lands after
      rw [← List.append_assoc] at isAll
      refine .passes isAll (fun version => ?_) (agreement passed more value agrees)
      rw [isSome version, Option.map_some]
      exact congrArg (fun last => some (make version (value version), last)) (isRest version)

theorem exists_of_settled {Value : Type} {value : Version → Value} (settled : Settled passed value)
    (plain : Plain passed) : ∃ same, ∀ version, value version = same :=
  ⟨value .original, fun version => by cases version with
    | original => rfl
    | changed => exact (settled plain).symm⟩

/-- Where both versions have all tokens, what is read is one and the same. -/
theorem Reads.plain {Value : Type} {read : Version → Option (Value × List Token)}
    (reads : Reads Settled slots read) (plain : Plain slots) :
    (∀ version, read version = none) ∨ ∃ value rest, rest <:+ slots ∧
      ∀ version, read version = some (value, tokensOn version rest) := by
  cases reads with
  | fails isNone => exact .inl isNone
  | @passes passed rest value isAll isSome agrees =>
      subst isAll
      obtain ⟨same, areSame⟩ := exists_of_settled agrees plain.left
      exact .inr ⟨same, rest, List.suffix_append passed rest, fun version =>
        (isSome version).trans (by rw [areSame version])⟩

end Ways

/-! ### Source text -/

theorem tokensUntil_on (version : Version) (passed rest : List Slot) :
    tokensUntil (tokensOn version (passed ++ rest)) (tokensOn version rest) =
      tokensOn version passed := by
  rw [tokensUntil, tokensOn_append, List.length_append, Nat.add_sub_cancel, List.take_left]

theorem textUntil_on (version : Version) (passed rest : List Slot) :
    textUntil (tokensOn version (passed ++ rest)) (tokensOn version rest) =
      sourceText (tokensOn version passed) := by
  rw [textUntil, tokensUntil_on]

/-- The text of tokens that both versions have. -/
theorem settled_sourceText (slots : List Slot) :
    Settled slots fun version => sourceText (tokensOn version slots) := by
  intro plain
  have sameTexts (slots : List Slot) (plain : Plain slots) :
      (tokensOn .original slots).map Token.textWithBefore =
        (tokensOn .changed slots).map Token.textWithBefore := by
    induction slots with
    | nil => rfl
    | cons slot rest inductionHypothesis =>
        obtain ⟨shared, rfl⟩ := plain slot List.mem_cons_self
        have ofRest := inductionHypothesis (plain.of_suffix (List.suffix_cons _ rest))
        simp only [tokensOn_token, List.map_cons, ofRest]
        rfl
  cases slots with
  | nil => rfl
  | cons slot rest =>
      obtain ⟨shared, rfl⟩ := plain slot List.mem_cons_self
      have ofRest := sameTexts rest (plain.of_suffix (List.suffix_cons _ rest))
      simp only [tokensOn_token, sourceText, ofRest, Shared.text_on]

theorem settled_textUntil {all passed rest : List Slot} (isAll : all = passed ++ rest) :
    Settled passed fun version => textUntil (tokensOn version all) (tokensOn version rest) := by
  subst isAll
  simp only [textUntil_on]
  exact settled_sourceText passed

end ForwardingProxy.Source
