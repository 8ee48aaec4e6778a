import ForwardingProxy.Proofs.Enumeration.Walk
import ForwardingProxy.Proofs.Host
import Mathlib.Data.List.Nodup

/-!
Contract: the order in which an enumeration visits traits.

Owns: `Preordered`, the depth-first listing of the supertraits of a trait in which no branch passes
a trait twice, its existence and uniqueness, and the fact that a walk enters the first occurrences
of that listing in their order.

A walk remembers all traits that it has entered, while a listing looks at its own branch only and
lists what stands above several traits again and again. That both agree up to repetitions rests on
`Closed`: what a walk has left behind has all its supertraits among the entered ones.
-/

namespace ForwardingProxy.Enumeration

/-! ### Listings -/

/-- The names of the pending declarations and of their supertraits in depth-first preorder, bound by
bound. A branch ends where it comes back to one of the traits that it has passed, `above`. -/
inductive Preordered (host : Host) (interface : String) :
    (above : List String) → (pending : List Nat) → (listed : List String) → Prop where
  | done (above : List String) : Preordered host interface above [] []
  | back {above : List String} {id : Nat} {pending : List Nat} {listed : List String}
      {declaration : Declaration}
      (declared : host.declaration? id = .ok (some declaration))
      (passed : declaration.qualifiedName ∈ above)
      (rest : Preordered host interface above pending listed) :
      Preordered host interface above (id :: pending) listed
  | enter {above : List String} {lower : Nat} {pending : List Nat} {upper listed : List String}
      {declaration : Declaration} {body : TraitBody} {targets : List (Option Nat)}
      (declared : host.declaration? lower = .ok (some declaration))
      (isTrait : declaration.trait? = some body)
      (fresh : declaration.qualifiedName ∉ above)
      (followed : List.Forall₂
        (fun bound target => supertrait? host interface declaration bound = .ok target)
        body.supertraits targets)
      (below : Preordered host interface (declaration.qualifiedName :: above)
        (targets.filterMap id) upper)
      (rest : Preordered host interface above pending listed) :
      Preordered host interface above (lower :: pending)
        (declaration.qualifiedName :: (upper ++ listed))

variable {host : Host} {interface : String}

private theorem targets_unique {declaration : Declaration} {bounds : List TypeSyntax}
    {first second : List (Option Nat)}
    (leadsFirst : List.Forall₂
      (fun bound target => supertrait? host interface declaration bound = .ok target) bounds first)
    (leadsSecond : List.Forall₂
      (fun bound target => supertrait? host interface declaration bound = .ok target)
      bounds second) : first = second := by
  rw [← mapM_eq_ok] at leadsFirst leadsSecond
  exact Except.ok.inj (leadsFirst.symm.trans leadsSecond)

/-- There is one listing at most. -/
theorem Preordered.unique {above : List String} {pending : List Nat} {first second : List String}
    (isFirst : Preordered host interface above pending first)
    (isSecond : Preordered host interface above pending second) : first = second := by
  induction isFirst generalizing second with
  | done above =>
      cases isSecond
      rfl
  | back declared passed rest inductionHypothesis =>
      cases isSecond with
      | back declaredAgain passedAgain restAgain => exact inductionHypothesis restAgain
      | enter declaredAgain isTrait fresh followed below restAgain =>
          cases declared.symm.trans declaredAgain
          exact absurd passed fresh
  | enter declared isTrait fresh followed below rest belowHypothesis restHypothesis =>
      cases isSecond with
      | back declaredAgain passed restAgain =>
          cases declared.symm.trans declaredAgain
          exact absurd passed fresh
      | enter declaredAgain isTraitAgain freshAgain followedAgain belowAgain restAgain =>
          cases declared.symm.trans declaredAgain
          cases isTrait.symm.trans isTraitAgain
          cases targets_unique followed followedAgain
          rw [belowHypothesis belowAgain, restHypothesis restAgain]

/-! ### First occurrences -/

/-- The names that are not known yet, each where it comes up first. -/
def newNames : (known listed : List String) → List String
  | _, [] => []
  | known, name :: rest =>
      if name ∈ known then newNames known rest else name :: newNames (known ++ [name]) rest

theorem newNames_append (known first second : List String) :
    newNames known (first ++ second) =
      newNames known first ++ newNames (known ++ newNames known first) second := by
  induction first generalizing known with
  | nil => simp [newNames]
  | cons name rest inductionHypothesis =>
      rw [List.cons_append, newNames, newNames]
      by_cases isKnown : name ∈ known
      · rw [if_pos isKnown, if_pos isKnown, inductionHypothesis]
      · rw [if_neg isKnown, if_neg isKnown, inductionHypothesis]
        simp [List.append_assoc]

theorem newNames_of_subset {known listed : List String} (subset : listed ⊆ known) :
    newNames known listed = [] := by
  induction listed with
  | nil => rfl
  | cons name rest inductionHypothesis =>
      obtain ⟨isKnown, later⟩ := List.cons_subset.mp subset
      rw [newNames, if_pos isKnown, inductionHypothesis later]

theorem newNames_eq_eraseDups (known listed : List String) :
    newNames known listed = (listed.filter (· ∉ known)).eraseDups := by
  induction listed generalizing known with
  | nil => rfl
  | cons name rest inductionHypothesis =>
      rw [newNames]
      by_cases isKnown : name ∈ known
      · rw [if_pos isKnown, inductionHypothesis, List.filter_cons_of_neg (by simpa using isKnown)]
      · rw [if_neg isKnown, inductionHypothesis, List.filter_cons_of_pos (by simpa using isKnown),
          List.eraseDups_cons, List.filter_filter]
        congr 2
        apply List.filter_congr
        intro other _
        by_cases same : other = name <;> simp [same]

/-! ### Walks in parts -/

/-- A walk in which the traits above an entered one make up a part of their own. -/
inductive Visits (host : Host) (interface : String) :
    (known : List String) → (pending : List Nat) → (parts : List Part) → Prop where
  | done (known : List String) : Visits host interface known [] []
  | again {known : List String} {id : Nat} {pending : List Nat} {parts : List Part}
      {declaration : Declaration}
      (declared : host.declaration? id = .ok (some declaration))
      (repeated : declaration.qualifiedName ∈ known)
      (rest : Visits host interface known pending parts) :
      Visits host interface known (id :: pending) parts
  | enter {known : List String} {pending : List Nat} {upper parts : List Part} {part : Part}
      {targets : List (Option Nat)}
      (belongs : part.BelongsTo host interface)
      (fresh : part.name ∉ known)
      (followed : List.Forall₂
        (fun bound target => supertrait? host interface part.owner bound = .ok target)
        part.body.supertraits targets)
      (below : Visits host interface (known ++ [part.name]) (targets.filterMap id) upper)
      (rest : Visits host interface (known ++ [part.name] ++ upper.map Part.name) pending parts) :
      Visits host interface known (part.id :: pending) (part :: (upper ++ parts))

/-- Visits of some declarations and then of others come one after the other. -/
theorem Visits.split {known : List String} {first second : List Nat} {parts : List Part}
    (visits : Visits host interface known (first ++ second) parts) :
    ∃ before after, parts = before ++ after ∧ Visits host interface known first before ∧
      Visits host interface (known ++ before.map Part.name) second after := by
  generalize isPending : first ++ second = pending at visits
  induction visits generalizing first with
  | done known =>
      obtain ⟨rfl, rfl⟩ := List.append_eq_nil_iff.mp isPending
      exact ⟨[], [], rfl, .done known, by simpa using .done known⟩
  | @again known id pending parts declaration declared repeated rest inductionHypothesis =>
      cases first with
      | nil =>
          rw [List.nil_append] at isPending
          subst isPending
          exact ⟨[], parts, rfl, .done known, by simpa using .again declared repeated rest⟩
      | cons head tail =>
          obtain ⟨rfl, isTail⟩ := List.cons_eq_cons.mp isPending
          obtain ⟨before, after, areParts, visitsFirst, visitsSecond⟩ := inductionHypothesis isTail
          exact ⟨before, after, areParts, .again declared repeated visitsFirst, visitsSecond⟩
  | @enter known pending upper parts part targets belongs fresh followed below rest
      belowHypothesis restHypothesis =>
      cases first with
      | nil =>
          rw [List.nil_append] at isPending
          subst isPending
          refine ⟨[], part :: (upper ++ parts), rfl, .done known, ?_⟩
          simpa using Visits.enter belongs fresh followed below rest
      | cons head tail =>
          obtain ⟨rfl, isTail⟩ := List.cons_eq_cons.mp isPending
          obtain ⟨before, after, rfl, visitsFirst, visitsSecond⟩ := restHypothesis isTail
          refine ⟨part :: (upper ++ before), after, by simp,
            .enter belongs fresh followed below visitsFirst, ?_⟩
          simpa [List.append_assoc] using visitsSecond

/-- Every pending declaration ends up known or entered. -/
theorem Visits.covers {known : List String} {pending : List Nat} {parts : List Part}
    (visits : Visits host interface known pending parts) {id : Nat} (waiting : id ∈ pending)
    {declaration : Declaration} (declared : host.declaration? id = .ok (some declaration)) :
    declaration.qualifiedName ∈ known ++ parts.map Part.name := by
  induction visits with
  | done known => cases waiting
  | again declaredOne repeated rest inductionHypothesis =>
      rcases List.mem_cons.mp waiting with rfl | later
      · cases declared.symm.trans declaredOne
        exact List.mem_append_left _ repeated
      · exact inductionHypothesis later
  | enter belongs fresh followed below rest belowHypothesis restHypothesis =>
      rcases List.mem_cons.mp waiting with rfl | later
      · cases declared.symm.trans belongs.declared
        simp [Part.name]
      · have covered := restHypothesis later
        simpa [or_assoc] using covered

theorem Walk.visits {known : List String} {pending : List Nat} {parts : List Part}
    (walk : Walk host interface known pending parts) :
    Visits host interface known pending parts := by
  induction walk with
  | done known => exact .done known
  | again declared repeated rest inductionHypothesis =>
      exact .again declared repeated inductionHypothesis
  | enter belongs fresh followed rest inductionHypothesis =>
      obtain ⟨upper, later, rfl, below, after⟩ := inductionHypothesis.split
      exact .enter belongs fresh followed below after

/-! ### Walks and listings -/

/-- The declaration is the one that is found under its name. -/
def Found (host : Host) (id : Nat) : Prop :=
  ∃ declaration, host.declaration? id = .ok (some declaration) ∧
    host.find? declaration.qualifiedName = .ok (some id)

/-- What is found under a name bears it. -/
def FindsNames (host : Host) : Prop :=
  ∀ {name id}, host.find? name = .ok (some id) →
    ∃ declaration, host.declaration? id = .ok (some declaration) ∧
      declaration.qualifiedName = name

theorem SymbolTable.host_findsNames (table : SymbolTable) : FindsNames table.host := by
  intro name id isFound
  obtain ⟨inRange, sameName, _⟩ := List.findIdx?_eq_some_iff_getElem.mp (Except.ok.inj isFound)
  exact ⟨table.declarations[id], congrArg Except.ok (List.getElem?_eq_getElem inRange),
    by simpa using sameName⟩

theorem Supertrait.found (finds : FindsNames host) {lower upper : Nat}
    (leads : Supertrait host lower upper) : Found host upper := by
  obtain ⟨_, _, _, name, _, _, _, _, _, isFound⟩ := leads
  obtain ⟨declaration, declared, rfl⟩ := finds isFound
  exact ⟨declaration, declared, isFound⟩

/-- Known traits that are not on the branch `above` have known supertraits only. -/
def Closed (host : Host) (known above : List String) : Prop :=
  ∀ ⦃lower upper : Nat⦄ ⦃declaration other : Declaration⦄,
    host.declaration? lower = .ok (some declaration) →
    host.find? declaration.qualifiedName = .ok (some lower) →
    declaration.qualifiedName ∈ known → declaration.qualifiedName ∉ above →
    Supertrait host lower upper → host.declaration? upper = .ok (some other) →
    other.qualifiedName ∈ known

/-- A branch that is left has to have all supertraits of its last trait among the known ones. -/
theorem Closed.leave {known above : List String} {id : Nat} {declaration : Declaration}
    (closed : Closed host known (declaration.qualifiedName :: above))
    (declared : host.declaration? id = .ok (some declaration))
    (found : host.find? declaration.qualifiedName = .ok (some id))
    (entered : ∀ {upper other}, Supertrait host id upper →
      host.declaration? upper = .ok (some other) → other.qualifiedName ∈ known) :
    Closed host known above := by
  intro lower upper lowerDeclaration other lowerDeclared lowerFound isKnown notAbove leads isUpper
  by_cases same : lowerDeclaration.qualifiedName = declaration.qualifiedName
  · have sameId : lower = id := by
      rw [same, found] at lowerFound
      cases lowerFound
      rfl
    subst sameId
    exact entered leads isUpper
  · refine closed lowerDeclared lowerFound isKnown ?_ leads isUpper
    rw [List.mem_cons, not_or]
    exact ⟨same, notAbove⟩

theorem Closed.above {known above : List String} (closed : Closed host known above)
    (name : String) : Closed host known (name :: above) := by
  intro lower upper declaration other declared found isKnown notAbove leads isUpper
  rw [List.mem_cons, not_or] at notAbove
  exact closed declared found isKnown notAbove.2 leads isUpper

theorem Closed.descend {known above : List String} (closed : Closed host known above)
    (name : String) : Closed host (known ++ [name]) (name :: above) := by
  intro lower upper declaration other declared found isKnown notAbove leads isUpper
  have wasKnown : declaration.qualifiedName ∈ known := by
    rcases List.mem_append.mp isKnown with before | isNew
    · exact before
    · exact absurd (List.mem_singleton.mp isNew) fun same => notAbove (same ▸ List.mem_cons_self)
  exact List.mem_append_left _
    (closed.above name declared found wasKnown notAbove leads isUpper)

/-- What is listed below known traits that the walk has left is known itself. -/
theorem Preordered.subset {above : List String} {pending : List Nat} {listed known : List String}
    (finds : FindsNames host) (preordered : Preordered host interface above pending listed)
    (closed : Closed host known above)
    (pendingKnown : ∀ id ∈ pending, Found host id ∧ ∀ declaration,
      host.declaration? id = .ok (some declaration) → declaration.qualifiedName ∈ known) :
    listed ⊆ known := by
  induction preordered with
  | done above => exact List.nil_subset known
  | back declared passed rest inductionHypothesis =>
      exact inductionHypothesis closed fun id member =>
        pendingKnown id (List.mem_cons_of_mem _ member)
  | @enter above lower pending upper listed declaration body targets declared isTrait fresh followed
      below rest belowHypothesis restHypothesis =>
      obtain ⟨⟨_, declaredAgain, found⟩, namesKnown⟩ := pendingKnown lower (by simp)
      cases declared.symm.trans declaredAgain
      have isKnown := namesKnown declaration declared
      have upperKnown : upper ⊆ known := by
        refine belowHypothesis (closed.above _) fun target isTarget => ?_
        have leads := (mem_targets_iff declared isTrait followed).mp isTarget
        exact ⟨leads.found finds, fun other isOther =>
          closed declared found isKnown fresh leads isOther⟩
      have laterKnown : listed ⊆ known := restHypothesis closed fun other member =>
        pendingKnown other (List.mem_cons_of_mem lower member)
      exact List.cons_subset.mpr ⟨isKnown, List.append_subset.mpr ⟨upperKnown, laterKnown⟩⟩

/-- A known trait that the walk has left is listed with known traits above it only. -/
theorem Preordered.subset_of_known {id : Nat} {declaration : Declaration}
    {above listed known : List String} (finds : FindsNames host)
    (preordered : Preordered host interface above [id] listed) (closed : Closed host known above)
    (found : Found host id) (declared : host.declaration? id = .ok (some declaration))
    (isKnown : declaration.qualifiedName ∈ known) : listed ⊆ known := by
  refine preordered.subset finds closed fun other member => ?_
  rw [List.mem_singleton] at member
  subst member
  refine ⟨found, fun same isSame => ?_⟩
  cases declared.symm.trans isSame
  exact isKnown

/-- Visits enter just the new names of the listing, in its order, and leave closed what they leave.
The induction is on the visits: what they meet again, the listing repeats with all that is above. -/
theorem Visits.names_eq_newNames (finds : FindsNames host) {known above : List String}
    {pending : List Nat} {parts : List Part} {listed : List String}
    (visits : Visits host interface known pending parts)
    (preordered : Preordered host interface above pending listed)
    (onBranch : above ⊆ known) (closed : Closed host known above)
    (pendingFound : ∀ id ∈ pending, Found host id) :
    parts.map Part.name = newNames known listed ∧
      Closed host (known ++ parts.map Part.name) above := by
  induction visits generalizing above listed with
  | done known =>
      cases preordered
      exact ⟨rfl, by simpa using closed⟩
  | @again known id pending parts declaration declared repeated rest inductionHypothesis =>
      have laterFound : ∀ other ∈ pending, Found host other := fun other member =>
        pendingFound other (List.mem_cons_of_mem id member)
      cases preordered with
      | back _ _ restListed => exact inductionHypothesis restListed onBranch closed laterFound
      | @enter _ _ _ upper listed _ _ _ declaredAgain isTrait fresh followed below restListed =>
          cases declared.symm.trans declaredAgain
          obtain ⟨names, closedAfter⟩ := inductionHypothesis restListed onBranch closed laterFound
          -- the listing repeats the trait with all that is above it, which is known by now
          have seen : Preordered host interface above [id]
              (declaration.qualifiedName :: (upper ++ [])) :=
            .enter declared isTrait fresh followed below (.done above)
          have knownAlready := seen.subset_of_known finds closed
            (pendingFound id List.mem_cons_self) declared repeated
          rw [List.append_nil] at knownAlready
          refine ⟨?_, closedAfter⟩
          rw [names, ← List.cons_append, newNames_append, newNames_of_subset knownAlready]
          simp
  | @enter known pending upper parts part targets belongs fresh followed below rest
      belowHypothesis restHypothesis =>
      have isTrait := (includedTrait_eq_ok.mp belongs.included).1
      have laterFound : ∀ other ∈ pending, Found host other := fun other member =>
        pendingFound other (List.mem_cons_of_mem part.id member)
      cases preordered with
      | back declared passed restListed =>
          -- what is on the branch is known, so no trait is entered there
          cases belongs.declared.symm.trans declared
          exact absurd (onBranch passed) fresh
      | @enter _ _ _ upperListed listed _ _ _ declared isTraitAgain _ followedAgain belowListed
          restListed =>
          cases belongs.declared.symm.trans declared
          cases isTrait.symm.trans isTraitAgain
          cases targets_unique followed followedAgain
          have leadsUp : ∀ {target}, target ∈ targets.filterMap id ↔
              Supertrait host part.id target := mem_targets_iff declared isTrait followed
          have branchKnown : part.name :: above ⊆ known ++ [part.name] := by
            refine List.cons_subset.mpr ⟨by simp, fun name member => ?_⟩
            exact List.mem_append_left _ (onBranch member)
          obtain ⟨upperNames, upperClosed⟩ := belowHypothesis belowListed branchKnown
            (closed.descend part.name) fun target isTarget => (leadsUp.mp isTarget).found finds
          have isFound : host.find? part.name = .ok (some part.id) := by
            obtain ⟨_, declaredAgain, found⟩ := pendingFound part.id (by simp)
            cases belongs.declared.symm.trans declaredAgain
            exact found
          -- the trait leaves the branch with all its supertraits known
          have left := upperClosed.leave belongs.declared isFound fun leads isOther =>
            below.covers (leadsUp.mpr leads) isOther
          have stillKnown : above ⊆ known ++ [part.name] ++ upper.map Part.name :=
            fun name member => List.mem_append_left _ (List.mem_append_left _ (onBranch member))
          obtain ⟨laterNames, laterClosed⟩ := restHypothesis restListed stillKnown left laterFound
          constructor
          · have isNew : part.owner.qualifiedName ∉ known := fresh
            rw [newNames, if_neg isNew, newNames_append, List.map_cons, List.map_append, laterNames,
              upperNames]
            rfl
          · simpa [List.append_assoc] using laterClosed

/-! ### The listing of a walk -/

/-- Apart from the declarations that a walk starts with, it enters only what bounds lead to. -/
theorem Walk.found (finds : FindsNames host) {known : List String} {pending : List Nat}
    {parts : List Part} (walk : Walk host interface known pending parts) :
    ∀ part ∈ parts, part.id ∈ pending ∨ Found host part.id := by
  induction walk with
  | done known => simp
  | again declared repeated rest inductionHypothesis =>
      intro part member
      exact (inductionHypothesis part member).imp_left (List.mem_cons_of_mem _)
  | @enter known pending parts part targets belongs fresh followed rest inductionHypothesis =>
      intro other member
      rcases List.mem_cons.mp member with rfl | later
      · exact .inl (by simp)
      · have isTrait := (includedTrait_eq_ok.mp belongs.included).1
        rcases inductionHypothesis other later with isPending | found
        · rcases List.mem_append.mp isPending with isTarget | waiting
          · have leads := (mem_targets_iff belongs.declared isTrait followed).mp isTarget
            exact .inr (leads.found finds)
          · exact .inl (List.mem_cons_of_mem part.id waiting)
        · exact .inr found

/-- What is found under the name of an entered trait is that trait, unless it is the first one. A
name may be declared twice, but only its first declaration is found under it. -/
theorem Walk.exists_part (finds : FindsNames host) {start id : Nat} {parts : List Part}
    (walk : Walk host interface [] [start] parts) {root declaration : Declaration}
    (rootDeclared : host.declaration? start = .ok (some root))
    (found : host.find? declaration.qualifiedName = .ok (some id))
    (differs : declaration.qualifiedName ≠ root.qualifiedName)
    (entered : declaration.qualifiedName ∈ parts.map Part.name) : ∃ part ∈ parts, part.id = id := by
  obtain ⟨part, isPart, sameName⟩ := List.mem_map.mp entered
  have belongs := walk.belongs part isPart
  refine ⟨part, isPart, ?_⟩
  rcases walk.found finds part isPart with isStart | ⟨other, declaredAgain, foundAgain⟩
  · have rootAgain := belongs.declared
    rw [List.mem_singleton.mp isStart, rootDeclared] at rootAgain
    cases rootAgain
    exact absurd sameName.symm differs
  · cases belongs.declared.symm.trans declaredAgain
    have sameFound : host.find? declaration.qualifiedName = .ok (some part.id) :=
      sameName ▸ foundAgain
    cases found.symm.trans sameFound
    rfl

/-- Below a walk's first trait there is a listing, since no branch passes more traits than the walk
enters. -/
theorem Walk.exists_preordered (finds : FindsNames host) {start : Nat} {parts : List Part}
    (walk : Walk host interface [] [start] parts) {root : Declaration}
    (rootDeclared : host.declaration? start = .ok (some root)) {fuel : Nat} {above : List String}
    {pending : List Nat} (distinct : above.Nodup) (entered : above ⊆ parts.map Part.name)
    (rooted : root.qualifiedName ∈ above) (enough : parts.length < fuel + above.length)
    (pendingEntered : ∀ id ∈ pending, Found host id ∧ ∀ declaration,
      host.declaration? id = .ok (some declaration) →
        declaration.qualifiedName ∈ parts.map Part.name) :
    ∃ listed, Preordered host interface above pending listed := by
  induction fuel generalizing above pending with
  | zero =>
      -- a branch without repetitions is no longer than the list of entered traits
      have atMost := (distinct.subperm entered).length_le
      rw [List.length_map] at atMost
      omega
  | succ fuel fuelHypothesis =>
      induction pending with
      | nil => exact ⟨[], .done above⟩
      | cons id rest restHypothesis =>
          obtain ⟨listed, isListed⟩ := restHypothesis fun other member =>
            pendingEntered other (List.mem_cons_of_mem id member)
          obtain ⟨⟨declaration, declared, found⟩, namesEntered⟩ := pendingEntered id (by simp)
          by_cases passed : declaration.qualifiedName ∈ above
          · exact ⟨listed, .back declared passed isListed⟩
          have differs : declaration.qualifiedName ≠ root.qualifiedName :=
            fun same => passed (same ▸ rooted)
          obtain ⟨part, isPart, rfl⟩ := walk.exists_part finds rootDeclared found differs
            (namesEntered declaration declared)
          have belongs := walk.belongs part isPart
          cases declared.symm.trans belongs.declared
          have isTrait := (includedTrait_eq_ok.mp belongs.included).1
          obtain ⟨targets, followed⟩ := walk.followed part isPart
          have targetsEntered : ∀ target ∈ targets.filterMap id, Found host target ∧ ∀ other,
              host.declaration? target = .ok (some other) →
                other.qualifiedName ∈ parts.map Part.name := by
            intro target isTarget
            have leads := (mem_targets_iff declared isTrait followed).mp isTarget
            refine ⟨leads.found finds, fun other isOther => ?_⟩
            simpa using walk.covers (.inr ⟨part, isPart, leads⟩) isOther
          obtain ⟨upper, isUpper⟩ := fuelHypothesis (List.nodup_cons.mpr ⟨passed, distinct⟩)
            (List.cons_subset.mpr ⟨namesEntered _ declared, entered⟩)
            (List.mem_cons_of_mem _ rooted) (by rw [List.length_cons]; omega) targetsEntered
          exact ⟨_, .enter declared isTrait passed followed isUpper isListed⟩

/-- A walk from one trait enters the first occurrences of the trait's listing in their order. -/
theorem Walk.names_eq_eraseDups (finds : FindsNames host) {start : Nat} {parts : List Part}
    (walk : Walk host interface [] [start] parts) :
    ∃ listed, Preordered host interface [] [start] listed ∧
      parts.map Part.name = listed.eraseDups := by
  have visits := walk.visits
  cases visits with
  | again declared repeated rest => cases repeated
  | @enter _ _ upper later part targets belongs fresh followed below rest =>
      cases rest
      have isTrait := (includedTrait_eq_ok.mp belongs.included).1
      have leadsUp : ∀ {target}, target ∈ targets.filterMap id ↔
          Supertrait host part.id target := mem_targets_iff belongs.declared isTrait followed
      have targetFound : ∀ target ∈ targets.filterMap id, Found host target :=
        fun target isTarget => (leadsUp.mp isTarget).found finds
      have targetsEntered : ∀ target ∈ targets.filterMap id, Found host target ∧ ∀ other,
          host.declaration? target = .ok (some other) →
            other.qualifiedName ∈ (part :: (upper ++ [])).map Part.name := by
        intro target isTarget
        refine ⟨targetFound target isTarget, fun other isOther => ?_⟩
        simpa using walk.covers (.inr ⟨part, by simp, leadsUp.mp isTarget⟩) isOther
      have enough : (part :: (upper ++ [])).length <
          (part :: (upper ++ [])).length + [part.name].length := by simp
      obtain ⟨listed, isListed⟩ := walk.exists_preordered finds belongs.declared
        (List.nodup_singleton _) (by simp [Part.name]) (by simp [Part.name]) enough targetsEntered
      have closed : Closed host ([] ++ [part.name]) [part.name] := by
        intro low high declaration other _ _ isKnown notAbove
        exact absurd isKnown notAbove
      obtain ⟨names, _⟩ := below.names_eq_newNames finds isListed (List.Subset.refl _) closed
        targetFound
      refine ⟨_, .enter belongs.declared isTrait List.not_mem_nil followed isListed (.done []), ?_⟩
      have all := newNames_eq_eraseDups [] (part.name :: (listed ++ []))
      rw [List.filter_eq_self.mpr (by simp)] at all
      show (part :: (upper ++ [])).map Part.name = (part.name :: (listed ++ [])).eraseDups
      rw [← all, newNames, if_neg List.not_mem_nil, List.append_nil, List.append_nil, List.map_cons,
        names]

end ForwardingProxy.Enumeration
