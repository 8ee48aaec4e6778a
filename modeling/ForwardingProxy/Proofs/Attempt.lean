import ForwardingProxy.Failure
import Mathlib.Data.List.Forall2

/-!
Contract: laws of computations that may fail or be broken off.

Owns: what a successful sequence of steps succeeded with, what stopped one that did not succeed, and
`Attempt.Ensures`, which a computation fulfils that gives a value with a property or fails in an
allowed way.
-/

namespace ForwardingProxy

theorem ok_bind {ε α β : Type} (value : α) (next : α → Except ε β) :
    (Except.ok value >>= next) = next value :=
  rfl

theorem error_bind {ε α β : Type} (stop : ε) (next : α → Except ε β) :
    (Except.error stop >>= next) = .error stop :=
  rfl

/-- A sequence of two steps succeeds exactly when both succeed. -/
theorem bind_eq_ok {ε α β : Type} {first : Except ε α} {next : α → Except ε β} {value : β} :
    (first >>= next) = .ok value ↔
      ∃ intermediate, first = .ok intermediate ∧ next intermediate = .ok value := by
  cases first with
  | error stop => simp [bind, Except.bind]
  | ok intermediate => simp [bind, Except.bind]

/-- A sequence of two steps is stopped by its first step, or by the second one after it. -/
theorem bind_eq_error {ε α β : Type} {first : Except ε α} {next : α → Except ε β} {stop : ε} :
    (first >>= next) = .error stop ↔
      first = .error stop ∨ ∃ intermediate, first = .ok intermediate ∧
        next intermediate = .error stop := by
  cases first with
  | error stop => simp [bind, Except.bind]
  | ok intermediate => simp [bind, Except.bind]

theorem map_eq_ok {ε α β : Type} {change : α → β} {attempt : Except ε α} {value : β} :
    (change <$> attempt) = .ok value ↔ ∃ before, attempt = .ok before ∧ value = change before := by
  cases attempt with
  | error stop => simp [Functor.map, Except.map]
  | ok before => simp [Functor.map, Except.map, eq_comm]

@[simp] theorem pure_eq_ok {ε α : Type} {given value : α} :
    (pure given : Except ε α) = .ok value ↔ value = given := by
  simp [pure, Except.pure, eq_comm]

/-- A step for each element succeeds exactly when all steps do, with their values in order. -/
theorem mapM_eq_ok {ε α β : Type} {step : α → Except ε β} {inputs : List α}
    {values : List β} :
    inputs.mapM step = .ok values ↔
      List.Forall₂ (fun input value => step input = .ok value) inputs values := by
  induction inputs generalizing values with
  | nil =>
      simp only [List.mapM_nil, List.forall₂_nil_left_iff]
      exact ⟨fun same => (Except.ok.inj same).symm, fun same => by rw [same]; rfl⟩
  | cons input rest inductionHypothesis =>
      simp only [List.mapM_cons, bind_eq_ok, inductionHypothesis, List.forall₂_cons_left_iff]
      constructor
      · rintro ⟨value, isFirst, others, areOthers, same⟩
        exact ⟨value, others, isFirst, areOthers, (Except.ok.inj same).symm⟩
      · rintro ⟨value, others, isFirst, areOthers, same⟩
        exact ⟨value, isFirst, others, areOthers, by rw [same]; rfl⟩

theorem mapM_answered {ε α β : Type} {step : α → Except ε β} {inputs : List α}
    (each : ∀ input ∈ inputs, ∃ value, step input = .ok value) :
    ∃ values, inputs.mapM step = .ok values := by
  induction inputs with
  | nil => exact ⟨[], rfl⟩
  | cons input rest inductionHypothesis =>
      obtain ⟨value, isFirst⟩ := each input (by simp)
      obtain ⟨values, areOthers⟩ := inductionHypothesis fun later member =>
        each later (List.mem_cons_of_mem input member)
      exact ⟨value :: values, by rw [List.mapM_cons, isFirst, areOthers]; rfl⟩

/-- A loop over a list gets through exactly when every round does. -/
theorem forM_eq_ok {ε α : Type} {step : α → Except ε Unit} {inputs : List α} :
    forM inputs step = .ok () ↔ ∀ input ∈ inputs, step input = .ok () := by
  induction inputs with
  | nil => simp
  | cons input rest inductionHypothesis =>
      simp only [List.forM_cons, bind_eq_ok, inductionHypothesis, List.forall_mem_cons]
      exact ⟨fun ⟨_, first, others⟩ => ⟨first, others⟩, fun ⟨first, others⟩ => ⟨(), first, others⟩⟩

/-- A loop over a list is stopped by the first round that does not get through. -/
theorem forM_eq_error {ε α : Type} {step : α → Except ε Unit} {inputs : List α} {stop : ε} :
    forM inputs step = .error stop ↔
      ∃ before input after, inputs = before ++ input :: after ∧
        (∀ earlier ∈ before, step earlier = .ok ()) ∧ step input = .error stop := by
  induction inputs with
  | nil =>
      rw [List.forM_nil]
      refine iff_of_false nofun ?_
      rintro ⟨before, input, after, isEmpty, _⟩
      simp at isEmpty
  | cons first rest inductionHypothesis =>
      rw [List.forM_cons, bind_eq_error, inductionHypothesis]
      constructor
      · rintro (stops | ⟨_, passes, before, input, after, rfl, earlier, stops⟩)
        · exact ⟨[], first, rest, rfl, nofun, stops⟩
        · exact ⟨first :: before, input, after, rfl, List.forall_mem_cons.mpr ⟨passes, earlier⟩,
            stops⟩
      · rintro ⟨before, input, after, areInputs, earlier, stops⟩
        cases before with
        | nil =>
            obtain ⟨rfl, rfl⟩ := List.cons.inj areInputs
            exact .inl stops
        | cons _ before =>
            obtain ⟨rfl, rfl⟩ := List.cons.inj areInputs
            obtain ⟨passes, earlier⟩ := List.forall_mem_cons.mp earlier
            exact .inr ⟨(), passes, before, input, after, rfl, earlier, stops⟩

/-- Each element of the first list has its partner in the second one. -/
theorem partner_of_mem_left {α β : Type} {relation : α → β → Prop} {left : List α}
    {right : List β} (related : List.Forall₂ relation left right) {first : α}
    (member : first ∈ left) : ∃ second ∈ right, relation first second := by
  induction related with
  | nil => simp at member
  | @cons first second left right holds rest inductionHypothesis =>
      rcases List.mem_cons.mp member with rfl | later
      · exact ⟨second, by simp, holds⟩
      · obtain ⟨found, isLater, related⟩ := inductionHypothesis later
        exact ⟨found, List.mem_cons_of_mem second isLater, related⟩

/-- Each element of the second list has its partner in the first one. -/
theorem partner_of_mem_right {α β : Type} {relation : α → β → Prop} {left : List α}
    {right : List β} (related : List.Forall₂ relation left right) {second : β}
    (member : second ∈ right) : ∃ first ∈ left, relation first second :=
  partner_of_mem_left related.flip member

/-- What the elements of a list have to do with those of two others relates these to each other. -/
theorem forall₂_through {α β γ : Type} {first : α → β → Prop} {second : α → γ → Prop}
    {goal : β → γ → Prop} {inputs : List α} {left : List β} {right : List γ}
    (toLeft : List.Forall₂ first inputs left) (toRight : List.Forall₂ second inputs right)
    (relates : ∀ input ∈ inputs, ∀ one other, first input one → second input other →
      goal one other) : List.Forall₂ goal left right := by
  induction toLeft generalizing right with
  | nil =>
      cases toRight
      exact .nil
  | @cons input one inputs left isFirst rest inductionHypothesis =>
      cases toRight with
      | cons isSecond others =>
          refine .cons (relates input List.mem_cons_self _ _ isFirst isSecond) ?_
          exact inductionHypothesis others fun later isLater =>
            relates later (List.mem_cons_of_mem input isLater)

namespace Attempt

variable {α β : Type}

theorem ask_eq_ok {answer : Answer α} {value : α} :
    ask answer = .ok value ↔ answer = .ok value := by
  cases answer <;> simp [ask]

theorem require_eq_ok {failure : Failure} {found : Option α} {value : α} :
    require failure found = .ok value ↔ found = some value := by
  cases found <;> simp [require, fail]

@[simp] theorem fail_ne_ok {failure : Failure} {value : α} :
    (fail failure : Attempt α) ≠ .ok value := by
  simp [fail]

/-- The attempt without its value. -/
def outcome (attempt : Attempt α) : Attempt Unit :=
  attempt.map fun _ => ()

theorem outcome_eq_ok {attempt : Attempt α} :
    outcome attempt = .ok () ↔ ∃ value, attempt = .ok value := by
  cases attempt <;> simp [outcome, Except.map]

theorem outcome_eq_error {attempt : Attempt α} {stop : Stop} :
    outcome attempt = .error stop ↔ attempt = .error stop := by
  cases attempt <;> simp [outcome, Except.map]

/-- The attempt is not broken off: it gives a value that `post` holds of, or it fails with
something that is allowed. -/
def Ensures (allowed : Failure → Prop) (attempt : Attempt α) (post : α → Prop) : Prop :=
  match attempt with
  | .ok value => post value
  | .error (.failed failure) => allowed failure
  | .error (.broken _) => False

namespace Ensures

variable {allowed : Failure → Prop} {post other : α → Prop} {goal : β → Prop}

theorem ofValue {value : α} (holds : post value) :
    Ensures allowed (pure value : Attempt α) post :=
  holds

theorem ofFailure {failure : Failure} (isAllowed : allowed failure) :
    Ensures allowed (fail failure : Attempt α) post :=
  isAllowed

theorem ofOk {attempt : Attempt α} {value : α} (succeeds : attempt = .ok value)
    (holds : post value) : Ensures allowed attempt post := by
  rw [succeeds]
  exact holds

/-- An attempt that may not fail succeeds. -/
theorem succeeds {attempt : Attempt α} (ensures : Ensures (fun _ => False) attempt post) :
    ∃ value, attempt = .ok value := by
  cases attempt with
  | ok value => exact ⟨value, rfl⟩
  | error stop =>
      cases stop with
      | failed failure => exact ensures.elim
      | broken fault => exact ensures.elim

/-- What does not succeed fails in an allowed way. -/
theorem fails {attempt : Attempt α} (ensures : Ensures allowed attempt post) {stop : Stop}
    (stops : attempt = .error stop) : ∃ failure, stop = .failed failure ∧ allowed failure := by
  rw [stops] at ensures
  cases stop with
  | failed failure => exact ⟨failure, rfl, ensures⟩
  | broken fault => exact ensures.elim

theorem imp {attempt : Attempt α} (ensures : Ensures allowed attempt post)
    (weaken : ∀ value, attempt = .ok value → post value → other value) :
    Ensures allowed attempt other := by
  cases attempt with
  | ok value => exact weaken value rfl ensures
  | error stop =>
      cases stop with
      | failed failure => exact ensures
      | broken fault => exact ensures

/-- The rule of sequences: what the first step ensures has to do for the second one. -/
theorem andThen {attempt : Attempt α} {next : α → Attempt β}
    (first : Ensures allowed attempt post)
    (second : ∀ value, post value → Ensures allowed (next value) goal) :
    Ensures allowed (attempt >>= next) goal := by
  cases attempt with
  | ok value => exact second value first
  | error stop =>
      cases stop with
      | failed failure => exact first
      | broken fault => exact first

theorem map {attempt : Attempt α} {change : α → β}
    (ensures : Ensures allowed attempt fun value => goal (change value)) :
    Ensures allowed (change <$> attempt) goal := by
  cases attempt with
  | ok value => exact ensures
  | error stop =>
      cases stop with
      | failed failure => exact ensures
      | broken fault => exact ensures

theorem ask {answer : Answer α} (answered : ∃ value, answer = .ok value) :
    Ensures allowed (Attempt.ask answer) fun value => answer = .ok value := by
  obtain ⟨value, rfl⟩ := answered
  exact ofValue rfl

theorem require {failure : Failure} {found : Option α}
    (isAllowed : found = none → allowed failure) :
    Ensures allowed (Attempt.require failure found) fun value => found = some value := by
  cases found with
  | none => exact ofFailure (isAllowed rfl)
  | some value => exact ofValue rfl

theorem mapM {step : α → Attempt β} {inputs : List α}
    (each : ∀ input ∈ inputs, Ensures allowed (step input) fun _ => True) :
    Ensures allowed (inputs.mapM step) fun _ => True := by
  induction inputs with
  | nil => exact ofValue trivial
  | cons input rest inductionHypothesis =>
      rw [List.mapM_cons]
      refine andThen (each input (by simp)) fun value _ => ?_
      refine andThen (inductionHypothesis fun later member => ?_) fun values _ => ofValue trivial
      exact each later (List.mem_cons_of_mem input member)

/-- The rule of loops: every round keeps the invariant. -/
theorem foldlM {step : β → α → Attempt β} {inputs : List α} {start : β}
    (holds : goal start)
    (each : ∀ input ∈ inputs, ∀ state, goal state → Ensures allowed (step state input) goal) :
    Ensures allowed (inputs.foldlM step start) goal := by
  induction inputs generalizing start with
  | nil => exact ofValue holds
  | cons input rest inductionHypothesis =>
      rw [List.foldlM_cons]
      refine andThen (each input (by simp) start holds) fun state kept => ?_
      exact inductionHypothesis kept fun later member =>
        each later (List.mem_cons_of_mem input member)

/-- What is ensured comes out as an answer of the host, with an allowed failure if with any. -/
theorem result {attempt : Attempt α} (ensures : Ensures allowed attempt post) :
    ∃ outcome, attempt.result = .ok outcome ∧
      ∀ failure, outcome = .error failure → allowed failure := by
  cases attempt with
  | ok value => exact ⟨.ok value, rfl, fun _ same => by cases same⟩
  | error stop =>
      cases stop with
      | failed failure =>
          refine ⟨.error failure, rfl, fun other same => ?_⟩
          cases same
          exact ensures
      | broken fault => exact ensures.elim

end Ensures

end Attempt

end ForwardingProxy
