import ForwardingProxy.Registry
import Mathlib.Data.List.Induction
import Mathlib.Data.List.Nodup

/-!
Contract: what a sequence of registrations leaves behind.

Owns: runs of registrations, the entries that can stand beside each other, the reason that a refusal
gives, and the fact that all names in a registry stay pairwise distinct.

Simple names are never compared. They are distinct because factory names are, which are made of
nothing else.
-/

namespace ForwardingProxy.Registry

/-! ### Entries beside each other -/

/-- The two entries share no interface, no proxy and no factory. -/
structure Entry.Apart (first second : Entry) : Prop where
  interface : first.interface ≠ second.interface
  proxy : first.proxy ≠ second.proxy
  factory : first.factoryName ≠ second.factoryName

/-- Entries that are apart have distinct simple names, which alone make up their factory names. -/
theorem Entry.Apart.simpleName {first second : Entry} (apart : first.Apart second) :
    first.simpleName ≠ second.simpleName := by
  intro same
  apply apart.factory
  unfold Entry.factoryName
  rw [same]

/-- The refusal of an entry, with a stored entry that stands in its way. -/
inductive Blames (registry : Registry) (entry : Entry) : Refusal → Prop where
  | interface {existing : Entry}
      (stored : existing ∈ registry.entries)
      (same : existing.interface = entry.interface) :
      Blames registry entry (.alreadyRegistered entry.interface existing.proxy)
  | proxy {existing : Entry}
      (new : ∀ other ∈ registry.entries, other.interface ≠ entry.interface)
      (stored : existing ∈ registry.entries)
      (same : existing.proxy = entry.proxy) :
      Blames registry entry (.nameTaken entry.proxy entry.interface existing.interface)
  | factory {existing : Entry}
      (new : ∀ other ∈ registry.entries, other.interface ≠ entry.interface)
      (stored : existing ∈ registry.entries)
      (same : existing.factoryName = entry.factoryName) :
      Blames registry entry (.nameTaken entry.factoryName entry.interface existing.interface)

/-- A search by a key either finds an entry with that key or all entries have other keys. -/
private theorem find?_key (entries : List Entry) (key : Entry → String) (wanted : String) :
    (∃ existing ∈ entries, key existing = wanted ∧
        entries.find? (fun entry => key entry == wanted) = some existing) ∨
      (∀ existing ∈ entries, key existing ≠ wanted) ∧
        entries.find? (fun entry => key entry == wanted) = none := by
  cases found : entries.find? fun entry => key entry == wanted with
  | none =>
      right
      refine ⟨fun existing stored => ?_, rfl⟩
      simpa using List.find?_eq_none.mp found existing stored
  | some existing =>
      left
      have hasKey : key existing = wanted := by simpa using List.find?_some found
      exact ⟨existing, List.mem_of_find?_eq_some found, hasKey, rfl⟩

/-- An entry is refused for a stored entry, or it is apart from all stored entries. -/
theorem refusal?_cases (registry : Registry) (entry : Entry) :
    (∃ refusal, registry.refusal? entry = some refusal ∧ registry.Blames entry refusal ∧
        ∃ existing ∈ registry.entries, ¬existing.Apart entry) ∨
      registry.refusal? entry = none ∧ ∀ existing ∈ registry.entries, existing.Apart entry := by
  unfold refusal?
  obtain ⟨existing, stored, same, found⟩ | ⟨newInterface, unfound⟩ :=
    find?_key registry.entries Entry.interface entry.interface
  · rw [found]
    exact .inl ⟨_, rfl, .interface stored same, existing, stored, fun apart => apart.interface same⟩
  rw [unfound]
  obtain ⟨existing, stored, same, found⟩ | ⟨newProxy, unfound⟩ :=
    find?_key registry.entries Entry.proxy entry.proxy
  · rw [found]
    exact .inl ⟨_, rfl, .proxy newInterface stored same, existing, stored,
      fun apart => apart.proxy same⟩
  rw [unfound]
  obtain ⟨existing, stored, same, found⟩ | ⟨newFactory, unfound⟩ :=
    find?_key registry.entries Entry.factoryName entry.factoryName
  · rw [found]
    exact .inl ⟨_, rfl, .factory newInterface stored same, existing, stored,
      fun apart => apart.factory same⟩
  rw [unfound]
  exact .inr ⟨rfl, fun existing stored =>
    ⟨newInterface existing stored, newProxy existing stored, newFactory existing stored⟩⟩

/-- An entry is accepted exactly when it is apart from all stored entries, and then stands behind
them. -/
theorem register_eq_ok {registry extended : Registry} {entry : Entry} :
    registry.register entry = .ok extended ↔
      (∀ existing ∈ registry.entries, existing.Apart entry) ∧
        extended = ⟨registry.entries ++ [entry]⟩ := by
  unfold register
  obtain ⟨refusal, refused, _, existing, stored, together⟩ | ⟨accepted, apart⟩ :=
    registry.refusal?_cases entry
  · rw [refused]
    constructor
    · intro impossible
      cases impossible
    · rintro ⟨apart, _⟩
      exact absurd (apart existing stored) together
  · rw [accepted]
    constructor
    · intro same
      exact ⟨apart, (Except.ok.inj same).symm⟩
    · rintro ⟨_, rfl⟩
      rfl

theorem blames_of_register_eq_error {registry : Registry} {entry : Entry} {refusal : Refusal}
    (refused : registry.register entry = .error refusal) : registry.Blames entry refusal := by
  unfold register at refused
  obtain ⟨_, isRefusal, blames, _⟩ | ⟨accepted, _⟩ := registry.refusal?_cases entry
  · rw [isRefusal] at refused
    cases refused
    exact blames
  · rw [accepted] at refused
    cases refused

/-- An interface is said to be registered already exactly when it is. -/
theorem Blames.alreadyRegistered_iff {registry : Registry} {entry : Entry} {refusal : Refusal}
    (blames : registry.Blames entry refusal) :
    (∃ interface existing, refusal = .alreadyRegistered interface existing) ↔
      ∃ existing ∈ registry.entries, existing.interface = entry.interface := by
  cases blames with
  | @interface existing stored same =>
      exact ⟨fun _ => ⟨existing, stored, same⟩, fun _ => ⟨_, _, rfl⟩⟩
  | proxy new stored same =>
      constructor
      · rintro ⟨_, _, impossible⟩
        cases impossible
      · rintro ⟨other, isStored, sameInterface⟩
        exact absurd sameInterface (new other isStored)
  | factory new stored same =>
      constructor
      · rintro ⟨_, _, impossible⟩
        cases impossible
      · rintro ⟨other, isStored, sameInterface⟩
        exact absurd sameInterface (new other isStored)

/-! ### Runs -/

/-- The registry after one call; a refused entry leaves it as it is. -/
def afterCall (registry : Registry) (entry : Entry) : Registry :=
  match registry.register entry with
  | .ok extended => extended
  | .error _ => registry

/-- The registry that calls from the start lead to. -/
def afterCalls (calls : List Entry) : Registry :=
  calls.foldl afterCall .empty

/-- The entries of the calls that are accepted, each after the calls before it. -/
def acceptedCalls : Registry → List Entry → List Entry
  | _, [] => []
  | registry, entry :: rest =>
      match registry.register entry with
      | .ok extended => entry :: acceptedCalls extended rest
      | .error _ => acceptedCalls registry rest

theorem afterCalls_concat (calls : List Entry) (entry : Entry) :
    afterCalls (calls ++ [entry]) = (afterCalls calls).afterCall entry := by
  unfold afterCalls
  rw [List.foldl_append]
  rfl

/-- One call keeps entries apart from each other. -/
theorem pairwise_afterCall {registry : Registry} (apart : registry.entries.Pairwise Entry.Apart)
    (entry : Entry) : (registry.afterCall entry).entries.Pairwise Entry.Apart := by
  unfold afterCall
  cases answered : registry.register entry with
  | error refusal => exact apart
  | ok extended =>
      obtain ⟨apartFromNew, rfl⟩ := register_eq_ok.mp answered
      refine List.pairwise_append.mpr ⟨apart, List.pairwise_singleton _ _, ?_⟩
      intro existing stored new isNew
      rw [List.mem_singleton.mp isNew]
      exact apartFromNew existing stored

/-- Whatever is called, the entries of a registry stay apart from each other. -/
theorem pairwise_afterCalls (calls : List Entry) :
    (afterCalls calls).entries.Pairwise Entry.Apart := by
  induction calls using List.reverseRecOn with
  | nil => exact List.Pairwise.nil
  | append_singleton before entry inductionHypothesis =>
      rw [afterCalls_concat]
      exact pairwise_afterCall inductionHypothesis entry

/-- A run adds the accepted entries in their order. -/
theorem entries_foldl_afterCall (registry : Registry) (calls : List Entry) :
    (calls.foldl afterCall registry).entries =
      registry.entries ++ acceptedCalls registry calls := by
  induction calls generalizing registry with
  | nil => simp [acceptedCalls]
  | cons entry rest inductionHypothesis =>
      rw [List.foldl_cons, inductionHypothesis, acceptedCalls, afterCall]
      cases answered : registry.register entry with
      | error refusal => rfl
      | ok extended =>
          obtain ⟨_, rfl⟩ := register_eq_ok.mp answered
          simp

theorem acceptedCalls_sublist (registry : Registry) (calls : List Entry) :
    (acceptedCalls registry calls).Sublist calls := by
  induction calls generalizing registry with
  | nil => exact List.Sublist.slnil
  | cons entry rest inductionHypothesis =>
      rw [acceptedCalls]
      cases registry.register entry with
      | error refusal => exact (inductionHypothesis registry).cons entry
      | ok extended => exact (inductionHypothesis extended).cons_cons entry

theorem mem_calls_of_mem_entries {calls : List Entry} {entry : Entry}
    (stored : entry ∈ (afterCalls calls).entries) : entry ∈ calls := by
  have sublist := acceptedCalls_sublist .empty calls
  rw [afterCalls, entries_foldl_afterCall] at stored
  exact sublist.subset stored

/-- No two entries of the registry share a name of any kind. -/
structure Distinct (registry : Registry) : Prop where
  interfaces : (registry.entries.map Entry.interface).Nodup
  proxies : (registry.entries.map Entry.proxy).Nodup
  factories : (registry.entries.map Entry.factoryName).Nodup
  simpleNames : (registry.entries.map Entry.simpleName).Nodup

theorem distinct_afterCalls (calls : List Entry) : (afterCalls calls).Distinct := by
  have apart := pairwise_afterCalls calls
  have names : ∀ key : Entry → String,
      (∀ {first second : Entry}, first.Apart second → key first ≠ key second) →
        ((afterCalls calls).entries.map key).Nodup := by
    intro key differ
    exact List.pairwise_map.mpr (apart.imp differ)
  exact ⟨names _ fun apart => apart.interface, names _ fun apart => apart.proxy,
    names _ fun apart => apart.factory, names _ fun apart => apart.simpleName⟩

/-- What the next call does with an entry. -/
structure Answers (calls : List Entry) (entry : Entry) : Prop where
  accepted_iff : (∃ extended, (afterCalls calls).register entry = .ok extended) ↔
    ∀ existing ∈ (afterCalls calls).entries, existing.interface ≠ entry.interface ∧
      existing.proxy ≠ entry.proxy ∧ existing.factoryName ≠ entry.factoryName
  added : ∀ extended, (afterCalls calls).register entry = .ok extended →
    afterCalls (calls ++ [entry]) = extended ∧
      extended.entries = (afterCalls calls).entries ++ [entry]
  unchanged : ∀ refusal, (afterCalls calls).register entry = .error refusal →
    afterCalls (calls ++ [entry]) = afterCalls calls
  blames : ∀ refusal, (afterCalls calls).register entry = .error refusal →
    (afterCalls calls).Blames entry refusal
  alreadyRegistered_iff : ∀ refusal, (afterCalls calls).register entry = .error refusal →
    ((∃ interface existing, refusal = .alreadyRegistered interface existing) ↔
      ∃ existing ∈ (afterCalls calls).entries, existing.interface = entry.interface)

theorem answers_next (calls : List Entry) (entry : Entry) : Answers calls entry where
  accepted_iff := by
    constructor
    · rintro ⟨extended, accepted⟩ existing stored
      have apart := (register_eq_ok.mp accepted).1 existing stored
      exact ⟨apart.interface, apart.proxy, apart.factory⟩
    · intro differ
      refine ⟨⟨(afterCalls calls).entries ++ [entry]⟩, register_eq_ok.mpr ⟨?_, rfl⟩⟩
      intro existing stored
      obtain ⟨interface, proxy, factory⟩ := differ existing stored
      exact ⟨interface, proxy, factory⟩
  added := by
    intro extended accepted
    constructor
    · rw [afterCalls_concat, afterCall, accepted]
    · rw [(register_eq_ok.mp accepted).2]
  unchanged := by
    intro refusal refused
    rw [afterCalls_concat, afterCall, refused]
  blames := fun refusal refused => blames_of_register_eq_error refused
  alreadyRegistered_iff := fun refusal refused =>
    (blames_of_register_eq_error refused).alreadyRegistered_iff

/-- After any calls the registry holds just the accepted entries in their order, which share no name
of any kind, and answers the next call by comparing three of its names with those it stores. -/
theorem registrations_keep_names_distinct (calls : List Entry) :
    (afterCalls calls).Distinct ∧
      (afterCalls calls).entries = acceptedCalls .empty calls ∧
      ∀ entry, Answers calls entry := by
  refine ⟨distinct_afterCalls calls, ?_, answers_next calls⟩
  rw [afterCalls, entries_foldl_afterCall]
  rfl

/-- The second name has the snake case of the first, and the third call repeats the first one. -/
example :
    let first : Entry := ⟨"crate::NamedShape", "ProxyForNamedShape"⟩
    let calls : List Entry := [first, ⟨"crate::Named_Shape", "ProxyForNamed_Shape"⟩, first]
    afterCalls calls = ⟨[first]⟩ := by
  decide +kernel

end ForwardingProxy.Registry
