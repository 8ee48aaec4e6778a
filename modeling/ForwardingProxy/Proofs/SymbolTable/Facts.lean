import ForwardingProxy.SymbolTable
import Mathlib.Data.List.Basic

/-!
Contract: what the facts of a table tell about a type.

Owns: `Tells`, which compares the self type of a fact by its meaning in the fact's own scope, when
a declaration has `Default`, and which of the recorded constructors is called.

Does not own: which facts are recorded; see `Collection`.
-/

namespace ForwardingProxy

namespace SymbolTable

variable {table : SymbolTable}

/-- The fact tells that values of the type of that name can be built this way: it stands in an
`impl` whose self type is a path with this meaning. -/
structure Tells (table : SymbolTable) (type : String) (construction : Construction)
    (fact : ConstructionFact) : Prop where
  construction : fact.construction = construction
  selfType : ∃ segments arguments, fact.selfType = .path segments arguments ∧
    table.resolve? fact.scope segments = some type

/-- Some fact of the table tells this. -/
def Told (table : SymbolTable) (type : String) (construction : Construction) : Prop :=
  ∃ fact ∈ table.facts, table.Tells type construction fact

/-- The first fact about a constructor of the type is about the constructor of that name. -/
def ToldFirst (table : SymbolTable) (type name : String) : Prop :=
  ∃ before fact after, table.facts = before ++ fact :: after ∧
    table.Tells type (.constructor name) fact ∧
      ∀ earlier ∈ before, ∀ other, ¬table.Tells type (.constructor other) earlier

theorem factType?_eq_some {type : String} {fact : ConstructionFact} :
    table.factType? fact = some type ↔
      ∃ segments arguments, fact.selfType = .path segments arguments ∧
        table.resolve? fact.scope segments = some type := by
  unfold factType?
  cases fact.selfType <;> simp

/-- A declaration has `Default` if it derives it or if some fact tells so. -/
theorem implementsDefault_iff {id : Nat} {declaration : Declaration}
    (declared : table.declaration? id = some declaration) :
    table.implementsDefault id = true ↔
      (∃ body, declaration.kind = .struct body ∧ body.derivesDefault = true) ∨
        table.Told declaration.qualifiedName .default := by
  unfold implementsDefault Told
  rw [declared]
  simp only [Bool.or_eq_true, List.any_eq_true, Bool.and_eq_true, beq_iff_eq]
  refine or_congr ?_ ?_
  · cases declaration.kind <;> simp
  · refine exists_congr fun fact => and_congr_right fun _ => ?_
    rw [factType?_eq_some]
    exact ⟨fun ⟨isDefault, selfType⟩ => ⟨isDefault, selfType⟩,
      fun ⟨isDefault, selfType⟩ => ⟨isDefault, selfType⟩⟩

/-- The constructor that a fact records for a type. -/
def recorded? (table : SymbolTable) (type : String) (fact : ConstructionFact) : Option String :=
  match fact.construction with
  | .constructor name => if table.factType? fact == some type then some name else none
  | .default => none

theorem constructors_eq (type : String) :
    table.constructors type = table.facts.filterMap (table.recorded? type) :=
  rfl

theorem recorded?_eq_some {type name : String} {fact : ConstructionFact} :
    table.recorded? type fact = some name ↔ table.Tells type (.constructor name) fact := by
  unfold recorded?
  constructor
  · intro isRecorded
    split at isRecorded
    next other isConstructor =>
      simp only [beq_iff_eq, Option.ite_none_right_eq_some, Option.some.injEq] at isRecorded
      obtain ⟨isType, rfl⟩ := isRecorded
      exact ⟨isConstructor, factType?_eq_some.mp isType⟩
    next => cases isRecorded
  · rintro ⟨isConstructor, selfType⟩
    simp [isConstructor, factType?_eq_some.mpr selfType]

theorem mem_constructors_iff {type name : String} :
    name ∈ table.constructors type ↔ table.Told type (.constructor name) := by
  rw [constructors_eq, List.mem_filterMap]
  exact exists_congr fun fact => and_congr_right fun _ => recorded?_eq_some

theorem head?_constructors {type name : String} :
    (table.constructors type).head? = some name ↔ table.ToldFirst type name := by
  rw [constructors_eq, List.head?_filterMap, List.findSome?_eq_some_iff]
  refine exists_congr fun before => exists_congr fun fact => exists_congr fun after => ?_
  refine and_congr_right fun _ => and_congr recorded?_eq_some ?_
  refine forall_congr' fun earlier => forall_congr' fun _ => ?_
  rw [Option.eq_none_iff_forall_ne_some]
  exact forall_congr' fun other => not_congr recorded?_eq_some

/-- The constructor that is called is `new` if any is recorded, else the first one. -/
theorem constructor?_eq_some {id : Nat} {declaration : Declaration} {name : String}
    (declared : table.declaration? id = some declaration) :
    table.constructor? id = some name ↔
      table.Told declaration.qualifiedName (.constructor "new") ∧ name = "new" ∨
        ¬table.Told declaration.qualifiedName (.constructor "new") ∧
          table.ToldFirst declaration.qualifiedName name := by
  unfold constructor?
  rw [declared, ← mem_constructors_iff, ← head?_constructors]
  dsimp only
  by_cases hasNew : "new" ∈ table.constructors declaration.qualifiedName
  · rw [if_pos (List.contains_iff_mem.mpr hasNew)]
    simp [hasNew, eq_comm]
  · rw [if_neg (mt List.contains_iff_mem.mp hasNew)]
    simp [hasNew]

/-- A constructor is found when any is recorded. -/
theorem constructor?_isSome {id : Nat} {declaration : Declaration}
    (declared : table.declaration? id = some declaration) :
    (∃ name, table.constructor? id = some name) ↔
      ∃ name, table.Told declaration.qualifiedName (.constructor name) := by
  simp only [← mem_constructors_iff]
  unfold constructor?
  rw [declared]
  dsimp only
  cases table.constructors declaration.qualifiedName with
  | nil => simp
  | cons first rest =>
      constructor
      · intro _
        exact ⟨first, by simp⟩
      · intro _
        split
        · exact ⟨_, rfl⟩
        · exact ⟨first, rfl⟩

end SymbolTable

end ForwardingProxy
