import BeanGraph.Pattern.Matching
import BeanGraph.Routine.Bounds
import BeanGraph.Routine.Pattern
import BeanGraph.Routine.Presence
import BeanGraph.Table

/-!
# Registry of routines

Routines are registered by the kind of constraint they check and the type of value they check it on.
A look-up tries the value's type first and then `TypeTag.any`.
-/

namespace BeanGraph

/-- Routines by constraint kind and value type. -/
abbrev RoutineRegistry := Table (ConstraintKind × TypeTag) Routine

namespace RoutineRegistry

/-- No routines at all. -/
def empty : RoutineRegistry := {}

/-- The routine for values of a type. -/
def find? (r : RoutineRegistry) (kind : ConstraintKind) (tag : TypeTag) : Option Routine :=
  (Table.find? r (kind, tag)).or (Table.find? r (kind, .any))

/-- A routine that is found is registered for the type of the value, or for all types. -/
theorem mem_of_find? {r : RoutineRegistry} {kind : ConstraintKind} {tag : TypeTag}
    {routine : Routine} (h : r.find? kind tag = some routine) :
    ((kind, tag), routine) ∈ r.entries ∨ ((kind, .any), routine) ∈ r.entries :=
  (Option.or_eq_some_iff.1 h).imp Table.mem_of_find? fun h => Table.mem_of_find? h.2

theorem exists_mem_of_find? {r : RoutineRegistry} {kind : ConstraintKind} {tag : TypeTag}
    {routine : Routine} (h : r.find? kind tag = some routine) :
    ∃ key, (key, routine) ∈ r.entries := by
  rcases mem_of_find? h with h | h <;> exact ⟨_, h⟩

/-- One routine for several types of value. -/
def onTags (kind : ConstraintKind) (tags : List TypeTag) (routine : Routine) :
    List ((ConstraintKind × TypeTag) × Routine) :=
  tags.map fun tag => ((kind, tag), routine)

/-- The types of numbers. -/
def numbers : List TypeTag := [.int, .float]

/-- The types of numbers and of texts that may be one. -/
def decimals : List TypeTag := [.int, .float, .str]

/-- The types of values that have a size. -/
def sized : List TypeTag := [.str, .bytes, .list, .set, .map]

/-- The built-in routines, with an engine for the patterns. -/
def builtIn (engine : Pattern.Engine) : RoutineRegistry := .ofList <|
  onTags .notNull [.any] .notNull ++
  onTags .null [.any] .null ++
  onTags .assertTrue [.bool] (.assertion "AssertTrue" true) ++
  onTags .assertFalse [.bool] (.assertion "AssertFalse" false) ++
  onTags .min numbers (.intBound "Min" .lower) ++
  onTags .max numbers (.intBound "Max" .upper) ++
  onTags .decimalMin decimals (.decimalBound "DecimalMin" .lower) ++
  onTags .decimalMax decimals (.decimalBound "DecimalMax" .upper) ++
  onTags .positive numbers (.sign "Positive" .lower false) ++
  onTags .positiveOrZero numbers (.sign "PositiveOrZero" .lower true) ++
  onTags .negative numbers (.sign "Negative" .upper false) ++
  onTags .negativeOrZero numbers (.sign "NegativeOrZero" .upper true) ++
  onTags .size sized .size ++
  onTags .notEmpty sized .notEmpty ++
  onTags .notBlank [.str] .notBlank ++
  onTags .pattern [.str] (.pattern engine)

/-- The built-in routines as they are run. -/
def default : RoutineRegistry := builtIn Pattern.engine

/-- The built-in routines look at nothing but the value and the constraint. -/
theorem plain_of_builtIn {engine : Pattern.Engine} {kind : ConstraintKind} {tag : TypeTag}
    {routine : Routine} (h : (builtIn engine).find? kind tag = some routine) : routine.Plain := by
  obtain ⟨key, hmem⟩ := exists_mem_of_find? h
  have hplain : ∀ r ∈ (builtIn engine).entries.map (·.2), r.Plain := by
    simp only [builtIn, Table.ofList, onTags, numbers, decimals, sized, List.map_append,
      List.map_cons, List.map_nil, List.forall_mem_append, List.forall_mem_cons,
      List.not_mem_nil, false_implies, implies_true, and_true]
    repeat' apply And.intro
    all_goals exact fun _ _ _ _ => rfl
  exact hplain routine (List.mem_map_of_mem hmem)

end RoutineRegistry

end BeanGraph
