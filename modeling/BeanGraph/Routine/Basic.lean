import BeanGraph.Constraint.Attribute
import BeanGraph.Context

/-!
# Routines

A `Routine` answers whether a value satisfies a constraint.  It may look at the context of the call,
and it may fail, which is not the same as answering no.
-/

namespace BeanGraph

/-- Checks values against constraints of one kind. -/
structure Routine where
  name : String
  check : Value → Constraint → Context → Except ConstraintError Bool

/-- A routine that depends on nothing but the value and the constraint. -/
def Routine.Plain (r : Routine) : Prop := ∀ v c x y, r.check v c x = r.check v c y

/-- A routine that never fails. -/
def Routine.Total (r : Routine) : Prop := ∀ v c x, ∃ answer, r.check v c x = .ok answer

/-- A routine that looks at nothing but the value. -/
def Routine.ofPredicate (name : String) (p : Value → Bool) : Routine :=
  ⟨name, fun v _ _ => .ok (p v)⟩

theorem Routine.plain_ofPredicate (name : String) (p : Value → Bool) : (ofPredicate name p).Plain :=
  fun _ _ _ _ => rfl

theorem Routine.total_ofPredicate (name : String) (p : Value → Bool) : (ofPredicate name p).Total :=
  fun v _ _ => ⟨p v, rfl⟩

end BeanGraph
