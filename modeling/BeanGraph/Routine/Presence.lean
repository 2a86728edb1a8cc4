import BeanGraph.Routine.Basic
import BeanGraph.Text.Blank

/-!
# Presence and truth

Whether a value is there at all, has anything in it, or is the truth value asked for.  Null is not
there, is empty and is blank; it has no truth value to be wrong about.
-/

namespace BeanGraph.Routine

/-- A value that is there. -/
def notNull : Routine := .ofPredicate "NotNull" fun v => !v.isNull

/-- A value that is not there. -/
def null : Routine := .ofPredicate "Null" Value.isNull

/-- At least one character, byte, element or entry. -/
def notEmpty : Routine := .ofPredicate "NotEmpty" fun v => v.size?.any (0 < ·)

/-- A text with at least one character that is no blank. -/
def notBlank : Routine := .ofPredicate "NotBlank" fun v =>
  v.str?.any fun s => !(Text.trimChars s.toList).isEmpty

/-- The truth value asked for; a value that is none passes. -/
def assertion (name : String) (expected : Bool) : Routine :=
  .ofPredicate name fun v => v.bool?.all (· == expected)

end BeanGraph.Routine
