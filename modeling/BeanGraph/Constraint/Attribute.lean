import BeanGraph.Constraint.Basic
import BeanGraph.Json.Writer

/-!
# Reading attributes

A routine reads the attributes of a constraint as integers, sizes, truth values or texts.  An
attribute that is absent reads as nothing; one of another form is an error, and so is the absence of
one that is required.
-/

namespace BeanGraph

/-- What an attribute is read as. -/
inductive AttributeForm
  | integer
  | size
  | boolean
  | string
deriving DecidableEq, Repr

/-- The form as messages name it. -/
def AttributeForm.text : AttributeForm → String
  | .integer => "integer"
  | .size => "non-negative integer"
  | .boolean => "boolean"
  | .string => "string"

/-- What is wrong with an attribute. -/
inductive AttributeFault
  | expected (form : AttributeForm) (got : Json)
  | notDecimal (text : String)
  | notPattern (text : String)

/-- What is wrong, as messages say it; what an engine says of a pattern is told as it is. -/
def AttributeFault.text : AttributeFault → String
  | .expected form got => "expected " ++ form.text ++ ", got " ++ got.write
  | .notDecimal text => text ++ " does not represent a valid decimal format"
  | .notPattern text => text

/-- Why a routine cannot answer. -/
inductive ConstraintError
  | missingAttribute (kind : ConstraintKind) (name : String)
  | invalidAttribute (kind : ConstraintKind) (name : String) (fault : AttributeFault)
  | custom (message : String)

/-- The message of an error, which names the kind and the attribute. -/
def ConstraintError.message : ConstraintError → String
  | .missingAttribute kind name =>
    "constraint " ++ kind.name ++ " requires attribute '" ++ name ++ "'"
  | .invalidAttribute kind name fault =>
    "constraint " ++ kind.name ++ " has invalid attribute '" ++ name ++ "': " ++ fault.text
  | .custom message => message

namespace Constraint

/-- Reads an attribute through a view of its value. -/
def read (c : Constraint) (form : AttributeForm) (view : Json → Option α) (name : String) :
    Except ConstraintError (Option α) :=
  match c.attribute? name with
  | none => .ok none
  | some j =>
    match view j with
    | some a => .ok (some a)
    | none => .error (.invalidAttribute c.kind name (.expected form j))

/-- An attribute that is a signed 64-bit integer. -/
def int? (c : Constraint) : String → Except ConstraintError (Option Int64) :=
  c.read .integer Json.int64?

/-- An attribute that is a size. -/
def size? (c : Constraint) : String → Except ConstraintError (Option Nat) :=
  c.read .size Json.uint64?

/-- An attribute that is a truth value. -/
def bool? (c : Constraint) : String → Except ConstraintError (Option Bool) :=
  c.read .boolean Json.bool?

/-- An attribute that is a text. -/
def string? (c : Constraint) : String → Except ConstraintError (Option String) :=
  c.read .string Json.string?

/-- An attribute that has to be there. -/
def required (c : Constraint) (read : Constraint → String → Except ConstraintError (Option α))
    (name : String) : Except ConstraintError α :=
  match read c name with
  | .ok (some a) => .ok a
  | .ok none => .error (.missingAttribute c.kind name)
  | .error e => .error e

/-- An integer is read as itself, and nothing else is read as one. -/
theorem required_int?_eq_ok {c : Constraint} {name : String} {n : Int64} :
    c.required int? name = .ok n ↔ c.attribute? name = some (.int n.toInt) := by
  unfold required int? read
  cases c.attribute? name with
  | none => simp
  | some j =>
    cases hj : j.int64? with
    | none =>
      have hne : j ≠ .int n.toInt := fun h => by
        rw [Json.int64?_eq_some.2 h] at hj
        cases hj
      simp [hj, hne]
    | some m =>
      obtain rfl := Json.int64?_eq_some.1 hj
      simp [hj, Int64.toInt_inj]

end Constraint

end BeanGraph
