import BeanGraph.Json.Basic

/-!
# Constraints

A `Constraint` is one declared rule on a property: its kind, attributes such as bounds or a message,
and the groups it belongs to.  A constraint without groups is in the default group, and a call that
asks for no groups asks for the default one.
-/

namespace BeanGraph

/-- The kind of a constraint, by which its routine is found. -/
structure ConstraintKind where
  name : String
deriving DecidableEq, Hashable, Inhabited, Repr

namespace ConstraintKind

/-- Not null. -/
def notNull : ConstraintKind := ⟨"NotNull"⟩

/-- Null. -/
def null : ConstraintKind := ⟨"Null"⟩

/-- Neither null nor without elements or characters. -/
def notEmpty : ConstraintKind := ⟨"NotEmpty"⟩

/-- A text that is not all blanks. -/
def notBlank : ConstraintKind := ⟨"NotBlank"⟩

/-- A size between bounds. -/
def size : ConstraintKind := ⟨"Size"⟩

/-- At least an integer. -/
def min : ConstraintKind := ⟨"Min"⟩

/-- At most an integer. -/
def max : ConstraintKind := ⟨"Max"⟩

/-- At least a decimal number. -/
def decimalMin : ConstraintKind := ⟨"DecimalMin"⟩

/-- At most a decimal number. -/
def decimalMax : ConstraintKind := ⟨"DecimalMax"⟩

/-- Above zero. -/
def positive : ConstraintKind := ⟨"Positive"⟩

/-- Zero or above. -/
def positiveOrZero : ConstraintKind := ⟨"PositiveOrZero"⟩

/-- Below zero. -/
def negative : ConstraintKind := ⟨"Negative"⟩

/-- Zero or below. -/
def negativeOrZero : ConstraintKind := ⟨"NegativeOrZero"⟩

/-- A text that a pattern matches. -/
def pattern : ConstraintKind := ⟨"Pattern"⟩

/-- The truth value `true`. -/
def assertTrue : ConstraintKind := ⟨"AssertTrue"⟩

/-- The truth value `false`. -/
def assertFalse : ConstraintKind := ⟨"AssertFalse"⟩

end ConstraintKind

/-- A group of constraints that a call can ask for. -/
structure Group where
  name : String
deriving DecidableEq, Hashable, Inhabited, Repr

/-- The group of constraints without groups. -/
def Group.default : Group := ⟨"Default"⟩

/-- The groups that a list of groups stands for. -/
def Group.effective (groups : List Group) : List Group :=
  if groups.isEmpty then [.default] else groups

/-- A declared constraint.  Its attributes are sorted by name. -/
structure Constraint where
  kind : ConstraintKind
  attributes : List (String × Json) := []
  groups : List Group := []
deriving BEq, Inhabited

namespace Constraint

theorem beq_iff {c d : Constraint} : (c == d) = true ↔
    c.kind = d.kind ∧ Json.sameEntries c.attributes d.attributes = true ∧ c.groups = d.groups := by
  obtain ⟨⟩ := c
  obtain ⟨⟩ := d
  change instBEqConstraint.beq _ _ = true ↔ _
  simp only [instBEqConstraint.beq, Bool.and_eq_true, beq_iff_eq, Json.beq_entries]

/-- Constraints are compared by an equivalence, as their attributes are. -/
instance : EquivBEq Constraint where
  rfl := beq_iff.2 ⟨rfl, Json.sameEntries_self _, rfl⟩
  symm h := by
    obtain ⟨hkind, hattributes, hgroups⟩ := beq_iff.1 h
    refine beq_iff.2 ⟨hkind.symm, ?_, hgroups.symm⟩
    exact (Json.sameEntries_congr hattributes _).symm.trans (Json.sameEntries_self _)
  trans h h' := by
    obtain ⟨hkind, hattributes, hgroups⟩ := beq_iff.1 h
    obtain ⟨hkind', hattributes', hgroups'⟩ := beq_iff.1 h'
    refine beq_iff.2 ⟨hkind.trans hkind', ?_, hgroups.trans hgroups'⟩
    exact (Json.sameEntries_congr hattributes _).trans hattributes'

/-! ## Declaring -/

/-- A constraint without attributes. -/
def ofKind (kind : ConstraintKind) : Constraint := { kind }

/-- Sets an attribute. -/
def withAttribute (c : Constraint) (name : String) (value : Json) : Constraint :=
  { c with attributes := Json.insert name value c.attributes }

/-- Sets the message. -/
def withMessage (c : Constraint) (message : String) : Constraint :=
  c.withAttribute "message" (.string message)

/-- Adds the constraint to groups. -/
def inGroups (c : Constraint) (groups : List Group) : Constraint :=
  { c with groups := c.groups ++ groups }

/-- A bound on a size, both ends included. -/
def size (least most : Nat) : Constraint :=
  ((ofKind .size).withAttribute "min" (.int least)).withAttribute "max" (.int most)

/-- A least integer. -/
def min (limit : Int64) : Constraint := (ofKind .min).withAttribute "value" (.int limit.toInt)

/-- A greatest integer. -/
def max (limit : Int64) : Constraint := (ofKind .max).withAttribute "value" (.int limit.toInt)

/-- A least number, in decimal text. -/
def decimalMin (limit : String) : Constraint :=
  (ofKind .decimalMin).withAttribute "value" (.string limit)

/-- A greatest number, in decimal text. -/
def decimalMax (limit : String) : Constraint :=
  (ofKind .decimalMax).withAttribute "value" (.string limit)

/-- A pattern for the whole text. -/
def pattern (regexp : String) : Constraint :=
  (ofKind .pattern).withAttribute "regexp" (.string regexp)

/-! ## Reading -/

/-- The value of an attribute, if it is given. -/
def attribute? (c : Constraint) (name : String) : Option Json := c.attributes.lookup name

/-- The message: the attribute of that name if it is a text, else the kind's key in braces. -/
def messageTemplate (c : Constraint) : String :=
  ((c.attribute? "message").bind Json.string?).getD
    ("\x7b" ++ c.kind.name ++ ".message\x7d")

/-- Whether the constraint is in one of the groups asked for. -/
def appliesTo (c : Constraint) (requested : List Group) : Bool :=
  (Group.effective c.groups).any (Group.effective requested).contains

end Constraint

end BeanGraph
