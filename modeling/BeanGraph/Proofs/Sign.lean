import BeanGraph.Proofs.DecimalBound

/-!
# Signs of integers

A sign is read off the double that a number is rounded to.  Rounding takes no integer to zero or
across it, so about integers a sign answers what the integer bound next to zero does, and of two
opposite signs one accepts and the other does not.

* `check_sign`: a sign compares an integer with zero exactly;
* `sign_of_int`: the integer bound that it agrees with, and the sign that it excludes.
-/

namespace BeanGraph.Routine

open Binary64 (ofInt)

variable {side : Side} {orZero : Bool} {n : Int64}

/-! ## Comparing with zero -/

/-- An integer is rounded to another double than zero unless it is zero. -/
theorem eq_zero_or_ofInt_ne : n = 0 ∨ ofInt n.toInt ≠ ofInt (0 : Int64).toInt := by
  refine Decidable.or_iff_not_imp_left.2 fun hne heq => hne ?_
  exact Int64.toInt_inj.1 ((Binary64.ofInt_eq_zero_iff (log2_toInt n)).1 heq)

/-- A sign answers about every integer, and compares it with zero exactly. -/
theorem check_sign (name : String) (c : Constraint) (context : Context) :
    (sign name side orZero).check (.int n) c context = .ok (side.exactly orZero 0 n) := by
  have hzero : (.zero : Binary64) = ofInt (0 : Int64).toInt := rfl
  have hchecked : (sign name side orZero).check (.int n) c context =
      .ok (if orZero then side.allows .zero (ofInt n.toInt)
        else side.allowsStrictly .zero (ofInt n.toInt)) := rfl
  rw [hchecked, ← Side.rounded_eq_exactly eq_zero_or_ofInt_ne, Side.rounded, hzero]
  cases orZero with
  | true => rw [if_pos rfl, Side.allows_ofInt]
  | false => rw [if_neg Bool.false_ne_true, Side.allowsStrictly_ofInt]

/-! ## Signs and bounds -/

/-- The kind of the signs on a side of zero, which zero has as well or has not. -/
def Side.signKind : Side → Bool → ConstraintKind
  | .lower, false => .positive
  | .lower, true => .positiveOrZero
  | .upper, false => .negative
  | .upper, true => .negativeOrZero

/-- The kind of the integer bounds on a side. -/
def Side.integerKind : Side → ConstraintKind
  | .lower => .min
  | .upper => .max

/-- The integer of a sign that is closest to zero. -/
def Side.closest : Side → Bool → Int64
  | _, true => 0
  | .lower, false => 1
  | .upper, false => -1

/-- The other side. -/
def Side.opposite : Side → Side
  | .lower => .upper
  | .upper => .lower

/-- To be beyond zero is to be at the integer next to it or beyond. -/
theorem Side.exactly_closest :
    side.exactly true (side.closest orZero) n = side.exactly orZero 0 n := by
  rw [Bool.eq_iff_iff]
  cases side <;> cases orZero <;>
    simp only [exactly, closest, allowsInt, allowsIntStrictly, if_true, Bool.false_eq_true,
      if_false, decide_eq_true_iff, Int64.le_iff_toInt_le, Int64.lt_iff_toInt_lt]
  · have hone : (1 : Int64).toInt = 1 := rfl
    have hzero : (0 : Int64).toInt = 0 := rfl
    omega
  · have hone : (-1 : Int64).toInt = -1 := rfl
    have hzero : (0 : Int64).toInt = 0 := rfl
    omega

/-- What is not on one side of zero is on the other side, or at zero if that is on neither. -/
theorem Side.exactly_opposite :
    side.opposite.exactly (!orZero) 0 n = !side.exactly orZero 0 n := by
  rw [Bool.eq_iff_iff]
  cases side <;> cases orZero <;>
    simp only [exactly, opposite, allowsInt, allowsIntStrictly, Bool.not_true, Bool.not_false,
      if_true, Bool.false_eq_true, if_false, decide_eq_true_iff, Bool.not_eq_true',
      decide_eq_false_iff_not, Int64.le_iff_toInt_le, Int64.lt_iff_toInt_lt] <;>
    omega

/-- The built-in routine for a sign answers about every integer. -/
theorem answer_of_signKind {c : Constraint} (h : c.kind = side.signKind orZero) (n : Int64)
    (context : Context) : c.answer? n context = some (.ok (side.exactly orZero 0 n)) := by
  rw [Constraint.answer?, h]
  cases side <;> cases orZero <;> exact congrArg some (check_sign _ c context)

/-- The built-in routine for an integer bound answers about every integer. -/
theorem answer_of_integerKind {c : Constraint} {limit : Int64} (h : c.kind = side.integerKind)
    (hvalue : c.attribute? "value" = some (.int limit.toInt)) (n : Int64) (context : Context) :
    c.answer? n context = some (.ok (side.exactly true limit n)) := by
  rw [Constraint.answer?, h]
  cases side <;> exact congrArg some (check_intBound hvalue _ context)

/-- A sign answers about every integer whether it is on the side of zero, exactly; the answer is
that of the integer bound at the integer of the sign that is closest to zero, and the sign on the
opposite side, which has zero if this one has not, gives the other answer. -/
theorem sign_of_int {c bound opposite : Constraint} (hkind : c.kind = side.signKind orZero)
    (hbound : bound.kind = side.integerKind)
    (hvalue : bound.attribute? "value" = some (.int (side.closest orZero).toInt))
    (hopposite : opposite.kind = side.opposite.signKind (!orZero)) (n : Int64) (context : Context) :
    c.answer? n context = some (.ok (side.exactly orZero 0 n)) ∧
      bound.answer? n context = c.answer? n context ∧
      opposite.answer? n context = some (.ok (!side.exactly orZero 0 n)) := by
  have hsign := answer_of_signKind hkind n context
  refine ⟨hsign, ?_, ?_⟩
  · rw [answer_of_integerKind hbound hvalue, hsign, Side.exactly_closest]
  · rw [answer_of_signKind hopposite, Side.exactly_opposite]

/-- The least integer is negative. -/
theorem least_negative :
    (Constraint.ofKind .negative).answer? Int64.minValue Amount.context = some (.ok true) ∧
      (Constraint.max (-1)).answer? Int64.minValue Amount.context =
        (Constraint.ofKind .negative).answer? Int64.minValue Amount.context ∧
      (Constraint.ofKind .positiveOrZero).answer? Int64.minValue Amount.context =
        some (.ok false) :=
  @sign_of_int .upper false (.ofKind .negative) (.max (-1)) (.ofKind .positiveOrZero) rfl rfl rfl
    rfl Int64.minValue Amount.context

end BeanGraph.Routine
