import BeanGraph.Binary64.Decimal
import BeanGraph.Routine.Basic
import BeanGraph.Text.Blank

/-!
# Bounds

Integer bounds compare integers with integers, and floats with the bound as a double.  Decimal
bounds compare doubles: an integer is rounded to one first, and a text is read as one.  Signs
compare a number's double with zero, and sizes are bounded on both sides.

An integer bound reads its limit before it looks at the value; a decimal bound and a size accept
what they do not apply to before they read theirs.
-/

namespace BeanGraph.Routine

/-- Which side a limit is on. -/
inductive Side
  | lower
  | upper
deriving DecidableEq, Repr

/-! ## Integer bounds -/

/-- Whether an integer is on the right side of the limit or at it. -/
def Side.allowsInt : Side → Int64 → Int64 → Bool
  | .lower, limit, n => limit ≤ n
  | .upper, limit, n => n ≤ limit

/-- Whether a double is on the right side of the limit or at it. -/
def Side.allows : Side → Binary64 → Binary64 → Bool
  | .lower, limit, x => limit.le x
  | .upper, limit, x => x.le limit

/-- Whether a double is on the right side of the limit and not at it. -/
def Side.allowsStrictly : Side → Binary64 → Binary64 → Bool
  | .lower, limit, x => limit.lt x
  | .upper, limit, x => x.lt limit

/-- A number against the integer in `value`. -/
def intBound (name : String) (side : Side) : Routine where
  name
  check v c _ := do
    let limit ← c.required Constraint.int? "value"
    match v with
    | .int n => .ok (side.allowsInt limit n)
    | .float x => .ok (side.allows (.ofInt limit.toInt) x)
    | _ => .ok true

/-! ## Decimal bounds -/

/-- The number in `value`: decimal text with blanks around it, or a number. -/
def decimalLimit (c : Constraint) : Except ConstraintError Binary64 :=
  let invalid (text : String) : Except ConstraintError Binary64 :=
    .error (.invalidAttribute c.kind "value" (.notDecimal text))
  match c.attribute? "value" with
  | none => .error (.missingAttribute c.kind "value")
  | some (.string s) =>
    match Binary64.ofText? (Text.trim s) with
    | some x => .ok x
    | none => invalid s
  | some (.int n) => .ok (.ofInt n)
  | some (.float x) => .ok x
  | some j => invalid j.write

/-- What a decimal bound makes of a value: the double to compare, or its answer. -/
inductive Compared
  | number (x : Binary64)
  | notNumeric
  | unaffected

/-- An integer is rounded and a text is read; other values are none of a decimal bound's
business. -/
def Compared.ofValue : Value → Compared
  | .int n => .number (.ofInt n.toInt)
  | .float x => .number x
  | .str s =>
    match Binary64.ofText? (Text.trim s) with
    | some x => .number x
    | none => .notNumeric
  | _ => .unaffected

/-- A number, or a text that is one, against the decimal in `value`, which itself is allowed unless
`inclusive` is false. -/
def decimalBound (name : String) (side : Side) : Routine where
  name
  check v c _ := do
    if v.isNull then .ok true
    else
      let limit ← decimalLimit c
      let inclusive := (← c.bool? "inclusive").getD true
      match Compared.ofValue v with
      | .number x => .ok (if inclusive then side.allows limit x else side.allowsStrictly limit x)
      | .notNumeric => .ok false
      | .unaffected => .ok true

/-! ## Signs -/

/-- A number on one side of zero, or at it as well. -/
def sign (name : String) (side : Side) (orZero : Bool) : Routine :=
  .ofPredicate name fun v => v.float?.all fun x =>
    if orZero then side.allows .zero x else side.allowsStrictly .zero x

/-! ## Sizes -/

/-- The size that is allowed when no `max` is given. -/
def defaultMaxSize : Nat := Int32.maxValue.toInt.toNat

/-- A size between `min` and `max`. -/
def size : Routine where
  name := "Size"
  check v c _ :=
    match v.size? with
    | none => .ok true
    | some n => do
      let least := (← c.size? "min").getD 0
      let most := (← c.size? "max").getD defaultMaxSize
      .ok (least ≤ n && n ≤ most)

end BeanGraph.Routine
