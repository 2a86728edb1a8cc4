/-!
# Double-precision numbers as words

A `Binary64` is the 64-bit word of a double-precision number, so two of them are equal when their
bits are.  Everything is exact arithmetic on natural numbers: a finite magnitude is an integer
multiple of `2 ^ -1074`, and the magnitudes are ordered as their words are.

* `Binary64.le` and its companions compare by value: both zeros are equal, a NaN compares false;
* `Binary64.nearest` rounds a quotient of natural numbers, ties to even, overflow to infinity;
* `Binary64.ofInt`, `Binary64.mul` and `Binary64.div` are the exact result rounded once.
-/

namespace BeanGraph

/-- A double-precision number, given by its bits. -/
structure Binary64 where
  bits : UInt64
deriving DecidableEq, Hashable, Inhabited, Repr

namespace Binary64

/-! ## Fields -/

/-- The word without its sign bit. -/
def magnitude (x : Binary64) : Nat := x.bits.toNat % Nat.pow 2 63

/-- Whether the sign bit is set. -/
def negative (x : Binary64) : Bool := Nat.pow 2 63 ≤ x.bits.toNat

/-- The magnitude word of infinity; larger ones are NaNs. -/
def infinityWord : Nat := 2047 * Nat.pow 2 52

/-- The number with the given sign and magnitude word. -/
def ofMagnitude (negative : Bool) (word : Nat) : Binary64 :=
  ⟨UInt64.ofNat ((if negative then Nat.pow 2 63 else 0) + word % Nat.pow 2 63)⟩

/-- The number is no number: its magnitude is above that of the infinities. -/
def isNaN (x : Binary64) : Bool := infinityWord < x.magnitude

/-- The number is one of the two infinities. -/
def isInfinite (x : Binary64) : Bool := x.magnitude == infinityWord

/-- The number is neither an infinity nor a NaN. -/
def isFinite (x : Binary64) : Bool := x.magnitude < infinityWord

/-- The exponent of the unit in the last place of a finite magnitude, counted from `2 ^ -1074`. -/
def unitExponent (word : Nat) : Nat := word / Nat.pow 2 52 - 1

/-- A finite magnitude in units of its last place. -/
def significand (word : Nat) : Nat :=
  if word < Nat.pow 2 52 then word else Nat.pow 2 52 + word % Nat.pow 2 52

/-- A finite magnitude as a multiple of `2 ^ -1074`. -/
def scaled (word : Nat) : Nat := significand word * Nat.pow 2 (unitExponent word)

/-! ## Order -/

/-- The place of a number that is no NaN in the order of values; both zeros are at `0`. -/
def rank (x : Binary64) : Int := if x.negative then -(x.magnitude : Int) else x.magnitude

/-- Less than or equal, false if either side is a NaN. -/
def le (x y : Binary64) : Bool := !x.isNaN && !y.isNaN && x.rank ≤ y.rank

/-- Less than, false if either side is a NaN. -/
def lt (x y : Binary64) : Bool := !x.isNaN && !y.isNaN && x.rank < y.rank

/-- Positive zero. -/
def zero : Binary64 := ⟨0⟩

/-- The infinity of the given sign. -/
def infinity (negative : Bool) : Binary64 := ofMagnitude negative infinityWord

/-- The NaN without a payload. -/
def nan : Binary64 := ⟨0x7ff8000000000000⟩

/-- The same magnitude with the other sign. -/
def neg (x : Binary64) : Binary64 := ofMagnitude (!x.negative) x.magnitude

/-! ## Rounding -/

/-- The integer nearest to `num / den`, a half going to the even neighbour. -/
def roundHalfEven (num den : Nat) : Nat :=
  let quotient := num / den
  let rest := 2 * (num % den)
  if rest < den ∨ (rest = den ∧ quotient % 2 = 0) then quotient else quotient + 1

/-- The least unit exponent at which `num / den` has at most 53 binary digits. -/
def unitExponentOf (num den : Nat) : Nat :=
  let u := Nat.log2 num + 1021 - Nat.log2 den
  if num * Nat.pow 2 1074 < den * Nat.pow 2 (53 + u) then u else u + 1

/-- The magnitude word nearest to `num / den`.  A significand that rounds up to `2 ^ 53` carries
into the exponent by itself, and from the midpoint above the largest finite value on the result is
infinity. -/
def nearest (num den : Nat) : Nat :=
  if num = 0 then 0
  else
    let u := unitExponentOf num den
    min infinityWord
      (u * Nat.pow 2 52 + roundHalfEven (num * Nat.pow 2 1074) (den * Nat.pow 2 u))

/-- The number nearest to an integer. -/
def ofInt (n : Int) : Binary64 := ofMagnitude (n < 0) (nearest n.natAbs 1)

/-- The product, rounded once; the factors are finite. -/
def mul (x y : Binary64) : Binary64 :=
  ofMagnitude (x.negative != y.negative)
    (nearest (scaled x.magnitude * scaled y.magnitude) (Nat.pow 2 2148))

/-- The quotient, rounded once; both numbers are finite and the divisor is not zero. -/
def div (x y : Binary64) : Binary64 :=
  ofMagnitude (x.negative != y.negative) (nearest (scaled x.magnitude) (scaled y.magnitude))

end Binary64

end BeanGraph
