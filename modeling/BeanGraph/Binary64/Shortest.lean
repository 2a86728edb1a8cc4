import BeanGraph.Binary64.Basic

/-!
# Shortest decimal text

The digits of a finite number are the fewest that read back as it, and of those the nearest to it;
where two are equally near, the form that is written decides.  A magnitude `4 m` in quarters of its
last place owns the numbers between `4 m - 2` and `4 m + 2` (or `4 m - 1` where the binade begins),
ends included when `m` is even.  `Binary64.shortest` takes the coarsest power of ten with a multiple
in that interval.

Two forms are written with the digits: `positional`, which has no exponent and no point in an
integral number, and `pointed`, which always has a point or an exponent.
-/

namespace BeanGraph.Binary64

/-! ## Digits -/

/-- The decimals that read back as a nonzero finite magnitude, over the denominator
`4 · 2 ^ 1074`. -/
structure Interval where
  low : Nat
  value : Nat
  high : Nat
  closed : Bool

/-- The interval that rounds to the magnitude word. -/
def interval (word : Nat) : Interval :=
  let m := significand word
  let unit := Nat.pow 2 (unitExponent word)
  { low := (4 * m - if m = Nat.pow 2 52 ∧ Nat.pow 2 53 ≤ word then 1 else 2) * unit
    value := 4 * m * unit
    high := (4 * m + 2) * unit
    closed := m % 2 = 0 }

/-- Whether the interval holds `num / den`, both over the interval's denominator. -/
def Interval.holds (i : Interval) (num den : Nat) : Bool :=
  if i.closed then i.low * den ≤ num && num ≤ i.high * den
  else i.low * den < num && num < i.high * den

/-- A multiple `digits · 10 ^ exponent` of a power of ten. -/
structure Digits where
  digits : Nat
  exponent : Int
deriving DecidableEq, Repr

/-- Which of two equally near neighbours is taken. -/
inductive Tie
  | up
  | even
deriving DecidableEq, Repr

/-- Whether the neighbour below is taken at a tie. -/
def Tie.takesBelow (tie : Tie) (below : Nat) : Bool :=
  match tie with
  | .up => false
  | .even => below % 2 = 0

/-- The multiple of `10 ^ k` nearest to the value of the interval, if the interval holds one: of
the two neighbours of the value on that grid, the nearer one inside. -/
def Interval.onGrid? (i : Interval) (tie : Tie) (k : Int) : Option Digits :=
  let step := 4 * Nat.pow 2 1074 * Nat.pow 10 k.toNat
  let den := Nat.pow 10 (-k).toNat
  let below := i.value * den / step
  let above := below + 1
  let twice := 2 * (i.value * den)
  let middle := (below + above) * step
  let nearBelow := twice < middle || (twice == middle && tie.takesBelow below)
  let low := i.holds (below * step) den
  let high := i.holds (above * step) den
  if low && (nearBelow || !high) then some ⟨below, k⟩
  else if high then some ⟨above, k⟩
  else none

/-- The first grid that has a multiple in the interval, from `10 ^ k` on down. -/
def Interval.coarsest (i : Interval) (tie : Tie) : Nat → Int → Digits
  | 0, k => ⟨0, k⟩
  | steps + 1, k =>
    match i.onGrid? tie k with
    | some d => d
    | none => coarsest i tie steps (k - 1)

/-- An upper bound of the decimal exponent of a magnitude: `0.30103` bounds `log₁₀ 2`. -/
def decimalExponentBound (word : Nat) : Int :=
  ((Nat.log2 (scaled word) : Int) + 1 - 1074) * 30103 / 100000 + 1

/-- The shortest digits of a nonzero finite magnitude.  No number needs more than 17 digits, and the
search starts at most three places above the first of them. -/
def shortest (tie : Tie) (word : Nat) : Digits :=
  (interval word).coarsest tie 21 (decimalExponentBound word)

/-! ## Text -/

/-- The decimal digits of a natural number. -/
def digitChars (n : Nat) : List Char := Nat.toDigits 10 n

/-- Digits with a point `places` digits before their end, with zeros filled in on the left. -/
def withPoint (ds : List Char) (places : Nat) : List Char :=
  let padded := List.replicate (places + 1 - ds.length) '0' ++ ds
  padded.take (padded.length - places) ++ '.' :: padded.drop (padded.length - places)

/-- The positional digits of a multiple of a power of ten. -/
def Digits.positional (d : Digits) : List Char :=
  if 0 ≤ d.exponent then digitChars d.digits ++ List.replicate d.exponent.toNat '0'
  else withPoint (digitChars d.digits) (-d.exponent).toNat

/-- The sign, written only when it is negative. -/
def signChars (x : Binary64) : List Char := if x.negative then ['-'] else []

/-- The text without an exponent: `3`, `-0`, `0.0000001`, `NaN`, `inf`.  A tie goes up. -/
def positional (x : Binary64) : String :=
  if x.isNaN then "NaN"
  else if x.isInfinite then String.ofList (x.signChars ++ "inf".toList)
  else if x.magnitude = 0 then String.ofList (x.signChars ++ ['0'])
  else String.ofList (x.signChars ++ (shortest .up x.magnitude).positional)

/-- The decimal exponent of the first digit. -/
def Digits.leading (d : Digits) : Int := d.exponent + (digitChars d.digits).length - 1

/-- One digit, the others after a point, and a signed exponent: `1e+30`, `2.5e-7`. -/
def Digits.scientific (d : Digits) : List Char :=
  let ds := digitChars d.digits
  let mantissa := if ds.length = 1 then ds else withPoint ds (ds.length - 1)
  let sign := if d.leading < 0 then '-' else '+'
  mantissa ++ 'e' :: sign :: digitChars d.leading.natAbs

/-- The text of a finite number that always shows that it is one: positional with at least `.0`
where the first digit stands between `10 ^ -5` and `10 ^ 15`, with an exponent elsewhere.  A tie
goes to the even digit. -/
def pointed (x : Binary64) : String :=
  if x.magnitude = 0 then String.ofList (x.signChars ++ "0.0".toList)
  else
    let d := shortest .even x.magnitude
    let body :=
      if -5 ≤ d.leading ∧ d.leading ≤ 15 then
        if 0 ≤ d.exponent then d.positional ++ ".0".toList else d.positional
      else d.scientific
    String.ofList (x.signChars ++ body)

end BeanGraph.Binary64
