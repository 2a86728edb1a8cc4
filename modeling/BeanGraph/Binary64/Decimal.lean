import BeanGraph.Binary64.Basic

/-!
# Reading decimal text

The text of a number is an optional sign and then `inf`, `infinity` or `nan` in any case, or
digits with at most one point and an optional exponent; at least one digit stands before the
exponent, and a point needs a digit on one side only.  `Binary64.ofText?` reads it to the nearest
double.
-/

namespace BeanGraph

/-- The number `± digits · 10 ^ exponent`. -/
structure Decimal where
  negative : Bool
  digits : Nat
  exponent : Int
deriving DecidableEq, Repr

namespace Decimal

/-- The value of a string of decimal digits. -/
def ofDigits (ds : List Char) : Nat :=
  ds.foldl (fun n d => 10 * n + (d.toNat - '0'.toNat)) 0

/-- An optional sign, and what follows it. -/
def sign : List Char → Bool × List Char
  | '-' :: rest => (true, rest)
  | '+' :: rest => (false, rest)
  | rest => (false, rest)

/-- The digits at the front of a text, and what follows them. -/
def leadingDigits (cs : List Char) : List Char × List Char :=
  (cs.takeWhile Char.isDigit, cs.dropWhile Char.isDigit)

/-- The digits after a point, if one is at the front, and what follows them. -/
def fraction : List Char → List Char × List Char
  | '.' :: rest => leadingDigits rest
  | rest => ([], rest)

/-- The exponent that fills the rest of a text; an empty rest is the exponent zero. -/
def exponent? : List Char → Option Int
  | [] => some 0
  | e :: rest =>
    if e = 'e' ∨ e = 'E' then
      let (negative, ds) := sign rest
      if ds.isEmpty ∨ !ds.all Char.isDigit then none
      else some (if negative then -(ofDigits ds : Int) else ofDigits ds)
    else none

/-- The number that an unsigned decimal text stands for. -/
def unsigned? (negative : Bool) (cs : List Char) : Option Decimal :=
  let (whole, afterWhole) := leadingDigits cs
  let (part, afterPart) := fraction afterWhole
  if whole.isEmpty ∧ part.isEmpty then none
  else (exponent? afterPart).map fun e =>
    { negative, digits := ofDigits (whole ++ part), exponent := e - part.length }

end Decimal

namespace Binary64

/-- The double nearest to a decimal number.  A number below every subnormal's half, or above the
largest double, is settled by its count of digits before any large power is formed. -/
def ofDecimal (d : Decimal) : Binary64 :=
  let count : Int := (Nat.toDigits 10 d.digits).length
  if d.digits = 0 ∨ d.exponent + count < -330 then ofMagnitude d.negative 0
  else if 400 < d.exponent + count then infinity d.negative
  else if 0 ≤ d.exponent then
    ofMagnitude d.negative (nearest (d.digits * Nat.pow 10 d.exponent.toNat) 1)
  else ofMagnitude d.negative (nearest d.digits (Nat.pow 10 (-d.exponent).toNat))

/-- The double that a text stands for, nearest to what it says. -/
def ofText? (s : String) : Option Binary64 :=
  let (negative, cs) := Decimal.sign s.toList
  let word := cs.map Char.toLower
  if word = "inf".toList ∨ word = "infinity".toList then some (infinity negative)
  else if word = "nan".toList then some (ofMagnitude negative nan.magnitude)
  else (Decimal.unsigned? negative cs).map ofDecimal

end Binary64

end BeanGraph
