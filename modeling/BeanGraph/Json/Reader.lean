import BeanGraph.Json.Basic
import BeanGraph.Binary64.Decimal

/-!
# Reading JSON

A number with a point or an exponent is a float, and so is `-0` and an integer beyond 64 bits; all
other numbers are integers.  A float keeps the leading digits that fit in 64 bits, rounds them to a
double, and scales that by one rounded power of ten, so it is exact for short literals.

`Json.read?` accepts one value with blanks around it.
-/

namespace BeanGraph.Json

/-! ## Numbers -/

/-- `10 ^ n` rounded, for the powers that a double can hold. -/
def powerOfTen (n : Nat) : Binary64 := Binary64.ofInt (Nat.pow 10 n)

/-- A finite number times `10 ^ e`, in steps of at most 308 places; no result above the largest
double.  A number with 64-bit digits is zero after the third step down. -/
def scale (x : Binary64) (e : Int) : Nat → Option Binary64
  | 0 => some x
  | steps + 1 =>
    if -308 ≤ e ∧ e ≤ 308 then
      let y := if 0 ≤ e then x.mul (powerOfTen e.toNat) else x.div (powerOfTen (-e).toNat)
      if y.isFinite then some y else none
    else if x.magnitude = 0 then some x
    else if 0 ≤ e then none
    else scale (x.div (powerOfTen 308)) (e + 308) steps

/-- The leading digits that fit in 64 bits, read on from `n`, and how many digits they are. -/
def fittingDigits (n : Nat) : List Char → Nat × Nat
  | [] => (n, 0)
  | d :: rest =>
    let next := 10 * n + (d.toNat - '0'.toNat)
    if next < UInt64.size then
      let (m, taken) := fittingDigits next rest
      (m, taken + 1)
    else (n, 0)

/-- The float with the given digits before and after the point, and exponent. -/
def floatOf (negative : Bool) (whole part : List Char) (exponent : Int) : Option Binary64 :=
  let (digits, taken) := fittingDigits 0 (whole ++ part)
  (scale (Binary64.ofInt digits) (exponent + whole.length - taken) 4).map fun x =>
    if negative then x.neg else x

/-- The number with the given digits and nothing after them. -/
def integerOf (negative : Bool) (whole : List Char) : Option Json :=
  let n : Int := Decimal.ofDigits whole
  if negative then
    if 0 < n ∧ Int64.minValue.toInt ≤ -n then some (.int (-n))
    else (floatOf true whole [] 0).map .float
  else if n < UInt64.size then some (.int n) else (floatOf false whole [] 0).map .float

/-- The exponent after a number's digits, and what follows it. -/
def exponent? : List Char → Option (Option Int × List Char)
  | e :: rest =>
    if e = 'e' ∨ e = 'E' then
      let (negative, digits) := Decimal.sign rest
      let (ds, rest) := Decimal.leadingDigits digits
      if ds.isEmpty then none
      else
        let n : Int := Decimal.ofDigits ds
        some (some (if negative then -n else n), rest)
    else some (none, e :: rest)
  | [] => some (none, [])

/-- A number at the front of a text. -/
def number? (cs : List Char) : Option (Json × List Char) := do
  let (negative, cs) := match cs with
    | '-' :: rest => (true, rest)
    | cs => (false, cs)
  let (whole, rest) := Decimal.leadingDigits cs
  if whole.isEmpty || (whole.head? == some '0' && 1 < whole.length) then none
  let pointed := rest.head? == some '.'
  let (part, rest) := Decimal.fraction rest
  if pointed && part.isEmpty then none
  let (exponent, rest) ← exponent? rest
  if pointed || exponent.isSome then
    let x ← floatOf negative whole part (exponent.getD 0)
    some (.float x, rest)
  else
    let j ← integerOf negative whole
    some (j, rest)

/-! ## Strings -/

/-- The value of a hexadecimal digit. -/
def hexValue? (c : Char) : Option Nat :=
  if c.isDigit then some (c.toNat - '0'.toNat)
  else if 'a' ≤ c ∧ c ≤ 'f' then some (c.toNat - 'a'.toNat + 10)
  else if 'A' ≤ c ∧ c ≤ 'F' then some (c.toNat - 'A'.toNat + 10)
  else none

/-- The unit written by four hexadecimal digits, and what follows them. -/
def unit? : List Char → Option (Nat × List Char)
  | a :: b :: c :: d :: rest => do
    let a ← hexValue? a
    let b ← hexValue? b
    let c ← hexValue? c
    let d ← hexValue? d
    some (((a * 16 + b) * 16 + c) * 16 + d, rest)
  | _ => none

/-- The character of an escape, after its backslash.  A pair of surrogate units is one
character. -/
def escape? : List Char → Option (Char × List Char)
  | '"' :: rest => some ('"', rest)
  | '\\' :: rest => some ('\\', rest)
  | '/' :: rest => some ('/', rest)
  | 'b' :: rest => some (Char.ofNat 8, rest)
  | 'f' :: rest => some (Char.ofNat 12, rest)
  | 'n' :: rest => some ('\n', rest)
  | 'r' :: rest => some ('\r', rest)
  | 't' :: rest => some ('\t', rest)
  | 'u' :: rest => do
    let (unit, rest) ← unit? rest
    if unit < 0xD800 ∨ 0xE000 ≤ unit then some (Char.ofNat unit, rest)
    else
      match rest with
      | '\\' :: 'u' :: rest =>
        let (second, rest) ← unit? rest
        if unit < 0xDC00 ∧ 0xDC00 ≤ second ∧ second < 0xE000 then
          some (Char.ofNat (0x10000 + (unit - 0xD800) * 0x400 + (second - 0xDC00)), rest)
        else none
      | _ => none
  | _ => none

/-- The characters up to the closing quote, newest first, and what follows it. -/
def stringBody? : Nat → List Char → List Char → Option (String × List Char)
  | 0, _, _ => none
  | _ + 1, _, [] => none
  | fuel + 1, done, c :: rest =>
    if c = '"' then some (String.ofList done.reverse, rest)
    else if c = '\\' then do
      let (c, rest) ← escape? rest
      stringBody? fuel (c :: done) rest
    else if c.toNat < 32 then none
    else stringBody? fuel (c :: done) rest

/-! ## Values -/

/-- A text without the blanks at its front. -/
def skipBlanks (cs : List Char) : List Char :=
  cs.dropWhile fun c => c == ' ' || c == '\n' || c == '\t' || c == '\r'

mutual

/-- A value at the front of a text, and what follows it; every call below reads a character of the
text, so the text's length is fuel enough. -/
def value? : Nat → List Char → Option (Json × List Char)
  | 0, _ => none
  | fuel + 1, cs =>
    match skipBlanks cs with
    | 'n' :: 'u' :: 'l' :: 'l' :: rest => some (.null, rest)
    | 't' :: 'r' :: 'u' :: 'e' :: rest => some (.bool true, rest)
    | 'f' :: 'a' :: 'l' :: 's' :: 'e' :: rest => some (.bool false, rest)
    | '"' :: rest => (stringBody? (rest.length + 1) [] rest).map fun (s, rest) => (.string s, rest)
    | '[' :: rest =>
      match skipBlanks rest with
      | ']' :: rest => some (.array [], rest)
      | rest => (items? fuel [] rest).map fun (items, rest) => (.array items, rest)
    | '\x7b' :: rest =>
      match skipBlanks rest with
      | '\x7d' :: rest => some (.object [], rest)
      | rest => (entries? fuel [] rest).map fun (entries, rest) => (ofEntries entries, rest)
    | cs => number? cs

/-- The items up to the closing bracket, newest first in `done`. -/
def items? : Nat → List Json → List Char → Option (List Json × List Char)
  | 0, _, _ => none
  | fuel + 1, done, cs => do
    let (j, rest) ← value? fuel cs
    match skipBlanks rest with
    | ',' :: rest => items? fuel (j :: done) rest
    | ']' :: rest => some ((j :: done).reverse, rest)
    | _ => none

/-- The entries up to the closing brace, newest first in `done`. -/
def entries? :
    Nat → List (String × Json) → List Char → Option (List (String × Json) × List Char)
  | 0, _, _ => none
  | fuel + 1, done, cs => do
    match skipBlanks cs with
    | '"' :: rest =>
      let (key, rest) ← stringBody? (rest.length + 1) [] rest
      match skipBlanks rest with
      | ':' :: rest =>
        let (j, rest) ← value? fuel rest
        match skipBlanks rest with
        | ',' :: rest => entries? fuel ((key, j) :: done) rest
        | '\x7d' :: rest => some (((key, j) :: done).reverse, rest)
        | _ => none
      | _ => none
    | _ => none

end

/-- The value that a text holds, blanks around it aside. -/
def read? (s : String) : Option Json :=
  let cs := s.toList
  match value? (cs.length + 1) cs with
  | some (j, rest) => if (skipBlanks rest).isEmpty then some j else none
  | none => none

end BeanGraph.Json
