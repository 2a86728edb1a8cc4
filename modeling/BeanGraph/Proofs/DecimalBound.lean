import BeanGraph.Proofs.Rounding
import BeanGraph.Routine.Registry
import Mathlib.Data.List.TakeWhile

/-!
# Decimal bounds on integers

A decimal bound compares doubles, so an integer is rounded before it is compared, and so is an
integer that the bound is given as.  The comparison is that of the integers unless rounding makes
them equal, and then the bound answers as it does for its own limit.

* `ofText?_toString`: the text of an integer is read as the integer rounded;
* `decimalBound_of_int`: what a decimal bound answers about an integer, and when this is exact;
* `limit_not_kept`: a limit that the integer below it passes.
-/

namespace BeanGraph

/-! ## The text of an integer -/

theorem toNat_of_isDigit {c : Char} (h : c.isDigit = true) : 48 ≤ c.toNat ∧ c.toNat ≤ 57 := by
  simpa [Char.isDigit, UInt32.le_iff_toNat_le] using h

namespace Text

theorem isBlank_of_isDigit {c : Char} (h : c.isDigit = true) : isBlank c = false := by
  have hdigits : ∀ d < 10, Unicode.whiteSpace.contains (48 + d) = false := by decide +kernel
  have hbounds := toNat_of_isDigit h
  have hdigit := hdigits (c.toNat - 48) (by omega)
  rwa [Nat.add_sub_cancel' hbounds.1] at hdigit

theorem dropWhile_isBlank {cs : List Char} (h : ∀ c ∈ cs, isBlank c = false) :
    cs.dropWhile isBlank = cs := by
  cases cs with
  | nil => rfl
  | cons c rest => rw [List.dropWhile_cons_of_neg (by simp [h c])]

/-- There is nothing to trim from a text without blanks. -/
theorem trim_eq_self {s : String} (h : ∀ c ∈ s.toList, isBlank c = false) : trim s = s := by
  rw [trim, trimChars, dropWhile_isBlank h, dropWhile_isBlank (by simpa using h),
    List.reverse_reverse, String.ofList_toList]

end Text

/-- The text of an integer is its digits, after a minus if it is negative. -/
theorem toList_toString (n : Int) :
    (toString n).toList = (if n < 0 then ['-'] else []) ++ Nat.toDigits 10 n.natAbs := by
  rw [Int.toString_eq_repr, Int.repr_eq_if]
  split
  · have hnat : n.toNat = n.natAbs := by omega
    rw [if_neg (by omega), List.nil_append, hnat, Nat.toList_repr]
  · have hnat : (-n).toNat = n.natAbs := by omega
    rw [if_pos (by omega), hnat, String.toList_append, Nat.toList_repr]
    rfl

theorem isDigit_of_mem_toDigits {n : Nat} {c : Char} (h : c ∈ Nat.toDigits 10 n) :
    c.isDigit = true :=
  Nat.isDigit_of_mem_toDigits (by omega) (by omega) h

theorem trim_toString (n : Int) : Text.trim (toString n) = toString n := by
  refine Text.trim_eq_self fun c hc => ?_
  rw [toList_toString, List.mem_append] at hc
  rcases hc with hc | hc
  · split at hc
    · obtain rfl := List.mem_singleton.1 hc
      decide +kernel
    · cases hc
  · exact Text.isBlank_of_isDigit (isDigit_of_mem_toDigits hc)

/-! ## Reading the text -/

namespace Decimal

/-- The sign of an integer's text is the integer's sign. -/
theorem sign_toString (n : Int) :
    sign (toString n).toList = (decide (n < 0), Nat.toDigits 10 n.natAbs) := by
  rw [toList_toString]
  split
  · rename_i hneg
    simp [sign, hneg]
  · rename_i hneg
    rw [List.nil_append, decide_eq_false hneg]
    cases hdigits : Nat.toDigits 10 n.natAbs with
    | nil => exact absurd hdigits Nat.toDigits_ne_nil
    | cons d rest =>
      have hdigit : d.isDigit = true := isDigit_of_mem_toDigits (hdigits ▸ List.mem_cons_self)
      unfold sign
      split
      · rename_i heq
        obtain ⟨rfl, -⟩ := List.cons.inj heq
        exact absurd hdigit (by decide)
      · rename_i heq
        obtain ⟨rfl, -⟩ := List.cons.inj heq
        exact absurd hdigit (by decide)
      · rfl

theorem leadingDigits_toDigits (n : Nat) :
    leadingDigits (Nat.toDigits 10 n) = (Nat.toDigits 10 n, []) := by
  have hdigits : ∀ c ∈ Nat.toDigits 10 n, c.isDigit = true := fun _ => isDigit_of_mem_toDigits
  have hdrop := List.dropWhile_eq_nil_iff.2 hdigits
  have htake : (Nat.toDigits 10 n).takeWhile Char.isDigit ++ [] = Nat.toDigits 10 n := by
    rw [← hdrop, List.takeWhile_append_dropWhile]
  rw [List.append_nil] at htake
  rw [leadingDigits, hdrop, htake]

/-- Digits alone are the number they write. -/
theorem unsigned?_toDigits (negative : Bool) (n : Nat) :
    unsigned? negative (Nat.toDigits 10 n) = some { negative, digits := n, exponent := 0 } := by
  have hdigits : ofDigits (Nat.toDigits 10 n) = n :=
    Nat.ofDigitChars_toDigits (by omega) (Nat.le_refl 10)
  simp [unsigned?, leadingDigits_toDigits, fraction, exponent?, Nat.toDigits_ne_nil, hdigits]

end Decimal

namespace Binary64

theorem toLower_of_isDigit {c : Char} (h : c.isDigit = true) : c.toLower = c := by
  have hbounds := toNat_of_isDigit h
  refine dif_neg fun hupper => ?_
  have hletter : 65 ≤ c.toNat := UInt32.le_iff_toNat_le.1 hupper.1
  omega

/-- A text of digits is no word with a letter in it. -/
theorem map_toLower_toDigits_ne (n : Nat) {word : List Char} {c : Char} (hc : c ∈ word)
    (hletter : c.isDigit = false) : (Nat.toDigits 10 n).map Char.toLower ≠ word := by
  rintro rfl
  obtain ⟨d, hd, rfl⟩ := List.mem_map.1 hc
  have hdigit := isDigit_of_mem_toDigits hd
  rw [toLower_of_isDigit hdigit, hdigit] at hletter
  cases hletter

/-- A decimal number that is an integer is rounded as an integer. -/
theorem ofDecimal_integer {n : Nat} (hn : n < 10 ^ 20) (negative : Bool) :
    ofDecimal { negative, digits := n, exponent := 0 } = ofMagnitude negative (nearest n 1) := by
  have hcount : (Nat.toDigits 10 n).length ≤ 20 :=
    (Nat.length_toDigits_le_iff (by omega) (by omega)).2 hn
  unfold ofDecimal
  dsimp only
  by_cases hzero : n = 0
  · rw [if_pos (Or.inl hzero), hzero, nearest_zero]
  · rw [if_neg (by omega), if_neg (by omega), if_pos (Int.le_refl 0), Int.toNat_zero,
      Nat.pow_eq, Nat.pow_zero, Nat.mul_one]

/-- The text of an integer is read as the integer rounded. -/
theorem ofText?_toString {n : Int} (hn : n.natAbs < 10 ^ 20) :
    ofText? (toString n) = some (ofInt n) := by
  have hword (word : String) (c : Char) (cs : List Char) (hword : word.toList = c :: cs)
      (hc : c.isDigit = false) : (Nat.toDigits 10 n.natAbs).map Char.toLower ≠ word.toList :=
    map_toLower_toDigits_ne _ (hword ▸ List.mem_cons_self) hc
  unfold ofText?
  rw [Decimal.sign_toString]
  dsimp only
  rw [if_neg (not_or.2 ⟨hword "inf" 'i' _ rfl rfl, hword "infinity" 'i' _ rfl rfl⟩),
    if_neg (hword "nan" 'n' _ rfl rfl), Decimal.unsigned?_toDigits, Option.map_some,
    ofDecimal_integer hn, ofInt]

end Binary64

/-! ## Comparing with an integer limit -/

open Binary64 (ofInt)

namespace Routine

variable {side : Side} {limit n : Int64}

/-- Whether an integer is on the right side of the limit and not at it. -/
def Side.allowsIntStrictly : Side → Int64 → Int64 → Bool
  | .lower, limit, n => limit < n
  | .upper, limit, n => n < limit

/-- The exact answer of a bound that allows its limit or does not. -/
def Side.exactly (side : Side) (inclusive : Bool) (limit n : Int64) : Bool :=
  if inclusive then side.allowsInt limit n else side.allowsIntStrictly limit n

theorem log2_toInt (n : Int64) : n.toInt.natAbs.log2 ≤ 1022 := by
  have hle := n.le_toInt
  have hlt := n.toInt_lt
  exact Binary64.log2_natAbs_le (by omega)

/-- Integers that are rounded to the same double are allowed for each other. -/
theorem Side.allows_ofInt :
    side.allows (ofInt limit.toInt) (ofInt n.toInt) =
      if ofInt n.toInt = ofInt limit.toInt then true else side.allowsInt limit n := by
  have hlimit := log2_toInt limit
  have hn := log2_toInt n
  rw [Bool.eq_iff_iff]
  cases side with
  | lower =>
    rw [allows, Binary64.le_ofInt_iff hlimit hn, allowsInt, eq_comm (b := ofInt n.toInt)]
    split <;> simp [*, Int64.le_iff_toInt_le]
  | upper =>
    rw [allows, Binary64.le_ofInt_iff hn hlimit, allowsInt]
    split <;> simp [*, Int64.le_iff_toInt_le]

/-- Integers that are rounded to the same double are not allowed for each other if the limit is not
allowed. -/
theorem Side.allowsStrictly_ofInt :
    side.allowsStrictly (ofInt limit.toInt) (ofInt n.toInt) =
      if ofInt n.toInt = ofInt limit.toInt then false else side.allowsInt limit n := by
  have hlimit := log2_toInt limit
  have hn := log2_toInt n
  rw [Bool.eq_iff_iff]
  split
  · rename_i heq
    cases side <;> simp [allowsStrictly, Binary64.lt_ofInt_iff, hlimit, heq]
  · rename_i hne
    have hdistinct : n.toInt ≠ limit.toInt := fun h => hne (congrArg ofInt h)
    cases side with
    | lower =>
      rw [allowsStrictly, Binary64.lt_ofInt_iff hlimit hn, allowsInt, decide_eq_true_iff,
        Int64.le_iff_toInt_le, and_iff_left (Ne.symm hne)]
      omega
    | upper =>
      rw [allowsStrictly, Binary64.lt_ofInt_iff hn hlimit, allowsInt, decide_eq_true_iff,
        Int64.le_iff_toInt_le, and_iff_left hne]
      omega

/-- The answer of a decimal bound whose limit is the integer. -/
def Side.rounded (side : Side) (inclusive : Bool) (limit n : Int64) : Bool :=
  if ofInt n.toInt = ofInt limit.toInt then inclusive else side.allowsInt limit n

/-- The answer is exact where rounding makes no unequal integers equal. -/
theorem Side.rounded_eq_exactly {inclusive : Bool}
    (h : n = limit ∨ ofInt n.toInt ≠ ofInt limit.toInt) :
    side.rounded inclusive limit n = side.exactly inclusive limit n := by
  unfold rounded exactly
  rcases h with rfl | hne
  · rw [if_pos rfl]
    cases inclusive <;> cases side <;> simp [allowsInt, allowsIntStrictly]
  · rw [if_neg hne]
    cases inclusive with
    | true => rfl
    | false =>
      have hdistinct : n.toInt ≠ limit.toInt := fun h => hne (congrArg ofInt h)
      rw [Bool.eq_iff_iff]
      cases side <;>
        simp only [allowsInt, allowsIntStrictly, decide_eq_true_iff, Bool.false_eq_true,
          if_false, Int64.le_iff_toInt_le, Int64.lt_iff_toInt_lt] <;>
        omega

/-! ## The routines -/

/-- A decimal bound whose limit is the text of an integer compares with the integer rounded. -/
theorem decimalLimit_of_int {c : Constraint}
    (h : c.attribute? "value" = some (.string (toString limit.toInt))) :
    decimalLimit c = .ok (ofInt limit.toInt) := by
  have hle := limit.le_toInt
  have hlt := limit.toInt_lt
  simp only [decimalLimit, h, trim_toString,
    Binary64.ofText?_toString (n := limit.toInt) (by omega)]

/-- A decimal bound answers about every integer. -/
theorem check_decimalBound {c : Constraint} {inclusive? : Option Bool}
    (hvalue : c.attribute? "value" = some (.string (toString limit.toInt)))
    (hinclusive : c.bool? "inclusive" = .ok inclusive?) (name : String) (context : Context) :
    (decimalBound name side).check (.int n) c context =
      .ok (side.rounded (inclusive?.getD true) limit n) := by
  have hchecked : (decimalBound name side).check (.int n) c context =
      .ok (if inclusive?.getD true then side.allows (ofInt limit.toInt) (ofInt n.toInt)
        else side.allowsStrictly (ofInt limit.toInt) (ofInt n.toInt)) := by
    simp only [decimalBound, decimalLimit_of_int hvalue, hinclusive]
    rfl
  rw [hchecked, Side.rounded]
  cases inclusive?.getD true with
  | true => rw [if_pos rfl, Side.allows_ofInt]
  | false => rw [if_neg Bool.false_ne_true, Side.allowsStrictly_ofInt]

theorem check_intBound {c : Constraint}
    (hvalue : c.attribute? "value" = some (.int limit.toInt)) (name : String) (context : Context) :
    (intBound name side).check (.int n) c context = .ok (side.exactly true limit n) := by
  simp only [intBound, Constraint.required_int?_eq_ok.2 hvalue]
  rfl

/-- The kind of the decimal bounds on a side. -/
def Side.decimalKind : Side → ConstraintKind
  | .lower => .decimalMin
  | .upper => .decimalMax

/-- The integer bound on a side. -/
def Side.integerBound : Side → Int64 → Constraint
  | .lower => .min
  | .upper => .max

end Routine

/-- What the built-in routine for a constraint answers about an integer. -/
def Constraint.answer? (c : Constraint) (n : Int64) (context : Context) :
    Option (Except ConstraintError Bool) :=
  (RoutineRegistry.default.find? c.kind .int).map fun routine => routine.check (.int n) c context

namespace Routine

/-- A decimal bound that is given as the text of an integer answers about every integer; the answer
is the one for its limit if rounding makes the two equal, and otherwise that of the order of the
integers.  So it is exact, and where the limit is allowed that of the integer bound, for the limit
and for every integer that is rounded to another double than the limit, as all integers of at most
53 bits are. -/
theorem decimalBound_of_int {side : Side} {limit : Int64} {c : Constraint}
    {inclusive? : Option Bool} (hkind : c.kind = side.decimalKind)
    (hvalue : c.attribute? "value" = some (.string (toString limit.toInt)))
    (hinclusive : c.bool? "inclusive" = .ok inclusive?) (n : Int64) (context : Context) :
    c.answer? n context = some (.ok (if ofInt n.toInt = ofInt limit.toInt
      then inclusive?.getD true else side.allowsInt limit n)) ∧
    (n = limit ∨ ofInt n.toInt ≠ ofInt limit.toInt →
      c.answer? n context = some (.ok (side.exactly (inclusive?.getD true) limit n))) ∧
    (side.integerBound limit).answer? n context = some (.ok (side.exactly true limit n)) ∧
    (n.toInt.natAbs ≤ 2 ^ 53 → limit.toInt.natAbs ≤ 2 ^ 53 →
      n = limit ∨ ofInt n.toInt ≠ ofInt limit.toInt) := by
  have hdecimal : c.answer? n context =
      some (.ok (side.rounded (inclusive?.getD true) limit n)) := by
    rw [Constraint.answer?, hkind]
    cases side <;> exact congrArg some (check_decimalBound hvalue hinclusive _ context)
  refine ⟨hdecimal, fun h => ?_, ?_, fun hn hlimit => ?_⟩
  · rw [hdecimal, Side.rounded_eq_exactly h]
  · cases side <;> exact congrArg some (check_intBound rfl _ context)
  · refine Decidable.or_iff_not_imp_left.2 fun hne heq => hne ?_
    exact Int64.toInt_inj.1 ((Binary64.ofInt_inj hn hlimit).1 heq)

end Routine

/-! ## Two amounts -/

namespace Amount

/-- Where amounts are checked. -/
def context : Context := .detached ⟨"Order", "model::Order"⟩ []

/-- More than a hundred. -/
def aboveHundred : Constraint :=
  (Constraint.decimalMin "100").withAttribute "inclusive" (.bool false)

end Amount

namespace Routine

open Amount (context aboveHundred)

/-- A hundred is not above a hundred. -/
theorem hundred_not_above : aboveHundred.answer? 100 context = some (.ok false) :=
  (@decimalBound_of_int .lower 100 aboveHundred (some false) rfl rfl rfl 100 context).2.1 (.inl rfl)

/-- A lower limit that the integer below it passes, though not the integer bound at it. -/
theorem limit_not_kept :
    ¬(9007199254740993 : Int64) ≤ 9007199254740992 ∧
      (Constraint.decimalMin "9007199254740993").answer? 9007199254740992 context =
        some (.ok true) ∧
      (Constraint.min 9007199254740993).answer? 9007199254740992 context = some (.ok false) := by
  have hchecked := @check_decimalBound .lower 9007199254740993 9007199254740992
    (.decimalMin "9007199254740993") none rfl rfl "DecimalMin" context
  have hrounded : Side.lower.rounded true 9007199254740993 9007199254740992 = true := by
    decide +kernel
  exact ⟨by decide, congrArg some (hchecked.trans (congrArg _ hrounded)), rfl⟩

end Routine

end BeanGraph
