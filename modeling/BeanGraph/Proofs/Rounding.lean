import BeanGraph.Binary64.Basic
import Mathlib.Algebra.Group.Nat.Defs

/-!
# Integers as doubles

An integer is rounded to the nearest double.  Between two powers of two the significand of the
double is the integer divided by a power of two and rounded, so rounding keeps the order of
integers, though it may make unequal integers equal; up to `2 ^ 53` it does not.

* `nearest_mono`, `nearest_lt_nearest`: rounding keeps the order, strictly for exact integers;
* `le_ofInt_iff`, `lt_ofInt_iff`: how two rounded integers compare;
* `ofInt_inj`: integers of at most 53 bits are not confused.
-/

namespace BeanGraph.Binary64

/-! ## Rounding quotients -/

theorem le_roundHalfEven (num den : Nat) : num / den ≤ roundHalfEven num den := by
  unfold roundHalfEven
  dsimp only
  split <;> omega

theorem roundHalfEven_le (num den : Nat) : roundHalfEven num den ≤ num / den + 1 := by
  unfold roundHalfEven
  dsimp only
  split <;> omega

theorem roundHalfEven_mono {m n : Nat} (h : m ≤ n) (den : Nat) :
    roundHalfEven m den ≤ roundHalfEven n den := by
  obtain hlt | heq := Nat.lt_or_eq_of_le (Nat.div_le_div_right (c := den) h)
  · calc roundHalfEven m den ≤ m / den + 1 := roundHalfEven_le m den
      _ ≤ n / den := hlt
      _ ≤ roundHalfEven n den := le_roundHalfEven n den
  · -- with one quotient the larger number has the larger rest
    have hrest : m % den ≤ n % den := by
      have hm := Nat.div_add_mod m den
      have hn := Nat.div_add_mod n den
      rw [heq] at hm
      omega
    unfold roundHalfEven
    rw [heq]
    dsimp only
    split <;> split <;> omega

/-- A quotient without a rest is not rounded. -/
theorem roundHalfEven_mul {den : Nat} (hden : 0 < den) (q : Nat) :
    roundHalfEven (q * den) den = q := by
  simp [roundHalfEven, Nat.mul_div_cancel _ hden, hden]

/-- A common factor makes no difference. -/
theorem roundHalfEven_mul_mul {k : Nat} (hk : 0 < k) (num den : Nat) :
    roundHalfEven (num * k) (den * k) = roundHalfEven num den := by
  have hrest (a : Nat) : 2 * (a * k) = 2 * a * k := (Nat.mul_assoc 2 a k).symm
  simp only [roundHalfEven, Nat.mul_div_mul_right _ _ hk, Nat.mul_mod_mul_right, hrest,
    Nat.mul_lt_mul_right hk, Nat.mul_left_inj (Nat.pos_iff_ne_zero.1 hk)]

/-! ## Rounding integers -/

/-- The significand of the double nearest to a positive integer. -/
def roundedSignificand (n : Nat) : Nat := roundHalfEven (n * 2 ^ 52) (2 ^ n.log2)

theorem not_mul_two_pow_lt {n : Nat} (hn : n ≠ 0) (k : Nat) :
    ¬n * Nat.pow 2 k < Nat.pow 2 (n.log2 + k) := by
  rw [Nat.pow_eq, Nat.pow_eq, Nat.pow_add]
  exact Nat.not_lt.2 (Nat.mul_le_mul_right _ (Nat.log2_self_le hn))

theorem unitExponentOf_one {n : Nat} (hn : n ≠ 0) : unitExponentOf n 1 = n.log2 + 1022 := by
  have hone : Nat.log2 1 = 0 := rfl
  have hexponent : 53 + (n.log2 + 1021) = n.log2 + 1074 := by omega
  rw [unitExponentOf, hone, Nat.sub_zero, Nat.one_mul, hexponent]
  -- so large a power must not be computed
  generalize 1074 = k
  rw [if_neg (not_mul_two_pow_lt hn k)]

/-- Of a quotient of powers of two only the difference of the exponents matters. -/
theorem roundHalfEven_two_pow {a c k : Nat} (h : c = a + k) (n b : Nat) :
    roundHalfEven (n * Nat.pow 2 c) (Nat.pow 2 (b + k)) =
      roundHalfEven (n * 2 ^ a) (2 ^ b) := by
  rw [h, Nat.pow_eq, Nat.pow_eq, Nat.pow_add, Nat.pow_add, ← Nat.mul_assoc]
  exact roundHalfEven_mul_mul (Nat.two_pow_pos k) _ _

theorem roundedSignificand_bounds {n : Nat} (hn : n ≠ 0) :
    2 ^ 52 ≤ roundedSignificand n ∧ roundedSignificand n ≤ 2 ^ 53 := by
  have hpos : 0 < 2 ^ n.log2 := Nat.two_pow_pos _
  constructor
  · refine Nat.le_trans ?_ (le_roundHalfEven _ _)
    rw [Nat.le_div_iff_mul_le hpos, Nat.mul_comm]
    exact Nat.mul_le_mul_right _ (Nat.log2_self_le hn)
  · refine Nat.le_trans (roundHalfEven_le _ _) (Nat.succ_le_of_lt ?_)
    rw [Nat.div_lt_iff_lt_mul hpos]
    have hlt : n < 2 ^ n.log2 * 2 := Nat.lt_log2_self
    omega

/-- The magnitude word of a rounded positive integer. -/
theorem nearest_one {n : Nat} (hn : n ≠ 0) (hlog : n.log2 ≤ 1022) :
    nearest n 1 = (n.log2 + 1022) * 2 ^ 52 + roundedSignificand n := by
  have hbound := (roundedSignificand_bounds hn).2
  rw [nearest, if_neg hn, unitExponentOf_one hn, infinityWord]
  dsimp only
  have hsplit : 1074 = 52 + 1022 := rfl
  revert hsplit
  generalize 1074 = k
  intro hsplit
  rw [Nat.one_mul, roundHalfEven_two_pow hsplit, Nat.pow_eq]
  refine Nat.min_eq_right ?_
  show _ + roundedSignificand n ≤ _
  omega

theorem nearest_zero (den : Nat) : nearest 0 den = 0 := rfl

variable {m n : Nat}

/-- Rounding keeps the order of integers. -/
theorem nearest_mono (h : m ≤ n) (hn : n.log2 ≤ 1022) : nearest m 1 ≤ nearest n 1 := by
  obtain rfl | hm := Nat.eq_zero_or_pos m
  · exact Nat.zero_le _
  · have hm : m ≠ 0 := Nat.pos_iff_ne_zero.1 hm
    have hn0 : n ≠ 0 := by omega
    have hlog : m.log2 ≤ n.log2 := (Nat.le_log2 hn0).2 (Nat.le_trans (Nat.log2_self_le hm) h)
    rw [nearest_one hm (Nat.le_trans hlog hn), nearest_one hn0 hn]
    obtain hlt | heq := Nat.lt_or_eq_of_le hlog
    · have hbounds := roundedSignificand_bounds hm
      have hbounds' := roundedSignificand_bounds hn0
      omega
    · have hsignificand : roundedSignificand m ≤ roundedSignificand n := by
        unfold roundedSignificand
        rw [heq]
        exact roundHalfEven_mono (Nat.mul_le_mul_right _ h) _
      omega

/-- An integer of at most 53 bits is its own significand, but for zeros at its end. -/
theorem roundedSignificand_exact (hlog : n.log2 ≤ 52) :
    roundedSignificand n = n * 2 ^ (52 - n.log2) := by
  have hnum : n * 2 ^ 52 = n * 2 ^ (52 - n.log2) * 2 ^ n.log2 := by
    rw [Nat.mul_assoc, ← Nat.pow_add, Nat.sub_add_cancel hlog]
  rw [roundedSignificand, hnum]
  exact roundHalfEven_mul (Nat.two_pow_pos _) _

/-- Below `2 ^ 53` rounding keeps the order strictly. -/
theorem nearest_lt_nearest (h : m < n) (hm : m < 2 ^ 53) (hn : n.log2 ≤ 1022) :
    nearest m 1 < nearest n 1 := by
  have hn0 : n ≠ 0 := by omega
  rw [nearest_one hn0 hn]
  have hbounds' := roundedSignificand_bounds hn0
  obtain rfl | hm0 := Nat.eq_zero_or_pos m
  · rw [nearest_zero]
    omega
  · have hm0 : m ≠ 0 := Nat.pos_iff_ne_zero.1 hm0
    have hexact : m.log2 ≤ 52 := Nat.lt_succ_iff.1 ((Nat.log2_lt hm0).2 hm)
    have hlog : m.log2 ≤ n.log2 :=
      (Nat.le_log2 hn0).2 (Nat.le_trans (Nat.log2_self_le hm0) (Nat.le_of_lt h))
    rw [nearest_one hm0 (by omega), roundedSignificand_exact hexact]
    obtain hlt | heq := Nat.lt_or_eq_of_le hlog
    · -- the significand of the smaller integer has not been rounded up to the next power of two
      have hsignificand : m * 2 ^ (52 - m.log2) < 2 ^ 53 := by
        calc m * 2 ^ (52 - m.log2) < 2 ^ (m.log2 + 1) * 2 ^ (52 - m.log2) :=
              Nat.mul_lt_mul_of_pos_right Nat.lt_log2_self (Nat.two_pow_pos _)
          _ = 2 ^ 53 := by
              rw [← Nat.pow_add]
              congr 1
              omega
      omega
    · rw [roundedSignificand_exact (by omega), ← heq]
      have hsignificand := Nat.mul_lt_mul_of_pos_right h (Nat.two_pow_pos (52 - m.log2))
      omega

theorem nearest_lt_infinityWord (hn : n.log2 ≤ 1022) : nearest n 1 < infinityWord := by
  obtain rfl | hn0 := Nat.eq_zero_or_pos n
  · exact Nat.mul_pos (by omega) (Nat.two_pow_pos _)
  · have hn0 : n ≠ 0 := Nat.pos_iff_ne_zero.1 hn0
    have hbounds := roundedSignificand_bounds hn0
    rw [nearest_one hn0 hn]
    show _ < 2047 * 2 ^ 52
    omega

theorem nearest_pos (hn0 : n ≠ 0) (hn : n.log2 ≤ 1022) : 0 < nearest n 1 := by
  have hbounds := roundedSignificand_bounds hn0
  rw [nearest_one hn0 hn]
  omega

/-! ## Words -/

theorem toNat_ofMagnitude {word : Nat} (h : word < 2 ^ 63) (negative : Bool) :
    (ofMagnitude negative word).bits.toNat = (if negative then 2 ^ 63 else 0) + word := by
  rw [ofMagnitude, Nat.pow_eq, Nat.mod_eq_of_lt h, UInt64.toNat_ofNat']
  refine Nat.mod_eq_of_lt ?_
  cases negative
  · rw [if_neg Bool.false_ne_true]
    omega
  · rw [if_pos rfl]
    omega

theorem magnitude_ofMagnitude {word : Nat} (h : word < 2 ^ 63) (negative : Bool) :
    (ofMagnitude negative word).magnitude = word := by
  rw [magnitude, toNat_ofMagnitude h, Nat.pow_eq]
  cases negative
  · rw [if_neg Bool.false_ne_true]
    omega
  · rw [if_pos rfl]
    omega

theorem negative_ofMagnitude {word : Nat} (h : word < 2 ^ 63) (negative : Bool) :
    (ofMagnitude negative word).negative = negative := by
  rw [Binary64.negative, toNat_ofMagnitude h, Nat.pow_eq]
  cases negative
  · rw [if_neg Bool.false_ne_true, decide_eq_false_iff_not]
    omega
  · rw [if_pos rfl, decide_eq_true_iff]
    omega

/-! ## Comparing rounded integers -/

variable {a b : Int}

theorem nearest_lt_two_pow (hn : n.log2 ≤ 1022) : nearest n 1 < 2 ^ 63 := by
  refine Nat.lt_trans (nearest_lt_infinityWord hn) ?_
  show 2047 * 2 ^ 52 < 2 ^ 63
  omega

theorem isNaN_ofInt (ha : a.natAbs.log2 ≤ 1022) : (ofInt a).isNaN = false := by
  rw [isNaN, ofInt, magnitude_ofMagnitude (nearest_lt_two_pow ha), decide_eq_false_iff_not]
  exact Nat.not_lt.2 (Nat.le_of_lt (nearest_lt_infinityWord ha))

theorem rank_ofInt (ha : a.natAbs.log2 ≤ 1022) :
    (ofInt a).rank = if a < 0 then -(nearest a.natAbs 1 : Int) else nearest a.natAbs 1 := by
  have hword := nearest_lt_two_pow ha
  simp only [rank, ofInt, magnitude_ofMagnitude hword, negative_ofMagnitude hword,
    decide_eq_true_iff]

theorem rank_ofInt_mono (ha : a.natAbs.log2 ≤ 1022) (hb : b.natAbs.log2 ≤ 1022) (h : a ≤ b) :
    (ofInt a).rank ≤ (ofInt b).rank := by
  rw [rank_ofInt ha, rank_ofInt hb]
  split
  · split
    · have hmono := nearest_mono (by omega : b.natAbs ≤ a.natAbs) ha
      omega
    · omega
  · have hmono := nearest_mono (by omega : a.natAbs ≤ b.natAbs) hb
    rw [if_neg (by omega)]
    omega

theorem ofInt_eq_of_rank_eq (ha : a.natAbs.log2 ≤ 1022) (hb : b.natAbs.log2 ≤ 1022)
    (h : (ofInt a).rank = (ofInt b).rank) : ofInt a = ofInt b := by
  have hzero {c : Int} (hc : c.natAbs.log2 ≤ 1022) (hneg : c < 0) :=
    nearest_pos (by omega : c.natAbs ≠ 0) hc
  rw [rank_ofInt ha, rank_ofInt hb] at h
  have hsign : a < 0 ↔ b < 0 := by
    constructor
    · intro hneg
      have := hzero ha hneg
      rw [if_pos hneg] at h
      split at h <;> omega
    · intro hneg
      have := hzero hb hneg
      rw [if_pos hneg] at h
      split at h <;> omega
  have hword : nearest a.natAbs 1 = nearest b.natAbs 1 := by
    simp only [hsign] at h
    split at h <;> omega
  simp only [ofInt, hsign, hword]

/-- No integer but zero is rounded to zero. -/
theorem ofInt_eq_zero_iff (ha : a.natAbs.log2 ≤ 1022) : ofInt a = zero ↔ a = 0 := by
  refine ⟨fun h => ?_, fun h => by rw [h]; rfl⟩
  refine Decidable.byContradiction fun hne => ?_
  have hpos := nearest_pos (by omega : a.natAbs ≠ 0) ha
  have hword : (ofInt a).magnitude = nearest a.natAbs 1 :=
    magnitude_ofMagnitude (nearest_lt_two_pow ha) _
  rw [h] at hword
  have hzero : zero.magnitude = 0 := rfl
  omega

/-- A rounded integer is at most another if it was so before, or if rounding makes them equal. -/
theorem le_ofInt_iff (ha : a.natAbs.log2 ≤ 1022) (hb : b.natAbs.log2 ≤ 1022) :
    (ofInt a).le (ofInt b) = true ↔ a ≤ b ∨ ofInt a = ofInt b := by
  simp only [le, isNaN_ofInt ha, isNaN_ofInt hb, Bool.not_false, Bool.and_self, Bool.true_and,
    decide_eq_true_iff]
  constructor
  · intro hrank
    refine (Decidable.em (a ≤ b)).imp_right fun hnot => ?_
    exact ofInt_eq_of_rank_eq ha hb (Int.le_antisymm hrank (rank_ofInt_mono hb ha (by omega)))
  · rintro (hle | heq)
    · exact rank_ofInt_mono ha hb hle
    · exact Int.le_of_eq (congrArg rank heq)

/-- A rounded integer is less than another if it was so before and rounding does not make them
equal. -/
theorem lt_ofInt_iff (ha : a.natAbs.log2 ≤ 1022) (hb : b.natAbs.log2 ≤ 1022) :
    (ofInt a).lt (ofInt b) = true ↔ a < b ∧ ofInt a ≠ ofInt b := by
  have hle := le_ofInt_iff hb ha
  simp only [le, isNaN_ofInt ha, isNaN_ofInt hb, Bool.not_false, Bool.and_self, Bool.true_and,
    decide_eq_true_iff] at hle
  simp only [lt, isNaN_ofInt ha, isNaN_ofInt hb, Bool.not_false, Bool.and_self, Bool.true_and,
    decide_eq_true_iff, ← Int.not_le, hle, not_or, ne_comm]

theorem log2_natAbs_le (h : a.natAbs ≤ 2 ^ 63) : a.natAbs.log2 ≤ 1022 := by
  obtain hzero | hpos := Nat.eq_zero_or_pos a.natAbs
  · simp [hzero]
  · have hlog := (Nat.log2_lt (Nat.pos_iff_ne_zero.1 hpos)).2
      (by omega : a.natAbs < 2 ^ 64)
    omega

theorem rank_ofInt_lt (ha : a.natAbs ≤ 2 ^ 53) (hb : b.natAbs ≤ 2 ^ 53) (h : a < b) :
    (ofInt a).rank < (ofInt b).rank := by
  have hlog := log2_natAbs_le (by omega : a.natAbs ≤ 2 ^ 63)
  have hlog' := log2_natAbs_le (by omega : b.natAbs ≤ 2 ^ 63)
  rw [rank_ofInt hlog, rank_ofInt hlog']
  split
  · split
    · have hlt := nearest_lt_nearest (by omega : b.natAbs < a.natAbs) (by omega) hlog
      omega
    · have hpos := nearest_pos (by omega : a.natAbs ≠ 0) hlog
      omega
  · have hlt := nearest_lt_nearest (by omega : a.natAbs < b.natAbs) (by omega) hlog'
    rw [if_neg (by omega)]
    omega

/-- Integers of at most 53 bits are not confused. -/
theorem ofInt_inj (ha : a.natAbs ≤ 2 ^ 53) (hb : b.natAbs ≤ 2 ^ 53) :
    ofInt a = ofInt b ↔ a = b := by
  refine ⟨fun h => ?_, fun h => by rw [h]⟩
  obtain hlt | heq | hgt := Int.lt_trichotomy a b
  · have hrank := rank_ofInt_lt ha hb hlt
    rw [h] at hrank
    omega
  · exact heq
  · have hrank := rank_ofInt_lt hb ha hgt
    rw [h] at hrank
    omega

end BeanGraph.Binary64
