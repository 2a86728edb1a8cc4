import BeanGraph.Value.Basic
import Std.Data.HashSet

/-!
# Equality of values

Floats are equal when their bits are, maps when their entries are in the same order, lists never
equal sets, and beans are equal when they are the same instance.  `Value.beq` decides this by
recursion on the values; it is equality, so values can be compared and stored in hash sets.

`Value.feed` is what a value gives to a hash function, part by part.
-/

namespace BeanGraph.Value

/-! ## Comparison -/

mutual

/-- Whether two values are equal. -/
def beq : Value → Value → Bool
  | .null, .null => true
  | .bool a, .bool b => a == b
  | .int a, .int b => a == b
  | .float a, .float b => a.bits == b.bits
  | .str a, .str b => a == b
  | .bytes a, .bytes b => a == b
  | .list as, .list bs => beqItems as bs
  | .set as, .set bs => beqItems as bs
  | .map as, .map bs => beqEntries as bs
  | .optional a, .optional b => beqInner a b
  | .bean a, .bean b => a == b
  | _, _ => false

/-- Whether two lists of values are equal item by item. -/
def beqItems : List Value → List Value → Bool
  | [], [] => true
  | a :: as, b :: bs => beq a b && beqItems as bs
  | _, _ => false

/-- Whether two lists of entries are equal entry by entry. -/
def beqEntries : List (String × Value) → List (String × Value) → Bool
  | [], [] => true
  | (k, a) :: as, (l, b) :: bs => k == l && beq a b && beqEntries as bs
  | _, _ => false

/-- Whether two wrapped values are equal. -/
def beqInner : Option Value → Option Value → Bool
  | none, none => true
  | some a, some b => beq a b
  | _, _ => false

end

mutual

theorem beq_iff_eq (v w : Value) : beq v w = true ↔ v = w := by
  cases v with
  | null => cases w <;> simp [beq]
  | bool a => cases w <;> simp [beq]
  | int a => cases w <;> simp [beq]
  | float a =>
    cases w with
    | float b => cases a; cases b; simp [beq]
    | _ => simp [beq]
  | str a => cases w <;> simp [beq]
  | bytes a => cases w <;> simp [beq]
  | list as =>
    cases w with
    | list bs => simpa [beq] using beqItems_iff_eq as bs
    | _ => simp [beq]
  | set as =>
    cases w with
    | set bs => simpa [beq] using beqItems_iff_eq as bs
    | _ => simp [beq]
  | map as =>
    cases w with
    | map bs => simpa [beq] using beqEntries_iff_eq as bs
    | _ => simp [beq]
  | optional a =>
    cases w with
    | optional b => simpa [beq] using beqInner_iff_eq a b
    | _ => simp [beq]
  | bean a => cases w <;> simp [beq]

theorem beqItems_iff_eq (as bs : List Value) : beqItems as bs = true ↔ as = bs := by
  cases as with
  | nil => cases bs <;> simp [beqItems]
  | cons a as =>
    cases bs with
    | nil => simp [beqItems]
    | cons b bs => simp [beqItems, beq_iff_eq a b, beqItems_iff_eq as bs]

theorem beqEntries_iff_eq (as bs : List (String × Value)) : beqEntries as bs = true ↔ as = bs := by
  match as, bs with
  | [], [] => simp [beqEntries]
  | [], _ :: _ => simp [beqEntries]
  | _ :: _, [] => simp [beqEntries]
  | (k, a) :: as, (l, b) :: bs =>
    simp [beqEntries, beq_iff_eq a b, beqEntries_iff_eq as bs, and_assoc]

theorem beqInner_iff_eq (a b : Option Value) : beqInner a b = true ↔ a = b := by
  match a, b with
  | none, none => simp [beqInner]
  | none, some _ => simp [beqInner]
  | some _, none => simp [beqInner]
  | some a, some b => simp [beqInner, beq_iff_eq a b]

end

/-- Equality of values is decided by `beq`. -/
instance : DecidableEq Value := fun v w => decidable_of_iff _ (beq_iff_eq v w)

/-! ## Hashing -/

/-- A part of a value as it is given to a hash function. -/
inductive Datum
  | shape (n : Nat)
  | count (n : Nat)
  | word (w : UInt64)
  | text (s : String)
  | bean (b : Bean)
deriving DecidableEq, Hashable

mutual

/-- What a value gives to a hash function. -/
def feed : Value → List Datum
  | .null => [.shape 0]
  | .bool b => [.shape 1, .word (if b then 1 else 0)]
  | .int n => [.shape 2, .word n.toUInt64]
  | .float x => [.shape 3, .word x.bits]
  | .str s => [.shape 4, .text s]
  | .bytes bs => .shape 5 :: .count bs.length :: bs.map fun b => .word b.toUInt64
  | .list items => .shape 6 :: .count items.length :: feedItems items
  | .set items => .shape 7 :: .count items.length :: feedItems items
  | .map entries => .shape 8 :: .count entries.length :: feedEntries entries
  | .optional inner => .shape 9 :: feedInner inner
  | .bean b => [.shape 10, .bean b]

/-- What the items of a container give, in order. -/
def feedItems : List Value → List Datum
  | [] => []
  | v :: rest => feed v ++ feedItems rest

/-- What the keys and values of a map give, in order. -/
def feedEntries : List (String × Value) → List Datum
  | [] => []
  | (k, v) :: rest => .text k :: (feed v ++ feedEntries rest)

/-- What a wrapped value gives. -/
def feedInner : Option Value → List Datum
  | none => [.count 0]
  | some v => .count 1 :: feed v

end

/-- Values are hashed by what they feed. -/
instance : Hashable Value := ⟨fun v => hash v.feed⟩

/-- For each value, put into a hash set after the ones before it, whether it was new there. -/
def novelties (vs : List Value) : List Bool :=
  go {} vs
where
  /-- The answers for the rest of the values, given the set of those before them. -/
  go (seen : Std.HashSet Value) : List Value → List Bool
    | [] => []
    | v :: rest => (!seen.contains v) :: go (seen.insert v) rest

end BeanGraph.Value
