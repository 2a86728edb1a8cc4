import BeanGraph.Binary64.Basic

/-!
# JSON values

Attribute values of constraints are JSON.  Integers and floats are different numbers, and an object
holds each key once, in the order of the keys' code points.

* `Json.same` is equality: floats compare by value, all else by structure; it is an equivalence;
* `Json.insert` keeps the entries of an object sorted, a later value replacing an earlier one.
-/

namespace BeanGraph

/-- A JSON value.  The entries of an object are sorted by key. -/
inductive Json
  | null
  | bool (b : Bool)
  | int (n : Int)
  | float (x : Binary64)
  | string (s : String)
  | array (items : List Json)
  | object (entries : List (String × Json))
deriving Inhabited

namespace Json

/-! ## Equality -/

mutual

/-- Equality of JSON values.  Floats are equal when they stand at one place in the order of values,
so the two zeros are; an integer never equals a float. -/
def same : Json → Json → Bool
  | .null, .null => true
  | .bool a, .bool b => a == b
  | .int a, .int b => a == b
  | .float a, .float b => a.rank == b.rank
  | .string a, .string b => a == b
  | .array as, .array bs => sameItems as bs
  | .object as, .object bs => sameEntries as bs
  | _, _ => false

/-- Equality item by item. -/
def sameItems : List Json → List Json → Bool
  | [], [] => true
  | a :: as, b :: bs => same a b && sameItems as bs
  | _, _ => false

/-- Equality entry by entry. -/
def sameEntries : List (String × Json) → List (String × Json) → Bool
  | [], [] => true
  | (k, a) :: as, (l, b) :: bs => k == l && same a b && sameEntries as bs
  | _, _ => false

end

/-- Values are compared by `same`. -/
instance : BEq Json := ⟨same⟩

mutual

theorem same_self (a : Json) : same a a = true := by
  cases a with
  | null => rfl
  | bool | int | float | string => simp [same]
  | array items => exact sameItems_self items
  | object entries => exact sameEntries_self entries

theorem sameItems_self (as : List Json) : sameItems as as = true := by
  cases as with
  | nil => rfl
  | cons a as => simp [sameItems, same_self a, sameItems_self as]

theorem sameEntries_self (as : List (String × Json)) : sameEntries as as = true := by
  match as with
  | [] => rfl
  | (k, a) :: as => simp [sameEntries, same_self a, sameEntries_self as]

end

mutual

/-- Equal values are equal to the same values. -/
theorem same_congr {a b : Json} (h : same a b = true) (c : Json) : same a c = same b c := by
  cases a with
  | null => cases b <;> first | rfl | cases h
  | bool | int | float | string =>
    cases b <;> simp [same] at h
    cases c <;> simp [same, h]
  | array as =>
    cases b with
    | array bs =>
      cases c with
      | array cs => exact sameItems_congr h cs
      | _ => rfl
    | _ => cases h
  | object as =>
    cases b with
    | object bs =>
      cases c with
      | object cs => exact sameEntries_congr h cs
      | _ => rfl
    | _ => cases h

theorem sameItems_congr {as bs : List Json} (h : sameItems as bs = true) (cs : List Json) :
    sameItems as cs = sameItems bs cs := by
  match as, bs, cs with
  | [], [], _ => rfl
  | [], _ :: _, _ => cases h
  | _ :: _, [], _ => cases h
  | _ :: _, _ :: _, [] => rfl
  | a :: as, b :: bs, c :: cs =>
    obtain ⟨ha, has⟩ := Bool.and_eq_true_iff.1 h
    simp only [sameItems, same_congr ha c, sameItems_congr has cs]

theorem sameEntries_congr {as bs : List (String × Json)} (h : sameEntries as bs = true)
    (cs : List (String × Json)) : sameEntries as cs = sameEntries bs cs := by
  match as, bs, cs with
  | [], [], _ => rfl
  | [], _ :: _, _ => cases h
  | _ :: _, [], _ => cases h
  | _ :: _, _ :: _, [] => rfl
  | (k, a) :: as, (l, b) :: bs, (m, c) :: cs =>
    simp only [sameEntries, Bool.and_eq_true, beq_iff_eq] at h
    obtain ⟨⟨rfl, ha⟩, has⟩ := h
    simp only [sameEntries, same_congr ha c, sameEntries_congr has cs]

end

/-- The comparison of values is an equivalence. -/
instance : EquivBEq Json where
  rfl := same_self _
  symm h := (same_congr h _).symm.trans (same_self _)
  trans h h' := (same_congr h _).trans h'

theorem beq_entries (as bs : List (String × Json)) : (as == bs) = sameEntries as bs := by
  induction as generalizing bs with
  | nil => cases bs <;> rfl
  | cons a as ih =>
    cases bs with
    | nil => rfl
    | cons b bs => rw [List.cons_beq_cons, ih]; rfl

/-! ## Objects -/

/-- Sets an entry of a sorted list of entries. -/
def insert (key : String) (value : Json) : List (String × Json) → List (String × Json)
  | [] => [(key, value)]
  | (k, v) :: rest =>
    if key < k then (key, value) :: (k, v) :: rest
    else if key = k then (key, value) :: rest
    else (k, v) :: insert key value rest

/-- The object with the given entries, the last of a repeated key counting. -/
def ofEntries (entries : List (String × Json)) : Json :=
  .object (entries.foldl (fun sorted (k, v) => insert k v sorted) [])

/-- The value at a key of an object. -/
def get? (j : Json) (key : String) : Option Json :=
  match j with
  | .object entries => entries.lookup key
  | _ => none

/-! ## Views -/

/-- The truth value that a value is. -/
def bool? : Json → Option Bool
  | .bool b => some b
  | _ => none

/-- The text that a value is. -/
def string? : Json → Option String
  | .string s => some s
  | _ => none

/-- The integer that a number is, if it lies between the bounds. -/
def intWithin? (low high : Int) : Json → Option Int
  | .int n => if low ≤ n ∧ n ≤ high then some n else none
  | _ => none

/-- A number that is a signed 64-bit integer. -/
def int64? (j : Json) : Option Int64 :=
  (j.intWithin? Int64.minValue.toInt Int64.maxValue.toInt).map Int64.ofInt

theorem int64?_eq_some {j : Json} {n : Int64} : j.int64? = some n ↔ j = .int n.toInt := by
  cases j with
  | int m =>
    simp only [int64?, intWithin?, Option.map_eq_some_iff, Option.ite_none_right_eq_some,
      Option.some.injEq, int.injEq]
    constructor
    · rintro ⟨_, ⟨⟨hlow, hhigh⟩, rfl⟩, rfl⟩
      rw [Int64.toInt_minValue] at hlow
      rw [Int64.toInt_maxValue] at hhigh
      exact (Int64.toInt_ofInt_of_le hlow (by omega)).symm
    · rintro rfl
      exact ⟨_, ⟨⟨n.minValue_le_toInt, n.toInt_le⟩, rfl⟩, n.ofInt_toInt⟩
  | _ => simp [int64?, intWithin?]

/-- A number that is an unsigned 64-bit integer. -/
def uint64? (j : Json) : Option Nat := (j.intWithin? 0 (UInt64.size - 1 : Nat)).map Int.toNat

end Json

end BeanGraph
