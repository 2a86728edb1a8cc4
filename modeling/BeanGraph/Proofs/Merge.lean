import BeanGraph.Violation

/-!
# Merging results

Combining keeps the violations of the first set and appends those of the second that equal none of
them.  On sets without repetitions, which all sets made by recording and combining are, this is an
idempotent monoid in which order counts; it is commutative when order does not count, that is up to
`ViolationSet.same`.

* `Made.distinct`: recording and combining make no repetitions;
* `same_iff`: sets are the same when they contain the same violations;
* `items_recordAll`: finding violations again by their hashes makes no difference;
* `sets_merge`: the laws of combining.
-/

namespace BeanGraph

namespace ViolationSet

variable {s s' t t' u : ViolationSet}

/-! ## Sets without repetitions -/

/-- The sets made by recording violations and combining sets. -/
inductive Made : ViolationSet → Prop
  | empty : Made .empty
  | insert {s : ViolationSet} (h : Made s) (x : Violation) : Made (s.insert x)
  | combine {s t : ViolationSet} (hs : Made s) (ht : Made t) : Made (s.combine t)

theorem Made.insertAll (h : s.Made) (xs : List Violation) : (s.insertAll xs).Made := by
  induction xs generalizing s with
  | nil => exact h
  | cons x xs ih => exact ih (h.insert x)

theorem Distinct.combine (h : s.Distinct) (t : ViolationSet) : (s.combine t).Distinct :=
  h.insertAll t.items

theorem Made.distinct (h : s.Made) : s.Distinct := by
  induction h with
  | empty => exact List.Pairwise.nil
  | insert h x ih => exact ih.insert x
  | combine hs ht ihs iht => exact ihs.combine _

/-! ## Combining in order -/

theorem items_combine (s : ViolationSet) (ht : t.Distinct) :
    (s.combine t).items = s.items ++ t.items.filter fun x => !s.contains x :=
  items_insertAll ht

theorem contains_of_mem {x : Violation} (h : x ∈ s.items) : s.contains x = true :=
  contains_iff.2 ⟨x, h, BEq.rfl⟩

theorem contains_combine {x : Violation} :
    (s.combine t).contains x = (s.contains x || t.contains x) := by
  rw [Bool.eq_iff_iff, Bool.or_eq_true, combine_eq_insertAll, contains_insertAll]
  exact or_congr_right contains_iff.symm

theorem ext_items (h : s.items = t.items) : s = t := by
  cases s
  cases t
  exact congrArg mk h

theorem combine_empty (s : ViolationSet) : s.combine .empty = s := rfl

theorem empty_combine (hs : s.Distinct) : ViolationSet.empty.combine s = s :=
  ext_items ((items_combine .empty hs).trans (List.filter_eq_self.2 fun _ _ => rfl))

theorem combine_self (s : ViolationSet) : s.combine s = s :=
  insertAll_of_contains fun _ => contains_of_mem

theorem combine_assoc (s : ViolationSet) (ht : t.Distinct) (hu : u.Distinct) :
    (s.combine t).combine u = s.combine (t.combine u) := by
  refine ext_items ?_
  calc ((s.combine t).combine u).items
    _ = s.items ++ t.items.filter (fun x => !s.contains x) ++
          u.items.filter fun x => !(s.contains x || t.contains x) := by
        simp only [items_combine _ hu, items_combine s ht, contains_combine]
    _ = s.items ++ (t.items ++ u.items.filter fun x => !t.contains x).filter
          fun x => !s.contains x := by
        simp only [List.append_assoc, List.filter_append, List.filter_filter, Bool.not_or]
    _ = (s.combine (t.combine u)).items := by
        rw [items_combine s (ht.combine u), items_combine t hu]

/-! ## The same violations in any order -/

/-- Distinct violations that are as many as those of a set and all in it are all of them. -/
theorem contains_of_size_le (hs : s.Distinct) (hsize : t.size ≤ s.size)
    (h : ∀ x ∈ s.items, t.contains x = true) {x : Violation} (hx : x ∈ t.items) :
    s.contains x = true := by
  refine Decidable.byContradiction fun hnot => ?_
  -- otherwise `x` and the violations of `s` would be distinct and one too many
  have hdistinct : (x :: s.items).Pairwise fun x y => (x == y) = false := by
    refine List.pairwise_cons.2 ⟨fun y hy => ?_, hs⟩
    rw [← Bool.not_eq_true]
    exact fun hxy => hnot (contains_iff.2 ⟨y, hy, hxy⟩)
  have hlength : (x :: s.items).length ≤ t.items.length := by
    refine length_le_of_contains hdistinct (List.forall_mem_cons.2 ⟨⟨x, hx, BEq.rfl⟩, ?_⟩)
    exact fun y hy => contains_iff.1 (h y hy)
  rw [List.length_cons] at hlength
  unfold size at hsize
  omega

theorem contains_congr {x y : Violation} (h : (x == y) = true) : s.contains x = s.contains y := by
  rw [Bool.eq_iff_iff, contains_iff, contains_iff]
  exact exists_congr fun z => and_congr_right fun _ => by rw [BEq.congr_left h]

theorem contains_of_forall_mem (h : ∀ x ∈ s.items, t.contains x = true) {x : Violation}
    (hx : s.contains x = true) : t.contains x = true := by
  obtain ⟨y, hy, hxy⟩ := contains_iff.1 hx
  rw [contains_congr hxy]
  exact h y hy

/-- Sets are the same when they contain the same violations. -/
theorem same_iff (hs : s.Distinct) (ht : t.Distinct) :
    s.same t = true ↔ ∀ x, s.contains x = t.contains x := by
  constructor
  · intro h
    rw [same, Bool.and_eq_true, beq_iff_eq, List.all_eq_true] at h
    obtain ⟨hsize, hst⟩ := h
    have hts : ∀ x ∈ t.items, s.contains x = true := fun x =>
      contains_of_size_le hs (Nat.le_of_eq hsize.symm) hst
    exact fun x => Bool.eq_iff_iff.2 ⟨contains_of_forall_mem hst, contains_of_forall_mem hts⟩
  · exact fun h => hs.same ht fun x => by rw [h x]

theorem same_refl (hs : s.Distinct) : s.same s = true := (same_iff hs hs).2 fun _ => rfl

theorem same_symm (hs : s.Distinct) (ht : t.Distinct) (h : s.same t = true) : t.same s = true :=
  (same_iff ht hs).2 fun x => ((same_iff hs ht).1 h x).symm

theorem same_trans (hs : s.Distinct) (ht : t.Distinct) (hu : u.Distinct) (h : s.same t = true)
    (h' : t.same u = true) : s.same u = true :=
  (same_iff hs hu).2 fun x => ((same_iff hs ht).1 h x).trans ((same_iff ht hu).1 h' x)

theorem same_combine_comm (hs : s.Distinct) (ht : t.Distinct) :
    (s.combine t).same (t.combine s) = true :=
  (same_iff (hs.combine t) (ht.combine s)).2 fun x => by
    rw [contains_combine, contains_combine, Bool.or_comm]

theorem same_combine_congr (hs : s.Distinct) (hs' : s'.Distinct) (ht : t.Distinct)
    (ht' : t'.Distinct) (h : s.same s' = true) (h' : t.same t' = true) :
    (s.combine t).same (s'.combine t') = true :=
  (same_iff (hs.combine t) (hs'.combine t')).2 fun x => by
    rw [contains_combine, contains_combine, (same_iff hs hs').1 h x, (same_iff ht ht').1 h' x]

theorem size_of_same (h : s.same t = true) : s.size = t.size := by
  rw [same, Bool.and_eq_true, beq_iff_eq] at h
  exact h.1

theorem isEmpty_of_same (h : s.same t = true) : s.isEmpty = t.isEmpty := by
  have hsize := size_of_same h
  unfold size at hsize
  rw [Bool.eq_iff_iff, isEmpty, isEmpty, List.isEmpty_iff_length_eq_zero,
    List.isEmpty_iff_length_eq_zero, hsize]

end ViolationSet

/-! ## Finding violations by their hashes -/

/-- Violations in the order they were recorded, found again by their hashes. -/
structure HashedViolations where
  items : List Violation := []
  index : Std.HashSet Violation := {}

namespace HashedViolations

/-- Records a violation, unless an equal one is found. -/
def insert (s : HashedViolations) (x : Violation) : HashedViolations :=
  if s.index.contains x then s else ⟨s.items ++ [x], s.index.insert x⟩

/-- A violation is found by its hash when an equal one is among those of a set. -/
def Finds (s : HashedViolations) (t : ViolationSet) : Prop :=
  s.items = t.items ∧ ∀ x, s.index.contains x = t.contains x

theorem Finds.insert {s : HashedViolations} {t : ViolationSet} (h : s.Finds t) (x : Violation) :
    (s.insert x).Finds (t.insert x) := by
  obtain ⟨hitems, hindex⟩ := h
  unfold HashedViolations.insert
  rw [hindex]
  by_cases hx : t.contains x = true
  · rw [if_pos hx, ViolationSet.insert_of_contains hx]
    exact ⟨hitems, hindex⟩
  · rw [if_neg hx]
    refine ⟨?_, fun y => ?_⟩
    · rw [ViolationSet.insert, if_neg hx, hitems]
    · rw [Bool.eq_iff_iff, Std.HashSet.contains_insert, hindex, ViolationSet.contains_insert,
        Bool.or_eq_true, or_comm, BEq.comm]

/-- The violations kept are the same whether they are found by their hashes or not. -/
theorem items_recordAll (xs : List Violation) :
    (xs.foldl insert {}).items = (ViolationSet.empty.insertAll xs).items := by
  suffices h : ∀ (s : HashedViolations) (t : ViolationSet), s.Finds t →
      (xs.foldl insert s).Finds (t.insertAll xs) from
    (h {} .empty ⟨rfl, fun _ => Std.HashSet.contains_empty⟩).1
  induction xs with
  | nil => exact fun _ _ h => h
  | cons x xs ih => exact fun s t h => ih _ _ (h.insert x)

end HashedViolations

/-! ## Two zeros -/

namespace Zeros

/-- A violation of a bound that is a zero of one of the two signs. -/
def ofLimit (limit : Binary64) : Violation :=
  .of (.detached ⟨"Order", "model::Order"⟩ []) none 0
    ((Constraint.ofKind .decimalMin).withAttribute "value" (.float limit)) (.int (-1))

/-- A missing value is recorded after the bound at the positive zero. -/
def positive : ViolationSet := .insert (.insert .empty (ofLimit .zero)) missing
where
  missing : Violation :=
    .of (.detached ⟨"Order", "model::Order"⟩ []) none 1 (.ofKind .notNull) .null

/-- Only the bound at the negative zero is recorded. -/
def negative : ViolationSet := .insert .empty (ofLimit Binary64.zero.neg)

end Zeros

/-! ## The laws -/

namespace ViolationSet

/-- Results merge.  Combining keeps the violations of the first set in order and appends those of
the second that equal none of them, without repetitions; this is associative, has the empty set as
its unit on both sides and makes nothing of combining a set with itself, and it is commutative up to
the equality of sets.  That equality is an equivalence which combining, the size and emptiness
respect.  Equal violations give the same to a hash function, although the attributes of their
constraints are not hashed, so sets may find them by their hashes. -/
theorem sets_merge {a b c : ViolationSet} (ha : a.Made) (hb : b.Made) (hc : c.Made) :
    ((a.combine b).items = a.items ++ b.items.filter (fun x => !a.contains x) ∧
      (a.combine b).Distinct) ∧
    ((a.combine b).combine c = a.combine (b.combine c) ∧ a.combine .empty = a ∧
      ViolationSet.empty.combine a = a ∧ a.combine a = a ∧
      (a.combine b).same (b.combine a) = true) ∧
    (a.same a = true ∧ (a.same b = true → b.same a = true) ∧
      (a.same b = true → b.same c = true → a.same c = true)) ∧
    ((a.same b = true → ∀ d : ViolationSet, d.Made → c.same d = true →
        (a.combine c).same (b.combine d) = true) ∧
      (a.same b = true → a.size = b.size ∧ a.isEmpty = b.isEmpty)) ∧
    ((∀ x y : Violation, (x == y) = true → x.hashed = y.hashed ∧ hash x = hash y) ∧
      (∀ (x : Violation) (attributes : List (String × Json)),
        Violation.hashed { x with constraint := { x.constraint with attributes } } = x.hashed) ∧
      ∀ xs : List Violation,
        (xs.foldl HashedViolations.insert {}).items = (ViolationSet.empty.insertAll xs).items) := by
  have ha' := ha.distinct
  have hb' := hb.distinct
  have hc' := hc.distinct
  refine ⟨⟨items_combine a hb', ha'.combine b⟩, ?_, ?_, ?_, ?_⟩
  · exact ⟨combine_assoc a hb' hc', combine_empty a, empty_combine ha', combine_self a,
      same_combine_comm ha' hb'⟩
  · exact ⟨same_refl ha', same_symm ha' hb', same_trans ha' hb' hc'⟩
  · exact ⟨fun h d hd h' => same_combine_congr ha' hb' hc' hd.distinct h h',
      fun h => ⟨size_of_same h, isEmpty_of_same h⟩⟩
  · exact ⟨fun x y h => ⟨Violation.hashed_of_beq h, hash_eq h⟩, fun _ _ => rfl,
      HashedViolations.items_recordAll⟩

open Zeros (ofLimit positive negative)

/-- The two zeros are one limit: of the violations of it the first one recorded is kept. -/
theorem zeros_merge :
    (ofLimit .zero == ofLimit Binary64.zero.neg) = true ∧
      (positive.combine negative).items = [ofLimit .zero, positive.missing] ∧
      (negative.combine positive).items = [ofLimit Binary64.zero.neg, positive.missing] ∧
      (positive.combine negative).same (negative.combine positive) = true ∧
      (ofLimit .zero).hashed = (ofLimit Binary64.zero.neg).hashed := by
  have hpositive : positive.Made := .insert (.insert .empty _) _
  have hnegative : negative.Made := .insert .empty _
  have hequal : (ofLimit .zero == ofLimit Binary64.zero.neg) = true := by decide +kernel
  obtain ⟨⟨hitems, -⟩, ⟨-, -, -, -, hsame⟩, -, -, hhash, -⟩ :=
    sets_merge hpositive hnegative hpositive
  obtain ⟨⟨hitems', -⟩, -⟩ := sets_merge hnegative hpositive hpositive
  exact ⟨hequal, hitems.trans (by with_unfolding_all rfl),
    hitems'.trans (by with_unfolding_all rfl), hsame, (hhash _ _ hequal).1⟩

end ViolationSet

end BeanGraph
