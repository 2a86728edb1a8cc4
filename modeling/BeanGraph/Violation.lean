import BeanGraph.Context
import BeanGraph.Value.Equality
import BeanGraph.Value.Text

/-!
# Violations

A `Violation` records one constraint that a value did not satisfy, and where.  A `ViolationSet`
keeps violations in the order they were recorded, each once; two sets are the same when they hold
the same violations in any order.
-/

namespace BeanGraph

/-- A constraint that a value did not satisfy. -/
structure Violation where
  /-- The bean that the call started from, if it did from one. -/
  root? : Option Bean
  rootType : BeanType
  /-- The bean that the property belongs to. -/
  leaf? : Option Bean
  value : Value
  message : String
  template : String
  path : Path
  kind : ConstraintKind
  constraint : Constraint
  /-- The position of the constraint among the property's declarations. -/
  declaration : Nat
deriving BEq

/-- The violation of a constraint by a value, where a call is. -/
def Violation.of (context : Context) (leaf? : Option Bean) (declaration : Nat) (c : Constraint)
    (value : Value) : Violation :=
  { root? := context.root?, rootType := context.rootType, leaf?, value
    message := c.messageTemplate, template := c.messageTemplate, path := context.path
    kind := c.kind, constraint := c, declaration }

/-- Violations compare as equal if they agree in all but their constraints, which compare as
equal. -/
theorem Violation.beq_iff {x y : Violation} :
    (x == y) = true ↔ ∃ c, (x.constraint == c) = true ∧ y = { x with constraint := c } := by
  obtain ⟨⟩ := x
  obtain ⟨⟩ := y
  change instBEqViolation.beq _ _ = true ↔ _
  simp only [instBEqViolation.beq, Bool.and_eq_true, beq_iff_eq, Violation.mk.injEq]
  constructor
  · rintro ⟨rfl, rfl, rfl, rfl, rfl, rfl, rfl, rfl, hc, rfl⟩
    exact ⟨_, hc, rfl, rfl, rfl, rfl, rfl, rfl, rfl, rfl, rfl, rfl⟩
  · rintro ⟨_, hc, rfl, rfl, rfl, rfl, rfl, rfl, rfl, rfl, rfl, rfl⟩
    exact ⟨rfl, rfl, rfl, rfl, rfl, rfl, rfl, rfl, hc, rfl⟩

/-- Violations are compared by an equivalence, as their constraints are. -/
instance : EquivBEq Violation where
  rfl := Violation.beq_iff.2 ⟨_, BEq.rfl, rfl⟩
  symm h := by
    obtain ⟨c, hc, rfl⟩ := Violation.beq_iff.1 h
    exact Violation.beq_iff.2 ⟨_, BEq.symm hc, rfl⟩
  trans h h' := by
    obtain ⟨c, hc, rfl⟩ := Violation.beq_iff.1 h
    obtain ⟨d, hd, rfl⟩ := Violation.beq_iff.1 h'
    exact Violation.beq_iff.2 ⟨d, BEq.trans hc hd, rfl⟩

/-- Violations that compare as equal have the same leaf, path and value, and are of the same
declaration. -/
theorem Violation.agrees_of_beq {x y : Violation} (h : (x == y) = true) :
    x.leaf? = y.leaf? ∧ x.path = y.path ∧ x.value = y.value ∧ x.declaration = y.declaration := by
  obtain ⟨c, -, rfl⟩ := Violation.beq_iff.1 h
  exact ⟨rfl, rfl, rfl, rfl⟩

/-- What a violation gives to a hash function: all of it but the attributes and groups of its
constraint. -/
def Violation.hashed (v : Violation) :=
  (v.root?, v.rootType, v.leaf?, v.value, v.message, v.template, v.path, v.kind, v.declaration)

/-- Violations are hashed by what `hashed` gives. -/
instance : Hashable Violation := ⟨fun v => hash v.hashed⟩

/-- Violations that compare as equal give the same to a hash function. -/
theorem Violation.hashed_of_beq {x y : Violation} (h : (x == y) = true) : x.hashed = y.hashed := by
  obtain ⟨c, -, rfl⟩ := Violation.beq_iff.1 h
  rfl

/-- Equal violations have equal hashes. -/
instance : LawfulHashable Violation where
  hash_eq x y h := by
    change hash x.hashed = hash y.hashed
    rw [Violation.hashed_of_beq h]

/-- A violation in one line. -/
def Violation.text (v : Violation) : String :=
  (if v.path.isRoot then "(root)" else v.path.text) ++ ": " ++ v.message ++
    " (got: " ++ v.value.text ++ ")"

/-- Violations in the order they were recorded, each once. -/
structure ViolationSet where
  items : List Violation := []

namespace ViolationSet

/-- No violations. -/
def empty : ViolationSet := {}

/-- A violation equal to the given one is there. -/
def contains (s : ViolationSet) (v : Violation) : Bool := s.items.contains v

/-- Records a violation, unless an equal one is there. -/
def insert (s : ViolationSet) (v : Violation) : ViolationSet :=
  if s.contains v then s else ⟨s.items ++ [v]⟩

theorem mem_insert {s : ViolationSet} {v x : Violation} (h : x ∈ (s.insert v).items) :
    x ∈ s.items ∨ x = v := by
  unfold insert at h
  split at h
  · exact .inl h
  · rcases List.mem_append.1 h with h | h
    · exact .inl h
    · exact .inr (List.mem_singleton.1 h)

theorem exists_mem_insert (s : ViolationSet) (v : Violation) :
    ∃ x ∈ (s.insert v).items, x = v ∨ (v == x) = true := by
  unfold insert
  split
  · rename_i h
    obtain ⟨x, hx, heq⟩ := List.contains_iff_exists_mem_beq.1 h
    exact ⟨x, hx, .inr heq⟩
  · exact ⟨v, List.mem_append_right _ (List.mem_singleton_self v), .inl rfl⟩

theorem subset_insert (s : ViolationSet) (v : Violation) : s.items ⊆ (s.insert v).items := by
  unfold insert
  split
  · exact List.Subset.refl _
  · exact List.subset_append_left _ _

theorem contains_iff {s : ViolationSet} {x : Violation} :
    s.contains x = true ↔ ∃ y ∈ s.items, (x == y) = true := List.contains_iff_exists_mem_beq

theorem contains_insert {s : ViolationSet} {x y : Violation} :
    (s.insert x).contains y = true ↔ s.contains y = true ∨ (y == x) = true := by
  unfold insert
  split
  · rename_i hx
    refine ⟨.inl, fun h => h.elim id fun hyx => ?_⟩
    obtain ⟨z, hz, hxz⟩ := contains_iff.1 hx
    exact contains_iff.2 ⟨z, hz, BEq.trans hyx hxz⟩
  · simp only [contains_iff, List.mem_append, List.mem_singleton, or_and_right, exists_or,
      exists_eq_left]

theorem insert_of_contains {s : ViolationSet} {x : Violation} (h : s.contains x = true) :
    s.insert x = s := if_pos h

/-- Records violations one after the other. -/
def insertAll (s : ViolationSet) (xs : List Violation) : ViolationSet := xs.foldl insert s

@[simp] theorem insertAll_nil (s : ViolationSet) : s.insertAll [] = s := rfl

@[simp] theorem insertAll_cons (s : ViolationSet) (x : Violation) (xs : List Violation) :
    s.insertAll (x :: xs) = (s.insert x).insertAll xs := rfl

theorem insertAll_append (s : ViolationSet) (xs ys : List Violation) :
    s.insertAll (xs ++ ys) = (s.insertAll xs).insertAll ys := List.foldl_append ..

theorem mem_insertAll {s : ViolationSet} {xs : List Violation} {y : Violation}
    (h : y ∈ (s.insertAll xs).items) : y ∈ s.items ∨ y ∈ xs := by
  induction xs generalizing s with
  | nil => exact .inl h
  | cons x xs ih =>
    obtain h | h := ih h
    · obtain h | rfl := mem_insert h
      · exact .inl h
      · exact .inr List.mem_cons_self
    · exact .inr (List.mem_cons_of_mem x h)

theorem contains_insertAll {s : ViolationSet} {xs : List Violation} {y : Violation} :
    (s.insertAll xs).contains y = true ↔ s.contains y = true ∨ ∃ x ∈ xs, (y == x) = true := by
  induction xs generalizing s with
  | nil => simp
  | cons x xs ih =>
    rw [insertAll_cons, ih, contains_insert, or_assoc]
    simp only [List.mem_cons, or_and_right, exists_or, exists_eq_left]

/-- Recording what is there already changes nothing. -/
theorem insertAll_of_contains {s : ViolationSet} {xs : List Violation}
    (h : ∀ x ∈ xs, s.contains x = true) : s.insertAll xs = s := by
  induction xs with
  | nil => rfl
  | cons x xs ih =>
    obtain ⟨hx, hxs⟩ := List.forall_mem_cons.1 h
    rw [insertAll_cons, insert_of_contains hx, ih hxs]

/-- Recording distinct violations appends those that are not there yet. -/
theorem items_insertAll {s : ViolationSet} {xs : List Violation}
    (distinct : xs.Pairwise fun x y => (x == y) = false) :
    (s.insertAll xs).items = s.items ++ xs.filter fun x => !s.contains x := by
  induction xs generalizing s with
  | nil => exact (List.append_nil _).symm
  | cons x xs ih =>
    obtain ⟨hx, hrest⟩ := List.pairwise_cons.1 distinct
    rw [insertAll_cons, ih hrest]
    by_cases h : s.contains x = true
    · rw [insert_of_contains h, List.filter_cons_of_neg (by simp [h])]
    · -- the new violation equals none of the rest
      have hkept : ∀ y ∈ xs, (!(s.insert x).contains y) = !s.contains y := by
        intro y hy
        have hyx : ¬ (y == x) = true := fun hyx =>
          Bool.false_ne_true ((hx y hy).symm.trans (BEq.symm hyx))
        rw [Bool.eq_iff_iff.2 (contains_insert.trans (or_iff_left hyx))]
      rw [List.filter_congr hkept, insert, if_neg h, List.filter_cons_of_pos (by simp [h]),
        List.append_assoc, List.singleton_append]

/-- Recording what is not there yet appends it. -/
theorem items_insertAll_of_fresh {s : ViolationSet} {xs : List Violation}
    (fresh : ∀ x ∈ xs, s.contains x = false)
    (distinct : xs.Pairwise fun x y => (x == y) = false) :
    (s.insertAll xs).items = s.items ++ xs := by
  rw [items_insertAll distinct, List.filter_eq_self.2 fun x hx => by rw [fresh x hx]; rfl]

/-- Some violations of a set are those recorded that are to be kept, if equal ones are kept
alike. -/
theorem filter_insertAll {keep : Violation → Bool}
    (alike : ∀ x y, (x == y) = true → keep x = keep y) (s : ViolationSet) (xs : List Violation) :
    (s.insertAll xs).items.filter keep =
      (insertAll ⟨s.items.filter keep⟩ (xs.filter keep)).items := by
  induction xs generalizing s with
  | nil => rfl
  | cons x xs ih =>
    have kept : keep x = true →
        (contains ⟨s.items.filter keep⟩ x = true ↔ s.contains x = true) := by
      intro hx
      simp only [contains_iff, List.mem_filter, and_assoc]
      constructor
      · rintro ⟨y, hy, -, hxy⟩
        exact ⟨y, hy, hxy⟩
      · rintro ⟨y, hy, hxy⟩
        exact ⟨y, hy, alike x y hxy ▸ hx, hxy⟩
    rw [insertAll_cons, ih, List.filter_cons]
    unfold insert
    by_cases hkeep : keep x = true <;> by_cases hx : s.contains x = true
    · rw [if_pos hx, if_pos hkeep, insertAll_cons, insert_of_contains ((kept hkeep).2 hx)]
    · have hx' : ¬ contains ⟨s.items.filter keep⟩ x = true := fun h => hx ((kept hkeep).1 h)
      rw [if_neg hx, if_pos hkeep, insertAll_cons, insert, if_neg hx', List.filter_append,
        List.filter_cons_of_pos hkeep, List.filter_nil]
    · rw [if_pos hx, if_neg hkeep]
    · rw [if_neg hx, if_neg hkeep, List.filter_append, List.filter_cons_of_neg hkeep,
        List.filter_nil, List.append_nil]

/-- No two violations of a set compare as equal. -/
def Distinct (s : ViolationSet) : Prop := s.items.Pairwise fun x y => (x == y) = false

theorem Distinct.insert {s : ViolationSet} (h : s.Distinct) (x : Violation) :
    (s.insert x).Distinct := by
  unfold ViolationSet.insert
  split
  · exact h
  · rename_i hx
    refine List.pairwise_append.2 ⟨h, List.pairwise_singleton .., fun y hy z hz => ?_⟩
    obtain rfl := List.mem_singleton.1 hz
    rw [← Bool.not_eq_true]
    exact fun hyz => hx (contains_iff.2 ⟨y, hy, BEq.symm hyz⟩)

theorem Distinct.insertAll {s : ViolationSet} (h : s.Distinct) (xs : List Violation) :
    (s.insertAll xs).Distinct := by
  induction xs generalizing s with
  | nil => exact h
  | cons x xs ih => exact ih (h.insert x)

/-- The number of violations. -/
def size (s : ViolationSet) : Nat := s.items.length

/-- There are no violations. -/
def isEmpty (s : ViolationSet) : Bool := s.items.isEmpty

/-- The violations of both sets, those of the first one first. -/
def combine (s t : ViolationSet) : ViolationSet := t.items.foldl insert s

theorem combine_eq_insertAll (s t : ViolationSet) : s.combine t = s.insertAll t.items := rfl

/-- Whether two sets hold the same violations. -/
def same (s t : ViolationSet) : Bool := s.size == t.size && s.items.all t.contains

/-- Distinct violations are no more than those of a set that contains them. -/
theorem length_le_of_contains {xs ys : List Violation}
    (distinct : xs.Pairwise fun x y => (x == y) = false)
    (h : ∀ x ∈ xs, ∃ y ∈ ys, (x == y) = true) : xs.length ≤ ys.length := by
  induction xs generalizing ys with
  | nil => exact Nat.zero_le _
  | cons x xs ih =>
    obtain ⟨hx, hxs⟩ := List.pairwise_cons.1 distinct
    obtain ⟨y, hy, hxy⟩ := h x List.mem_cons_self
    -- what equals `x` is taken out: the violations that are left equal none of it
    have rest : xs.length ≤ (ys.eraseP (x == ·)).length := ih hxs fun z hz => by
      obtain ⟨w, hw, hzw⟩ := h z (List.mem_cons_of_mem _ hz)
      have hxw : ¬ (x == w) = true := fun hxw => by
        have := hx z hz
        rw [BEq.trans hxw (BEq.symm hzw)] at this
        cases this
      exact ⟨w, (List.mem_eraseP_of_neg hxw).2 hw, hzw⟩
    rw [List.length_eraseP_of_mem hy hxy] at rest
    have := List.length_pos_of_mem hy
    rw [List.length_cons]
    omega

/-- Sets that contain the same violations are the same. -/
theorem Distinct.same {s t : ViolationSet} (hs : s.Distinct) (ht : t.Distinct)
    (h : ∀ x, s.contains x = true ↔ t.contains x = true) : s.same t = true := by
  have self {u : ViolationSet} : ∀ x ∈ u.items, u.contains x = true := fun x hx =>
    contains_iff.2 ⟨x, hx, BEq.rfl⟩
  have hst : ∀ x ∈ s.items, t.contains x = true := fun x hx => (h x).1 (self x hx)
  have hts : ∀ x ∈ t.items, s.contains x = true := fun x hx => (h x).2 (self x hx)
  have hsize : s.size = t.size := Nat.le_antisymm
    (length_le_of_contains hs fun x hx => contains_iff.1 (hst x hx))
    (length_le_of_contains ht fun x hx => contains_iff.1 (hts x hx))
  rw [ViolationSet.same, hsize, BEq.rfl, Bool.true_and, List.all_eq_true]
  exact hst

/-- The violations whose path is written as the text. -/
def atPath (s : ViolationSet) (path : String) : List Violation :=
  s.items.filter (·.path.text = path)

/-- The violations of constraints of a kind. -/
def withKind (s : ViolationSet) (kind : ConstraintKind) : List Violation :=
  s.items.filter (·.kind = kind)

/-- The paths as they are written. -/
def paths (s : ViolationSet) : List String := s.items.map (·.path.text)

/-- The value if nothing is wrong, the violations otherwise. -/
def toValidation (s : ViolationSet) (a : α) : Except ViolationSet α :=
  if s.isEmpty then .ok a else .error s

/-- A heading with the number of violations, and a numbered line for each. -/
def text (s : ViolationSet) : String :=
  "Validation failed with " ++ toString s.size ++ " violation(s):\n" ++
    String.join (s.items.zipIdx.map fun (v, i) =>
      "  " ++ toString (i + 1) ++ ". " ++ v.text ++ "\n")

end ViolationSet

end BeanGraph
