import BeanGraph.Proofs.Touring

/-!
# Validating for several groups

Which groups are asked for decides which declarations are checked, and nothing else: the tour of a
validation is the same for all of them.  So to validate for several groups is to validate for some
of them and for the others, and to put together what is found.

* `mem_answers_append`: the routines answer for groups together what they answer for each part;
* `finds_iff_of_journey`: what a validation finds is what the routines answer on its tour;
* `validate_distributes_over_groups`: validating distributes over groups, and asking for no groups
  is asking for the default one.
-/

namespace BeanGraph

open Call

/-! ## Groups asked for -/

theorem Constraint.appliesTo_append (c : Constraint) {groups groups' : List Group}
    (h : groups ≠ []) (h' : groups' ≠ []) :
    c.appliesTo (groups ++ groups') = true ↔
      c.appliesTo groups = true ∨ c.appliesTo groups' = true := by
  have effective {l : List Group} (hl : l ≠ []) : Group.effective l = l :=
    if_neg (by simpa using hl)
  have hsum : groups ++ groups' ≠ [] := by simp [h]
  simp only [appliesTo, effective h, effective h', effective hsum, List.any_eq_true,
    List.contains_eq_mem, List.mem_append, decide_eq_true_eq, and_or_left, exists_or]

namespace Validator

variable (v : Validator) (heap : Heap) (root : Bean) (groups : List Group)

/-! ## Answers on a tour -/

/-- What a routine answers on a value that is inspected, for a declaration. -/
def answer (root : Bean) (x : Inspection) : Routine × Nat × Constraint → Verdict :=
  fun (routine, declaration, c) =>
    routine.verdict (.during root [] x.path []) (some x.leaf) declaration c x.value

/-- What the routines answer on a tour, in order. -/
def answers (stages : List Stage) : List Verdict :=
  (Stage.inspections stages).flatMap fun x =>
    (v.askings groups x.property x.value).map (answer root x)

/-- What a validation finds: it comes to an end and goes well. -/
def Finds (object : Value) (groups : List Group) (copies : Nat) (vs : ViolationSet) : Prop :=
  ∃ report, v.validate heap object groups copies = some report ∧ report.result = .ok vs

variable {v heap root groups}
variable {stages : List Stage} {visited : List Bean} {left? : Option (List Bean)} {object : Value}
  {i : Introspection} {copies : Nat} {vs : ViolationSet}

theorem verdicts_eq_answers (plain : v.Plain) (stages : List Stage) :
    v.verdicts root groups stages = .all (v.answers root groups stages) := by
  rw [verdicts, answers, Verdict.all_flatMap]
  refine congrArg Verdict.all (List.map_congr_left fun x _ => ?_)
  refine congrArg Verdict.all (List.map_congr_left ?_)
  rintro ⟨routine, declaration, c⟩ hasking
  exact (plain _ _ routine (mem_askings.1 hasking).2).verdict_during ..

theorem mem_answers {a : Verdict} :
    a ∈ v.answers root groups stages ↔ ∃ x ∈ Stage.inspections stages, ∃ asking,
      v.Applies groups x.property x.value asking.1 asking.2.1 asking.2.2 ∧
        a = answer root x asking := by
  simp only [answers, List.mem_flatMap, List.mem_map]
  refine exists_congr fun x => and_congr_right fun _ => exists_congr fun (routine, d, c) => ?_
  rw [mem_askings, eq_comm]

theorem mem_answers_append {groups' : List Group} (h : groups ≠ []) (h' : groups' ≠ [])
    {a : Verdict} :
    a ∈ v.answers root (groups ++ groups') stages ↔
      a ∈ v.answers root groups stages ∨ a ∈ v.answers root groups' stages := by
  have applies (p : Property) (u : Value) (routine : Routine) (d : Nat) (c : Constraint) :
      v.Applies (groups ++ groups') p u routine d c ↔
        v.Applies groups p u routine d c ∨ v.Applies groups' p u routine d c := by
    simp only [Applies, Property.mem_applicable, c.appliesTo_append h h']
    tauto
  simp only [mem_answers, applies, or_and_right, exists_or, and_or_left]

theorem answers_default (stages : List Stage) :
    v.answers root [] stages = v.answers root [.default] stages := rfl

/-! ## What is found -/

/-- A validation that finds something made its tour to the end. -/
theorem journey_of_finds (plain : v.Plain) (stable : v.Stable)
    (hobject : v.toVisit? object = some (root, i)) (h : v.Finds heap object groups copies vs) :
    ∃ stages visited, v.Journey heap true root i root .root [root] stages (some visited) := by
  obtain ⟨report, h, hvs⟩ := h
  rw [← validateGuarded_true] at h
  obtain ⟨stages, left?, hjourney, decided, tells⟩ :=
    journey_of_validateGuarded plain stable hobject h
  cases left? with
  | some visited => exact ⟨stages, visited, hjourney⟩
  | none =>
    obtain ⟨e, he⟩ := decided rfl
    have hresult := tells.result
    rw [hvs, he] at hresult
    cases hresult

/-- What a validation finds is what the routines answer on its tour, if all of them answer. -/
theorem finds_iff_of_journey (plain : v.Plain) (stable : v.Stable)
    (hobject : v.toVisit? object = some (root, i))
    (h : v.Journey heap true root i root .root [root] stages (some visited)) :
    v.Finds heap object groups copies vs ↔
      (∀ a ∈ v.answers root groups stages, ∃ xs, a = .ok xs) ∧
        vs = ViolationSet.insertAll .empty
          ((v.answers root groups stages).flatMap Verdict.found) := by
  have decided : v.Decided root groups stages (some visited) := nofun
  obtain ⟨report, hreport, tells⟩ :=
    validateGuarded_of_journey plain stable hobject h decided copies
  rw [validateGuarded_true] at hreport
  have hfinds : v.Finds heap object groups copies vs ↔ report.result = .ok vs := by
    simp only [Finds, hreport, Option.some.injEq, exists_eq_left']
  rw [hfinds, tells.result, verdicts_eq_answers plain]
  constructor
  · intro hok
    cases hall : Verdict.all (v.answers root groups stages) with
    | error e =>
      rw [hall] at hok
      cases hok
    | ok found =>
      rw [hall] at hok
      obtain ⟨hanswers, rfl⟩ := Verdict.all_eq_ok_iff.1 hall
      exact ⟨hanswers, (Except.ok.inj hok).symm⟩
  · rintro ⟨hanswers, rfl⟩
    rw [Verdict.all_eq_ok_iff.2 ⟨hanswers, rfl⟩]
    rfl

/-! ## Validations -/

theorem isUnconstrained_of_nothing {b : Bean} (h : v.toVisit? (.bean b) = none)
    (hi : v.introspection? b.type = some i) : i.isUnconstrained = true := by
  rw [← Bool.not_eq_false]
  intro hconstrained
  rw [toVisit?_eq_some.2 ⟨rfl, hi, hconstrained⟩] at h
  cases h

/-- With nothing to validate the result is the same for validators that know the same types. -/
theorem result_of_nothing {w : Validator}
    (known : ∀ t, (w.introspection? t).isSome = (v.introspection? t).isSome)
    (h : v.toVisit? object = none) (h' : w.toVisit? object = none) (groups groups' : List Group)
    (copies copies' : Nat) :
    (v.validate heap object groups copies).map (·.result) =
      (w.validate heap object groups' copies').map (·.result) := by
  cases object with
  | bean b =>
    cases hi : v.introspection? b.type with
    | none =>
      have hi' : w.introspection? b.type = none := by
        rw [← Option.not_isSome_iff_eq_none, known, hi]
        exact Bool.false_ne_true
      simp only [validate, Validator.root, hi, hi', Option.map_some]
    | some i =>
      obtain ⟨i', hi'⟩ : ∃ i', w.introspection? b.type = some i' := by
        rw [← Option.isSome_iff_exists, known, hi]
        rfl
      simp only [validate, Validator.root, hi, hi', isUnconstrained_of_nothing h hi,
        isUnconstrained_of_nothing h' hi', if_true, Option.map_some]
  | _ => rfl

theorem finds_iff_result : v.Finds heap object groups copies vs ↔
    (v.validate heap object groups copies).map (·.result) = some (.ok vs) := by
  rw [Finds, Option.map_eq_some_iff]

theorem Finds.of_nothing (h : v.Finds heap object groups copies vs)
    (hobject : v.toVisit? object = none) :
    vs = .empty ∧ ∀ groups' copies', v.Finds heap object groups' copies' vs := by
  constructor
  · obtain ⟨report, hreport, hvs⟩ := h
    obtain ⟨result, events, hnothing, -, hall⟩ := validateGuarded_of_nothing hobject
    rw [← validateGuarded_true, hall, Option.some.injEq] at hreport
    obtain rfl := hreport
    exact hnothing vs hvs
  · intro groups' copies'
    rw [finds_iff_result] at h ⊢
    rw [← h, result_of_nothing (fun _ => rfl) hobject hobject]

/-- The result for other groups is the same if the routines answer the same on every tour. -/
theorem result_le_of_answers (plain : v.Plain) (stable : v.Stable)
    (hobject : v.toVisit? object = some (root, i)) {groups' : List Group}
    (same : ∀ stages, v.answers root groups stages = v.answers root groups' stages)
    (copies' : Nat) {result : Except Failure ViolationSet}
    (h : (v.validate heap object groups copies).map (·.result) = some result) :
    (v.validate heap object groups' copies').map (·.result) = some result := by
  have verdicts_eq (stages : List Stage) :
      v.verdicts root groups stages = v.verdicts root groups' stages := by
    rw [verdicts_eq_answers plain, verdicts_eq_answers plain, same]
  rw [← validateGuarded_true] at h ⊢
  obtain ⟨report, hreport, rfl⟩ := Option.map_eq_some_iff.1 h
  obtain ⟨stages, left?, hjourney, decided, tells⟩ :=
    journey_of_validateGuarded plain stable hobject hreport
  have decided' : v.Decided root groups' stages left? := by rwa [Decided, ← verdicts_eq]
  obtain ⟨report', h', tells'⟩ :=
    validateGuarded_of_journey plain stable hobject hjourney decided' copies'
  rw [h', Option.map_some, tells'.result, ← verdicts_eq, ← tells.result]

theorem result_default (plain : v.Plain) (stable : v.Stable) (object : Value)
    (copies copies' : Nat) :
    (v.validate heap object [] copies).map (·.result) =
      (v.validate heap object [.default] copies').map (·.result) := by
  cases hobject : v.toVisit? object with
  | none => exact result_of_nothing (fun _ => rfl) hobject hobject _ _ _ _
  | some start =>
    obtain ⟨root, i⟩ := start
    refine Option.ext fun result => ⟨?_, ?_⟩
    · exact result_le_of_answers plain stable hobject answers_default copies'
    · exact result_le_of_answers plain stable hobject (fun stages => (answers_default stages).symm)
        copies

/-- What is found for groups together is as a set what is found for each part, combined. -/
theorem same_combine {xs ys zs : List Violation} (h : ∀ x, x ∈ xs ↔ x ∈ ys ∨ x ∈ zs) :
    (ViolationSet.insertAll .empty xs).same
      ((ViolationSet.insertAll .empty ys).combine (.insertAll .empty zs)) = true := by
  have distinct (l : List Violation) : (ViolationSet.insertAll .empty l).Distinct :=
    ViolationSet.Distinct.insertAll .nil l
  have contains (l : List Violation) (x : Violation) :
      (ViolationSet.insertAll .empty l).contains x = true ↔ ∃ y ∈ l, (x == y) = true := by
    rw [ViolationSet.contains_insertAll]
    simp [ViolationSet.contains, ViolationSet.empty]
  rw [ViolationSet.combine_eq_insertAll]
  refine (distinct xs).same ((distinct ys).insertAll _) fun x => ?_
  have there : (∃ y ∈ (ViolationSet.insertAll .empty zs).items, (x == y) = true) ↔
      ∃ y ∈ zs, (x == y) = true := ViolationSet.contains_iff.symm.trans (contains zs x)
  rw [contains xs, ViolationSet.contains_insertAll, contains ys, there]
  simp only [h, or_and_right, exists_or]

theorem finds_append_iff (plain : v.Plain) (stable : v.Stable) {groups' : List Group}
    (h : groups ≠ []) (h' : groups' ≠ []) (object : Value) (copies copies₁ copies₂ : Nat) :
    (∃ vs, v.Finds heap object (groups ++ groups') copies vs) ↔
      (∃ vs, v.Finds heap object groups copies₁ vs) ∧
        ∃ vs, v.Finds heap object groups' copies₂ vs := by
  cases hobject : v.toVisit? object with
  | none =>
    constructor
    · rintro ⟨vs, hvs⟩
      have hall := (hvs.of_nothing hobject).2
      exact ⟨⟨vs, hall _ _⟩, vs, hall _ _⟩
    · rintro ⟨⟨vs, hvs⟩, -⟩
      exact ⟨vs, (hvs.of_nothing hobject).2 _ _⟩
  | some start =>
    obtain ⟨root, i⟩ := start
    have key {stages : List Stage} {visited : List Bean}
        (hjourney : v.Journey heap true root i root .root [root] stages (some visited)) :
        (∃ vs, v.Finds heap object (groups ++ groups') copies vs) ↔
          (∃ vs, v.Finds heap object groups copies₁ vs) ∧
            ∃ vs, v.Finds heap object groups' copies₂ vs := by
      simp only [finds_iff_of_journey plain stable hobject hjourney, exists_and_left, exists_eq,
        and_true, mem_answers_append h h', or_imp, forall_and]
    constructor
    · rintro ⟨vs, hvs⟩
      obtain ⟨stages, visited, hjourney⟩ := journey_of_finds plain stable hobject hvs
      exact (key hjourney).1 ⟨vs, hvs⟩
    · rintro ⟨⟨vs, hvs⟩, hvs'⟩
      obtain ⟨stages, visited, hjourney⟩ := journey_of_finds plain stable hobject hvs
      exact (key hjourney).2 ⟨⟨vs, hvs⟩, hvs'⟩

theorem same_combine_of_finds (plain : v.Plain) (stable : v.Stable) {groups' : List Group}
    (h : groups ≠ []) (h' : groups' ≠ []) {copies₁ copies₂ : Nat} {vs₁ vs₂ : ViolationSet}
    (hvs : v.Finds heap object (groups ++ groups') copies vs)
    (hvs₁ : v.Finds heap object groups copies₁ vs₁)
    (hvs₂ : v.Finds heap object groups' copies₂ vs₂) : vs.same (vs₁.combine vs₂) = true := by
  cases hobject : v.toVisit? object with
  | none =>
    rw [(hvs.of_nothing hobject).1, (hvs₁.of_nothing hobject).1, (hvs₂.of_nothing hobject).1]
    rfl
  | some start =>
    obtain ⟨root, i⟩ := start
    obtain ⟨stages, visited, hjourney⟩ := journey_of_finds plain stable hobject hvs
    obtain ⟨-, rfl⟩ := (finds_iff_of_journey plain stable hobject hjourney).1 hvs
    obtain ⟨-, rfl⟩ := (finds_iff_of_journey plain stable hobject hjourney).1 hvs₁
    obtain ⟨-, rfl⟩ := (finds_iff_of_journey plain stable hobject hjourney).1 hvs₂
    refine same_combine fun x => ?_
    simp only [List.mem_flatMap, mem_answers_append h h', or_and_right, exists_or]

/-- With stable getters and with routines that do not look at the context, a validation for groups
together goes well if those for each part do, and it finds as a set what they find, combined.  A
validation for no groups has the result of one for the default group. -/
theorem validate_distributes_over_groups (v : Validator) (heap : Heap) (stable : v.Stable)
    (plain : v.Plain) (object : Value) :
    (∀ groups groups' : List Group, groups ≠ [] → groups' ≠ [] → ∀ copies copies₁ copies₂,
      ((∃ vs, v.Finds heap object (groups ++ groups') copies vs) ↔
        (∃ vs, v.Finds heap object groups copies₁ vs) ∧
          ∃ vs, v.Finds heap object groups' copies₂ vs) ∧
      ∀ vs vs₁ vs₂, v.Finds heap object (groups ++ groups') copies vs →
        v.Finds heap object groups copies₁ vs₁ → v.Finds heap object groups' copies₂ vs₂ →
        vs.same (vs₁.combine vs₂) = true) ∧
    ∀ copies copies', (v.validate heap object [] copies).map (·.result) =
      (v.validate heap object [.default] copies').map (·.result) :=
  ⟨fun _ _ h h' copies copies₁ copies₂ =>
    ⟨finds_append_iff plain stable h h' object copies copies₁ copies₂,
      fun _ _ _ => same_combine_of_finds plain stable h h'⟩,
    result_default plain stable object⟩

theorem ring_distributes_over_groups :
    ∃ vs vs₁ vs₂ : ViolationSet,
      Ring.validator.Finds Ring.heap (.bean Ring.first) [.default, ⟨"Strict"⟩] 0 vs ∧
      Ring.validator.Finds Ring.heap (.bean Ring.first) [.default] 0 vs₁ ∧
      Ring.validator.Finds Ring.heap (.bean Ring.first) [⟨"Strict"⟩] 0 vs₂ ∧
      vs.items = [Ring.missing] ∧ vs.same (vs₁.combine vs₂) = true ∧
      (Ring.validator.validate Ring.heap (.bean Ring.first) [] 0).map (·.result) =
        (Ring.validator.validate Ring.heap (.bean Ring.first) [.default] 0).map (·.result) := by
  obtain ⟨together, default⟩ := validate_distributes_over_groups Ring.validator Ring.heap
    Ring.stable Ring.plain (.bean Ring.first)
  obtain ⟨parts, same⟩ := together [.default] [⟨"Strict"⟩] nofun nofun 0 0 0
  obtain ⟨report, vs, h, hvs, hitems⟩ :
      ∃ report vs, Ring.validator.validateGuarded Ring.heap true (.bean Ring.first)
        [.default, ⟨"Strict"⟩] 0 = some report ∧ report.result = .ok vs ∧
          vs.items = [Ring.missing] :=
    validateGuarded_of_within 3 rfl (by cbv)
  rw [validateGuarded_true] at h
  have found : Ring.validator.Finds Ring.heap (.bean Ring.first) [.default, ⟨"Strict"⟩] 0 vs :=
    ⟨report, h, hvs⟩
  obtain ⟨⟨vs₁, found₁⟩, vs₂, found₂⟩ := parts.1 ⟨vs, found⟩
  exact ⟨vs, vs₁, vs₂, found, found₁, found₂, hitems, same vs vs₁ vs₂ found found₁ found₂,
    default 0 0⟩

end Validator

end BeanGraph
