import BeanGraph.Proofs.SingleProperty

/-!
# Validating a candidate value

A validation of one property of a bean and a validation of the value of that property as a candidate
for the type of the bean ask the same routines about the same values at the same path.  Routines
that do not look at the context answer alike, so the two fail alike, or they find the same
violations up to the bean, which the latter has none of.

* `result_validateValue`: the result of the former validation as a verdict;
* `propertyVerdict_forRoot`: the verdicts are the same up to the bean;
* `ViolationSet.insertAll_map`: what is recorded once stays so if the bean is put in;
* `validateValue_agrees`: so the two validations agree.
-/

namespace BeanGraph

open Call

/-! ## Violations without a bean -/

/-- The violation that is found if the value is held by a bean that the call starts from. -/
def Violation.heldBy (b : Bean) (x : Violation) : Violation :=
  { x with root? := some b, leaf? := some b }

/-- A violation of a value that no bean holds. -/
structure Violation.Detached (x : Violation) : Prop where
  root : x.root? = none
  leaf : x.leaf? = none

/-- The bean that holds the values does not make violations any more or less equal. -/
theorem Violation.Detached.heldBy_beq {x y : Violation} (hx : x.Detached) (hy : y.Detached)
    (b : Bean) : (x.heldBy b == y.heldBy b) = (x == y) := by
  rw [Bool.eq_iff_iff, beq_iff, beq_iff]
  obtain ⟨hroot, hleaf⟩ := hx
  obtain ⟨hroot', hleaf'⟩ := hy
  obtain ⟨⟩ := x
  obtain ⟨⟩ := y
  subst hroot hleaf hroot' hleaf'
  simp only [heldBy, mk.injEq, true_and]

theorem ViolationSet.insert_map {f : Violation → Violation} {s : ViolationSet} {x : Violation}
    (alike : ∀ y ∈ s.items, (f x == f y) = (x == y)) :
    insert ⟨s.items.map f⟩ (f x) = ⟨(s.insert x).items.map f⟩ := by
  have hcontains : contains ⟨s.items.map f⟩ (f x) = s.contains x := by
    rw [Bool.eq_iff_iff, contains_iff, contains_iff]
    simp only [List.mem_map, exists_exists_and_eq_and]
    exact exists_congr fun y => and_congr_right fun hy => by rw [alike y hy]
  unfold insert
  rw [hcontains]
  split
  · rfl
  · rw [List.map_append, List.map_singleton]

/-- A change of violations under which they are equal as before may be made before or after they are
recorded. -/
theorem ViolationSet.insertAll_map {f : Violation → Violation} {P : Violation → Prop}
    (alike : ∀ x y, P x → P y → (f x == f y) = (x == y)) {s : ViolationSet} {xs : List Violation}
    (hs : ∀ x ∈ s.items, P x) (hxs : ∀ x ∈ xs, P x) :
    insertAll ⟨s.items.map f⟩ (xs.map f) = ⟨(s.insertAll xs).items.map f⟩ := by
  induction xs generalizing s with
  | nil => rfl
  | cons x xs ih =>
    obtain ⟨hx, hxs⟩ := List.forall_mem_cons.1 hxs
    have hinsert : insert ⟨s.items.map f⟩ (f x) = ⟨(s.insert x).items.map f⟩ :=
      insert_map fun y hy => alike x y hx (hs y hy)
    rw [List.map_cons, insertAll_cons, insertAll_cons, hinsert]
    refine ih (fun y hy => ?_) hxs
    obtain hy | rfl := mem_insert hy
    · exact hs y hy
    · exact hx

/-! ## Verdicts -/

namespace Verdict

/-- A verdict with each of its violations changed. -/
def mapFound (f : Violation → Violation) (a : Verdict) : Verdict := a.map (List.map f)

theorem all_mapFound (f : Violation → Violation) (as : List Verdict) :
    all (as.map (mapFound f)) = (all as).mapFound f := by
  induction as with
  | nil => rfl
  | cons a as ih =>
    rw [List.map_cons, all_cons, all_cons, ih]
    cases a <;> cases all as <;> simp [andThen, mapFound, Except.map]

/-- A failure of verdicts one after the other is that of one of them. -/
theorem mem_of_all_eq_error {as : List Verdict} {e : Failure} (h : all as = .error e) :
    .error e ∈ as := by
  induction as with
  | nil => cases h
  | cons a as ih =>
    rw [all_cons] at h
    cases a with
    | error e' =>
      cases h
      exact List.mem_cons_self
    | ok xs =>
      cases has : all as with
      | error e' =>
        rw [has] at h
        cases h
        exact List.mem_cons_of_mem _ (ih has)
      | ok ys =>
        rw [has] at h
        cases h

end Verdict

/-- The only failure of a routine is that it cannot evaluate a constraint. -/
theorem Routine.evaluation_of_verdict {routine : Routine} {context : Context} {leaf? : Option Bean}
    {declaration : Nat} {c : Constraint} {u : Value} {e : Failure}
    (h : routine.verdict context leaf? declaration c u = .error e) :
    ∃ source, e = .evaluation c.kind context.path source := by
  unfold Routine.verdict at h
  split at h
  · cases h
  · cases h
  · cases h
    exact ⟨_, rfl⟩

namespace Validator

variable {v : Validator} {heap : Heap} {b : Bean} {i : Introspection} {p : Property}
  {groups : List Group} {context : Context} {leaf? : Option Bean} {w : Value}

theorem evaluation_of_propertyVerdict {e : Failure}
    (h : v.propertyVerdict heap context leaf? p w = .error e) :
    ∃ kind path source, e = .evaluation kind path source := by
  obtain ⟨u, -, hu⟩ := List.mem_map.1 (Verdict.mem_of_all_eq_error h)
  obtain ⟨⟨routine, declaration, c⟩, -, herror⟩ := List.mem_map.1 (Verdict.mem_of_all_eq_error hu)
  obtain ⟨source, rfl⟩ := Routine.evaluation_of_verdict herror
  exact ⟨_, _, _, rfl⟩

/-- What a verdict on the value of a property finds is one node below. -/
theorem of_mem_propertyVerdict {found : List Violation}
    (h : v.propertyVerdict heap context leaf? p w = .ok found) {x : Violation} (hx : x ∈ found) :
    ∃ u ∈ v.subjects heap p w, ∃ declaration c,
      x = .of (context.push p.name) leaf? declaration c u := by
  obtain ⟨-, rfl⟩ := Verdict.all_eq_ok_iff.1 h
  obtain ⟨a, ha, hx⟩ := List.mem_flatMap.1 hx
  obtain ⟨u, hu, rfl⟩ := List.mem_map.1 ha
  cases hverdict : v.verdict (context.push p.name) leaf? p u with
  | error e =>
    rw [hverdict] at hx
    cases hx
  | ok xs =>
    rw [hverdict] at hx
    obtain ⟨-, rfl⟩ := Verdict.all_eq_ok_iff.1 hverdict
    obtain ⟨a, ha, hx⟩ := List.mem_flatMap.1 hx
    obtain ⟨⟨routine, declaration, c⟩, -, rfl⟩ := List.mem_map.1 ha
    exact ⟨u, hu, declaration, c, Routine.eq_of_mem_verdict hx⟩

/-- A call on a bean finds in a property what a call on its type finds in the value, up to the
bean. -/
theorem propertyVerdict_forRoot (plain : v.Plain) (b : Bean) (p : Property) (w : Value) :
    v.propertyVerdict heap (.forRoot b groups) (some b) p w =
      (v.propertyVerdict heap (.detached b.type groups) none p w).mapFound (.heldBy b) := by
  rw [propertyVerdict, propertyVerdict, ← Verdict.all_mapFound, List.map_map]
  refine congrArg Verdict.all (List.map_congr_left fun u _ => ?_)
  rw [Function.comp_apply, verdict, verdict, ← Verdict.all_mapFound, List.map_map]
  refine congrArg Verdict.all (List.map_congr_left ?_)
  rintro ⟨routine, declaration, c⟩ hasking
  have hroutine : routine.Plain := plain _ _ routine (mem_askings.1 hasking).2
  dsimp only [Function.comp_apply]
  unfold Routine.verdict
  rw [hroutine u c _ ((Context.detached b.type groups).push p.name)]
  cases routine.check u c ((Context.detached b.type groups).push p.name) with
  | error e => rfl
  | ok valid => cases valid <;> rfl

/-! ## Results as verdicts -/

theorem result_validateValue {type : BeanType} (hi : v.introspection? type = some i)
    (hp : p ∈ i.properties) (w : Value) (groups : List Group) (copies : Nat) :
    (v.validateValue heap type p.name w groups copies).result =
      (v.propertyVerdict heap (.detached type groups) none p w).map
        (ViolationSet.insertAll .empty) := by
  have hrun : v.validateValue heap type p.name w groups copies =
      .of (v.checkProperty heap none p w
        ⟨.detached type groups, copies, .empty, #[.lookedUp type]⟩) := by
    simp only [validateValue, hi, Introspection.property?_eq_some hp]
    rfl
  rw [hrun]
  exact result_of_bears (judges_checkProperty rfl none p w _ rfl) rfl

/-! ## The two validations -/

/-- With routines that do not look at the context, a validation of a property of a bean and one of
the value that it reads as a candidate for the type of the bean both fail alike, where a constraint
cannot be evaluated, or find the same violations in order up to the bean: it is root and leaf of
those of the former, and the latter have neither.  For a name that no property has, the candidate is
refused and the property has nothing to find. -/
theorem validateValue_agrees (v : Validator) (heap : Heap) (plain : v.Plain) {b : Bean}
    {i : Introspection} (hi : v.introspection? b.type = some i) (groups : List Group)
    (copies copies' : Nat) :
    (∀ p ∈ i.properties,
      (∃ kind path source,
        (v.validateValue heap b.type p.name (i.read p heap b copies).1 groups copies').result =
            .error (.evaluation kind path source) ∧
          (v.validateProperty heap (.bean b) p.name groups copies).result =
            .error (.evaluation kind path source)) ∨
      ∃ vs : ViolationSet,
        (v.validateValue heap b.type p.name (i.read p heap b copies).1 groups copies').result =
            .ok vs ∧
          (v.validateProperty heap (.bean b) p.name groups copies).result =
            .ok ⟨vs.items.map (.heldBy b)⟩ ∧
          ∀ x ∈ vs.items, x.Detached) ∧
    ∀ name, (∀ p ∈ i.properties, p.name ≠ name) →
      (∀ value, (v.validateValue heap b.type name value groups copies').result =
        .error (.noSuchProperty b.type name)) ∧
      (v.validateProperty heap (.bean b) name groups copies).result = .ok .empty := by
  refine ⟨fun p hp => ?_, fun name hname => ?_⟩
  · rw [result_validateValue hi hp, result_validateProperty_of_read hi hp,
      propertyVerdict_forRoot plain]
    cases h : v.propertyVerdict heap (.detached b.type groups) none p
      (i.read p heap b copies).1 with
    | error e =>
      obtain ⟨kind, path, source, rfl⟩ := evaluation_of_propertyVerdict h
      exact .inl ⟨kind, path, source, rfl, rfl⟩
    | ok found =>
      have detached : ∀ x ∈ found, x.Detached := by
        intro x hx
        obtain ⟨u, -, declaration, c, rfl⟩ := of_mem_propertyVerdict h hx
        exact ⟨rfl, rfl⟩
      have alike : ∀ x y : Violation, x.Detached → y.Detached →
          (x.heldBy b == y.heldBy b) = (x == y) := fun x y hx hy => hx.heldBy_beq hy b
      refine .inr ⟨.insertAll .empty found, rfl, congrArg Except.ok ?_, fun x hx => ?_⟩
      · exact ViolationSet.insertAll_map (s := .empty) alike nofun detached
      · obtain hx | hx := ViolationSet.mem_insertAll hx
        · cases hx
        · exact detached x hx
  · have hnone : i.property? name = none :=
      List.find?_eq_none.2 fun p hp => by simpa using hname p hp
    constructor
    · intro value
      simp only [validateValue, hi, hnone]
    · simp only [validateProperty, Validator.root, hi, hnone]

/-- The third bean of the ring has no name, and no name is no candidate for one. -/
theorem ring_candidate_agrees :
    ∃ vs : ViolationSet,
      (Ring.validator.validateValue Ring.heap Ring.type "name" .null [] 0).result = .ok vs ∧
      (Ring.validator.validateProperty Ring.heap (.bean Ring.third) "name" [] 0).result =
        .ok ⟨vs.items.map (.heldBy Ring.third)⟩ ∧
      vs.items = [.of { Context.detached Ring.type [] with path := .single "name" } none 0
        (.ofKind .notNull) .null] ∧
      (Ring.validator.validateValue Ring.heap Ring.type "price" (.int 3) [] 0).result =
        .error (.noSuchProperty Ring.type "price") ∧
      (Ring.validator.validateProperty Ring.heap (.bean Ring.third) "price" [] 0).result =
        .ok .empty := by
  obtain ⟨known, unknown⟩ := validateValue_agrees Ring.validator Ring.heap Ring.plain
    (b := Ring.third) (i := Ring.introspection) rfl [] 0 0
  obtain ⟨hvalue, hproperty⟩ := unknown "price" (by decide)
  have run : (Ring.validator.validateValue Ring.heap Ring.type "name" .null [] 0).result =
      .ok ⟨[.of { Context.detached Ring.type [] with path := .single "name" } none 0
        (.ofKind .notNull) .null]⟩ := rfl
  obtain ⟨kind, path, source, herror, -⟩ | ⟨vs, hok, hheld, -⟩ :=
    known Ring.name List.mem_cons_self
  · cases run.symm.trans herror
  · obtain rfl := Except.ok.inj (hok.symm.trans run)
    exact ⟨_, hok, hheld, rfl, hvalue (.int 3), hproperty⟩

end Validator

end BeanGraph
