import BeanGraph.Proofs.Passage

/-!
# What checking comes to

Checking a value asks routines in order.  The `Verdict` on it is the list of violations that they
find, or the failure of the first one that cannot answer.  It is a function of the value and of the
context, so what a check does can be told without running it.

* `Judges`: a step ends as a verdict says, adds its violations, and moves nowhere;
* `judges_checkValue`, `judges_checkProperty`: the verdicts of the checks;
* `Verdict.all_eq_ok_iff`: all goes well if each part does, and finds what the parts find.
-/

namespace BeanGraph

open Call

/-! ## Verdicts -/

/-- The violations found by a part of a call, in order, or the failure that ends it. -/
abbrev Verdict := Except Failure (List Violation)

namespace Verdict

/-- One verdict and then another one, unless the first one is a failure. -/
def andThen : Verdict → Verdict → Verdict
  | .ok xs, .ok ys => .ok (xs ++ ys)
  | .ok _, .error e => .error e
  | .error e, _ => .error e

/-- Verdicts one after the other, up to the first failure. -/
def all (verdicts : List Verdict) : Verdict := verdicts.foldr andThen (.ok [])

/-- The violations of a verdict; a failure has none. -/
def found : Verdict → List Violation
  | .ok xs => xs
  | .error _ => []

@[simp] theorem found_ok (xs : List Violation) : found (.ok xs) = xs := rfl

@[simp] theorem all_nil : all [] = .ok [] := rfl

@[simp] theorem all_cons (a : Verdict) (as : List Verdict) :
    all (a :: as) = a.andThen (all as) := rfl

@[simp] theorem nothing_andThen (a : Verdict) : andThen (.ok []) a = a := by
  cases a <;> rfl

@[simp] theorem andThen_nothing (a : Verdict) : a.andThen (.ok []) = a := by
  cases a with
  | error e => rfl
  | ok xs => exact congrArg Except.ok (List.append_nil xs)

theorem andThen_assoc (a b c : Verdict) : (a.andThen b).andThen c = a.andThen (b.andThen c) := by
  cases a <;> cases b <;> cases c <;> simp [andThen]

theorem all_append (as bs : List Verdict) : all (as ++ bs) = (all as).andThen (all bs) := by
  induction as with
  | nil => exact (nothing_andThen _).symm
  | cons a as ih => rw [List.cons_append, all_cons, ih, all_cons, andThen_assoc]

theorem all_flatMap {α : Type} (l : List α) (f : α → List Verdict) :
    all (l.flatMap f) = all (l.map fun a => all (f a)) := by
  induction l with
  | nil => rfl
  | cons a l ih => rw [List.flatMap_cons, all_append, ih, List.map_cons, all_cons]

theorem all_eq_ok_iff {as : List Verdict} {xs : List Violation} :
    all as = .ok xs ↔ (∀ a ∈ as, ∃ ys, a = .ok ys) ∧ xs = as.flatMap found := by
  induction as generalizing xs with
  | nil => simp [eq_comm]
  | cons a as ih =>
    rw [all_cons, List.forall_mem_cons, List.flatMap_cons]
    cases a with
    | error e => simp [andThen]
    | ok ys =>
      cases has : all as with
      | error e =>
        refine ⟨nofun, fun ⟨⟨_, hall⟩, _⟩ => ?_⟩
        rw [ih.2 ⟨hall, rfl⟩] at has
        cases has
      | ok zs =>
        obtain ⟨hall, rfl⟩ := ih.1 has
        simp only [andThen, Except.ok.injEq, found_ok]
        exact ⟨fun h => ⟨⟨⟨ys, rfl⟩, hall⟩, h.symm⟩, fun h => h.2.symm⟩

end Verdict

/-! ## Steps with a verdict -/

/-- The bean that an event enters, and the path at which it does. -/
def Event.entry? : Event → Option (Bean × Path)
  | .entered b path => some (b, path)
  | _ => none

/-- The beans entered so far and the paths at which they were, in order. -/
def Progress.entries (s : Progress) : List (Bean × Path) :=
  s.events.toList.filterMap Event.entry?

theorem Progress.entries_record (s : Progress) (e : Event) :
    (s.record e).entries = s.entries ++ e.entry?.toList :=
  filterMap_record _ s e

/-- Two states with the same context and entries, the later one with some more violations. -/
structure Progress.Adds (s : Progress) (found : List Violation) (t : Progress) : Prop where
  context : t.context = s.context
  violations : t.violations = s.violations.insertAll found
  entries : t.entries = s.entries

namespace Progress.Adds

variable {s t u : Progress} {xs ys : List Violation}

theorem refl (s : Progress) : s.Adds [] s := ⟨rfl, rfl, rfl⟩

theorem trans (h : s.Adds xs t) (h' : t.Adds ys u) : s.Adds (xs ++ ys) u where
  context := h'.context.trans h.context
  violations := by rw [h'.violations, h.violations, ViolationSet.insertAll_append]
  entries := h'.entries.trans h.entries

theorem record {e : Event} (h : e.entry? = none) (s : Progress) : s.Adds [] (s.record e) where
  context := rfl
  violations := rfl
  entries := by rw [entries_record, h]; exact List.append_nil _

end Progress.Adds

/-- An outcome from a state is as a verdict says, with the violations found added. -/
def Progress.Bears (s : Progress) (done : Outcome Unit) : Verdict → Prop
  | .ok found => done.1 = .ok () ∧ s.Adds found done.2
  | .error e => done.1 = .error e

namespace Call

/-- A step that is begun in a context ends as a verdict says. -/
def Judges (x : Step Unit) (c : Context) (verdict : Verdict) : Prop :=
  ∀ s : Progress, s.context = c → s.Bears (x s) verdict

variable {α : Type} {x y : Step Unit} {c : Context} {a b : Verdict}

theorem judges_pure : Judges (pure ()) c (.ok []) := fun s _ => ⟨rfl, .refl s⟩

theorem judges_record {e : Event} (h : e.entry? = none) : Judges (record e) c (.ok []) :=
  fun s _ => ⟨rfl, .record h s⟩

theorem Judges.bind (hx : Judges x c a) (hy : Judges y c b) :
    Judges (x >>= fun _ => y) c (a.andThen b) := by
  intro s hs
  have hxs := hx s hs
  rw [bind_apply]
  rcases hdone : x s with ⟨r, t⟩
  rw [hdone] at hxs
  cases a with
  | error e =>
    obtain rfl : r = .error e := hxs
    rfl
  | ok xs =>
    obtain ⟨rfl, hadds⟩ : r = .ok () ∧ s.Adds xs t := hxs
    have hyt := hy t (hadds.context.trans hs)
    cases b with
    | error e => exact hyt
    | ok ys => exact ⟨hyt.1, hadds.trans hyt.2⟩

theorem judges_forM {f : α → Step Unit} {verdict : α → Verdict} {l : List α}
    (h : ∀ a ∈ l, Judges (f a) c (verdict a)) : Judges (l.forM f) c (.all (l.map verdict)) := by
  induction l with
  | nil => exact judges_pure
  | cons a l ih =>
    exact (h a List.mem_cons_self).bind (ih fun b hb => h b (List.mem_cons_of_mem _ hb))

/-- A value that reads the same every time can be told beforehand. -/
theorem Judges.read {heap : Heap} {i : Introspection} {p : Property} {b : Bean} {w : Value}
    {f : Value → Step Unit} (hw : ∀ n, (i.read p heap b n).1 = w) (h : Judges (f w) c a) :
    Judges (read heap i p b >>= f) c a := by
  intro s hs
  rw [bind_apply, read_apply, hw]
  have hbears := h { s with copies := (i.read p heap b s.copies).2 } hs
  cases a with
  | error e => exact hbears
  | ok xs =>
    obtain ⟨hok, hadds⟩ := hbears
    exact ⟨hok, hadds.context, hadds.violations, hadds.entries⟩

theorem Judges.below {name : String} (hc : c.pending = none) (h : Judges x (c.push name) a) :
    Judges (below name x) c a := by
  rintro s rfl
  have hx := h (s.push name) rfl
  cases a with
  | error e => exact hx
  | ok xs =>
    obtain ⟨hr, hadds⟩ := hx
    refine ⟨hr, ?_, hadds.violations, hadds.entries⟩
    show (x (s.push name)).2.context.pop = s.context
    rw [hadds.context]
    exact (Context.pop_push ..).trans (by rw [← hc])

end Call

/-! ## The verdicts of checks -/

/-- The verdict of a routine on a value, asked for a declaration. -/
def Routine.verdict (routine : Routine) (context : Context) (leaf? : Option Bean)
    (declaration : Nat) (c : Constraint) (value : Value) : Verdict :=
  match routine.check value c context with
  | .ok true => .ok []
  | .ok false => .ok [.of context leaf? declaration c value]
  | .error e => .error (.evaluation c.kind context.path e)

/-- What a routine finds it finds where it is asked. -/
theorem Routine.eq_of_mem_verdict {routine : Routine} {context : Context} {leaf? : Option Bean}
    {declaration : Nat} {c : Constraint} {value : Value} {x : Violation}
    (h : x ∈ (routine.verdict context leaf? declaration c value).found) :
    x = .of context leaf? declaration c value := by
  simp only [verdict] at h
  split at h
  · cases h
  · exact List.mem_singleton.1 h
  · cases h

theorem Call.judges_judge {c : Context} {leaf? : Option Bean} {routine : Routine}
    {declaration : Nat} {constraint : Constraint} {value : Value} :
    Judges (judge leaf? routine declaration constraint value) c
      (routine.verdict c leaf? declaration constraint value) := by
  rintro s rfl
  rw [judge_apply]
  unfold Routine.verdict
  have called : s.Adds [] (s.record (called s routine declaration constraint value)) :=
    .record rfl s
  cases routine.check value constraint s.context with
  | error e => rfl
  | ok valid =>
    cases valid with
    | true => exact ⟨rfl, called⟩
    | false =>
      let note : Event := .logged (.violated s.context.path constraint.kind)
      have logged := called.trans (.record (e := note) rfl _)
      exact ⟨rfl, logged.context, congrArg (ViolationSet.insert · _) logged.violations,
        logged.entries⟩

namespace Validator

variable (v : Validator) (heap : Heap)

/-- The routines that are asked about a value of a property, in order, each with the declaration it
is asked for. -/
def askings (groups : List Group) (p : Property) (value : Value) :
    List (Routine × Nat × Constraint) :=
  (p.kinds groups).flatMap fun kind =>
    match v.routines.find? kind (value.runtimeType?.getD p.declaredType) with
    | none => []
    | some routine => (p.ofKind kind groups).map (routine, ·)

/-- The verdict on a value of a property. -/
def verdict (context : Context) (leaf? : Option Bean) (p : Property) (value : Value) : Verdict :=
  .all ((v.askings context.groups p value).map fun (routine, declaration, c) =>
    routine.verdict context leaf? declaration c value)

/-- The verdict on the value of a property, or on what it wraps. -/
def propertyVerdict (context : Context) (leaf? : Option Bean) (p : Property) (w : Value) :
    Verdict :=
  .all ((v.subjects heap p w).map (v.verdict (context.push p.name) leaf? p))

variable {v heap}

/-- The routines that are asked about a value for the declarations of one kind. -/
def asked (v : Validator) (groups : List Group) (p : Property) (u : Value) (kind : ConstraintKind) :
    List (Routine × Nat × Constraint) :=
  match v.routines.find? kind (u.runtimeType?.getD p.declaredType) with
  | none => []
  | some routine => (p.ofKind kind groups).map (routine, ·)

theorem askings_eq (groups : List Group) (p : Property) (u : Value) :
    v.askings groups p u = (p.kinds groups).flatMap (v.asked groups p u) := rfl

theorem mem_asked {groups : List Group} {p : Property} {value : Value} {kind : ConstraintKind}
    {routine : Routine} {declaration : Nat} {c : Constraint} :
    (routine, declaration, c) ∈ v.asked groups p value kind ↔
      v.Applies groups p value routine declaration c ∧ c.kind = kind := by
  unfold asked Applies
  constructor
  · intro h
    split at h
    · cases h
    · rename_i routine' hroutine
      obtain ⟨d, hd, hpair⟩ := List.mem_map.1 h
      cases hpair
      obtain ⟨happlicable, rfl⟩ := Property.mem_ofKind.1 hd
      exact ⟨⟨happlicable, hroutine⟩, rfl⟩
  · rintro ⟨⟨happlicable, hroutine⟩, rfl⟩
    rw [hroutine]
    exact List.mem_map_of_mem (Property.mem_ofKind.2 ⟨happlicable, rfl⟩)

theorem mem_askings {groups : List Group} {p : Property} {value : Value} {routine : Routine}
    {declaration : Nat} {c : Constraint} :
    (routine, declaration, c) ∈ v.askings groups p value ↔
      v.Applies groups p value routine declaration c := by
  rw [askings_eq, List.mem_flatMap]
  constructor
  · rintro ⟨kind, -, h⟩
    exact (mem_asked.1 h).1
  · intro happlies
    exact ⟨c.kind, Property.mem_kinds.2 ⟨_, happlies.1, rfl⟩, mem_asked.2 ⟨happlies, rfl⟩⟩

theorem judges_checkValue {c : Context} {leaf? : Option Bean} {p : Property} {value : Value} :
    Judges (v.checkValue leaf? p value) c (v.verdict c leaf? p value) := by
  rintro s rfl
  rw [checkValue, bind_apply, context_apply, verdict, askings, List.map_flatMap,
    Verdict.all_flatMap]
  refine judges_forM (fun kind _ => ?_) s rfl
  cases v.routines.find? kind (value.runtimeType?.getD p.declaredType) with
  | none =>
    rintro t ht
    dsimp only
    rw [bind_apply, context_apply]
    exact judges_record (e := .logged (.noRoutine ..)) rfl t ht
  | some routine =>
    rw [List.map_map]
    exact judges_forM fun _ _ => judges_judge

theorem judges_checkProperty {c : Context} (hc : c.pending = none) (leaf? : Option Bean)
    (p : Property) (w : Value) :
    Judges (v.checkProperty heap leaf? p w) c (v.propertyVerdict heap c leaf? p w) := by
  refine Judges.below hc ?_
  unfold propertyVerdict subjects
  cases v.unwrapFor? p w with
  | none =>
    rw [List.map_singleton, Verdict.all_cons, Verdict.all_nil, Verdict.andThen_nothing]
    exact judges_checkValue
  | some unwrap =>
    rw [List.map_map]
    dsimp only
    rw [Extractor.feed_eq_forM]
    exact judges_forM fun _ _ => judges_checkValue

end Validator

end BeanGraph
