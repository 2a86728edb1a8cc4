import BeanGraph.Proofs.Guard
import BeanGraph.Proofs.Performing

/-!
# Runs are tours

With stable getters, and with routines that do not look at the context, a run of the traversal is a
tour, and a tour is what the traversal runs through.  It is the same tour for all groups, as long as
nothing fails.

* `Tour.performs`: the traversal makes any tour of its errands that says how it ends;
* `visitGuarded_accounts`: whatever a visit comes to, it made such a tour;
* `validateGuarded_of_journey`, `journey_of_validateGuarded`: the same for validations.
-/

namespace BeanGraph

open Call

/-- The beans that a validation entered and the paths at which it did, in order. -/
def Report.entries (report : Report) : List (Bean × Path) :=
  report.events.toList.filterMap Event.entry?

namespace Validator

variable {v : Validator} {heap : Heap} {root : Bean} {groups : List Group}
variable {s t : Progress} {path : Path} {visited visited' : List Bean} {stages stages' : List Stage}
  {left? : Option (List Bean)} {x y : Walk Unit} {done : Outcome Unit}
  {allowed allowed' : List Stage → Option (List Bean) → Prop}

/-! ## What the parts of a traversal perform -/

theorem performs_pure : v.Performs root groups (pure ()) path visited [] (some visited) := by
  rintro s hs -
  exact ⟨_, rfl, (completes_of_ok rfl).2
    ⟨rfl, _, rfl, by rw [hs]; rfl, rfl, (List.append_nil _).symm⟩⟩

theorem performs_entered (b : Bean) :
    v.Performs root groups (Walk.ofStep (record (.entered b path))) path visited [.entry b path]
      (some visited) := by
  rintro s hs -
  refine ⟨_, rfl, (completes_of_ok rfl).2 ⟨rfl, _, rfl, ?_, rfl, ?_⟩⟩
  · show s.context = _
    rw [hs]
    rfl
  · exact Progress.entries_record ..

theorem performs_visit (t : Bean) :
    v.Performs root groups (Walk.ofStep (changeContext (·.visit t))) path visited []
      (some (visited.insert t)) := by
  rintro s hs -
  refine ⟨_, rfl, (completes_of_ok rfl).2 ⟨rfl, _, rfl, ?_, rfl, (List.append_nil _).symm⟩⟩
  show s.context.visit t = _
  rw [hs, Context.visit_during]
  rfl

theorem performs_of_judges {step : Step Unit} {xs : List Inspection}
    (h : Judges step (.during root groups path visited)
      (.all (xs.map (v.inspect root groups)))) :
    v.Performs root groups (Walk.ofStep step) path visited (xs.map .inspection)
      (some visited) := by
  rintro s hs -
  have hbears := h s hs
  have hsum : v.verdicts root groups (xs.map .inspection) =
      .all (xs.map (v.inspect root groups)) := by
    rw [verdicts, Stage.inspections_map_inspection]
  refine ⟨_, rfl, ?_⟩
  cases hverdict : Verdict.all (xs.map (v.inspect root groups)) with
  | error e =>
    rw [hverdict] at hbears
    exact (completes_of_error (hsum.trans hverdict)).2 hbears
  | ok found =>
    rw [hverdict] at hbears
    obtain ⟨hok, hadds⟩ := hbears
    refine (completes_of_ok (hsum.trans hverdict)).2 ⟨hok, visited, rfl, ?_⟩
    have hmoves := hadds.moves
    rw [hs] at hmoves
    rwa [Stage.entries_map_inspection]

theorem Stable.read_eq (stable : v.Stable) {i : Introspection} {b : Bean} {p : Property}
    (hi : v.introspection? b.type = some i) (hp : p ∈ i.properties) (n : Nat) :
    (i.read p heap b n).1 = i.get p heap b := by
  have hw : v.Reads heap b p (i.read p heap b n).1 := ⟨i, hi, hp, n, rfl⟩
  obtain ⟨j, hj, -, h⟩ := hw.eq_get stable
  obtain rfl := Option.some.inj (hi.symm.trans hj)
  exact h

theorem performs_checkValue (plain : v.Plain) (x : Inspection) :
    v.Performs root groups (Walk.ofStep (v.checkValue (some x.leaf) x.property x.value)) x.path
      visited [.inspection x] (some visited) := by
  have hjudges : Judges (v.checkValue (some x.leaf) x.property x.value)
      (.during root groups x.path visited) (.all ([x].map (v.inspect root groups))) := by
    rw [List.map_singleton, Verdict.all_cons, Verdict.all_nil, Verdict.andThen_nothing,
      ← verdict_during plain visited]
    exact judges_checkValue
  exact performs_of_judges hjudges

theorem propertyVerdict_during (plain : v.Plain) (b : Bean) (p : Property) (w : Value) :
    v.propertyVerdict heap (.during root groups path visited) (some b) p w =
      .all ((v.propertyInspections heap b path p w).map (v.inspect root groups)) := by
  have hverdict : v.verdict ((Context.during root groups path visited).push p.name) (some b) p =
      fun u => v.inspect root groups ⟨b, p, path.below p none, u⟩ :=
    funext fun u => verdict_during plain visited ⟨b, p, path.below p none, u⟩
  rw [propertyVerdict, hverdict, propertyInspections, List.map_map]
  rfl

theorem judges_property (plain : v.Plain) (b : Bean) (p : Property) (w : Value) :
    Judges (v.checkProperty heap (some b) p w) (.during root groups path visited)
      (.all ((v.propertyInspections heap b path p w).map (v.inspect root groups))) := by
  rw [← propertyVerdict_during plain]
  exact judges_checkProperty rfl (some b) p w

theorem performs_checkBean (plain : v.Plain) (stable : v.Stable) {i : Introspection} {b : Bean}
    (hi : v.introspection? b.type = some i) :
    v.Performs root groups (Walk.ofStep (v.checkBean heap i b)) path visited
      ((v.ownInspections heap i b path).map .inspection) (some visited) := by
  refine performs_of_judges ?_
  rw [ownInspections, List.map_flatMap, Verdict.all_flatMap]
  exact judges_forM fun p hp => .read (stable.read_eq hi (List.mem_filter.1 hp).1)
    (judges_property plain b p _)

/-! ## What an approach performs -/

/-- Goes into what has been looked up for a target. -/
def entering (v : Validator) (visitBelow : Introspection → Bean → Walk Unit) (leaf : Bean)
    (p : Property) (value : Value) : Option (Bean × Introspection) → Walk Unit
  | none => Walk.ofStep (v.checkValue (some leaf) p value)
  | some (b, i) => do
    changeContext (·.visit b)
    unless i.isUnconstrained do visitBelow i b

/-- Goes into a target if the resolver permits it, below the node of the property. -/
def descent (v : Validator) (visitBelow : Introspection → Bean → Walk Unit) (leaf : Bean)
    (p : Property) (element? : Option Element) (value : Value) : Walk Unit := do
  if ← v.permits value (.of element?) then v.enter visitBelow leaf p value

variable {guarded : Bool} {visitBelow : Introspection → Bean → Walk Unit} {b : Bean} {p : Property}
  {element? : Option Element} {u : Value}

theorem query_adds (question : Question) (target : Target) (s : Progress) :
    s.Adds [] (v.query question target s).2 := .record rfl s

theorem allows_ends (target : Target) (s : Progress) :
    ∃ allowed t, v.allows target s = (.ok allowed, t) ∧ s.Adds [] t ∧
      (allowed = true ↔
        v.resolver.isCascadable target = true ∧ v.resolver.isReachable target = true) := by
  rw [allows, Call.bind_apply, query_apply]
  dsimp only
  have asked : s.Adds [] _ := query_adds (v := v) .isCascadable target s
  by_cases hcascadable : v.resolver.answer .isCascadable target = true
  · rw [if_pos hcascadable]
    exact ⟨_, _, rfl, asked.trans (query_adds (v := v) .isReachable target _),
      fun h => ⟨hcascadable, h⟩, fun h => h.2⟩
  · rw [if_neg hcascadable]
    exact ⟨false, _, rfl, asked, iff_of_false Bool.false_ne_true fun h => hcascadable h.1⟩

theorem permits_ends (u : Value) (elementType : ElementType) (s : Progress) :
    ∃ allowed t, v.permits u elementType s = (.ok allowed, t) ∧ s.Adds [] t ∧
      (allowed = true ↔ v.Permits s.context u elementType) := by
  rw [permits, Call.bind_apply, context_apply]
  dsimp only
  cases htarget : s.context.target? u elementType with
  | none => exact ⟨true, s, rfl, .refl s, fun _ _ h => by simp [htarget] at h, fun _ => rfl⟩
  | some target =>
    obtain ⟨allowed, t, hallows, hadds, hallowed⟩ := allows_ends (v := v) target s
    have permits_iff : v.Permits s.context u elementType ↔
        v.resolver.isCascadable target = true ∧ v.resolver.isReachable target = true := by
      simp only [Permits, htarget, Option.some.injEq, forall_eq']
    rw [permits_iff]
    dsimp only
    rw [Call.bind_apply, hallows]
    cases allowed with
    | true => exact ⟨true, t, rfl, hadds, hallowed⟩
    | false => exact ⟨false, _, rfl, hadds.trans (.record rfl t), hallowed⟩

theorem lookUp_ends (u : Value) (s : Progress) :
    ∃ t, v.lookUp u s = (.ok (v.toEnter? u), t) ∧ s.Adds [] t := by
  unfold lookUp
  cases u.bean? with
  | none => exact ⟨s, rfl, .refl s⟩
  | some t => exact ⟨_, rfl, .record rfl s⟩

theorem defers_descent_of_not_admits (h : ¬ v.Admits root path u element?) :
    Defers root groups path visited (v.descent visitBelow b p element? u) (pure ()) := by
  intro s hs
  obtain ⟨allowed, t, hpermits, hadds, hallowed⟩ := permits_ends (v := v) u (.of element?) s
  rw [hs] at hallowed
  cases allowed with
  | true => exact absurd (hallowed.1 rfl) h
  | false =>
    exact ⟨t, hadds, Walk.ofStep_bind_apply hpermits⟩

theorem defers_descent (h : v.Admits root path u element?) :
    Defers root groups path visited (v.descent visitBelow b p element? u)
      (v.entering visitBelow b p u (v.toEnter? u)) := by
  intro s hs
  obtain ⟨allowed, t, hpermits, hadds, hallowed⟩ := permits_ends (v := v) u (.of element?) s
  obtain ⟨t', hlookUp, hadds'⟩ := lookUp_ends (v := v) u t
  rw [hs] at hallowed
  obtain rfl : allowed = true := hallowed.2 h
  refine ⟨t', hadds.trans hadds', ?_⟩
  have permitted : v.descent visitBelow b p element? u s = v.enter visitBelow b p u t :=
    Walk.ofStep_bind_apply hpermits
  have found : v.enter visitBelow b p u t = v.entering visitBelow b p u (v.toEnter? u) t' :=
    Walk.ofStep_bind_apply hlookUp
  rw [permitted, found]

theorem approach_of_fresh (fresh : ¬ Skips guarded s.context.visited u) :
    v.approach guarded visitBelow b p element? u s =
      (fun done => (done.1, done.2.pop)) <$>
        v.descent visitBelow b p element? u (s.hop ⟨p.name, element?⟩) := by
  have hguard : ¬ (guarded && s.context.hasVisitedValue u) = true := by
    rw [Bool.and_eq_true, Context.hasVisitedValue_eq_true]
    exact fresh
  rw [approach_apply, if_neg hguard]
  rfl

theorem performs_skip (skipped : Skips guarded visited u) :
    v.Performs root groups (v.approach guarded visitBelow b p element? u) path visited []
      (some visited) := by
  refine .of_defers (fun s hs => ?_) performs_pure
  have hguard : (guarded && s.context.hasVisitedValue u) = true := by
    rw [Bool.and_eq_true, Context.hasVisitedValue_eq_true, hs]
    exact skipped
  rw [approach_apply, if_pos hguard]
  exact ⟨_, .record rfl s, rfl⟩

theorem context_hop_during (hs : s.context = .during root groups path visited) (p : Property)
    (element? : Option Element) : s.context.pending = none ∧
      (s.hop ⟨p.name, element?⟩).context = .during root groups (path.below p element?) visited := by
  have hpending : s.context.pending = none := by
    rw [hs]
    rfl
  refine ⟨hpending, ?_⟩
  rw [Progress.context_hop hpending, hs]
  rfl

theorem Performs.approach (fresh : ¬ Skips guarded visited u)
    (h : v.Performs root groups (v.descent visitBelow b p element? u) (path.below p element?)
      visited stages left?) :
    v.Performs root groups (v.approach guarded visitBelow b p element? u) path visited stages
      left? := by
  intro s hs decided
  obtain ⟨hpending, hhop⟩ := context_hop_during hs p element?
  obtain ⟨done, hdone, hcompletes⟩ := h _ hhop decided
  refine ⟨(done.1, done.2.pop), ?_, hcompletes.pop hpending⟩
  rw [approach_of_fresh (by rwa [hs]), hdone]
  rfl

theorem Accounts.approach (fresh : ¬ Skips guarded visited u)
    (h : v.Accounts root groups (v.descent visitBelow b p element? u) (path.below p element?)
      visited allowed) :
    v.Accounts root groups (v.approach guarded visitBelow b p element? u) path visited
      allowed := by
  intro s done hs hdone
  obtain ⟨hpending, hhop⟩ := context_hop_during hs p element?
  rw [approach_of_fresh (by rwa [hs])] at hdone
  obtain ⟨done', hdone', rfl⟩ := Option.map_eq_some_iff.1 hdone
  obtain ⟨stages, left?, hallowed, hcompletes⟩ := h _ done' hhop hdone'
  exact ⟨stages, left?, hallowed, hcompletes.pop hpending⟩

theorem performs_veto (fresh : ¬ Skips guarded visited u)
    (vetoed : ¬ v.Admits root (path.below p element?) u element?) :
    v.Performs root groups (v.approach guarded visitBelow b p element? u) path visited []
      (some visited) :=
  .approach fresh (.of_defers (defers_descent_of_not_admits vetoed) performs_pure)

theorem performs_look (plain : v.Plain) (fresh : ¬ Skips guarded visited u)
    (admitted : v.Admits root (path.below p element?) u element?) (hu : v.toEnter? u = none) :
    v.Performs root groups (v.approach guarded visitBelow b p element? u) path visited
      [.inspection ⟨b, p, path.below p element?, u⟩] (some visited) := by
  refine .approach fresh (.of_defers (defers_descent admitted) ?_)
  rw [hu]
  exact performs_checkValue plain ⟨b, p, path.below p element?, u⟩

theorem performs_mark {t : Bean} {i : Introspection} (fresh : ¬ Skips guarded visited u)
    (admitted : v.Admits root (path.below p element?) u element?)
    (hu : v.toEnter? u = some (t, i)) (hi : i.isUnconstrained = true) :
    v.Performs root groups (v.approach guarded visitBelow b p element? u) path visited []
      (some (visited.insert t)) := by
  refine .approach fresh (.of_defers (defers_descent admitted) ?_)
  rw [hu, entering, hi]
  exact (performs_visit t).bind performs_pure

theorem Performs.enter {t : Bean} {i : Introspection} (fresh : ¬ Skips guarded visited u)
    (admitted : v.Admits root (path.below p element?) u element?)
    (hu : v.toEnter? u = some (t, i)) (hi : i.isUnconstrained = false)
    (h : v.Performs root groups (visitBelow i t) (path.below p element?) (visited.insert t) stages
      left?) :
    v.Performs root groups (v.approach guarded visitBelow b p element? u) path visited stages
      left? := by
  refine .approach fresh (.of_defers (defers_descent admitted) ?_)
  rw [hu, entering, hi]
  exact (performs_visit t).bind h

theorem Accounts.enter {t : Bean} {i : Introspection} (fresh : ¬ Skips guarded visited u)
    (admitted : v.Admits root (path.below p element?) u element?)
    (hu : v.toEnter? u = some (t, i)) (hi : i.isUnconstrained = false)
    (h : v.Accounts root groups (visitBelow i t) (path.below p element?) (visited.insert t)
      allowed) :
    v.Accounts root groups (v.approach guarded visitBelow b p element? u) path visited
      allowed := by
  refine .approach fresh (.of_defers (defers_descent admitted) ?_)
  rw [hu, entering, hi]
  exact (performs_visit t).bind_accounts h fun e he => nomatch he

/-! ## Visits and tours -/

/-- Does an errand at a bean. -/
def errand (v : Validator) (heap : Heap) (guarded : Bool)
    (visitBelow : Introspection → Bean → Walk Unit) (i : Introspection) (b : Bean) :
    Errand → Walk Unit
  | .read p => do
    (v.held heap (← Call.read heap i p b)).forM fun (element?, u) =>
      v.approach guarded visitBelow b p element? u
  | .approach p element? u => v.approach guarded visitBelow b p element? u

theorem visitGuardedBy_eq (i : Introspection) (b : Bean) :
    v.visitGuardedBy heap guarded visitBelow i b = (do
      record (.entered b (← context).path)
      v.checkBean heap i b
      i.errands.forM (v.errand heap guarded visitBelow i b)) := by
  rw [Introspection.errands, List.forM_eq_forM, List.forM_map]
  rfl

theorem forM_approaches (i : Introspection) (b : Bean) (p : Property) (w : Value) :
    (v.approaches heap p w).forM (v.errand heap guarded visitBelow i b) =
      (v.held heap w).forM fun (element?, u) => v.approach guarded visitBelow b p element? u := by
  rw [approaches, List.forM_eq_forM, List.forM_map]
  rfl

/-- With stable getters, reading a property comes to approaching the targets in its value. -/
theorem defers_read (stable : v.Stable) {i : Introspection} {b : Bean}
    (hi : v.introspection? b.type = some i) {p : Property} (hp : p ∈ i.cascading)
    (f : Walk Unit) :
    Defers root groups path visited
      (v.errand heap guarded visitBelow i b (.read p) >>= fun _ => f)
      ((v.approaches heap p (i.get p heap b)).forM (v.errand heap guarded visitBelow i b) >>=
        fun _ => f) := by
  intro s hs
  refine ⟨{ s with copies := (i.read p heap b s.copies).2 }, ⟨rfl, rfl, rfl⟩, ?_⟩
  have hread : Call.read heap i p b s =
      (.ok (i.get p heap b), { s with copies := (i.read p heap b s.copies).2 }) := by
    rw [read_apply, stable.read_eq hi (List.mem_filter.1 hp).1]
  rw [forM_approaches, errand, bind_assoc]
  exact Walk.ofStep_bind_apply hread

theorem defers_entered (i : Introspection) (b : Bean) :
    Defers root groups path visited (v.visitGuardedBy heap guarded visitBelow i b) (do
      record (.entered b path)
      v.checkBean heap i b
      i.errands.forM (v.errand heap guarded visitBelow i b)) := by
  intro s hs
  refine ⟨s, .refl s, ?_⟩
  rw [visitGuardedBy_eq]
  refine (Walk.ofStep_bind_apply (context_apply s)).trans ?_
  rw [hs]
  rfl

/-- A visit performs the arrival at its bean and a tour of its errands. -/
theorem performs_visitGuardedBy (plain : v.Plain) (stable : v.Stable) {i : Introspection}
    (hi : v.introspection? b.type = some i)
    (h : v.Performs root groups (i.errands.forM (v.errand heap guarded visitBelow i b)) path visited
      stages left?) :
    v.Performs root groups (v.visitGuardedBy heap guarded visitBelow i b) path visited
      (v.arrival heap i b path ++ stages) left? :=
  .of_defers (defers_entered i b)
    ((performs_entered b).bind ((performs_checkBean plain stable hi).bind h))

theorem Tour.performs (plain : v.Plain) (stable : v.Stable) {errands : List Errand}
    (h : v.Tour heap guarded root b path errands visited stages left?) {i : Introspection}
    (hi : v.introspection? b.type = some i) :
    v.Performs root groups
      (errands.forM (v.errand heap guarded (v.visitGuarded heap guarded) i b)) path visited stages
      left? := by
  induction h generalizing i with
  | done => exact performs_pure
  | halt => exact performs_halt
  | read hj hp _ ih =>
    obtain rfl := Option.some.inj (hi.symm.trans hj)
    have hperforms := ih hi
    rw [List.forM_eq_forM, List.forM_append] at hperforms
    exact .of_defers (defers_read stable hi hp _) hperforms
  | skip skipped _ ih => exact (performs_skip skipped).bind (ih hi)
  | veto fresh vetoed _ ih => exact (performs_veto fresh vetoed).bind (ih hi)
  | look fresh admitted hu _ ih => exact (performs_look plain fresh admitted hu).bind (ih hi)
  | mark fresh admitted hu hunconstrained _ ih =>
    exact (performs_mark fresh admitted hu hunconstrained).bind (ih hi)
  | enter fresh admitted hu hconstrained _ _ ih ih' =>
    have ht := (toEnter?_eq_some.1 hu).2
    have hvisit := performs_visitGuardedBy plain stable ht (ih ht)
    rw [← visitGuarded_eq] at hvisit
    exact (Performs.enter fresh admitted hu hconstrained hvisit).bind (ih' hi)
  | within fresh admitted hu hconstrained _ ih =>
    have ht := (toEnter?_eq_some.1 hu).2
    have hvisit := performs_visitGuardedBy plain stable ht (ih ht)
    rw [← visitGuarded_eq] at hvisit
    exact (Performs.enter fresh admitted hu hconstrained hvisit).bind_none

/-- An arrival at a bean and a tour of its errands. -/
def Journey (v : Validator) (heap : Heap) (guarded : Bool) (root : Bean) (i : Introspection)
    (b : Bean) (path : Path) (visited : List Bean) (stages : List Stage)
    (left? : Option (List Bean)) : Prop :=
  ∃ stages', stages = v.arrival heap i b path ++ stages' ∧
    v.Tour heap guarded root b path i.errands visited stages' left?

section Accounts

variable (plain : v.Plain) (stable : v.Stable)
  (visits : ∀ i t, v.introspection? t.type = some i → ∀ path visited,
    v.Accounts root groups (visitBelow i t) path visited
      (v.Journey heap guarded root i t path visited))
include plain visits

theorem approach_accounts (b : Bean) (p : Property) (element? : Option Element) (u : Value) :
    v.Accounts root groups (v.approach guarded visitBelow b p element? u) path visited
      (v.Tour heap guarded root b path [.approach p element? u] visited) := by
  by_cases fresh : Skips guarded visited u
  · exact (performs_skip fresh).accounts (.skip fresh .done)
  by_cases admitted : v.Admits root (path.below p element?) u element?
  · cases hu : v.toEnter? u with
    | none => exact (performs_look plain fresh admitted hu).accounts (.look fresh admitted hu .done)
    | some entry =>
      obtain ⟨t, i⟩ := entry
      cases hi : i.isUnconstrained with
      | true =>
        exact (performs_mark fresh admitted hu hi).accounts (.mark fresh admitted hu hi .done)
      | false =>
        have ht := (toEnter?_eq_some.1 hu).2
        refine .enter fresh admitted hu hi ((visits i t ht _ _).mono fun stages left? h => ?_)
        obtain ⟨stages', rfl, htour⟩ := h
        cases left? with
        | none => exact .within fresh admitted hu hi htour
        | some visited' => simpa using Tour.enter fresh admitted hu hi htour .done
  · exact (performs_veto fresh admitted).accounts (.veto fresh admitted .done)

theorem approaches_accounts (i : Introspection) (b : Bean) (p : Property) (w : Value) :
    v.Accounts root groups
      ((v.approaches heap p w).forM (v.errand heap guarded visitBelow i b)) path visited
      (v.Tour heap guarded root b path (v.approaches heap p w) visited) := by
  unfold approaches
  induction v.held heap w generalizing visited with
  | nil => exact performs_pure.accounts .done
  | cons target targets ih =>
    obtain ⟨element?, u⟩ := target
    refine (approach_accounts plain visits b p element? u).bind (fun stages visited' h => ?_) ?_
    · exact ih.mono fun _ _ h' => h.append h'
    · exact fun _ _ _ h _ => h.broken _

include stable

theorem errands_accounts {i : Introspection} {b : Bean} (hi : v.introspection? b.type = some i)
    {ps : List Property} (hps : ∀ p ∈ ps, p ∈ i.cascading) :
    v.Accounts root groups
      ((ps.map Errand.read).forM (v.errand heap guarded visitBelow i b)) path visited
      (v.Tour heap guarded root b path (ps.map .read) visited) := by
  induction ps generalizing visited with
  | nil => exact performs_pure.accounts .done
  | cons p ps ih =>
    obtain ⟨hp, hps⟩ := List.forall_mem_cons.1 hps
    refine .of_defers (defers_read stable hi hp _) ?_
    refine (approaches_accounts plain visits i b p _).bind (fun stages visited' h => ?_) ?_
    · exact (ih hps).mono fun _ _ h' => .read hi hp (h.append h')
    · exact fun _ _ _ h _ => .read hi hp (h.broken _)

theorem visitGuardedBy_accounts {i : Introspection} {b : Bean}
    (hi : v.introspection? b.type = some i) :
    v.Accounts root groups (v.visitGuardedBy heap guarded visitBelow i b) path visited
      (v.Journey heap guarded root i b path visited) := by
  refine .of_defers (defers_entered i b) ?_
  refine (performs_entered b).bind_accounts ?_ fun e he => nomatch he
  refine (performs_checkBean plain stable hi).bind_accounts ?_ fun e _ => ?_
  · exact (errands_accounts plain stable visits hi fun _ => id).mono
      fun stages _ h => ⟨stages, rfl, h⟩
  · exact ⟨[], (List.append_nil _).symm, .halt⟩

end Accounts

/-- Whatever a visit comes to, it arrived at its bean and went through a tour of its errands. -/
theorem visitGuarded_accounts (plain : v.Plain) (stable : v.Stable) {i : Introspection} {b : Bean}
    (hi : v.introspection? b.type = some i) :
    v.Accounts root groups (v.visitGuarded heap guarded i b) path visited
      (v.Journey heap guarded root i b path visited) := by
  intro s done hs hdone
  have key := visitGuarded.partial_correctness v heap guarded
    (fun i b s done => v.introspection? b.type = some i → ∀ path visited,
      s.context = .during root groups path visited → ∃ stages left?,
        v.Journey heap guarded root i b path visited stages left? ∧
        v.Completes root groups stages left? s done)
  refine key (fun visitBelow ih i b s done hdone hi path visited hs => ?_) i b s done hdone hi path
    visited hs
  exact visitGuardedBy_accounts plain stable (fun j t ht path visited s done hs hdone =>
    ih j t s done hdone ht path visited hs) hi s done hs hdone

theorem Journey.performs (plain : v.Plain) (stable : v.Stable) {i : Introspection} {b : Bean}
    (hi : v.introspection? b.type = some i)
    (h : v.Journey heap guarded root i b path visited stages left?) :
    v.Performs root groups (v.visitGuarded heap guarded i b) path visited stages left? := by
  obtain ⟨stages', rfl, htour⟩ := h
  rw [visitGuarded_eq]
  exact performs_visitGuardedBy plain stable hi (htour.performs plain stable hi)

/-- What is inspected on a tour from a bean is inspected of a bean that is entered. -/
theorem Journey.inspected {i : Introspection} {b : Bean} (hi : v.introspection? b.type = some i)
    (h : v.Journey heap guarded root i b path visited stages left?) {x : Inspection}
    (hx : x ∈ Stage.inspections stages) :
    ∃ t j path', (t, path') ∈ Stage.entries stages ∧ v.introspection? t.type = some j ∧
      v.Inspected heap j t path' x := by
  obtain ⟨stages', rfl, htour⟩ := h
  exact inspected_of_arrival hi (fun hx => htour.inspected hi due_read hx) hx

theorem Journey.sited {i : Introspection} {b : Bean} (hi : v.introspection? b.type = some i)
    (h : v.Journey heap guarded root i b path visited stages left?) {x : Inspection}
    (hx : x ∈ Stage.inspections stages) : v.Sited x := by
  obtain ⟨t, j, path', -, hj, hinspected⟩ := h.inspected hi hx
  exact hinspected.sited hj

/-! ## Validations -/

theorem validateGuarded_of_toVisit {object : Value} {i : Introspection}
    (h : v.toVisit? object = some (root, i)) (groups : List Group) (copies : Nat) :
    v.validateGuarded heap guarded object groups copies =
      (v.visitGuarded heap guarded i root (.start root groups copies)).map Report.of := by
  obtain ⟨rfl, hi, hconstrained⟩ := toVisit?_eq_some.1 h
  simp only [validateGuarded, Validator.root, hi, hconstrained]
  rfl

/-- A visit that stops in time is the whole visit, and tells what there is to be told of the report
of a validation. -/
theorem exists_report_of_within {α : Type} {told : Report → α} {a : α} {object : Value}
    {i : Introspection} {copies : Nat} (depth : Nat) (h : v.toVisit? object = some (root, i))
    (hrun : ((v.visitGuardedWithin heap guarded depth i root (.start root groups copies)).map
      fun done => told (.of done)) = some a) :
    ∃ report, v.validateGuarded heap guarded object groups copies = some report ∧
      told report = a := by
  obtain ⟨done, hdone, htold⟩ := Option.map_eq_some_iff.1 hrun
  have hvisit := visitGuardedWithin_le v heap guarded depth i root _ _ hdone
  refine ⟨.of done, ?_, htold⟩
  rw [validateGuarded_of_toVisit h, hvisit]
  rfl

/-- A visit that stops in time is the whole visit, and says what a validation finds. -/
theorem validateGuarded_of_within {object : Value} {i : Introspection} {copies : Nat}
    {items : List Violation} (depth : Nat) (h : v.toVisit? object = some (root, i))
    (hrun : ((v.visitGuardedWithin heap guarded depth i root (.start root groups copies)).map
      fun done => (done.1.toOption, done.2.violations.items)) = some (some (), items)) :
    ∃ report vs, v.validateGuarded heap guarded object groups copies = some report ∧
      report.result = .ok vs ∧ vs.items = items := by
  obtain ⟨⟨r, t⟩, hdone, hitems⟩ := Option.map_eq_some_iff.1 hrun
  obtain ⟨hr, hitems⟩ := Prod.mk.inj hitems
  have hvisit := visitGuardedWithin_le v heap guarded depth i root _ _ hdone
  cases r with
  | error e => cases hr
  | ok _ =>
    refine ⟨.of (.ok (), t), t.violations, ?_, rfl, hitems⟩
    rw [validateGuarded_of_toVisit h, hvisit]
    rfl

/-- With nothing to validate there is no run that the guard, or the groups, could make a difference
to. -/
theorem validateGuarded_of_nothing {object : Value} (h : v.toVisit? object = none) :
    ∃ result events, (∀ vs, result = .ok vs → vs = .empty) ∧
      ((v.toEnter? object).isSome → result = .ok .empty) ∧
      ∀ guarded groups copies, v.validateGuarded heap guarded object groups copies =
        some { result, events, copies } := by
  cases object with
  | bean b =>
    cases hi : v.introspection? b.type with
    | none =>
      refine ⟨.error (.unintrospectable b.type.name),
        #[.lookedUp b.type, .logged (.unknownRoot b.type)], ?_, fun henter => ?_,
        fun guarded groups copies => ?_⟩
      · rintro vs ⟨⟩
      · rw [toEnter?, Value.bean?, Option.bind_some, hi] at henter
        cases henter
      · simp only [validateGuarded, Validator.root, hi]
    | some i =>
      have hunconstrained : i.isUnconstrained = true := by
        rw [← Bool.not_eq_false]
        intro hconstrained
        rw [toVisit?_eq_some.2 ⟨rfl, hi, hconstrained⟩] at h
        cases h
      refine ⟨.ok .empty, #[.lookedUp b.type], fun vs => ?_, fun _ => rfl,
        fun guarded groups copies => ?_⟩
      · rintro ⟨⟩
        rfl
      · simp only [validateGuarded, Validator.root, hi, hunconstrained, if_true]
  | _ => exact ⟨_, _, by rintro vs ⟨⟩, by rintro ⟨⟩, fun _ _ _ => rfl⟩

/-- A report is as the stages of a tour say. -/
structure Tells (v : Validator) (root : Bean) (groups : List Group) (stages : List Stage)
    (report : Report) : Prop where
  result : report.result = (v.verdicts root groups stages).map (ViolationSet.insertAll .empty)
  entries : ∀ vs, report.result = .ok vs → report.entries = Stage.entries stages

theorem Tells.of_ok {report : Report} {vs : ViolationSet} (h : v.Tells root groups stages report)
    (hvs : report.result = .ok vs) :
    (∀ x ∈ Stage.inspections stages, ∃ ys, v.inspect root groups x = .ok ys) ∧
      vs = .insertAll .empty (v.recorded root groups (Stage.inspections stages)) := by
  have hresult := h.result
  rw [hvs] at hresult
  cases hverdict : v.verdicts root groups stages with
  | error e =>
    rw [hverdict] at hresult
    cases hresult
  | ok found =>
    rw [hverdict] at hresult
    obtain ⟨hanswers, rfl⟩ := all_inspect_eq_ok_iff.1 hverdict
    exact ⟨hanswers, Except.ok.inj hresult⟩

theorem Completes.report {copies : Nat}
    (h : v.Completes root groups stages left? (.start root groups copies) done) :
    v.Decided root groups stages left? ∧ v.Tells root groups stages (.of done) := by
  obtain ⟨r, t⟩ := done
  cases hverdict : v.verdicts root groups stages with
  | error e =>
    obtain rfl := (completes_of_error hverdict).1 h
    exact ⟨fun _ => ⟨e, hverdict⟩, by rw [hverdict]; rfl, nofun⟩
  | ok found =>
    obtain ⟨rfl, visited, rfl, hmoves⟩ := (completes_of_ok hverdict).1 h
    refine ⟨nofun, ?_, fun _ _ => hmoves.entries⟩
    rw [hverdict]
    exact congrArg Except.ok hmoves.violations

/-- A validation with an end went through a tour that says what its report is. -/
theorem journey_of_validateGuarded (plain : v.Plain) (stable : v.Stable) {object : Value}
    {i : Introspection} (hobject : v.toVisit? object = some (root, i)) {copies : Nat}
    {report : Report} (h : v.validateGuarded heap guarded object groups copies = some report) :
    ∃ stages left?, v.Journey heap guarded root i root .root [root] stages left? ∧
      v.Decided root groups stages left? ∧ v.Tells root groups stages report := by
  rw [validateGuarded_of_toVisit hobject] at h
  obtain ⟨done, hdone, rfl⟩ := Option.map_eq_some_iff.1 h
  obtain ⟨-, hi, -⟩ := toVisit?_eq_some.1 hobject
  obtain ⟨stages, left?, hjourney, hcompletes⟩ :=
    visitGuarded_accounts plain stable hi (.start root groups copies) done rfl hdone
  exact ⟨stages, left?, hjourney, hcompletes.report⟩

/-- A validation that goes well made its tour to the end, and reports what is visited by then. -/
theorem journey_of_ok (plain : v.Plain) (stable : v.Stable) {object : Value} {i : Introspection}
    (hobject : v.toVisit? object = some (root, i)) {copies : Nat} {report : Report}
    (h : v.validateGuarded heap guarded object groups copies = some report) {vs : ViolationSet}
    (hvs : report.result = .ok vs) :
    ∃ stages, v.Journey heap guarded root i root .root [root] stages (some report.visited) ∧
      v.Tells root groups stages report := by
  rw [validateGuarded_of_toVisit hobject] at h
  obtain ⟨⟨r, t⟩, hdone, rfl⟩ := Option.map_eq_some_iff.1 h
  obtain ⟨-, hi, -⟩ := toVisit?_eq_some.1 hobject
  obtain ⟨stages, left?, hjourney, hcompletes⟩ :=
    visitGuarded_accounts plain stable hi (.start root groups copies) _ rfl hdone
  cases r with
  | error e => cases hvs
  | ok _ =>
    obtain ⟨visited, rfl, hcontext, -⟩ := hcompletes.next
    obtain rfl : t.context.visited = visited := congrArg Context.visited hcontext
    exact ⟨stages, hjourney, hcompletes.report.2⟩

/-- A tour that says how it ends is what a validation goes through. -/
theorem validateGuarded_of_journey (plain : v.Plain) (stable : v.Stable) {object : Value}
    {i : Introspection} (hobject : v.toVisit? object = some (root, i))
    (h : v.Journey heap guarded root i root .root [root] stages left?)
    (decided : v.Decided root groups stages left?) (copies : Nat) :
    ∃ report, v.validateGuarded heap guarded object groups copies = some report ∧
      v.Tells root groups stages report := by
  obtain ⟨-, hi, -⟩ := toVisit?_eq_some.1 hobject
  obtain ⟨done, hdone, hcompletes⟩ :=
    h.performs plain stable hi (.start root groups copies) rfl decided
  refine ⟨.of done, ?_, hcompletes.report.2⟩
  rw [validateGuarded_of_toVisit hobject, hdone]
  rfl

end Validator

end BeanGraph
