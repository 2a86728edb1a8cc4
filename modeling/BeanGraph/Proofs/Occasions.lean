import BeanGraph.Proofs.Outcome
import BeanGraph.Proofs.Touring

/-!
# The occasions of calls

A routine is called for a declared constraint and a value, at a path.  A validation that goes well
calls the routines for all that it inspects, in order: each value that is inspected gives rise to
one call for every declaration that there is a routine for.

* `Yields`: a step that calls no routine and gives a value;
* `Raises`: the calls that a walk makes if it goes well;
* `raises_checkValue`: those of a check are one for each routine to be asked;
* `Tour.raises`, `exists_retraces`: those of a tour, and of a validation, are those of the checks of
  what is inspected.
-/

namespace BeanGraph

open Call

/-- What a routine is called for: which one it is, where, for which declaration and on which
value. -/
structure Occasion where
  routine : String
  path : Path
  declaration : Nat
  constraint : Constraint
  value : Value

/-- The occasion of a call. -/
def RoutineCall.occasion (call : RoutineCall) : Occasion :=
  ⟨call.routine, call.context.path, call.declaration, call.constraint, call.value⟩

/-- The occasions of the calls made so far, in order. -/
def Progress.occasions (s : Progress) : List Occasion := s.calls.map RoutineCall.occasion

/-- The occasions of the calls made by a call, in order. -/
def Report.occasions (report : Report) : List Occasion := report.calls.map RoutineCall.occasion

theorem Progress.occasions_record {e : Event} (h : e.call? = none) (s : Progress) :
    (s.record e).occasions = s.occasions :=
  congrArg (List.map RoutineCall.occasion) (Progress.calls_record_of_none h s)

variable {α β : Type} {c c' c'' : Context}

/-! ## Steps that call no routine -/

namespace Call

/-- A step that is begun in a context gives a value, without a call of a routine and in the same
context. -/
def Yields (x : Step α) (c : Context) (a : α) : Prop :=
  ∀ s : Progress, s.context = c →
    ∃ t, x s = (.ok a, t) ∧ t.context = c ∧ t.occasions = s.occasions

theorem yields_pure (a : α) : Yields (pure a) c a := fun s hs => ⟨s, rfl, hs, rfl⟩

theorem yields_context : Yields context c c := by
  rintro s rfl
  exact ⟨s, rfl, rfl, rfl⟩

theorem yields_record {e : Event} (h : e.call? = none) : Yields (record e) c () :=
  fun s hs => ⟨_, rfl, hs, s.occasions_record h⟩

/-- A value that reads the same every time can be told beforehand. -/
theorem yields_read {heap : Heap} {i : Introspection} {p : Property} {b : Bean} {w : Value}
    (hw : ∀ n, (i.read p heap b n).1 = w) : Yields (read heap i p b) c w :=
  fun s hs => ⟨{ s with copies := (i.read p heap b s.copies).2 }, by rw [read_apply, hw], hs, rfl⟩

theorem Yields.bind {x : Step α} {f : α → Step β} {a : α} {b : β} (hx : Yields x c a)
    (hf : Yields (f a) c b) : Yields (x >>= f) c b := by
  intro s hs
  obtain ⟨t, hxs, ht, hcalls⟩ := hx s hs
  obtain ⟨u, hft, hu, hcalls'⟩ := hf t ht
  refine ⟨u, ?_, hu, hcalls'.trans hcalls⟩
  rw [bind_apply, hxs]
  exact hft

end Call

/-! ## Walks and the calls that they make -/

namespace Walk

/-- A walk that is begun in a context and goes well makes calls on these occasions, and ends in that
context. -/
def Raises (x : Walk Unit) (c c' : Context) (os : List Occasion) : Prop :=
  ∀ s t : Progress, s.context = c → x s = some (.ok (), t) →
    t.context = c' ∧ t.occasions = s.occasions ++ os

variable {x y : Walk Unit} {os os' : List Occasion}

theorem raises_pure : Raises (pure ()) c c [] := by
  rintro s t hs ⟨⟩
  exact ⟨hs, (List.append_nil _).symm⟩

theorem Raises.bind (hx : Raises x c c' os) (hy : Raises y c' c'' os') :
    Raises (x >>= fun _ => y) c c'' (os ++ os') := by
  intro s t hs h
  rw [bind_apply] at h
  rcases hdone : x s with _ | ⟨e | _, u⟩
  · rw [hdone] at h
    cases h
  · rw [hdone] at h
    cases h
  · rw [hdone] at h
    obtain ⟨hu, hos⟩ := hx s u hs hdone
    obtain ⟨ht, hos'⟩ := hy u t hu h
    exact ⟨ht, by rw [hos', hos, List.append_assoc]⟩

theorem raises_forM {f : α → Walk Unit} {raised : α → List Occasion} {l : List α}
    (h : ∀ a ∈ l, Raises (f a) c c (raised a)) : Raises (l.forM f) c c (l.flatMap raised) := by
  induction l with
  | nil => exact raises_pure
  | cons a l ih =>
    exact (h a List.mem_cons_self).bind (ih fun b hb => h b (List.mem_cons_of_mem _ hb))

/-- A step that calls no routine passes its value on. -/
theorem Raises.after {step : Step α} {f : α → Walk Unit} {a : α} (hstep : Yields step c a)
    (hf : Raises (f a) c c' os) : Raises (ofStep step >>= f) c c' os := by
  intro s t hs h
  obtain ⟨u, hu, hcontext, hcalls⟩ := hstep s hs
  rw [ofStep_bind_apply hu] at h
  obtain ⟨ht, hos⟩ := hf u t hcontext h
  exact ⟨ht, by rw [hos, hcalls]⟩

theorem raises_of_yields {step : Step Unit} (h : Yields step c ()) :
    Raises (ofStep step) c c [] := by
  intro s t hs hdone
  obtain ⟨u, hu, hcontext, hcalls⟩ := h s hs
  rw [ofStep_apply, hu] at hdone
  cases hdone
  exact ⟨hcontext, hcalls.trans (List.append_nil _).symm⟩

theorem Raises.below {name : String} (hc : c.pending = none)
    (h : Raises x (c.push name) (c.push name) os) : Raises (below name x) c c os := by
  rintro s t rfl hdone
  obtain ⟨⟨r, u⟩, hx, hu⟩ := Option.map_eq_some_iff.1 hdone
  obtain ⟨rfl, rfl⟩ := Prod.mk.inj hu
  obtain ⟨hcontext, hos⟩ := h _ u rfl hx
  refine ⟨?_, hos⟩
  show u.context.pop = s.context
  rw [hcontext]
  exact (Context.pop_push ..).trans (by rw [← hc])

theorem raises_judge {leaf? : Option Bean} {routine : Routine} {declaration : Nat}
    {constraint : Constraint} {value : Value} :
    Raises (ofStep (judge leaf? routine declaration constraint value)) c c
      [⟨routine.name, c.path, declaration, constraint, value⟩] := by
  rintro s t rfl hdone
  obtain rfl : (judge leaf? routine declaration constraint value s).2 = t :=
    congrArg Prod.snd (Option.some.inj hdone)
  refine ⟨context_judge .., ?_⟩
  rw [Progress.occasions, calls_judge, List.map_append]
  rfl

end Walk

namespace Validator

open Walk

variable {v : Validator} {heap : Heap} {guarded : Bool} {root b t : Bean} {groups : List Group}
  {i : Introspection} {p : Property} {path : Path} {element? : Option Element} {u w : Value}
  {errands : List Errand} {visited visited' : List Bean} {stages : List Stage}
  {visitBelow : Introspection → Bean → Walk Unit} {os : List Occasion}

/-! ## The calls of checks -/

/-- The occasions on which routines are called to check a value. -/
def occasions (v : Validator) (groups : List Group) (path : Path) (p : Property) (value : Value) :
    List Occasion :=
  (v.askings groups p value).map fun (routine, declaration, c) =>
    ⟨routine.name, path, declaration, c, value⟩

/-- The occasions that an inspection gives rise to. -/
def raised (v : Validator) (groups : List Group) (x : Inspection) : List Occasion :=
  v.occasions groups x.path x.property x.value

theorem raises_checkValue {leaf? : Option Bean} {value : Value} :
    Raises (ofStep (v.checkValue leaf? p value)) c c (v.occasions c.groups c.path p value) := by
  rw [checkValue, ofStep_bind, occasions, askings, List.map_flatMap]
  refine .after yields_context ?_
  dsimp only
  rw [ofStep_forM]
  refine raises_forM fun kind _ => ?_
  cases v.routines.find? kind (value.runtimeType?.getD p.declaredType) with
  | none =>
    dsimp only
    rw [ofStep_bind]
    exact .after yields_context (raises_of_yields (yields_record rfl))
  | some routine =>
    dsimp only
    rw [ofStep_forM, List.map_map, List.map_eq_flatMap]
    exact raises_forM fun _ _ => raises_judge

theorem raises_checkProperty :
    Raises (ofStep (v.checkProperty heap (some b) p w)) (.during root groups path visited)
      (.during root groups path visited)
      ((v.propertyInspections heap b path p w).flatMap (v.raised groups)) := by
  have check (u : Value) : Raises (ofStep (v.checkValue (some b) p u))
      (.during root groups (path.below p none) visited)
      (.during root groups (path.below p none) visited)
      (v.raised groups ⟨b, p, path.below p none, u⟩) := raises_checkValue
  rw [checkProperty, ofStep_below]
  refine Raises.below rfl ?_
  rw [propertyInspections, List.flatMap_map, subjects]
  cases v.unwrapFor? p w with
  | none =>
    rw [List.flatMap_singleton]
    exact check w
  | some unwrap =>
    dsimp only
    rw [ofStep_feed, List.flatMap_map]
    exact raises_forM fun e _ => check e.value

theorem raises_checkBean (stable : v.Stable) (hi : v.introspection? b.type = some i) :
    Raises (ofStep (v.checkBean heap i b)) (.during root groups path visited)
      (.during root groups path visited)
      ((v.ownInspections heap i b path).flatMap (v.raised groups)) := by
  rw [checkBean, ofStep_forM, ownInspections, List.flatMap_assoc]
  refine raises_forM fun p hp => ?_
  rw [ofStep_bind]
  exact .after (yields_read (stable.read_eq hi (List.mem_filter.1 hp).1)) raises_checkProperty

/-! ## The calls of approaches -/

theorem yields_query (question : Question) (target : Target) :
    Yields (v.query question target) c (v.resolver.answer question target) :=
  fun s hs => ⟨_, rfl, hs, s.occasions_record rfl⟩

theorem yields_allows (target : Target) :
    Yields (v.allows target) c
      (v.resolver.isCascadable target && v.resolver.isReachable target) := by
  refine (yields_query .isCascadable target).bind ?_
  show Yields (if v.resolver.isCascadable target = true then v.query .isReachable target
    else pure false) c _
  cases v.resolver.isCascadable target with
  | true => exact yields_query .isReachable target
  | false => exact yields_pure false

theorem yields_permits (u : Value) (elementType : ElementType) :
    ∃ allowed, Yields (v.permits u elementType) c allowed ∧
      (allowed = true ↔ v.Permits c u elementType) := by
  cases htarget : c.target? u elementType with
  | none =>
    refine ⟨true, yields_context.bind ?_, fun _ target h => ?_, fun _ => rfl⟩
    · rw [htarget]
      exact yields_pure true
    · rw [htarget] at h
      cases h
  | some target =>
    refine ⟨v.resolver.isCascadable target && v.resolver.isReachable target,
      yields_context.bind ?_, ?_⟩
    · rw [htarget]
      refine (yields_allows target).bind ?_
      cases v.resolver.isCascadable target && v.resolver.isReachable target with
      | true => exact yields_pure true
      | false => exact (yields_record (e := .logged (.vetoed ..)) rfl).bind (yields_pure false)
    · simp only [Permits, htarget, Option.some.injEq, forall_eq', Bool.and_eq_true]

theorem yields_lookUp (u : Value) : Yields (v.lookUp u) c (v.toEnter? u) := by
  unfold lookUp
  cases u.bean? with
  | none => exact yields_pure _
  | some t => exact (yields_record (e := .lookedUp t.type) rfl).bind (yields_pure _)

theorem raises_descent_of_not_admits (h : ¬ v.Admits root path u element?) :
    Raises (v.descent visitBelow b p element? u) (.during root groups path visited)
      (.during root groups path visited) [] := by
  obtain ⟨allowed, hyields, hallowed⟩ := yields_permits (v := v)
    (c := .during root groups path visited) u (.of element?)
  cases allowed with
  | true => exact absurd (hallowed.1 rfl) h
  | false => exact .after hyields raises_pure

theorem raises_descent (h : v.Admits root path u element?)
    (hentering : Raises (v.entering visitBelow b p u (v.toEnter? u))
      (.during root groups path visited) c' os) :
    Raises (v.descent visitBelow b p element? u) (.during root groups path visited) c' os := by
  obtain ⟨allowed, hyields, hallowed⟩ := yields_permits (v := v)
    (c := .during root groups path visited) u (.of element?)
  obtain rfl : allowed = true := hallowed.2 h
  exact .after hyields (.after (yields_lookUp u) hentering)

theorem raises_skip (skipped : Skips guarded visited u) :
    Raises (v.approach guarded visitBelow b p element? u) (.during root groups path visited)
      (.during root groups path visited) [] := by
  intro s t hs h
  have hguard : (guarded && s.context.hasVisitedValue u) = true := by
    rw [Bool.and_eq_true, Context.hasVisitedValue_eq_true, hs]
    exact skipped
  rw [approach_apply, if_pos hguard] at h
  cases h
  exact ⟨hs, (s.occasions_record rfl).trans (List.append_nil _).symm⟩

theorem raises_approach (fresh : ¬ Skips guarded visited u)
    (h : Raises (v.descent visitBelow b p element? u)
      (.during root groups (path.below p element?) visited)
      (.during root groups (path.below p element?) visited') os) :
    Raises (v.approach guarded visitBelow b p element? u) (.during root groups path visited)
      (.during root groups path visited') os := by
  intro s t hs hdone
  obtain ⟨-, hhop⟩ := context_hop_during hs p element?
  rw [approach_of_fresh (by rwa [hs])] at hdone
  obtain ⟨⟨r, x⟩, hx, hpop⟩ := Option.map_eq_some_iff.1 hdone
  obtain ⟨rfl, rfl⟩ := Prod.mk.inj hpop
  obtain ⟨hcontext, hos⟩ := h _ x hhop hx
  refine ⟨?_, hos⟩
  show x.context.pop = _
  rw [hcontext, Context.pop]
  show Context.during root groups ((path.below p element?).parent?.getD _) visited' = _
  rw [Path.parent?_below, Option.getD_some]

theorem raises_visit (t : Bean) :
    Raises (ofStep (changeContext (·.visit t))) (.during root groups path visited)
      (.during root groups path (visited.insert t)) [] := by
  rintro s _ hs ⟨⟩
  refine ⟨?_, (List.append_nil _).symm⟩
  show s.context.visit t = _
  rw [hs, Context.visit_during]

theorem raises_mark (admitted : v.Admits root path u element?) (hu : v.toEnter? u = some (t, i))
    (hunconstrained : i.isUnconstrained = true) :
    Raises (v.descent visitBelow b p element? u) (.during root groups path visited)
      (.during root groups path (visited.insert t)) [] := by
  refine raises_descent admitted ?_
  rw [hu, entering, hunconstrained]
  exact (raises_visit t).bind raises_pure

/-! ## The calls of tours -/

theorem raises_visitGuardedBy (stable : v.Stable) (hi : v.introspection? b.type = some i)
    (h : Raises (i.errands.forM (v.errand heap guarded visitBelow i b))
      (.during root groups path visited) c'
      ((Stage.inspections stages).flatMap (v.raised groups))) :
    Raises (v.visitGuardedBy heap guarded visitBelow i b) (.during root groups path visited) c'
      ((Stage.inspections (v.arrival heap i b path ++ stages)).flatMap (v.raised groups)) := by
  rw [visitGuardedBy_eq, Stage.inspections_append, inspections_arrival, List.flatMap_append]
  have checked : Raises (ofStep (v.checkBean heap i b)) (.during root groups path visited)
      (.during root groups path visited)
      ((v.ownInspections heap i b path).flatMap (v.raised groups)) := raises_checkBean stable hi
  exact .after yields_context (.after (yields_record rfl) (checked.bind h))

/-- What goes well along a tour calls the routines for what is inspected on the tour. -/
theorem Tour.raises (stable : v.Stable)
    (h : v.Tour heap guarded root b path errands visited stages (some visited'))
    (hi : v.introspection? b.type = some i) :
    Raises (errands.forM (v.errand heap guarded (v.visitGuarded heap guarded) i b))
      (.during root groups path visited) (.during root groups path visited')
      ((Stage.inspections stages).flatMap (v.raised groups)) := by
  generalize hleft : some visited' = left? at h
  induction h generalizing i visited' with
  | done =>
    cases hleft
    exact raises_pure
  | halt | within => cases hleft
  | @read b path _ p rest visited stages left? hj hp _ ih =>
    obtain rfl := Option.some.inj (hi.symm.trans hj)
    have hraises := ih hi hleft
    rw [List.forM_eq_forM, List.forM_append, ← List.forM_eq_forM, forM_approaches] at hraises
    have hread (n : Nat) : (i.read p heap b n).1 = i.get p heap b :=
      stable.read_eq hi (List.mem_filter.1 hp).1 n
    show Raises (v.errand heap guarded (v.visitGuarded heap guarded) i b (.read p) >>= _) _ _ _
    rw [errand, bind_assoc]
    exact .after (yields_read hread) hraises
  | skip skipped _ ih => exact (raises_skip skipped).bind (ih hi hleft)
  | veto fresh vetoed _ ih =>
    exact (raises_approach fresh (raises_descent_of_not_admits vetoed)).bind (ih hi hleft)
  | look fresh admitted hu _ ih =>
    refine (raises_approach fresh (raises_descent admitted ?_)).bind (ih hi hleft)
    rw [hu]
    exact raises_checkValue
  | mark fresh admitted hu hunconstrained _ ih =>
    exact (raises_approach fresh (raises_mark admitted hu hunconstrained)).bind (ih hi hleft)
  | enter fresh admitted hu hconstrained _ _ ih ih' =>
    have ht := (toEnter?_eq_some.1 hu).2
    have hvisit := raises_visitGuardedBy stable ht (ih ht rfl)
    rw [← visitGuarded_eq] at hvisit
    rw [Stage.inspections_append, List.flatMap_append]
    refine (raises_approach fresh (raises_descent admitted ?_)).bind (ih' hi hleft)
    rw [hu, entering, hconstrained]
    exact (raises_visit _).bind hvisit

theorem Journey.raises (stable : v.Stable) (hi : v.introspection? b.type = some i)
    (h : v.Journey heap guarded root i b path visited stages (some visited')) :
    Raises (v.visitGuarded heap guarded i b) (.during root groups path visited)
      (.during root groups path visited')
      ((Stage.inspections stages).flatMap (v.raised groups)) := by
  obtain ⟨below, rfl, htour⟩ := h
  rw [visitGuarded_eq]
  exact raises_visitGuardedBy stable hi (htour.raises stable hi)

/-! ## The calls of validations -/

/-- A report is of a tour from a root to its end: the beans entered are those of the tour, and the
calls of routines are those for what is inspected on it. -/
structure Retraces (v : Validator) (heap : Heap) (root : Bean) (groups : List Group)
    (stages : List Stage) (report : Report) : Prop where
  journey : ∃ i, v.introspection? root.type = some i ∧
    v.Journey heap true root i root .root [root] stages (some report.visited)
  entries : report.entries = Stage.entries stages
  occasions : report.occasions = (Stage.inspections stages).flatMap (v.raised groups)

/-- The report of a validation that goes well is of a tour. -/
theorem exists_retraces (plain : v.Plain) (stable : v.Stable) {object : Value}
    (hobject : v.toVisit? object = some (root, i)) {copies : Nat} {report : Report}
    (h : v.validate heap object groups copies = some report) {vs : ViolationSet}
    (hvs : report.result = .ok vs) : ∃ stages, v.Retraces heap root groups stages report := by
  obtain ⟨-, hi, -⟩ := toVisit?_eq_some.1 hobject
  rw [← validateGuarded_true] at h
  obtain ⟨stages, hjourney, htells⟩ := journey_of_ok plain stable hobject h hvs
  refine ⟨stages, ⟨i, hi, hjourney⟩, htells.entries vs hvs, ?_⟩
  rw [validateGuarded_of_toVisit hobject] at h
  obtain ⟨⟨r, t⟩, hdone, rfl⟩ := Option.map_eq_some_iff.1 h
  cases r with
  | error e => cases hvs
  | ok _ => exact (hjourney.raises stable hi (.start root groups copies) t rfl hdone).2

end Validator

end BeanGraph
