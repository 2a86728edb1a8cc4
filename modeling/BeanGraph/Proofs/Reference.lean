import BeanGraph.Proofs.Entering
import BeanGraph.Proofs.Findings
import BeanGraph.Proofs.Settling

/-!
# What a validation finds

`Fails` says without any traversal what there is to find: a bean within reach of the root, a
property of it, and a declared constraint that rejects what the property holds or wraps, or a
cascade target that there is nothing to enter in.

* `fails_of_finding`: what a validation reports fails;
* `reports_of_fails`: what fails is reported, once all visited beans are settled;
* `validate_finds_exactly`: a validation of a finite graph goes well and reports what fails, no more
  and no less.
-/

namespace BeanGraph

open Call

namespace Validator

variable (v : Validator) (heap : Heap) (root : Bean) (groups : List Group)

/-- No routine looks at the context, and none fails. -/
def Dependable : Prop :=
  ∀ kind tag routine, v.routines.find? kind tag = some routine → routine.Plain ∧ routine.Total

/-- A constraint that is declared for the named property of a bean within reach rejects a value that
is checked for this property. -/
def Fails (b : Bean) (name : String) (u : Value) (declaration : Nat) : Prop :=
  v.Reach heap root b ∧ ∃ i p c routine,
    v.introspection? b.type = some i ∧ i.property? name = some p ∧
    p.constraints[declaration]? = some c ∧ c.appliesTo groups = true ∧
    v.routines.find? c.kind (u.runtimeType?.getD p.declaredType) = some routine ∧
    (∀ context, routine.check u c context = .ok false) ∧
    (u ∈ v.subjects heap p (i.get p heap b) ∨
      p.cascade = true ∧ u ∈ v.targets heap (i.get p heap b) ∧ v.toEnter? u = none)

variable {v heap root groups}
variable {place : Place} {s t : Progress} {r : Except Failure Unit}

/-! ## What is reported fails -/

theorem OnWay.reach {hops : List Hop} {beans : List Bean} {b : Bean} {p : Property} {w : Value}
    {c : Context} (h : OnWay v heap root groups hops (beans ++ [b]) c) (hw : v.Reads heap b p w) :
    v.Reach heap root b := by
  obtain ⟨i, hi, -⟩ := hw
  exact h.route.reach List.getLast?_concat (by rw [hi]; rfl)

/-- A rejection on a way from the root fails without regard to the way. -/
theorem fails_of_rejected (stable : v.Stable) (dependable : v.Dependable) {hops : List Hop}
    {beans : List Bean} {b : Bean} {p : Property} {element? : Option Element} {w u : Value}
    {routine : Routine} {declaration : Nat} {c : Constraint} {context : Context} {name : String}
    (way : OnWay v heap root groups hops (beans ++ [b]) context)
    (path : context.path = Path.along (hops ++ [⟨p.name, element?⟩])) (hw : v.Reads heap b p w)
    (hc : v.Applies groups p u routine declaration c)
    (rejected : routine.check u c context = .ok false)
    (hu : u ∈ v.subjects heap p w ∨
      p.cascade = true ∧ u ∈ v.targets heap w ∧ v.toEnter? u = none)
    (hname : context.path.last?.map (·.name) = some name) :
    v.Fails heap root groups b name u declaration := by
  have hlast : context.path.last?.map (·.name) = some p.name := by
    rw [path, Path.along_append_singleton]
    exact Path.name_last?_descend ..
  obtain rfl := Option.some.inj (hlast.symm.trans hname)
  have reached := way.reach hw
  obtain ⟨i, hi, hp, rfl⟩ := hw.eq_get stable
  obtain ⟨hdeclared, happlies⟩ := Property.mem_applicable.1 hc.1
  have plain := (dependable _ _ routine hc.2).1
  have rejects : ∀ context', routine.check u c context' = .ok false := fun context' =>
    (plain u c context' context).trans rejected
  exact ⟨reached, i, p, c, routine, hi, Introspection.property?_eq_some hp, hdeclared, happlies,
    hc.2, rejects, hu⟩

theorem fails_of_finding (stable : v.Stable) (dependable : v.Dependable) {x : Violation}
    (h : Finding v heap root groups x) {b : Bean} {name : String} (hleaf : x.leaf? = some b)
    (hname : x.path.last?.map (·.name) = some name) :
    v.Fails heap root groups b name x.value x.declaration := by
  cases h with
  | value located hu hc rejected =>
    obtain rfl := Option.some.inj hleaf
    cases located with
    | value way path hw =>
      exact fails_of_rejected stable dependable way path hw hc rejected (.inl hu) hname
  | target located hu hc rejected =>
    obtain rfl := Option.some.inj hleaf
    cases located with
    | target way path hw hp hheld =>
      exact fails_of_rejected stable dependable way path hw hc rejected
        (.inr ⟨hp, List.mem_map_of_mem hheld, hu⟩) hname

/-! ## What fails is reported -/

/-- If the root is visited and all visited beans are settled, all beans within reach are visited. -/
theorem Reach.visited (settled : ∀ b ∈ s.context.visited, v.Settled heap groups b s)
    (hroot : root ∈ s.context.visited) {b : Bean} (h : v.Reach heap root b) :
    b ∈ s.context.visited := by
  induction h with
  | root => exact hroot
  | step _ hw hp ht hi ih =>
    obtain ⟨i, hi⟩ := Option.isSome_iff_exists.1 hi
    exact ((settled _ ih).handled _ _ hw hp _ ht).visited _ i (toEnter?_eq_some.2 ⟨rfl, hi⟩)

theorem reports_of_fails (settled : ∀ b ∈ s.context.visited, v.Settled heap groups b s)
    (hroot : root ∈ s.context.visited) {b : Bean} {name : String} {u : Value} {declaration : Nat}
    (h : v.Fails heap root groups b name u declaration) :
    s.violations.Reports b name u declaration := by
  obtain ⟨reached, i, p, c, routine, hi, hp, hdeclared, happlies, hroutine, hrejects, hu⟩ := h
  obtain ⟨hmem, rfl⟩ := Introspection.mem_of_property? hp
  have hsettled := settled b (reached.visited settled hroot)
  have hw : v.Reads heap b p (i.get p heap b) := ⟨i, hi, hmem, 0, rfl⟩
  have rejects : v.Rejects groups p u declaration :=
    ⟨routine, c, ⟨Property.mem_applicable.2 ⟨hdeclared, happlies⟩, hroutine⟩, hrejects⟩
  rcases hu with hu | ⟨hcascade, hu, hentry⟩
  · exact hsettled.checked p _ hw u hu declaration rejects
  · exact (hsettled.handled p _ hw hcascade u hu).checked hentry declaration rejects

/-! ## Validations -/

/-- With routines that never fail nothing fails. -/
theorem Passage.ok_of_dependable (dependable : v.Dependable) (h : v.Passage heap place s r t) :
    r = .ok () := by
  have judged {leaf? : Option Bean} {p : Property} {u : Value} {routine : Routine}
      {declaration : Nat} {c : Constraint} {s : Progress}
      (hc : v.Applies s.context.groups p u routine declaration c) :
      (Call.judge leaf? routine declaration c u s).1 = .ok () := by
    obtain ⟨answer, hanswer⟩ := (dependable _ _ routine hc.2).2 u c s.context
    rw [judge_apply, hanswer]
    cases answer <;> rfl
  induction h with
  | rest | read | note | ask | mark => rfl
  | next _ _ _ ih' => exact ih'
  | value _ _ ih | target _ _ _ _ ih | enter _ _ _ _ ih => exact ih
  | judge _ hc | judgeTarget _ _ hc => exact judged hc

/-- A visit of the root that goes well leaves the root visited, and all visited beans settled. -/
theorem settled_of_visit (all : v.PermitsAll) (stable : v.Stable) {i : Introspection}
    (hi : v.introspection? root.type = some i) {copies : Nat}
    (h : v.visit heap i root (.start root groups copies) = some (.ok (), t)) :
    root ∈ t.context.visited ∧ ∀ b ∈ t.context.visited, v.Settled heap groups b t := by
  have known : ∀ b ∈ [root], (v.introspection? b.type).isSome := by
    intro b hb
    rw [List.mem_singleton.1 hb, hi]
    rfl
  have ready : Ready v groups (.start root groups copies) := ⟨rfl, rfl, known⟩
  obtain ⟨hgrows, hroot⟩ := visit_settles all stable hi ready h
  refine ⟨hgrows.visited List.mem_cons_self, fun b hb => ?_⟩
  by_cases hstart : b ∈ [root]
  · rw [List.mem_singleton.1 hstart]
    exact hroot
  · exact hgrows.settled b hb hstart

/-- Under a resolver that permits everything, with stable getters and with routines that neither
fail nor look at the context, a validation of a finite graph goes well, and reports what fails and
nothing else. -/
theorem validate_finds_exactly (v : Validator) (heap : Heap) (all : v.PermitsAll)
    (stable : v.Stable) (dependable : v.Dependable) {root : Bean}
    (hroot : (v.introspection? root.type).isSome) (finite : {b | v.Reach heap root b}.Finite)
    (groups : List Group) (copies : Nat) :
    ∃ report vs, v.validate heap (.bean root) groups copies = some report ∧
      report.result = .ok vs ∧
      ∀ b name u declaration, vs.Reports b name u declaration ↔
        v.Fails heap root groups b name u declaration := by
  obtain ⟨i, hi⟩ := Option.isSome_iff_exists.1 hroot
  by_cases hunconstrained : i.isUnconstrained = true
  · refine ⟨_, .empty, by simp only [validate, Validator.root, hi, hunconstrained, if_true]; rfl,
      rfl, fun b name u declaration => ⟨?_, fun h => ?_⟩⟩
    · rintro ⟨x, hx, -⟩
      cases hx
    · refine reports_of_fails (s := .start root groups copies) (fun b hb => ?_)
        List.mem_cons_self h
      rw [List.mem_singleton.1 hb]
      exact settled_of_unconstrained hi hunconstrained
  · have hvisit : v.toVisit? (.bean root) = some (root, i) :=
      toVisit?_eq_some.2 ⟨rfl, hi, by simpa using hunconstrained⟩
    have hfinite : ∀ b ∈ (Value.bean root).bean?, {t | v.Reach heap b t}.Finite := by
      rintro b ⟨⟩
      exact finite
    obtain ⟨report, h⟩ := validate_ends hfinite groups copies
    have hrun := h
    rw [validate_of_toVisit hvisit] at hrun
    obtain ⟨⟨r, t⟩, hdone, rfl⟩ := Option.map_eq_some_iff.1 hrun
    obtain rfl := (visit_passage hi rfl hdone).ok_of_dependable dependable
    refine ⟨_, t.violations, h, rfl, fun b name u declaration => ⟨?_, fun hfails => ?_⟩⟩
    · rintro ⟨x, hx, hleaf, hname, rfl, rfl⟩
      obtain ⟨root', hobject, hfinding⟩ := finding_of_validate h rfl hx
      cases hobject
      exact fails_of_finding stable dependable hfinding hleaf hname
    · obtain ⟨hvisited, hsettled⟩ := settled_of_visit all stable hi hdone
      exact reports_of_fails hsettled hvisited hfails

theorem ring_finds_exactly :
    ∃ report vs, Ring.validator.validate Ring.heap (.bean Ring.first) [] 0 = some report ∧
      report.result = .ok vs ∧ vs.items = [Ring.missing] ∧
      ∀ b name u declaration, vs.Reports b name u declaration ↔
        Ring.validator.Fails Ring.heap Ring.first [] b name u declaration := by
  have all : Ring.validator.PermitsAll := fun _ => ⟨rfl, rfl⟩
  have dependable : Ring.validator.Dependable := by
    intro kind tag routine h
    obtain ⟨key, hmem⟩ := RoutineRegistry.exists_mem_of_find? h
    cases List.mem_singleton.1 hmem
    exact ⟨Routine.plain_ofPredicate _ _, Routine.total_ofPredicate _ _⟩
  obtain ⟨report, vs, h, hvs, hexactly⟩ := validate_finds_exactly Ring.validator Ring.heap all
    Ring.stable dependable rfl finite_reach_ring [] 0
  obtain ⟨report', vs', h', hvs', hitems⟩ := Ring.validate_first
  obtain rfl := Option.some.inj (h.symm.trans h')
  obtain rfl := Except.ok.inj (hvs.symm.trans hvs')
  exact ⟨report, vs, h, hvs, hitems, hexactly⟩

end Validator

end BeanGraph
