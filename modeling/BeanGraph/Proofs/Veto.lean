import BeanGraph.Proofs.FirstEntry
import BeanGraph.Proofs.Groups
import BeanGraph.Proofs.Thorough

/-!
# A veto only takes away

A resolver that vetoes some ways changes which way a bean is first entered by, and with it the order
and the paths of what is found.  It adds nothing: the beans that are entered are among those entered
when every way is permitted, and the values inspected of a bean are the same by whichever way it is
entered.

* `inspect_at`: a value is judged alike at whatever path it is inspected;
* `exists_counterpart`: what is inspected under some resolver is inspected if all is permitted;
* `visited_of_admitted`: a target that is admitted from where its bean is entered is visited,
  whatever other ways to it are vetoed;
* `veto_takes_away`: what this comes to for validations.
-/

namespace BeanGraph

/-- A violation is another one but for its path, which ends with the same name. -/
def Violation.Displaces (x y : Violation) : Prop :=
  x = { y with path := x.path } ∧ x.path.last?.map (·.name) = y.path.last?.map (·.name)

/-- The validator that asks another resolver. -/
def Validator.resolving (v : Validator) (resolver : Resolver) : Validator := { v with resolver }

/-! ## A value at another path -/

/-- A routine that does not look at the context finds the same in a value at another path. -/
theorem Routine.Plain.verdict_at {routine : Routine} (plain : routine.Plain) (root : Bean)
    (groups : List Group) (path path' : Path) (leaf? : Option Bean) (declaration : Nat)
    (c : Constraint) (u : Value) {found : List Violation}
    (h : routine.verdict (.during root groups path []) leaf? declaration c u = .ok found) :
    routine.verdict (.during root groups path' []) leaf? declaration c u =
      .ok (found.map fun y => { y with path := path' }) := by
  unfold Routine.verdict at h ⊢
  rw [plain u c _ (.during root groups path [])]
  cases hcheck : routine.check u c (.during root groups path []) with
  | error e =>
    rw [hcheck] at h
    cases h
  | ok valid =>
    rw [hcheck] at h
    cases valid <;>
    · obtain rfl := Except.ok.inj h
      rfl

namespace Validator

variable {v : Validator} {heap : Heap} {root b t : Bean} {groups : List Group} {i j : Introspection}
  {path : Path} {p : Property} {element? : Option Element} {u object : Value}
  {stages stages' : List Stage} {visited : List Bean} {left? : Option (List Bean)}
  {resolver : Resolver} {vs : ViolationSet} {report : Report} {copies : Nat}

theorem inspect_at (plain : v.Plain) (x : Inspection) (path : Path) {found : List Violation}
    (h : v.inspect root groups x = .ok found) :
    v.inspect root groups { x with path } =
      .ok (found.map fun y => { y with path }) := by
  obtain ⟨answered, rfl⟩ := Verdict.all_eq_ok_iff.1 h
  have moved : ∀ routine d c, (routine, d, c) ∈ v.askings groups x.property x.value →
      routine.verdict (.during root groups path []) (some x.leaf) d c x.value =
        .ok ((routine.verdict (.during root groups x.path []) (some x.leaf) d c
          x.value).found.map fun y => { y with path }) := by
    intro routine d c hasking
    obtain ⟨found, hfound⟩ := List.forall_mem_map.1 answered _ hasking
    have plain := plain _ _ routine (mem_askings.1 hasking).2
    rw [plain.verdict_at root groups x.path path (some x.leaf) d c x.value hfound]
    exact congrArg (fun verdict => Except.ok ((Verdict.found verdict).map _)) hfound.symm
  refine Verdict.all_eq_ok_iff.2 ⟨List.forall_mem_map.2 fun (routine, d, c) hasking => ?_, ?_⟩
  · exact ⟨_, moved routine d c hasking⟩
  · rw [List.flatMap_map, List.flatMap_map, List.map_flatMap]
    refine (List.flatMap_congr fun (routine, d, c) hasking => ?_).symm
    exact congrArg Verdict.found (moved routine d c hasking)

/-! ## Beans entered under a veto -/

theorem constrained_of_mem (hp : p ∈ i.constrained ∨ p ∈ i.cascading) :
    i.isUnconstrained = false := by
  rw [Introspection.isUnconstrained, Bool.and_eq_false_iff, List.isEmpty_eq_false_iff,
    List.isEmpty_eq_false_iff]
  exact hp.imp List.ne_nil_of_mem List.ne_nil_of_mem

section Permitted

variable (plain : v.Plain) (all : v.PermitsAll) (hi : v.introspection? root.type = some i)
  (h : v.Journey heap true root i root .root [root] stages (some visited))
include hi h

/-- A bean that is visited, and has anything to validate, is exhausted. -/
theorem Journey.exhausted_of_mem (ht : t ∈ visited) (hj : v.introspection? t.type = some j)
    (hconstrained : j.isUnconstrained = false) :
    ∃ path, v.Exhausted heap root j t path visited stages := by
  obtain ⟨j', hj', hentered⟩ := h.met hi ht
  obtain rfl := Option.some.inj (hj.symm.trans hj')
  obtain ⟨path, hentry⟩ := hentered hconstrained
  exact ⟨path, h.exhausted hi hentry hj⟩

include all

theorem Journey.mem_of_below (stable : v.Stable) (hb : b ∈ visited) (ht : v.Below heap b t) :
    t ∈ visited := by
  obtain ⟨j, hj, -⟩ := h.met hi hb
  obtain ⟨p, element?, k, due, hu⟩ := due_of_below stable hj ht
  obtain ⟨path, hexhausted⟩ := h.exhausted_of_mem hi hb hj (constrained_of_mem (.inr due.1))
  exact (hexhausted.attended due (all.admits _ _ _ _)).1 t k hu

/-- If all is permitted every bean within reach is visited, and other resolvers reach no more. -/
theorem Journey.mem_of_reach (stable : v.Stable)
    (hb : (v.resolving resolver).Reach heap root b) : b ∈ visited := by
  induction hb with
  | root => exact h.root_mem hi
  | step _ hw hp ht hj ih => exact h.mem_of_below all hi stable ih ⟨_, _, hw, hp, ht, hj⟩

/-- What is inspected under some resolver is inspected if all is permitted, at a path that ends with
the same name. -/
theorem Journey.exists_counterpart (stable : v.Stable)
    (h' : (v.resolving resolver).Journey heap true root i root .root [root] stages' left?)
    {x : Inspection} (hx : x ∈ Stage.inspections stages') :
    ∃ path, { x with path } ∈ Stage.inspections stages ∧
      path.last?.map (·.name) = x.path.last?.map (·.name) := by
  obtain ⟨t, j, path', hentry, hj, hinspected⟩ :=
    Journey.inspected (v := v.resolving resolver) hi h' hx
  have ht : t ∈ visited :=
    h.mem_of_reach all hi stable (Journey.reach (v := v.resolving resolver) hi h' hentry)
  have hends (path : Path) (p : Property) (element? : Option Element) :
      (path.below p element?).last?.map (·.name) = some p.name :=
    path.name_last?_descend ⟨p.name, element?⟩
  obtain hown | ⟨p, element?, u, due, hu, rfl⟩ : v.Inspected heap j t path' x := hinspected
  · obtain ⟨p, hp, u, hsubject, rfl⟩ := mem_ownInspections.1 hown
    obtain ⟨path, hexhausted⟩ := h.exhausted_of_mem hi ht hj (constrained_of_mem (.inl hp))
    refine ⟨path.below p none, hexhausted.own ?_, by rw [hends, hends]⟩
    exact mem_ownInspections.2 ⟨p, hp, u, hsubject, rfl⟩
  · obtain ⟨path, hexhausted⟩ := h.exhausted_of_mem hi ht hj (constrained_of_mem (.inr due.1))
    exact ⟨path.below p element?, (hexhausted.attended due (all.admits _ _ _ _)).2 hu,
      by rw [hends, hends]⟩

include plain in
/-- What is found under some resolver is found if all is permitted and every inspection has an
answer then. -/
theorem Journey.recorded_counterpart (stable : v.Stable)
    (answered : ∀ x ∈ Stage.inspections stages, ∃ ys, v.inspect root groups x = .ok ys)
    (h' : (v.resolving resolver).Journey heap true root i root .root [root] stages' left?)
    {x : Inspection} (hx : x ∈ Stage.inspections stages') :
    ∃ found, v.inspect root groups x = .ok found ∧ ∀ y ∈ found,
      ∃ z ∈ v.recorded root groups (Stage.inspections stages), y.Displaces z := by
  obtain ⟨path, hmem, hname⟩ := h.exists_counterpart all hi stable h' hx
  obtain ⟨found, hfound⟩ := answered _ hmem
  refine ⟨_, inspect_at plain { x with path } x.path hfound, fun y hy => ?_⟩
  obtain ⟨z, hz, rfl⟩ := List.mem_map.1 hy
  have hz : z ∈ (v.inspect root groups { x with path }).found := by rwa [hfound]
  refine ⟨z, List.mem_flatMap.2 ⟨_, hmem, hz⟩, rfl, ?_⟩
  rw [(of_mem_found hz).2]
  exact hname.symm

end Permitted

/-! ## Validations -/

/-- If a validation that permits everything goes well, one under another resolver does, and finds
nothing else. -/
theorem finds_of_permitsAll (all : v.PermitsAll) (stable : v.Stable) (plain : v.Plain)
    (resolver : Resolver) (hfinds : v.Finds heap object groups copies vs) (copies' : Nat) :
    ∃ vs', (v.resolving resolver).Finds heap object groups copies' vs' ∧
      ∀ x ∈ vs'.items, ∃ y ∈ vs.items, x.Displaces y := by
  cases hobject : v.toVisit? object with
  | none =>
    obtain ⟨rfl, -⟩ := hfinds.of_nothing hobject
    refine ⟨.empty, ?_, nofun⟩
    rw [finds_iff_result] at hfinds ⊢
    rw [← hfinds]
    exact result_of_nothing (v := v.resolving resolver) (w := v) (fun _ => rfl) hobject hobject ..
  | some start =>
    obtain ⟨root, i⟩ := start
    obtain ⟨rfl, hi, -⟩ := toVisit?_eq_some.1 hobject
    obtain ⟨report, hreport, hvs⟩ := hfinds
    rw [← validateGuarded_true] at hreport
    obtain ⟨stages, h, tells⟩ := journey_of_ok plain stable hobject hreport hvs
    obtain ⟨answered, rfl⟩ := tells.of_ok hvs
    have finite : {b | (v.resolving resolver).Reach heap root b}.Finite :=
      (List.finite_toSet report.visited).subset fun b hb => h.mem_of_reach all hi stable hb
    obtain ⟨report', hreport'⟩ : ∃ report',
        (v.resolving resolver).validate heap (.bean root) groups copies' = some report' :=
      validate_ends (fun _ hroot => Option.some.inj hroot ▸ finite) groups copies'
    rw [← validateGuarded_true] at hreport'
    obtain ⟨stages', left?, h', -, tells'⟩ :=
      journey_of_validateGuarded (v := v.resolving resolver) plain stable hobject hreport'
    have counterpart {x : Inspection} (hx : x ∈ Stage.inspections stages') :=
      h.recorded_counterpart plain all hi stable answered h' hx
    have hverdict : v.verdicts root groups stages' =
        .ok (v.recorded root groups (Stage.inspections stages')) :=
      all_inspect_eq_ok_iff.2 ⟨fun x hx => (counterpart hx).imp fun _ h => h.1, rfl⟩
    have hresult : report'.result =
        .ok (.insertAll .empty (v.recorded root groups (Stage.inspections stages'))) :=
      tells'.result.trans (congrArg (Except.map (ViolationSet.insertAll .empty)) hverdict)
    rw [validateGuarded_true] at hreport'
    refine ⟨_, ⟨report', hreport', hresult⟩, fun y hy => ?_⟩
    obtain ⟨x, hx, hfound⟩ :=
      List.mem_flatMap.1 ((ViolationSet.mem_insertAll hy).resolve_left nofun)
    obtain ⟨found, hinspect, hdisplaces⟩ := counterpart hx
    have hfound : y ∈ (v.inspect root groups x).found := hfound
    rw [hinspect] at hfound
    obtain ⟨z, hz, hyz⟩ := hdisplaces y hfound
    exact ⟨z, mem_items_of_mem_recorded (fun x hx => h.sited hi hx) hz, hyz⟩

/-- With stable getters, in a validation that goes well a target with an introspection is visited
once the resolver admits it from where its bean is entered, and entered if there is anything to
validate in it. -/
theorem visited_of_admitted (stable : v.Stable) (plain : v.Plain)
    (h : v.validate heap (.bean root) groups copies = some report) (hvs : report.result = .ok vs)
    (hb : (b, path) ∈ report.entries) (hi : v.introspection? b.type = some i)
    (due : v.Due heap i b (.approach p element? (.bean t)))
    (admitted : v.Admits root (path.below p element?) (.bean t) element?)
    (hj : v.introspection? t.type = some j) :
    t ∈ report.visited ∧
      (j.isUnconstrained = false → ∃ path', (t, path') ∈ report.entries) := by
  cases hobject : v.toVisit? (.bean root) with
  | none =>
    obtain ⟨report', h', hnotes, -⟩ := validate_of_nothing hobject groups copies
    obtain rfl := Option.some.inj (h.symm.trans h')
    obtain ⟨e, he, hentry⟩ := List.mem_filterMap.1 hb
    have note := hnotes e (Array.mem_toList_iff.1 he)
    cases e with
    | entered => exact note.elim
    | _ => cases hentry
  | some start =>
    obtain ⟨root', k⟩ := start
    obtain ⟨⟨⟩, hk, -⟩ := toVisit?_eq_some.1 hobject
    rw [← validateGuarded_true] at h
    obtain ⟨stages, hjourney, tells⟩ := journey_of_ok plain stable hobject h hvs
    rw [tells.entries vs hvs] at hb ⊢
    have hu : v.toEnter? (.bean t) = some (t, j) := toEnter?_eq_some.2 ⟨rfl, hj⟩
    have ht := ((hjourney.exhausted hk hb hi).attended due admitted).1 t j hu
    obtain ⟨j', hj', hentered⟩ := hjourney.met hk ht
    obtain rfl := Option.some.inj (hj.symm.trans hj')
    exact ⟨ht, hentered⟩

/-- With stable getters, and with routines that do not look at the context, a veto only takes away.
If a validation that permits everything goes well, one that asks a resolver does too, and each of
its violations is one of the former but for the path.  In a validation that asks a resolver and goes
well, a bean that is admitted from where one is entered that holds it is entered too, unless there
is nothing to validate in it, and visited in any case. -/
theorem veto_takes_away (v : Validator) (heap : Heap) (stable : v.Stable) (plain : v.Plain)
    (resolver : Resolver) (object : Value) (groups : List Group) :
    (∀ copies vs, (v.resolving .permitAll).Finds heap object groups copies vs →
      ∀ copies', ∃ vs', (v.resolving resolver).Finds heap object groups copies' vs' ∧
        ∀ x ∈ vs'.items, ∃ y ∈ vs.items, x.Displaces y) ∧
    ∀ root copies report vs, object = .bean root →
      (v.resolving resolver).validate heap object groups copies = some report →
      report.result = .ok vs →
      ∀ b path i, (b, path) ∈ report.entries → v.introspection? b.type = some i →
      ∀ p element? t j, p ∈ i.cascading →
        (element?, .bean t) ∈ v.held heap (i.get p heap b) →
        (v.resolving resolver).Admits root (path.below p element?) (.bean t) element? →
        v.introspection? t.type = some j →
        t ∈ report.visited ∧
          (j.isUnconstrained = false → ∃ path', (t, path') ∈ report.entries) := by
  constructor
  · intro copies vs hfinds copies'
    exact finds_of_permitsAll (v := v.resolving .permitAll) (fun _ => ⟨rfl, rfl⟩) stable plain
      resolver hfinds copies'
  · rintro root copies report vs rfl h hvs b path i hb hi p element? t j hp hheld admitted hj
    exact visited_of_admitted (v := v.resolving resolver) stable plain h hvs hb hi ⟨hp, hheld⟩
      admitted hj

end Validator

/-! ## The left side vetoed -/

namespace Diamond

/-- Vetoes the left bean. -/
def vetoLeft : Resolver := ⟨fun target => target.value != .bean left, fun _ => true⟩

end Diamond

namespace Validator

open Diamond (heap top left right shared vetoLeft missing)

/-- With the left bean vetoed the missing name is found by way of the right one. -/
theorem diamond_with_veto :
    ∃ report vs vs', (Ring.validator.resolving .permitAll).Finds heap (.bean top) [] 0 vs ∧
      (Ring.validator.resolving vetoLeft).validate heap (.bean top) [] 0 = some report ∧
      report.result = .ok vs' ∧ vs.items = [missing 0] ∧ vs'.items = [missing 1] ∧
      (missing 1).Displaces (missing 0) ∧ shared ∈ report.visited := by
  obtain ⟨removes, enters⟩ :=
    veto_takes_away Ring.validator heap Ring.stable Ring.plain vetoLeft (.bean top) []
  obtain ⟨permitted, vs, hpermitted, hvs, hitems⟩ := Diamond.validateGuarded_top true
  rw [validateGuarded_true] at hpermitted
  have finds : (Ring.validator.resolving .permitAll).Finds heap (.bean top) [] 0 vs :=
    ⟨permitted, hpermitted, hvs⟩
  obtain ⟨vs', ⟨report, hreport, hvs'⟩, displaces⟩ := removes 0 vs finds 0
  obtain ⟨report', hreport', htold⟩ : ∃ report,
      (Ring.validator.resolving vetoLeft).validateGuarded heap true (.bean top) [] 0 =
        some report ∧ (report.result.toOption.map (·.items), report.entries) =
          (some [missing 1], [(top, .root), (right, .along [⟨"items", some (.indexed 1)⟩]),
            (shared, .along [⟨"items", some (.indexed 1)⟩, ⟨"gift", some .single⟩])]) :=
    exists_report_of_within 3 rfl (by cbv)
  rw [validateGuarded_true] at hreport'
  obtain rfl := Option.some.inj (hreport.symm.trans hreport')
  obtain ⟨hitems', hentries⟩ := Prod.mk.inj htold
  rw [hvs'] at hitems'
  obtain hitems' : vs'.items = [missing 1] := Option.some.inj hitems'
  have hright : (right, .along [⟨"items", some (.indexed 1)⟩]) ∈ report.entries := by
    rw [hentries]
    exact List.mem_cons_of_mem _ List.mem_cons_self
  refine ⟨report, vs, vs', finds, hreport, hvs', hitems, hitems', ?_, ?_⟩
  · obtain ⟨y, hy, hdisplaces⟩ := displaces (missing 1) (by rw [hitems']; exact List.mem_cons_self)
    rw [hitems] at hy
    rwa [List.mem_singleton.1 hy] at hdisplaces
  · have hgift : Ring.gift ∈ Ring.introspection.cascading :=
      List.mem_filter.2 ⟨by simp [Ring.introspection], rfl⟩
    refine (enters top 0 report vs' rfl hreport hvs' right _ Ring.introspection hright rfl Ring.gift
      (some .single) shared Ring.introspection hgift (.head _) ?_ rfl).1
    rintro target ⟨⟩
    exact ⟨by decide +kernel, rfl⟩

end Validator

end BeanGraph
