import BeanGraph.Proofs.Lockstep

/-!
# What the guard leaves out

In a finite graph without cycles a validation finds what the unguarded one finds on the first entry
into each bean, in the same order and at the same paths.  Where one way leads to each bean it finds
all that the unguarded one does.

* `exists_follows`: the tours of a validation with the guard and without it;
* `entered_of_recorded`: what either of them records is one node below an entry into its leaf;
* `validate_keeps_first_entries`: what they come to.
-/

namespace BeanGraph

/-- The violations of a report that were recorded on the first entry into their leaf.  What is
recorded on an entry is one node below its path (`entered_of_recorded`); what a later entry at the
same path finds is there already. -/
def Report.onFirstEntries (report : Report) (vs : ViolationSet) : ViolationSet :=
  ⟨vs.items.filter fun x => x.leaf?.bind (fun b => report.entries.lookup b) = x.path.parent?⟩

namespace Validator

variable (v : Validator) (heap : Heap)

/-- There is one way from a root to each bean with an introspection. -/
def TreeShaped (root : Bean) : Prop :=
  ∀ t, (v.introspection? t.type).isSome → ∀ hops beans hops' beans',
    v.Route heap root hops (beans ++ [t]) → v.Route heap root hops' (beans' ++ [t]) → hops = hops'

variable {v heap}
variable {root : Bean} {groups : List Group} {i : Introspection} {stages : List Stage}
  {report : Report}

/-! ## Routines that do not fail -/

theorem Dependable.plain (dependable : v.Dependable) : v.Plain :=
  fun kind tag routine h => (dependable kind tag routine h).1

theorem verdict_eq_ok_of_total {routine : Routine} (total : routine.Total) (context : Context)
    (leaf? : Option Bean) (declaration : Nat) (c : Constraint) (u : Value) :
    ∃ found, routine.verdict context leaf? declaration c u = .ok found := by
  obtain ⟨answer, hanswer⟩ := total u c context
  unfold Routine.verdict
  rw [hanswer]
  cases answer <;> exact ⟨_, rfl⟩

theorem Dependable.inspect_eq_ok (dependable : v.Dependable) (x : Inspection) :
    ∃ found, v.inspect root groups x = .ok found := by
  refine ⟨_, Verdict.all_eq_ok_iff.2 ⟨List.forall_mem_map.2 fun asking hasking => ?_, rfl⟩⟩
  obtain ⟨routine, declaration, c⟩ := asking
  exact verdict_eq_ok_of_total (dependable _ _ routine (mem_askings.1 hasking).2).2 ..

theorem Dependable.all_inspect (dependable : v.Dependable) (xs : List Inspection) :
    Verdict.all (xs.map (v.inspect root groups)) = .ok (v.recorded root groups xs) :=
  all_inspect_eq_ok_iff.2 ⟨fun x _ => dependable.inspect_eq_ok x, rfl⟩

theorem Tells.of_dependable (dependable : v.Dependable) (h : v.Tells root groups stages report) :
    report.result = .ok (v.noted root groups .empty (Stage.inspections stages)) ∧
      report.entries = Stage.entries stages := by
  have hresult : report.result = .ok (v.noted root groups .empty (Stage.inspections stages)) := by
    rw [h.result, verdicts, dependable.all_inspect]
    rfl
  exact ⟨hresult, h.entries _ hresult⟩

/-! ## Tours of a validation -/

/-- In a finite graph without cycles there is a tour without the guard, and one with it that finds
what is kept of it. -/
theorem exists_follows (all : v.PermitsAll) (stable : v.Stable)
    (finite : {b | v.Reach heap root b}.Finite) (acyclic : v.Acyclic heap root)
    (hi : v.introspection? root.type = some i) (groups : List Group) :
    ∃ stages₀ visited₀ stages visited,
      v.Journey heap false root i root .root [root] stages₀ (some visited₀) ∧
      v.Journey heap true root i root .root [root] stages (some visited) ∧
      v.noted root groups .empty (Stage.inspections stages) = v.noted root groups .empty
        ((Stage.inspections stages₀).filter (Kept (Stage.entries stages₀))) := by
  obtain ⟨below, visited₀, htour⟩ := exists_tour all finite acyclic .root hi .root [root]
  let stages₀ := v.arrival heap i root .root ++ below
  have hentries : Stage.entries stages₀ = (root, .root) :: Stage.entries below := by
    rw [Stage.entries_append, entries_arrival]
    rfl
  have hfirst : (Stage.entries stages₀).lookup root = some Path.root := by
    rw [hentries, List.lookup_cons_self]
  have instep : v.InStep heap root groups (Stage.entries stages₀) root [(root, .root)] [root]
      (v.noted root groups .empty (v.ownInspections heap i root .root)) :=
    .start hi (acyclic root .root) _ _
  have hall : [(root, .root)] ++ Stage.entries below <+: Stage.entries stages₀ := by
    rw [hentries]
    exact List.prefix_refl _
  obtain ⟨stages, visited, follows⟩ :=
    htour.lockstep all stable acyclic hi due_read .root hfirst hall instep
  refine ⟨stages₀, visited₀, _, visited, ⟨below, rfl, htour⟩, ⟨stages, rfl, follows.tour⟩, ?_⟩
  rw [Stage.inspections_append, inspections_arrival, noted_append, follows.found,
    Stage.inspections_append, inspections_arrival, List.filter_append,
    filter_kept_ownInspections hfirst, noted_append]

/-- Where one way leads to each bean all that is inspected is inspected on first entries. -/
theorem Journey.kept {left? : Option (List Bean)}
    (h : v.Journey heap false root i root .root [root] stages left?)
    (hi : v.introspection? root.type = some i) (tree : v.TreeShaped heap root) {x : Inspection}
    (hx : x ∈ Stage.inspections stages) : Kept (Stage.entries stages) x = true := by
  obtain ⟨below, rfl, htour⟩ := h
  have routed {t : Bean} {path : Path}
      (ht : (t, path) ∈ Stage.entries (v.arrival heap i root .root ++ below)) :
      v.Routed heap root t path := by
    have start : v.Routed heap root root .root :=
      ⟨by rw [hi]; rfl, [], [], .start, rfl⟩
    exact of_mem_entries_arrival start (fun ht => htour.routed hi due_read start ht) ht
  obtain ⟨t, j, path, ht, hj, hinspected⟩ :=
    inspected_of_arrival hi (fun hx => htour.inspected hi due_read hx) hx
  obtain ⟨path', hfirst⟩ :=
    Option.isSome_iff_exists.1 (List.lookup_isSome_iff.2 ⟨_, ht, beq_self_eq_true t⟩)
  obtain ⟨before, after, hsplit, -⟩ := List.lookup_eq_some_iff.1 hfirst
  have ht' := List.mem_append_right before (List.mem_cons_self (a := (t, path')) (l := after))
  rw [← hsplit] at ht'
  obtain ⟨hknown, hops, beans, route, rfl⟩ := routed ht
  obtain ⟨-, hops', beans', route', rfl⟩ := routed ht'
  obtain rfl := tree t hknown _ _ _ _ route route'
  exact kept_of_inspected hfirst hinspected

/-! ## Validations -/

/-- With the guard or without it, what is recorded is one node below an entry into its leaf. -/
theorem entered_of_recorded (plain : v.Plain) (stable : v.Stable) {guarded : Bool}
    {object : Value} {copies : Nat} {vs : ViolationSet}
    (h : v.validateGuarded heap guarded object groups copies = some report)
    (hvs : report.result = .ok vs) {x : Violation} (hx : x ∈ vs.items) :
    ∃ b path, (b, path) ∈ report.entries ∧ x.leaf? = some b ∧ x.path.parent? = some path := by
  cases hobject : v.toVisit? object with
  | none =>
    obtain ⟨result, events, hempty, -, hall⟩ := @validateGuarded_of_nothing v heap _ hobject
    rw [hall, Option.some.injEq] at h
    subst h
    obtain rfl := hempty vs hvs
    cases hx
  | some start =>
    obtain ⟨root, i⟩ := start
    obtain ⟨-, hi, -⟩ := toVisit?_eq_some.1 hobject
    obtain ⟨_, left?, ⟨below, rfl, htour⟩, -, tells⟩ :=
      journey_of_validateGuarded plain stable hobject h
    obtain ⟨-, rfl⟩ := tells.of_ok hvs
    obtain hx | hx := ViolationSet.mem_insertAll hx
    · cases hx
    · obtain ⟨y, hy, hx⟩ := List.mem_flatMap.1 hx
      obtain ⟨hleaf, hpath⟩ := of_mem_found hx
      obtain ⟨t, j, path, ht, -, hinspected⟩ :=
        inspected_of_arrival hi (fun hy => htour.inspected hi due_read hy) hy
      obtain ⟨rfl, hparent⟩ := hinspected.leaf_and_parent?
      rw [tells.entries _ hvs]
      exact ⟨y.leaf, path, ht, hleaf, hpath ▸ hparent⟩

theorem onFirstEntries_noted (h : report.entries = Stage.entries stages) (xs : List Inspection) :
    report.onFirstEntries (v.noted root groups .empty xs) =
      v.noted root groups .empty (xs.filter (Kept (Stage.entries stages))) := by
  let keep (x : Violation) : Bool :=
    x.leaf?.bind (fun b => report.entries.lookup b) = x.path.parent?
  have alike : ∀ x y : Violation, (x == y) = true → keep x = keep y := by
    intro x y hxy
    obtain ⟨hleaf, hpath, -⟩ := Violation.agrees_of_beq hxy
    simp only [keep, hleaf, hpath]
  have hkept : ∀ (x : Inspection) (y : Violation), y.leaf? = some x.leaf → y.path = x.path →
      keep y = Kept (Stage.entries stages) x := by
    intro x y hleaf hpath
    simp only [keep, Kept, hleaf, hpath, h, Option.bind_some]
  refine congrArg ViolationSet.mk ?_
  rw [noted, ViolationSet.filter_insertAll alike, filter_recorded hkept]
  rfl

/-- In a finite graph without cycles, under a resolver that permits everything, with stable getters
and with routines that neither fail nor look at the context, a validation has the result of the
unguarded one, less what that one records on later entries into the same beans; all that it records
is recorded on an entry.  Where one way leads to each bean the results are the same. -/
theorem validate_keeps_first_entries (v : Validator) (heap : Heap) (all : v.PermitsAll)
    (stable : v.Stable) (dependable : v.Dependable) {root : Bean}
    (finite : {b | v.Reach heap root b}.Finite) (acyclic : v.Acyclic heap root)
    (groups : List Group) (copies copies' : Nat) :
    ∃ report unguarded, v.validate heap (.bean root) groups copies = some report ∧
      v.validateGuarded heap false (.bean root) groups copies' = some unguarded ∧
      report.result = unguarded.result.map unguarded.onFirstEntries ∧
      (∀ ws, unguarded.result = .ok ws → ∀ x ∈ ws.items, ∃ b path,
        (b, path) ∈ unguarded.entries ∧ x.leaf? = some b ∧ x.path.parent? = some path) ∧
      (v.TreeShaped heap root → report.result = unguarded.result) ∧
      ((v.introspection? root.type).isSome → ∃ vs, report.result = .ok vs) := by
  cases hvisit : v.toVisit? (.bean root) with
  | none =>
    obtain ⟨result, events, hempty, hok, hall⟩ := @validateGuarded_of_nothing v heap _ hvisit
    rw [← validateGuarded_true]
    have hunguarded := hall false groups copies'
    refine ⟨_, _, hall true groups copies, hunguarded, ?_,
      fun ws hws x => entered_of_recorded dependable.plain stable hunguarded hws, fun _ => rfl,
      fun hi => ⟨.empty, hok ?_⟩⟩
    · cases result with
      | error e => rfl
      | ok vs =>
        obtain rfl := hempty vs rfl
        rfl
    · simpa [toEnter?, Value.bean?] using hi
  | some start =>
    obtain ⟨root', i⟩ := start
    obtain ⟨⟨⟩, hi, -⟩ := toVisit?_eq_some.1 hvisit
    obtain ⟨stages₀, visited₀, stages, visited, hjourney₀, hjourney, hkept⟩ :=
      exists_follows all stable finite acyclic hi groups
    obtain ⟨unguarded, hunguarded, tells₀⟩ := validateGuarded_of_journey dependable.plain stable
      hvisit hjourney₀ (by rintro ⟨⟩) copies'
    obtain ⟨report, hreport, tells⟩ := validateGuarded_of_journey dependable.plain stable
      hvisit hjourney (by rintro ⟨⟩) copies
    obtain ⟨hresult₀, hentries₀⟩ := tells₀.of_dependable dependable
    obtain ⟨hresult, -⟩ := tells.of_dependable dependable
    rw [validateGuarded_true] at hreport
    refine ⟨report, unguarded, hreport, hunguarded, ?_,
      fun ws hws x => entered_of_recorded dependable.plain stable hunguarded hws, fun tree => ?_,
      fun _ => ⟨_, hresult⟩⟩
    · rw [hresult, hkept, hresult₀, Except.map, onFirstEntries_noted hentries₀]
    · rw [hresult, hkept, hresult₀,
        List.filter_eq_self.2 fun x hx => hjourney₀.kept hi tree hx]

end Validator

namespace Diamond

open BeanGraph.Ring (validator)

/-- What is wrong in the diamond, by way of an item of the bean on top. -/
def missing (item : Nat) : Violation :=
  let hops : List Hop := [⟨"items", some (.indexed item)⟩, ⟨"gift", some .single⟩, ⟨"name", none⟩]
  .of { Context.forRoot top [] with path := .along hops } (some shared) 0 (.ofKind .notNull) .null

/-- With the guard the missing name is found by way of the first item only. -/
theorem validateGuarded_top (guarded : Bool) :
    ∃ report vs, validator.validateGuarded heap guarded (.bean top) [] 0 = some report ∧
      report.result = .ok vs ∧
      vs.items = if guarded then [missing 0] else [missing 0, missing 1] := by
  refine Validator.validateGuarded_of_within 3 rfl ?_
  cases guarded <;> cbv

theorem acyclic {root : Bean} (hroot : root ∈ beans) : validator.Acyclic heap root := by
  refine Validator.acyclic_of_rank (beans.idxOf ·) fun b t hb ht => ?_
  obtain ⟨p, w, hw, hp, ht, -⟩ := ht
  obtain ⟨i, hi, hmem, rfl⟩ := hw.eq_get Ring.stable
  obtain rfl := Ring.introspection?_eq_some hi
  exact (targets_later b (reach_mem hroot hb) p hmem hp _ ht t rfl).2

theorem treeShaped_left : validator.TreeShaped heap left := by
  intro t _ hops way hops' way' h h'
  obtain ⟨rfl, rfl⟩ | ⟨rfl, rfl⟩ := hops_of_route h List.getLast?_concat
  · obtain ⟨-, rfl⟩ | ⟨ht, -⟩ := hops_of_route h' List.getLast?_concat
    · rfl
    · exact absurd ht (by decide)
  · obtain ⟨ht, -⟩ | ⟨-, rfl⟩ := hops_of_route h' List.getLast?_concat
    · exact absurd ht (by decide)
    · rfl

end Diamond

namespace Validator

theorem diamond_keeps_first_entries :
    (∃ report unguarded vs ws,
      Ring.validator.validate Diamond.heap (.bean Diamond.top) [] 0 = some report ∧
      Ring.validator.validateGuarded Diamond.heap false (.bean Diamond.top) [] 0 =
        some unguarded ∧
      report.result = .ok vs ∧ unguarded.result = .ok ws ∧
      vs.items = [Diamond.missing 0] ∧ ws.items = [Diamond.missing 0, Diamond.missing 1] ∧
      vs = unguarded.onFirstEntries ws) ∧
    ∃ report unguarded,
      Ring.validator.validate Diamond.heap (.bean Diamond.left) [] 0 = some report ∧
      Ring.validator.validateGuarded Diamond.heap false (.bean Diamond.left) [] 0 =
        some unguarded ∧
      report.result = unguarded.result ∧ ∃ vs, report.result = .ok vs := by
  have all : Ring.validator.PermitsAll := fun _ => ⟨rfl, rfl⟩
  have dependable : Ring.validator.Dependable := by
    intro kind tag routine h
    refine ⟨Ring.plain kind tag routine h, ?_⟩
    rw [Ring.routine_eq_notNull h]
    exact Routine.total_ofPredicate _ _
  have finite {root : Bean} (hroot : root ∈ Diamond.beans) :
      {b | Ring.validator.Reach Diamond.heap root b}.Finite :=
    (List.finite_toSet Diamond.beans).subset fun _ hb => Diamond.reach_mem hroot hb
  have hleft : Diamond.left ∈ Diamond.beans := List.mem_cons_of_mem _ List.mem_cons_self
  constructor
  · obtain ⟨report, unguarded, hreport, hunguarded, hresult, -⟩ :=
      validate_keeps_first_entries Ring.validator Diamond.heap all Ring.stable dependable
        (finite List.mem_cons_self) (Diamond.acyclic List.mem_cons_self) [] 0 0
    obtain ⟨report', vs, hreport', hvs, hitems⟩ := Diamond.validateGuarded_top true
    obtain ⟨unguarded', ws, hunguarded', hws, hitems'⟩ := Diamond.validateGuarded_top false
    rw [validateGuarded_true] at hreport'
    obtain rfl := Option.some.inj (hreport.symm.trans hreport')
    obtain rfl := Option.some.inj (hunguarded.symm.trans hunguarded')
    rw [hvs, hws] at hresult
    exact ⟨report, unguarded, vs, ws, hreport, hunguarded, hvs, hws, hitems, hitems',
      Except.ok.inj hresult⟩
  · obtain ⟨report, unguarded, hreport, hunguarded, -, -, htree, hok⟩ :=
      validate_keeps_first_entries Ring.validator Diamond.heap all Ring.stable dependable
        (finite hleft) (Diamond.acyclic hleft) [] 0 0
    exact ⟨report, unguarded, hreport, hunguarded, htree Diamond.treeShaped_left, hok rfl⟩

end Validator

end BeanGraph
