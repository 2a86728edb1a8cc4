import BeanGraph.Proofs.BareValue
import BeanGraph.Proofs.SingleProperty

/-!
# The second look

A cascade property is looked at twice: when its bean is entered, and as a cascade target.  If its
value is null, or neither a container nor a wrapper nor a bean to enter, there is nothing else to
it, and the second look is the first one over again, if there is one.  What it finds has been
recorded by then, and where the first look fails there is no second one.  So the mark makes no
difference to the result.

* `Told.sameTally`, `Echoes.sameTally`: to look once more at what has been looked at adds nothing;
* `Tour.insert_idle`, `Tour.of_insert_idle`: a target with nothing to enter in it can be put in or
  left out;
* `parallel_unmarking`, `parallel_marking`: the validations go past the same beans;
* `second_look_invisible`: what this comes to for their results, and how often the value is looked
  at.
-/

namespace BeanGraph

namespace Validator

variable {v : Validator} {heap : Heap} {guarded : Bool} {root b : Bean} {groups : List Group}
  {i : Introspection} {type : BeanType} {p : Property} {path : Path} {w : Value}
  {errands before after : List Errand} {visited : List Bean} {stages : List Stage}
  {left? : Option (List Bean)} {x : Inspection} {xs ys : List Inspection}

/-! ## Looking once more -/

/-- What inspections come to on top of what is recorded already: the first failure, or the
violations recorded then. -/
def tally (v : Validator) (root : Bean) (groups : List Group) (xs : List Inspection)
    (recorded : ViolationSet) : Except Failure ViolationSet :=
  (Verdict.all (xs.map (v.inspect root groups))).map recorded.insertAll

theorem tally_append (xs ys : List Inspection) (s : ViolationSet) :
    v.tally root groups (xs ++ ys) s =
      (v.tally root groups xs s).bind (v.tally root groups ys) := by
  unfold tally
  rw [List.map_append, Verdict.all_append]
  cases Verdict.all (xs.map (v.inspect root groups)) with
  | error e => rfl
  | ok found =>
    cases Verdict.all (ys.map (v.inspect root groups)) with
    | error e => rfl
    | ok found' => exact congrArg Except.ok (ViolationSet.insertAll_append s found found')

theorem tally_eq_error_iff (s : ViolationSet) {e : Failure} :
    v.tally root groups xs s = .error e ↔
      Verdict.all (xs.map (v.inspect root groups)) = .error e := by
  unfold tally
  cases Verdict.all (xs.map (v.inspect root groups)) <;> simp [Except.map]

/-- Two lists of inspections come to the same, whatever is recorded already. -/
def SameTally (v : Validator) (root : Bean) (groups : List Group) (xs ys : List Inspection) :
    Prop :=
  ∀ s, v.tally root groups xs s = v.tally root groups ys s

theorem SameTally.append {xs' ys' : List Inspection} (h : v.SameTally root groups xs ys)
    (h' : v.SameTally root groups xs' ys') : v.SameTally root groups (xs ++ xs') (ys ++ ys') := by
  intro s
  rw [tally_append, tally_append, h s]
  exact congrArg _ (funext h')

/-- An inspection finds nothing, or the same as one of some others. -/
def Told (v : Validator) (root : Bean) (groups : List Group) (xs : List Inspection)
    (x : Inspection) : Prop :=
  v.inspect root groups x = .ok [] ∨ ∃ y ∈ xs, v.inspect root groups y = v.inspect root groups x

theorem tally_singleton {found : List Violation} (h : v.inspect root groups x = .ok found)
    (s : ViolationSet) : v.tally root groups [x] s = .ok (s.insertAll found) := by
  rw [tally, List.map_singleton, Verdict.all_cons, Verdict.all_nil, Verdict.andThen_nothing, h]
  rfl

/-- To look at the end at what has been looked at adds nothing. -/
theorem Told.sameTally (told : v.Told root groups xs x) :
    v.SameTally root groups (xs ++ [x]) xs := by
  intro s
  rw [tally_append]
  cases hxs : Verdict.all (xs.map (v.inspect root groups)) with
  | error e =>
    have herror : v.tally root groups xs s = .error e := by rw [tally, hxs]; rfl
    rw [herror]
    rfl
  | ok found =>
    have hok : v.tally root groups xs s = .ok (s.insertAll found) := by rw [tally, hxs]; rfl
    rw [hok]
    change v.tally root groups [x] (s.insertAll found) = _
    obtain hnothing | ⟨y, hy, hyx⟩ := told
    · exact tally_singleton hnothing _
    · obtain ⟨hfound, rfl⟩ := all_inspect_eq_ok_iff.1 hxs
      obtain ⟨again, hagain⟩ := hfound y hy
      have hcontains : ∀ z ∈ again, (s.insertAll (v.recorded root groups xs)).contains z := by
        intro z hz
        have hrecorded : z ∈ v.recorded root groups xs :=
          List.mem_flatMap.2 ⟨y, hy, by rwa [hagain]⟩
        exact ViolationSet.contains_insertAll.2 (.inr ⟨z, hrecorded, BEq.rfl⟩)
      rw [tally_singleton (hyx.symm.trans hagain), ViolationSet.insertAll_of_contains hcontains]

/-- One list of inspections is another one, or has one more in a certain place. -/
def Echoes (x : Inspection) (xs xs' : List Inspection) : Prop :=
  xs' = xs ∨ ∃ before after, xs = before ++ after ∧ xs' = before ++ x :: after

theorem Echoes.prepend {xs' : List Inspection} (h : Echoes x xs xs') (before : List Inspection) :
    Echoes x (before ++ xs) (before ++ xs') := by
  obtain rfl | ⟨first, rest, rfl, rfl⟩ := h
  · exact .inl rfl
  · exact .inr ⟨before ++ first, rest, (List.append_assoc ..).symm, (List.append_assoc ..).symm⟩

/-- To look once more, at any time after the first look, adds nothing. -/
theorem Echoes.sameTally {xs' own : List Inspection} (told : v.Told root groups own x)
    (h : Echoes x xs xs') : v.SameTally root groups (own ++ xs') (own ++ xs) := by
  obtain rfl | ⟨before, after, rfl, rfl⟩ := h
  · exact fun _ => rfl
  · have still : v.Told root groups (own ++ before) x :=
      told.imp_right fun ⟨y, hy, hyx⟩ => ⟨y, List.mem_append_left _ hy, hyx⟩
    have hafter : v.SameTally root groups after after := fun _ => rfl
    have habsorbed := still.sameTally.append hafter
    rwa [List.append_assoc, List.append_assoc, List.singleton_append, List.append_assoc]
      at habsorbed

/-! ## A target with nothing to enter in it -/

section Idle

variable (hw : v.toEnter? w = none)
include hw

theorem Tour.cons_idle (p : Property)
    (h : v.Tour heap guarded root b path errands visited stages left?) :
    ∃ stages', v.Tour heap guarded root b path (.approach p none w :: errands) visited stages'
        left? ∧
      Echoes ⟨b, p, path.below p none, w⟩ (Stage.inspections stages)
        (Stage.inspections stages') := by
  by_cases skipped : Skips guarded visited w
  · exact ⟨stages, .skip skipped h, .inl rfl⟩
  by_cases admitted : v.Admits root (path.below p none) w none
  · exact ⟨_, .look skipped admitted hw h, .inr ⟨[], _, rfl, rfl⟩⟩
  · exact ⟨stages, .veto skipped admitted h, .inl rfl⟩

theorem Tour.of_cons_idle
    (h : v.Tour heap guarded root b path (.approach p none w :: errands) visited stages left?) :
    ∃ stages', v.Tour heap guarded root b path errands visited stages' left? ∧
      Echoes ⟨b, p, path.below p none, w⟩ (Stage.inspections stages')
        (Stage.inspections stages) := by
  cases h with
  | halt => exact ⟨[], .halt, .inl rfl⟩
  | skip skipped h => exact ⟨_, h, .inl rfl⟩
  | veto fresh vetoed h => exact ⟨_, h, .inl rfl⟩
  | look fresh admitted hu h => exact ⟨_, h, .inr ⟨[], _, rfl, rfl⟩⟩
  | mark fresh admitted hu | enter fresh admitted hu | within fresh admitted hu =>
    rw [hw] at hu
    cases hu

/-- A target with nothing to enter in it can be put in. -/
theorem Tour.insert_idle (p : Property)
    (h : v.Tour heap guarded root b path (before ++ after) visited stages left?) :
    ∃ stages', v.Tour heap guarded root b path (before ++ .approach p none w :: after) visited
        stages' left? ∧
      Echoes ⟨b, p, path.below p none, w⟩ (Stage.inspections stages)
        (Stage.inspections stages') := by
  obtain ⟨visited', stages₁, stages₂, rfl, h₁, h₂⟩ | ⟨rfl, hbroken⟩ := h.split
  · obtain ⟨stages', h', hechoes⟩ := h₂.cons_idle hw p
    refine ⟨_, h₁.append h', ?_⟩
    rw [Stage.inspections_append, Stage.inspections_append]
    exact hechoes.prepend _
  · exact ⟨stages, hbroken.append_none _, .inl rfl⟩

/-- A target with nothing to enter in it can be left out. -/
theorem Tour.of_insert_idle
    (h : v.Tour heap guarded root b path (before ++ .approach p none w :: after) visited stages
      left?) :
    ∃ stages', v.Tour heap guarded root b path (before ++ after) visited stages' left? ∧
      Echoes ⟨b, p, path.below p none, w⟩ (Stage.inspections stages')
        (Stage.inspections stages) := by
  obtain ⟨visited', stages₁, stages₂, rfl, h₁, h₂⟩ | ⟨rfl, hbroken⟩ := h.split
  · obtain ⟨stages', h', hechoes⟩ := h₂.of_cons_idle hw
    refine ⟨_, h₁.append h', ?_⟩
    rw [Stage.inspections_append, Stage.inspections_append]
    exact hechoes.prepend _
  · exact ⟨stages, hbroken.append_none _, .inl rfl⟩

end Idle

/-! ## The property with the mark and without it -/

section Own

variable (hp : p ∈ i.properties) (bare : v.Bare (i.get p heap b))
include hp bare

/-- What is found when the bean is entered is the same with the mark and without it. -/
theorem sameTally_own (path : Path) (cascade cascade' : Bool) :
    v.SameTally root groups (v.ownInspections heap (i.marking p.name cascade) b path)
      (v.ownInspections heap (i.marking p.name cascade') b path) := by
  obtain ⟨before, after, hown⟩ := exists_own_marking v hp bare path
  have hinspect :
      (v.ownInspections heap (i.marking p.name cascade) b path).map (v.inspect root groups) =
        (v.ownInspections heap (i.marking p.name cascade') b path).map (v.inspect root groups) := by
    rw [hown, hown]
    simp only [List.map_append]
    cases p.isConstrained <;> rfl
  intro s
  rw [tally, tally, hinspect]

theorem told_own (path : Path) (cascade cascade' : Bool) :
    v.Told root groups (v.ownInspections heap (i.marking p.name cascade) b path)
      (lookAt b path { p with cascade := cascade' } (i.get p heap b)) := by
  cases hconstrained : p.isConstrained with
  | false =>
    -- there are no constraints for the look to find anything wrong with
    have hlook : lookAt b path { p with cascade := cascade' } (i.get p heap b) ∈
        v.propertyInspections heap b path { p with cascade := cascade' } (i.get p heap b) := by
      rw [bare.propertyInspections]
      exact List.mem_singleton_self _
    have hmarked : Property.isConstrained { p with cascade := cascade' } = false := hconstrained
    exact .inl (inspect_of_unconstrained hmarked _ hlook)
  | true =>
    obtain ⟨before, after, hown⟩ := exists_own_marking v hp bare path
    refine .inr ⟨lookAt b path { p with cascade } (i.get p heap b), ?_, rfl⟩
    rw [hown, hconstrained, if_pos rfl]
    simp

end Own

section Bare

variable (bare : v.Bare w)
include bare

/-- The approach to a bare value can be put in. -/
theorem Tour.insert_bare (q : Property)
    (h : v.Tour heap guarded root b path (before ++ after) visited stages left?) :
    ∃ stages', v.Tour heap guarded root b path (before ++ v.approaches heap q w ++ after) visited
        stages' left? ∧
      Echoes (lookAt b path q w) (Stage.inspections stages) (Stage.inspections stages') := by
  rw [bare.approaches]
  split
  · rw [List.append_nil]
    exact ⟨stages, h, .inl rfl⟩
  · rw [List.append_assoc]
    exact h.insert_idle bare.toEnter? q

/-- The approach to a bare value can be left out. -/
theorem Tour.of_insert_bare
    (h : v.Tour heap guarded root b path (before ++ v.approaches heap q w ++ after) visited stages
      left?) :
    ∃ stages', v.Tour heap guarded root b path (before ++ after) visited stages' left? ∧
      Echoes (lookAt b path q w) (Stage.inspections stages') (Stage.inspections stages) := by
  rw [bare.approaches] at h
  split at h
  · rw [List.append_nil] at h
    exact ⟨stages, h, .inl rfl⟩
  · rw [List.append_assoc] at h
    exact h.of_insert_idle bare.toEnter?

end Bare

section Marking

variable (hi : v.introspection? type = some i) (hp : p ∈ i.properties)
  (bare : ∀ b, (v.marking type p.name false).Reach heap root b → b.type = type →
    v.Bare (i.get p heap b))
include hi hp bare

/-- Leaving out the approach to the property makes no difference to what a bean comes to: what it
finds the bean itself has been found to have. -/
theorem parallel_unmarking (stable : v.Stable) (groups : List Group) :
    Parallel (v.marking type p.name true) (v.marking type p.name false) heap true root
      ((v.marking type p.name false).Reach heap root) (fun _ q => q)
      (v.SameTally root groups) where
  resolver := rfl
  known := v.known_marking type p.name true false
  name _ _ := rfl
  below b t hb ht := hb.of_below (below_of_marked hi hp bare stable hb ht)
  nil _ := rfl
  append _ _ _ _ := SameTally.append
  target _ _ _ _ _ _ _ _ _ := rfl
  enter b j₁ j₀ hb hj₁ hj₀ path visited stages left? h := by
    rw [Errand.map_id] at h
    by_cases htype : b.type = type
    · subst htype
      obtain rfl := Option.some.inj ((introspection?_marking hi p.name true).symm.trans hj₁)
      obtain rfl := Option.some.inj ((introspection?_marking hi p.name false).symm.trans hj₀)
      have hw := bare b hb rfl
      obtain ⟨before, after, hmarked, hunmarked⟩ := exists_agenda_marking v heap b hp
      have h' := hmarked ▸ h
      obtain ⟨stages', htour, hechoes⟩ := Tour.of_insert_bare (hw.marking b.type p.name false) h'
      refine ⟨stages', .of_agenda hj₀ (hunmarked ▸ htour), fun xs hxs s => ?_⟩
      have hsame := (sameTally_own hp hw path true false).append hxs s
      exact hsame.trans (hechoes.sameTally (told_own hp hw path false true) s)
    · obtain rfl : j₁ = j₀ := by
        rw [introspection?_marking_of_ne htype] at hj₁ hj₀
        exact Option.some.inj (hj₁.symm.trans hj₀)
      exact ⟨stages, .of_agenda hj₀ h, fun xs hxs => SameTally.append (fun _ => rfl) hxs⟩

/-- Putting in the approach to the property makes no difference either. -/
theorem parallel_marking (groups : List Group) :
    Parallel (v.marking type p.name false) (v.marking type p.name true) heap true root
      ((v.marking type p.name false).Reach heap root) (fun _ q => q)
      (v.SameTally root groups) where
  resolver := rfl
  known := v.known_marking type p.name false true
  name _ _ := rfl
  below b t hb ht := hb.of_below ht
  nil _ := rfl
  append _ _ _ _ := SameTally.append
  target _ _ _ _ _ _ _ _ _ := rfl
  enter b j₀ j₁ hb hj₀ hj₁ path visited stages left? h := by
    rw [Errand.map_id] at h
    by_cases htype : b.type = type
    · subst htype
      obtain rfl := Option.some.inj ((introspection?_marking hi p.name true).symm.trans hj₁)
      obtain rfl := Option.some.inj ((introspection?_marking hi p.name false).symm.trans hj₀)
      have hw := bare b hb rfl
      obtain ⟨before, after, hmarked, hunmarked⟩ := exists_agenda_marking v heap b hp
      have h' := hunmarked ▸ h
      obtain ⟨stages', htour, hechoes⟩ := Tour.insert_bare (hw.marking b.type p.name true)
        { p with cascade := true } h'
      refine ⟨stages', .of_agenda hj₁ (hmarked ▸ htour), fun xs hxs s => ?_⟩
      have hsame := (sameTally_own hp hw path false true).append hxs s
      exact hsame.trans (hechoes.sameTally (told_own hp hw path true true) s).symm
    · obtain rfl : j₁ = j₀ := by
        rw [introspection?_marking_of_ne htype] at hj₁ hj₀
        exact Option.some.inj (hj₁.symm.trans hj₀)
      exact ⟨stages, .of_agenda hj₁ h, fun xs hxs => SameTally.append (fun _ => rfl) hxs⟩

end Marking

/-! ## Results -/

/-- No violation is in a result twice. -/
theorem distinct_of_outcome {vs : ViolationSet} (h : v.outcome root groups xs = .ok vs) :
    vs.Distinct := by
  unfold outcome at h
  cases hall : Verdict.all (xs.map (v.inspect root groups)) with
  | error e =>
    rw [hall] at h
    cases h
  | ok found =>
    rw [hall] at h
    obtain rfl := Except.ok.inj h
    exact ViolationSet.Distinct.insertAll .nil found

/-- A property with a bare value in all beans within reach may be marked as cascade or not: the
result of a validation is the same, and no violation is in it twice.  With the mark, if the
validation goes well, the value is looked at twice in each bean that is entered, unless it is null
or the resolver does not admit it; the routines are called at each look.  The getters are to be
stable, and the routines do not look at the context. -/
theorem second_look_invisible (v : Validator) (heap : Heap) (stable : v.Stable) (plain : v.Plain)
    {type : BeanType} {i : Introspection} (hi : v.introspection? type = some i) {p : Property}
    (hp : p ∈ i.properties) (object : Value)
    (bare : ∀ root b, object = .bean root → (v.marking type p.name false).Reach heap root b →
      b.type = type → v.Bare (i.get p heap b))
    (groups : List Group) (copies copies' : Nat) :
    ((v.marking type p.name true).validate heap object groups copies).map (·.result) =
        ((v.marking type p.name false).validate heap object groups copies').map (·.result) ∧
      (∀ report vs, (v.marking type p.name true).validate heap object groups copies = some report →
        report.result = .ok vs → vs.Distinct) ∧
      ∀ cascade copies report vs,
        (v.marking type p.name cascade).validate heap object groups copies = some report →
        report.result = .ok vs → p.isConstrained = true →
        ∀ b path, (b, path) ∈ report.entries → b.type = type →
          ∃ root stages, object = .bean root ∧
            (v.marking type p.name cascade).Retraces heap root groups stages report ∧
            (Stage.inspectionsOf b stages).filter (·.property.name = p.name) =
              List.replicate (v.lookCount root path p (i.get p heap b) cascade)
                (lookAt b path { p with cascade } (i.get p heap b)) := by
  have stable₁ := stable.marking type p.name true
  have stable₀ := stable.marking type p.name false
  have plain₁ : (v.marking type p.name true).Plain := plain
  have plain₀ : (v.marking type p.name false).Plain := plain
  have fails {root : Bean} {xs ys : List Inspection} {e : Failure}
      (h : v.SameTally root groups xs ys)
      (he : Verdict.all (xs.map (v.inspect root groups)) = .error e) :
      ∃ e', Verdict.all (ys.map (v.inspect root groups)) = .error e' := by
    rw [← tally_eq_error_iff .empty, h] at he
    exact ⟨e, (tally_eq_error_iff .empty).1 he⟩
  refine ⟨?_, ?_, ?_⟩
  · refine result_eq_of_corresponds (f := id) (v.known_marking type p.name true false)
      (fun _ => rfl) ?_ ?_
    · rintro root j rfl hj result h
      obtain ⟨xs, ys, hsame, rfl, hunmarked⟩ :=
        (parallel_unmarking hi hp (fun b => bare root b rfl) stable groups).exists_result .root
          plain₁ stable₁ plain₀ stable₀ hj (fun _ _ _ => fails) h
      exact ⟨_, (hsame .empty).symm, hunmarked⟩
    · rintro root j rfl hj result h
      obtain ⟨xs, ys, -, -, hmarked⟩ :=
        (parallel_marking hi hp (fun b => bare root b rfl) groups).exists_result .root
          plain₀ stable₀ plain₁ stable₁ hj (fun _ _ _ => fails) h
      exact ⟨_, hmarked⟩
  · intro report vs hreport hvs
    obtain ⟨root, j, rfl, hj⟩ := object_of_validate hreport hvs
    have hresult : ((v.marking type p.name true).validate heap (.bean root) groups copies).map
        (·.result) = some (.ok vs) := by rw [hreport, Option.map_some, hvs]
    obtain ⟨stages, left?, -, -, houtcome⟩ := exists_journey_of_result plain₁ stable₁ hj hresult
    exact distinct_of_outcome houtcome.symm
  · intro cascade copies report vs hreport hvs hconstrained b path hb htype
    obtain ⟨root, -, rfl, -⟩ := object_of_validate hreport hvs
    obtain ⟨stages, hretraces, hlooks⟩ := exists_looks hi hp (fun b => bare root b rfl) stable plain
      hconstrained cascade hreport hvs hb htype
    exact ⟨root, stages, rfl, hretraces, hlooks⟩

end Validator

/-! ## A discount that is no optional -/

namespace Discount

theorem stable : validator.Stable := by
  intro t j hj q hq
  simp only [validator, Option.ite_none_right_eq_some, Option.some.injEq] at hj
  obtain ⟨-, rfl⟩ := hj
  obtain rfl := List.mem_singleton.1 hq
  exact Getter.stable_field _

/-- The discount of a bean is null if it is not that of the order. -/
theorem get_discount (w : Value) (b : Bean) : introspection.get discount (heap w) b = w ∨
    introspection.get discount (heap w) b = .null := by
  have hrecord : (heap w).record b = if order.label = b.label then [("discount", w)] else [] := by
    simp only [heap, Heap.record, List.find?_singleton]
    split <;> simp_all
  rw [Introspection.get, Introspection.read, hrecord]
  split
  · split
    · exact .inl rfl
    · exact .inr rfl
  · exact .inr rfl

theorem bare_null : validator.Bare .null := ⟨nofun, rfl⟩

theorem bare_three : validator.Bare (.int 3) := by
  refine ⟨?_, rfl⟩
  rintro tag ⟨⟩
  exact ⟨rfl, rfl⟩

theorem bare_discount {w : Value} (hw : validator.Bare w) (b : Bean) :
    validator.Bare (introspection.get discount (heap w) b) := by
  obtain h | h := get_discount w b
  · rwa [h]
  · rw [h]
    exact bare_null

theorem exists_report (cascade : Bool) :
    ∃ report, (validator.marking type "discount" cascade).validate (heap (.int 3)) (.bean order) []
        0 = some report ∧
      (report.result, report.calls.length, report.entries) =
        (.ok ⟨[tooSmall (.forRoot order []) (some order) (.int 3)]⟩,
          if cascade then 2 else 1, [(order, .root)]) := by
  rw [← Validator.validateGuarded_true]
  cases cascade with
  | true => exact Validator.exists_report_of_within 2 rfl (by cbv)
  | false => exact Validator.exists_report_of_within 2 rfl (by cbv)

end Discount

namespace Validator

open Discount (type discount introspection validator order heap tooSmall)

/-- A discount of three is found too small once, though with the mark it is looked at, and asked
about, twice. -/
theorem small_discount_found_once :
    ∃ report report',
      (validator.marking type "discount" true).validate (heap (.int 3)) (.bean order) [] 0 =
        some report ∧
      (validator.marking type "discount" false).validate (heap (.int 3)) (.bean order) [] 0 =
        some report' ∧
      report.result = report'.result ∧
      report.result = .ok ⟨[tooSmall (.forRoot order []) (some order) (.int 3)]⟩ ∧
      report.calls.length = 2 ∧ report'.calls.length = 1 ∧
      ∃ stages, (validator.marking type "discount" true).Retraces (heap (.int 3)) order [] stages
          report ∧
        (Stage.inspectionsOf order stages).filter (·.property.name = "discount") =
          List.replicate 2 (lookAt order .root { discount with cascade := true } (.int 3)) := by
  have plain : validator.Plain := fun _ _ _ => RoutineRegistry.plain_of_builtIn
  have hi : validator.introspection? type = some introspection := rfl
  have hp : discount ∈ introspection.properties := List.mem_cons_self
  obtain ⟨hsame, -, hlooks⟩ := second_look_invisible validator (heap (.int 3)) Discount.stable plain
    hi hp (.bean order) (fun _ b _ _ _ => Discount.bare_discount Discount.bare_three b) [] 0 0
  obtain ⟨report, hreport, htold⟩ := Discount.exists_report true
  obtain ⟨report', hreport', htold'⟩ := Discount.exists_report false
  obtain ⟨hresult, htold⟩ := Prod.mk.inj htold
  obtain ⟨hcalls, hentries⟩ := Prod.mk.inj htold
  have hcalls' := (Prod.mk.inj (Prod.mk.inj htold').2).1
  have hentered : (order, .root) ∈ report.entries := by
    rw [hentries]
    exact List.mem_singleton_self _
  obtain ⟨root, stages, ⟨⟩, hretraces, htwice⟩ :=
    hlooks true 0 report _ hreport hresult rfl order .root hentered rfl
  have hget : introspection.get discount (heap (.int 3)) order = .int 3 := rfl
  have hcount : validator.lookCount order .root discount (.int 3) true = 2 :=
    if_pos ⟨rfl, nofun, fun _ _ => ⟨rfl, rfl⟩⟩
  rw [hget, hcount] at htwice
  refine ⟨report, report', hreport, hreport', ?_, hresult, hcalls, hcalls', stages, hretraces,
    htwice⟩
  change ((validator.marking type "discount" true).validate _ _ _ _).map _ =
    ((validator.marking type "discount" false).validate _ _ _ _).map _ at hsame
  rw [hreport, hreport', Option.map_some, Option.map_some] at hsame
  exact Option.some.inj hsame

end Validator

namespace Discount

/-- Asks a routine about a discount, whatever its type. -/
def asking (routine : Routine) : Validator :=
  { validator with routines := .ofList (RoutineRegistry.onTags .min [.any] routine) }

/-- The built-in routine for a least number. -/
def atLeast : Routine := .intBound "Min" .lower

/-- Has no answer for any value. -/
def speechless : Routine := ⟨"Min", fun _ _ _ => .error (.custom "no answer")⟩

/-- Cascades into nothing. -/
def vetoing : Validator := { asking atLeast with resolver := ⟨fun _ => false, fun _ => true⟩ }

/-- A visit of the order that stops in time tells what comes of a marked discount, and what is
asked about it. -/
theorem exists_told {v : Validator} {w : Value} {result : Except Failure ViolationSet}
    {occasions : List Occasion} (hi : v.introspection? type = some introspection)
    (hrun : ((v.marking type "discount" true).visitWithin (heap w) 2
        (introspection.marking "discount" true) order (.start order [] 0)).map
      (fun done => ((Report.of done).result, (Report.of done).occasions)) =
        some (result, occasions)) :
    ∃ report, (v.marking type "discount" true).validate (heap w) (.bean order) [] 0 = some report ∧
      report.result = result ∧ report.occasions = occasions := by
  have hobject : (v.marking type "discount" true).toVisit? (.bean order) =
      some (order, introspection.marking "discount" true) :=
    Validator.toVisit?_eq_some.2 ⟨rfl, Validator.introspection?_marking hi "discount" true, rfl⟩
  obtain ⟨done, hdone, htold⟩ := Option.map_eq_some_iff.1 hrun
  exact ⟨_, Validator.validate_of_within hobject hdone, Prod.mk.inj htold⟩

/-- A marked discount is asked about just once all the same if it is null, if the resolver vetoes
it, or if the routine has no answer.  In each case it is bare in all beans. -/
theorem asked_once :
    (∀ b, (asking atLeast).Bare (introspection.get discount (heap .null) b) ∧
      vetoing.Bare (introspection.get discount (heap (.int 3)) b) ∧
      (asking speechless).Bare (introspection.get discount (heap (.int 3)) b)) ∧
    (∃ report, ((asking atLeast).marking type "discount" true).validate (heap .null) (.bean order)
        [] 0 = some report ∧
      report.result = .ok .empty ∧
      report.occasions = [⟨"Min", .single "discount", 0, .min 5, .null⟩]) ∧
    (∃ report, (vetoing.marking type "discount" true).validate (heap (.int 3)) (.bean order)
        [] 0 = some report ∧
      report.result = .ok ⟨[tooSmall (.forRoot order []) (some order) (.int 3)]⟩ ∧
      report.occasions = [⟨"Min", .single "discount", 0, .min 5, .int 3⟩]) ∧
    ∃ report, ((asking speechless).marking type "discount" true).validate (heap (.int 3))
        (.bean order) [] 0 = some report ∧
      report.result = .error (.evaluation .min (.single "discount") (.custom "no answer")) ∧
      report.occasions = [⟨"Min", .single "discount", 0, .min 5, .int 3⟩] := by
  refine ⟨fun b => ?_, exists_told rfl (by cbv), exists_told rfl (by cbv),
    exists_told rfl (by cbv)⟩
  obtain ⟨inert, toEnter⟩ := bare_discount bare_null b
  obtain ⟨inert', toEnter'⟩ := bare_discount bare_three b
  exact ⟨⟨inert, toEnter⟩, ⟨inert', toEnter'⟩, ⟨inert', toEnter'⟩⟩

end Discount

end BeanGraph
