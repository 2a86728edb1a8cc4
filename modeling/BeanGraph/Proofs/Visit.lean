import BeanGraph.Proofs.Passage
import BeanGraph.Validator
import Mathlib

/-!
# Visits are passages

Every part of the traversal does what a `Passage` may do.  The parts that go below a bean are told
how to visit there, and a visit of theirs need be a passage only for targets of the bean that have
just been entered (`Deeper`); an argument about the visit itself has its induction there.

* `visitBy_leads`: so is the visit of one bean, if the visits below it are;
* `visit_passage`: whatever a visit does is a passage;
* `validate_of_toVisit`, `validate_of_nothing`: a validation is the visit of its root, or has
  nothing to visit;
* `passage_of_validate`: so what a validation does is a passage from its root, if anything.
-/

namespace BeanGraph

namespace Validator

open Call

variable {v : Validator} {heap : Heap} {place : Place} {s t u : Progress} {r : Except Failure Unit}

/-! ## Checking is a passage -/

/-- Whatever the notes and the judgements on a value keep, a check of the value keeps. -/
theorem checkValue_keeps {leaf? : Option Bean} {p : Property} {value : Value} {D : Prop}
    {P : Except Failure Unit → Progress → Prop} (start : P (.ok ()) s)
    (notes : ∀ t e, Event.IsNote e → P (.ok ()) t → P (.ok ()) (t.record e))
    (judges : ∀ t routine declaration c, t.context = s.context → P (.ok ()) t →
      v.Applies t.context.groups p value routine declaration c →
      P (judge leaf? routine declaration c value t).1
        (judge leaf? routine declaration c value t).2) :
    (Walk.ofStep (v.checkValue leaf? p value)).Leads s
      (fun r t => P r t ∧ t.context = s.context) D := by
  rw [checkValue, Walk.ofStep_bind, Walk.leads_bind_ofStep (context_apply s), Walk.ofStep_forM]
  refine Walk.leads_forM ⟨start, rfl⟩ fun kind _ t ⟨ht, hcontext⟩ => ?_
  split
  · rw [Walk.ofStep_bind, Walk.leads_bind_ofStep (context_apply t)]
    exact ⟨notes t _ trivial ht, hcontext⟩
  · rename_i routine hroutine
    rw [Walk.ofStep_forM]
    refine Walk.leads_forM ⟨ht, hcontext⟩ fun d hd u ⟨hu, hcontext'⟩ => ?_
    obtain ⟨happlicable, rfl⟩ := Property.mem_ofKind.1 hd
    have happlies : v.Applies u.context.groups p value routine d.1 d.2 := by
      rw [hcontext']
      exact ⟨happlicable, hroutine⟩
    exact ⟨judges u routine d.1 d.2 hcontext' hu happlies, (context_judge ..).trans hcontext'⟩

theorem checkValue_leads {leaf? : Option Bean} {p : Property} {value : Value} {D : Prop}
    (judges : ∀ t routine declaration c, t.context = s.context →
      v.Passage heap place s (.ok ()) t →
      v.Applies t.context.groups p value routine declaration c →
      v.Passage heap place t (judge leaf? routine declaration c value t).1
        (judge leaf? routine declaration c value t).2) :
    (Walk.ofStep (v.checkValue leaf? p value)).Leads s
      (fun r t => v.Passage heap place s r t ∧ t.context = s.context) D :=
  checkValue_keeps .rest (fun _ _ he ht => ht.next (.note he))
    fun t routine declaration c hcontext ht happlies =>
      ht.next (judges t routine declaration c hcontext ht happlies)

theorem checkProperty_leads (leaf? : Option Bean) (p : Property) (w : Value) {D : Prop} :
    (Walk.ofStep (v.checkProperty heap leaf? p w)).Leads s
      (fun r t => ∃ u, v.Passage heap (.value leaf? p w) (s.hop ⟨p.name, none⟩) r u ∧ t = u.pop)
      D := by
  have check : ∀ value ∈ v.subjects heap p w, ∀ t,
      (Walk.ofStep (v.checkValue leaf? p value)).Leads t
        (fun r u => v.Passage heap (.value leaf? p w) t r u) D := fun value hvalue t =>
    (checkValue_leads fun _ _ _ _ _ _ happlies => .judge hvalue happlies).mono fun _ _ h => h.1
  rw [checkProperty, Walk.ofStep_below]
  refine Walk.Leads.below (Walk.Leads.mono ?_ fun r u hu => ⟨u, hu, rfl⟩)
  unfold subjects at check
  split <;> rename_i hunwrap <;> rw [hunwrap] at check
  · rw [Walk.ofStep_feed]
    refine Walk.leads_forM .rest fun e he t ht => ?_
    exact (check e.value (List.mem_map_of_mem he) t).mono fun _ _ h => ht.next h
  · exact check w (List.mem_singleton_self w) _

/-- Checks some properties of a bean, as a visit does for the constrained ones. -/
def checkEach (v : Validator) (heap : Heap) (i : Introspection) (b : Bean) (l : List Property) :
    Step Unit :=
  l.forM fun p => do v.checkProperty heap (some b) p (← read heap i p b)

theorem checkEach_leads {i : Introspection} {b : Bean} (hi : v.introspection? b.type = some i)
    {l : List Property} (hl : l ⊆ i.properties) {D : Prop} :
    (Walk.ofStep (v.checkEach heap i b l)).Leads s (fun r t => v.Passage heap (.bean b) s r t)
      D := by
  rw [checkEach, Walk.ofStep_forM]
  refine Walk.leads_forM .rest fun p hp t ht => ?_
  have hreads : v.Reads heap b p (i.read p heap b t.copies).1 := ⟨i, hi, hl hp, t.copies, rfl⟩
  rw [Walk.ofStep_bind, Walk.leads_bind_ofStep (read_apply t heap i p b)]
  refine (checkProperty_leads (some b) p _).mono fun r u ⟨x, hx, hu⟩ => ?_
  subst hu
  exact (ht.next (.read _)).next (.value hreads hx)

theorem checkBean_leads {i : Introspection} {b : Bean} (hi : v.introspection? b.type = some i)
    {D : Prop} :
    (Walk.ofStep (v.checkBean heap i b)).Leads s (fun r t => v.Passage heap (.bean b) s r t) D :=
  checkEach_leads hi fun _ hp => (List.mem_filter.1 hp).1

/-! ## Descending is a passage -/

theorem query_apply (question : Question) (target : Target) :
    v.query question target s =
      (.ok (v.resolver.answer question target),
        s.record (.asked question target s.context (v.resolver.answer question target))) := rfl

/-- The two questions are asked in turn, and the answer to both of them is yes or the target is not
gone into. -/
theorem allows_leads (heap : Heap) (b : Bean) (p : Property) {element? : Option Element}
    {value : Value} {target : Target} {D : Prop} (fresh : s.context.hasVisitedValue value = false)
    (ht : s.context.target? value (.of element?) = some target) :
    (Walk.ofStep (v.allows target)).Leads s
      (fun r t => ∃ allowed, r = .ok allowed ∧ Unmoved s t ∧
        v.Passage heap (.target b p element? value) s (.ok ()) t ∧
        (allowed = true ↔ v.resolver.isCascadable target = true ∧
          v.resolver.isReachable target = true) ∧
        (allowed = true → ∀ question, .asked question target s.context true ∈ t.events)) D := by
  have cascadable : v.Passage heap (.target b p element? value) s (.ok ()) _ :=
    .ask .isCascadable fresh ht nofun
  rw [allows, Walk.ofStep_bind, Walk.leads_bind_ofStep (query_apply ..)]
  split
  · rename_i hc
    let asked (t : Progress) (question : Question) : Progress :=
      t.record (.asked question target s.context (v.resolver.answer question target))
    have hcascadable :
        .asked .isCascadable target s.context true ∈ (asked s .isCascadable).events := by
      simp [asked, Progress.record, hc]
    refine ⟨_, rfl, ⟨rfl, rfl⟩, cascadable.next (.ask .isReachable fresh ht fun _ => hcascadable),
      ⟨fun hr => ⟨hc, hr⟩, fun h => h.2⟩, fun hr question => ?_⟩
    cases question with
    | isCascadable => exact Array.mem_push_of_mem _ hcascadable
    | isReachable =>
      show _ ∈ (asked (asked s .isCascadable) .isReachable).events
      simp [asked, Progress.record, hr]
  · rename_i hc
    exact ⟨false, rfl, ⟨rfl, rfl⟩, cascadable, iff_of_false Bool.false_ne_true fun h => hc h.1,
      fun h => absurd h Bool.false_ne_true⟩

theorem permits_leads (heap : Heap) (b : Bean) (p : Property) {element? : Option Element}
    {value : Value} {D : Prop} (fresh : s.context.hasVisitedValue value = false) :
    (Walk.ofStep (v.permits value (.of element?))).Leads s
      (fun r t => ∃ allowed, r = .ok allowed ∧ Unmoved s t ∧
        v.Passage heap (.target b p element? value) s (.ok ()) t ∧
        (allowed = true ↔ v.Permits s.context value (.of element?)) ∧
        (allowed = true → v.Permitted t value (.of element?))) D := by
  rw [permits, Walk.ofStep_bind, Walk.leads_bind_ofStep (context_apply s)]
  split
  · rename_i hnone
    have permits : v.Permits s.context value (.of element?) := fun target ht => by
      simp [hnone] at ht
    have permitted : v.Permitted s value (.of element?) := fun target ht => by
      simp [hnone] at ht
    exact Walk.leads_pure ⟨true, rfl, .refl s, .rest, ⟨fun _ => permits, fun _ => rfl⟩,
      fun _ => permitted⟩
  · rename_i target ht
    have permits_iff : v.Permits s.context value (.of element?) ↔
        v.resolver.isCascadable target = true ∧ v.resolver.isReachable target = true := by
      refine ⟨fun h => h target ht, fun h target' ht' => ?_⟩
      obtain rfl := Option.some.inj (ht.symm.trans ht')
      exact h
    rw [Walk.ofStep_bind]
    refine (allows_leads heap b p fresh ht).bind ?_ (by rintro e t ⟨_, h, -⟩; cases h)
    rintro allowed t ⟨_, ⟨⟩, hunmoved, hpassage, hallowed, hasked⟩
    cases allowed with
    | false =>
      have note : Event.IsNote (.logged (.vetoed s.context.path (.of element?))) := trivial
      exact ⟨false, rfl, ⟨hunmoved.context, hunmoved.violations⟩, hpassage.next (.note note),
        hallowed.trans permits_iff.symm, nofun⟩
    | true =>
      refine ⟨true, rfl, hunmoved, hpassage, hallowed.trans permits_iff.symm, fun _ => ?_⟩
      intro target' ht' question
      rw [hunmoved.context] at ht' ⊢
      obtain rfl := Option.some.inj (ht.symm.trans ht')
      refine ⟨?_, hasked rfl question⟩
      obtain ⟨hcascadable, hreachable⟩ := hallowed.1 rfl
      cases question with
      | isCascadable => exact hcascadable
      | isReachable => exact hreachable

/-- A descent from a bean, begun in one state, that arrives in another one at a bean to visit: a
target of the bean that has just been entered for the first time. -/
structure Deeper (heap : Heap) (b : Bean) (s : Progress) (i : Introspection) (t : Bean)
    (s' : Progress) : Prop where
  introspection : v.introspection? t.type = some i
  held : ∃ p w, v.Reads heap b p w ∧ p.cascade = true ∧ .bean t ∈ v.targets heap w
  fresh : t ∉ s.context.visited
  entered : t ∈ s'.context.visited
  visited : s.context.visited ⊆ s'.context.visited
  pending : s'.context.pending = none

theorem Deeper.of_framed {b t : Bean} {i : Introspection} {s s' s'' : Progress}
    (h : v.Deeper heap b s' i t s'') (hs : Framed s s') : v.Deeper heap b s i t s'' where
  introspection := h.introspection
  held := h.held
  fresh hmem := h.fresh (hs.visited hmem)
  entered := h.entered
  visited := List.Subset.trans hs.visited h.visited
  pending := h.pending

theorem lookUp_leads (heap : Heap) (b : Bean) (p : Property) (element? : Option Element)
    (u : Value) {D : Prop} :
    (Walk.ofStep (v.lookUp u)).Leads s
      (fun r t => r = .ok (v.toEnter? u) ∧ Unmoved s t ∧
        v.Passage heap (.target b p element? u) s (.ok ()) t) D := by
  cases h : u.bean? with
  | none =>
    have hs : v.lookUp u s = (.ok (v.toEnter? u), s) := by
      simp only [lookUp, h]
      rfl
    exact Walk.leads_ofStep.2 (by rw [hs]; exact ⟨rfl, .refl s, .rest⟩)
  | some t =>
    have hs : v.lookUp u s = (.ok (v.toEnter? u), s.record (.lookedUp t.type)) := by
      simp only [lookUp, h]
      rfl
    have note : Event.IsNote (.lookedUp t.type) := trivial
    exact Walk.leads_ofStep.2 (by rw [hs]; exact ⟨rfl, ⟨rfl, rfl⟩, .note note⟩)

theorem toEnter?_eq_some {u : Value} {t : Bean} {i : Introspection} :
    v.toEnter? u = some (t, i) ↔ u = .bean t ∧ v.introspection? t.type = some i := by
  cases u with
  | bean b =>
    simp only [toEnter?, Value.bean?, Option.bind_some, Option.map_eq_some_iff, Prod.mk.injEq,
      Value.bean.injEq]
    constructor
    · rintro ⟨_, hi, rfl, rfl⟩
      exact ⟨rfl, hi⟩
    · rintro ⟨rfl, hi⟩
      exact ⟨i, hi, rfl, rfl⟩
  | _ => simp [toEnter?, Value.bean?]

/-- What has been permitted stays so, as long as the context is the same. -/
theorem Permitted.passage {u : Value} {elementType : ElementType}
    (h : v.Permitted s u elementType) (hcontext : t.context = s.context)
    (hpassage : v.Passage heap place s r t) : v.Permitted t u elementType := by
  intro target ht question
  rw [hcontext] at ht ⊢
  exact (h target ht question).imp_right hpassage.mem_events

section Descent

variable {visitBelow : Introspection → Bean → Walk Unit} {b : Bean} {p : Property} {D : Prop}

theorem enter_leads {element? : Option Element} {u : Value}
    (fresh : s.context.hasVisitedValue u = false)
    (permitted : v.Permitted s u (.of element?))
    (visits : ∀ t i s', v.toEnter? u = some (t, i) → s'.context = s.context.visit t →
      (visitBelow i t).Leads s' (fun r x => v.Passage heap (.bean t) (s'.enter t) r x) D) :
    (v.enter visitBelow b p u).Leads s
      (fun r t => v.Passage heap (.target b p element? u) s r t) D := by
  refine (lookUp_leads heap b p element? u).bind ?_ (by rintro e t ⟨h, -⟩; cases h)
  rintro _ x ⟨⟨⟩, hunmoved, hpassage⟩
  replace permitted := permitted.passage hunmoved.context hpassage
  rw [← hunmoved.context] at fresh visits
  cases hu : v.toEnter? u with
  | none =>
    refine (checkValue_leads fun y routine declaration c hcontext hy happlies => ?_).mono
      fun _ _ h => hpassage.next h.1
    exact .judgeTarget hu (permitted.passage hcontext hy) happlies
  | some entry =>
    obtain ⟨t, i⟩ := entry
    obtain ⟨rfl, -⟩ := toEnter?_eq_some.1 hu
    refine (Walk.leads_bind_ofStep (changeContext_apply x _)).2 ?_
    by_cases hi : i.isUnconstrained = true
    · rw [if_pos hi]
      exact hpassage.next (.mark hu fresh permitted hi)
    · rw [if_neg hi]
      exact (visits t i _ hu rfl).mono fun _ _ h => hpassage.next (.enter hu fresh permitted h)

/-- How the beans below one are visited, as far as the visits of that bean go. -/
def Visits (v : Validator) (heap : Heap) (visitBelow : Introspection → Bean → Walk Unit) (b : Bean)
    (s : Progress) (D : Prop) : Prop :=
  ∀ i t s', v.Deeper heap b s i t s' →
    (visitBelow i t).Leads s' (fun r x => v.Passage heap (.bean t) (s'.enter t) r x) D

theorem descend_leads {w u : Value} {element? : Option Element} (hs : s.context.pending = none)
    (hw : v.Reads heap b p w) (hp : p.cascade = true) (hu : (element?, u) ∈ v.held heap w)
    (fresh : s.context.hasVisitedValue u = false) (visits : v.Visits heap visitBelow b s D) :
    (v.descend visitBelow b p u (.of element?)).Leads (s.changeContext (·.awaiting? element?))
      (fun r t => v.Passage heap (.bean b) s r t) D := by
  have hcontext := Progress.context_hop hs ⟨p.name, element?⟩
  have fresh' : (s.hop ⟨p.name, element?⟩).context.hasVisitedValue u = false := by
    rw [hcontext]
    exact fresh
  have target : (v.descend visitBelow b p u (.of element?)).Leads
      (s.changeContext (·.awaiting? element?)) (fun r t => ∃ x,
        v.Passage heap (.target b p element? u) (s.hop ⟨p.name, element?⟩) r x ∧ t = x.pop) D := by
    rw [descend]
    refine Walk.Leads.below (Walk.Leads.mono ?_ fun r x hx => ⟨x, hx, rfl⟩)
    refine (permits_leads heap b p fresh').bind ?_ (by rintro e t ⟨_, h, -⟩; cases h)
    rintro allowed x ⟨_, ⟨⟩, hunmoved, hpassage, -, permitted⟩
    have hx := hunmoved.context
    cases allowed with
    | false => exact Walk.leads_pure hpassage
    | true =>
      refine Walk.Leads.mono (enter_leads ?_ ?_ ?_) fun _ _ h => hpassage.next h
      · rwa [hx]
      · exact permitted rfl
      · intro t i s' hentry hs'
        obtain ⟨rfl, hi⟩ := toEnter?_eq_some.1 hentry
        rw [hx, hcontext] at hs'
        refine visits i t s' ⟨hi, ⟨p, w, hw, hp, List.mem_map_of_mem hu⟩, ?_, ?_, ?_, ?_⟩
        · exact Context.hasVisited_eq_false.1 fresh
        · rw [hs']
          exact Context.mem_visited_visit.2 (.inl rfl)
        · rw [hs']
          exact fun _ h => Context.mem_visited_visit.2 (.inr h)
        · rw [hs']
          simp only [Context.visit]
          split <;> rfl
  refine target.mono ?_
  rintro r t ⟨x, hx, rfl⟩
  exact .target hw hp hu hx

theorem cascadeElement_leads {w : Value} {e : Extracted} (hs : s.context.pending = none)
    (hw : v.Reads heap b p w) (hp : p.cascade = true)
    (he : (some e.element, e.value) ∈ v.held heap w) (visits : v.Visits heap visitBelow b s D) :
    (v.cascadeElement visitBelow b p e).Leads s (fun r t => v.Passage heap (.bean b) s r t) D := by
  refine (Walk.leads_bind_ofStep (context_apply s)).2 ?_
  split
  · have note : Event.IsNote (.logged (.skippedElement s.context.path p.name)) := trivial
    exact .note note
  · rename_i fresh
    have descends : (v.descend visitBelow b p e.value (.of (some e.element))).Leads
        (s.changeContext (·.awaiting? (some e.element)))
        (fun r t => v.Passage heap (.bean b) s r t) D :=
      descend_leads hs hw hp he (by simpa using fresh) visits
    exact (Walk.leads_bind_ofStep (changeContext_apply s _)).2 descends

theorem cascadeElements_leads {w : Value} {es : List Extracted} (hs : s.context.pending = none)
    (hw : v.Reads heap b p w) (hp : p.cascade = true)
    (hes : ∀ e ∈ es, (some e.element, e.value) ∈ v.held heap w)
    (visits : v.Visits heap visitBelow b s D) :
    (es.forM (v.cascadeElement visitBelow b p)).Leads s
      (fun r t => v.Passage heap (.bean b) s r t) D := by
  refine Walk.leads_forM .rest fun e he t ht => ?_
  have hframed := ht.framed hs
  refine (cascadeElement_leads (hframed.pending hs) hw hp (hes e he) fun i x s' hx => ?_).mono
    fun _ _ h => ht.next h
  exact visits i x s' (hx.of_framed hframed)

theorem cascade_leads {w : Value} (hs : s.context.pending = none) (hw : v.Reads heap b p w)
    (hp : p.cascade = true) (visits : v.Visits heap visitBelow b s D) :
    (v.cascade heap visitBelow b p w).Leads s (fun r t => v.Passage heap (.bean b) s r t) D := by
  unfold cascade
  split
  · exact Walk.leads_pure .rest
  · rename_i tag htag
    split
    · rename_i extractor hextractor
      rw [Extractor.feed_eq_forM]
      exact cascadeElements_leads hs hw hp
        (fun e he => (v.mem_held_some heap).2 ⟨tag, extractor, htag, hextractor, he⟩) visits
    · rename_i hextractor
      have hheld : (none, w) ∈ v.held heap w := by
        simp only [held, htag, hextractor, List.mem_singleton]
      refine (Walk.leads_bind_ofStep (context_apply s)).2 ?_
      split
      · have note : Event.IsNote (.logged (.skippedBean s.context.path p.name)) := trivial
        exact .note note
      · rename_i fresh
        have descends : (v.descend visitBelow b p w (.of none)).Leads
            (s.changeContext (·.awaiting? none)) (fun r t => v.Passage heap (.bean b) s r t) D :=
          descend_leads hs hw hp hheld (by simpa using fresh) visits
        exact descends

end Descent

/-! ## Visiting is a passage -/

/-- Goes through some properties of a bean, as a visit does for those that cascade. -/
def cascadeEach (v : Validator) (heap : Heap) (visitBelow : Introspection → Bean → Walk Unit)
    (i : Introspection) (b : Bean) (l : List Property) : Walk Unit :=
  l.forM fun p => do v.cascade heap visitBelow b p (← read heap i p b)

theorem cascadeEach_leads {visitBelow : Introspection → Bean → Walk Unit} {b : Bean}
    {i : Introspection} {D : Prop} (hi : v.introspection? b.type = some i) {l : List Property}
    (hl : l ⊆ i.cascading) (hs : s.context.pending = none)
    (visits : v.Visits heap visitBelow b s D) :
    (v.cascadeEach heap visitBelow i b l).Leads s (fun r t => v.Passage heap (.bean b) s r t)
      D := by
  refine Walk.leads_forM .rest fun p hp x hx => ?_
  obtain ⟨hproperty, hcascade⟩ := List.mem_filter.1 (hl hp)
  have hw : v.Reads heap b p (i.read p heap b x.copies).1 :=
    ⟨i, hi, hproperty, x.copies, rfl⟩
  refine (Walk.leads_bind_ofStep (read_apply x heap i p b)).2 ?_
  have hread : v.Passage heap (.bean b) s (.ok ())
      { x with copies := (i.read p heap b x.copies).2 } := hx.next (.read _)
  have hframed := hread.framed hs
  refine (cascade_leads (hframed.pending hs) hw hcascade fun j t' s' h => ?_).mono
    fun _ _ h => hread.next h
  exact visits j t' s' (h.of_framed hframed)

theorem visitBy_leads {visitBelow : Introspection → Bean → Walk Unit} {b : Bean} {i : Introspection}
    {D : Prop} (hi : v.introspection? b.type = some i) (hs : s.context.pending = none)
    (visits : v.Visits heap visitBelow b s D) :
    (v.visitBy heap visitBelow i b).Leads s
      (fun r t => v.Passage heap (.bean b) (s.enter b) r t) D := by
  refine (Walk.leads_bind_ofStep (context_apply s)).2 ?_
  refine (Walk.leads_bind_ofStep (record_apply s _)).2 ?_
  refine (checkBean_leads hi).bind (fun _ t ht => ?_) fun _ _ h => h
  have hframed : Framed s t := (Framed.enter s b).trans (ht.framed hs)
  refine (cascadeEach_leads hi (List.Subset.refl _) (hframed.pending hs) fun j x s' h => ?_).mono
    fun _ _ h => ht.next h
  exact visits j x s' (h.of_framed hframed)

/-- Whatever a visit does is a passage from the state in which the bean is entered. -/
theorem visit_passage {i : Introspection} {b : Bean} (hi : v.introspection? b.type = some i)
    (hs : s.context.pending = none) (h : v.visit heap i b s = some (r, t)) :
    v.Passage heap (.bean b) (s.enter b) r t := by
  -- a visit with an end is the visit of one bean whose visits below have ends, and are passages
  have key := visit.partial_correctness v heap
    (fun i b s o => v.introspection? b.type = some i → s.context.pending = none →
      v.Passage heap (.bean b) (s.enter b) o.1 o.2)
  refine key (fun visitBelow ih i b s o ho hi hs => ?_) i b s (r, t) h hi hs
  refine (visitBy_leads (D := True) hi hs fun j x s' hx => ?_).of_eq_some ho
  refine Walk.leads_iff.2 ⟨fun r y hy => ?_, fun _ => trivial⟩
  exact ih j x s' (r, y) hy hx.introspection hx.pending

/-! ## Validations -/

/-- What a call that went well reports is what it has recorded. -/
theorem violations_of_result {vs : ViolationSet} (h : (Report.of (r, t)).result = .ok vs) :
    t.violations = vs := by
  cases r with
  | error e => cases h
  | ok _ => exact Except.ok.inj h

/-- The bean that a validation of an object visits, with its introspection, if there is anything to
validate. -/
def toVisit? (v : Validator) (object : Value) : Option (Bean × Introspection) :=
  (v.toEnter? object).filter fun (_, i) => !i.isUnconstrained

theorem toVisit?_eq_some {object : Value} {root : Bean} {i : Introspection} :
    v.toVisit? object = some (root, i) ↔
      object = .bean root ∧ v.introspection? root.type = some i ∧ i.isUnconstrained = false := by
  simp only [toVisit?, Option.filter_eq_some_iff, toEnter?_eq_some, Bool.not_eq_true', and_assoc]

/-- A validation is the visit of its root, if there is anything to validate. -/
theorem validate_of_toVisit {object : Value} {root : Bean} {i : Introspection}
    (h : v.toVisit? object = some (root, i)) (groups : List Group) (copies : Nat) :
    v.validate heap object groups copies =
      (v.visit heap i root (.start root groups copies)).map Report.of := by
  obtain ⟨rfl, hi, hconstrained⟩ := toVisit?_eq_some.1 h
  simp only [validate, Validator.root, hi, hconstrained]
  rfl

/-- A visit that stops in time is the whole visit. -/
theorem validate_of_within {object : Value} {root : Bean} {i : Introspection} {groups : List Group}
    {copies depth : Nat} {done : Outcome Unit} (h : v.toVisit? object = some (root, i))
    (hdone : v.visitWithin heap depth i root (.start root groups copies) = some done) :
    v.validate heap object groups copies = some (.of done) := by
  rw [validate_of_toVisit h, visitWithin_le v heap depth i root _ _ hdone]
  rfl

/-- With nothing to validate a validation ends at once, and asks nothing. -/
theorem validate_of_nothing {object : Value} (h : v.toVisit? object = none) (groups : List Group)
    (copies : Nat) :
    ∃ report, v.validate heap object groups copies = some report ∧
      (∀ e ∈ report.events, Event.IsNote e) ∧ ∀ vs, report.result = .ok vs → vs.items = [] := by
  cases object with
  | bean b =>
    cases hi : v.introspection? b.type with
    | none =>
      refine ⟨_, by simp only [validate, root, hi]; rfl, ?_, ?_⟩
      · simp [Event.IsNote]
      · rintro vs ⟨⟩
    | some i =>
      have hunconstrained : i.isUnconstrained = true := by
        rw [← Bool.not_eq_false]
        intro hconstrained
        rw [toVisit?_eq_some.2 ⟨rfl, hi, hconstrained⟩] at h
        cases h
      refine ⟨_, by simp only [validate, root, hi, hunconstrained, if_true]; rfl, ?_, ?_⟩
      · simp [Event.IsNote]
      · rintro vs ⟨⟩
        rfl
  | _ =>
    refine ⟨_, rfl, ?_, ?_⟩
    · simp [Event.IsNote]
    · rintro vs ⟨⟩

/-- A validation with an end had nothing to visit, or what it did was a passage from its root. -/
theorem passage_of_validate {object : Value} {groups : List Group} {copies : Nat} {report : Report}
    (h : v.validate heap object groups copies = some report) :
    (v.toVisit? object = none ∧ (∀ e ∈ report.events, Event.IsNote e) ∧
      ∀ vs, report.result = .ok vs → vs.items = []) ∨
    ∃ root i r t, v.toVisit? object = some (root, i) ∧ report = .of (r, t) ∧
      v.Passage heap (.bean root) ((Progress.start root groups copies).enter root) r t := by
  cases hobject : v.toVisit? object with
  | none =>
    obtain ⟨report', h', hnotes, hitems⟩ := validate_of_nothing hobject groups copies
    obtain rfl := Option.some.inj (h.symm.trans h')
    exact .inl ⟨rfl, hnotes, hitems⟩
  | some start =>
    obtain ⟨root, i⟩ := start
    rw [validate_of_toVisit hobject] at h
    obtain ⟨⟨r, t⟩, hvisit, hreport⟩ := Option.map_eq_some_iff.1 h
    obtain ⟨-, hi, -⟩ := toVisit?_eq_some.1 hobject
    exact .inr ⟨root, i, r, t, rfl, hreport.symm, visit_passage hi rfl hvisit⟩

end Validator

/-! ## The ring -/

namespace Ring

/-- What is wrong in the ring: the third bean has no name. -/
def missing : Violation :=
  .of { Context.forRoot first [] with path := .along hops } (some third) 0 (.ofKind .notNull) .null

/-- A validation of the first bean of the ring finds this and no more. -/
theorem validate_first :
    ∃ report vs, validator.validate heap (.bean first) [] 0 = some report ∧
      report.result = .ok vs ∧ vs.items = [missing] := by
  have hrun : ((validator.visitWithin heap 4 introspection first (.start first [] 0)).map
      fun done => (done.1.toOption, done.2.violations.items)) = some (some (), [missing]) := by
    cbv
  obtain ⟨⟨r, t⟩, hdone, hitems⟩ := Option.map_eq_some_iff.1 hrun
  obtain ⟨hr, hitems⟩ := Prod.mk.inj hitems
  cases r with
  | error e => cases hr
  | ok _ => exact ⟨_, t.violations, Validator.validate_of_within rfl hdone, rfl, hitems⟩

end Ring

end BeanGraph
