import BeanGraph.Proofs.Activation
import BeanGraph.Proofs.Verdict

/-!
# Runs that go well

A run goes well only if every call that it makes does, and then no violation that one of them
records is missing from the report.  For a part of a call never takes a violation back, and what
follows a part that fails is not done.

* `Walk.Extends`: a walk that takes nothing back and keeps to the groups asked for;
* `Walk.Succeeds`: a walk that goes well with all its violations in a set, and the rules to take it
  apart;
* `Activated.succeeds`: the calls of a run that goes well;
* `Activated.groups_eq`: they are all made for the groups of the run.
-/

namespace BeanGraph

open Call

/-! ## Walks that take nothing back -/

/-- A later state of a call: no violation is taken back, and the groups are the same. -/
structure Progress.Extends (s t : Progress) : Prop where
  violations : s.violations.items ⊆ t.violations.items
  groups : t.context.groups = s.context.groups

namespace Progress.Extends

variable {s t u : Progress}

theorem refl (s : Progress) : s.Extends s := ⟨List.Subset.refl _, rfl⟩

theorem trans (h : s.Extends t) (h' : t.Extends u) : s.Extends u :=
  ⟨List.Subset.trans h.violations h'.violations, h'.groups.trans h.groups⟩

theorem enter (s : Progress) (b : Bean) : s.Extends (s.enter b) := ⟨List.Subset.refl _, rfl⟩

theorem read (s : Progress) (copies : Nat) : s.Extends { s with copies } :=
  ⟨List.Subset.refl _, rfl⟩

theorem visit (s : Progress) (b : Bean) : s.Extends (s.changeContext (·.visit b)) :=
  ⟨List.Subset.refl _, by rw [(Framed.visit s b).context]⟩

theorem hop (s : Progress) (hop : Hop) : s.Extends (s.hop hop) := by
  obtain ⟨_, _ | _⟩ := hop <;> exact ⟨List.Subset.refl _, rfl⟩

end Progress.Extends

namespace Walk

variable {α β : Type}

/-- However a walk ends, it leaves a later state. -/
def Extends (x : Walk α) : Prop := ∀ s r t, x s = some (r, t) → s.Extends t

theorem extends_ofStep {x : Step α} (h : ∀ s : Progress, s.Extends (x s).2) :
    (ofStep x).Extends := by
  intro s r t hs
  obtain rfl : (x s).2 = t := congrArg Prod.snd (Option.some.inj hs)
  exact h s

theorem Extends.of_step {x : Step α} (h : (ofStep x).Extends) {s t : Progress}
    {r : Except Failure α} (hx : x s = (r, t)) : s.Extends t :=
  h s r t (congrArg some hx)

theorem extends_pure (a : α) : (pure a : Walk α).Extends := by
  rintro s r t ⟨⟩
  exact .refl s

theorem Extends.bind {x : Walk α} {f : α → Walk β} (hx : x.Extends) (hf : ∀ a, (f a).Extends) :
    (x >>= f).Extends := by
  intro s r t h
  rw [bind_apply] at h
  rcases hs : x s with _ | ⟨e | a, u⟩ <;> rw [hs] at h
  · cases h
  · cases h
    exact hx _ _ _ hs
  · exact (hx _ _ _ hs).trans (hf _ _ _ _ h)

theorem Extends.below {x : Walk α} (h : x.Extends) (name : String) :
    Extends (below name x) := by
  intro s r t hs
  obtain ⟨⟨r', u⟩, hu, ⟨⟩⟩ := Option.map_eq_some_iff.1 hs
  obtain ⟨violations, groups⟩ := h _ _ _ hu
  exact ⟨violations, groups⟩

theorem extends_forM {f : α → Walk Unit} (h : ∀ a, (f a).Extends) (l : List α) :
    (l.forM f).Extends := by
  induction l with
  | nil => exact extends_pure ()
  | cons a l ih => exact (h a).bind fun _ => ih

theorem extends_record (e : Event) : (ofStep (record e)).Extends :=
  extends_ofStep fun _ => ⟨List.Subset.refl _, rfl⟩

theorem extends_context : (ofStep context).Extends :=
  extends_ofStep fun s => .refl s

/-! ## Walks that go well -/

/-- A walk goes well from a state, and all the violations then are in a set. -/
def Succeeds (x : Walk Unit) (s : Progress) (vs : ViolationSet) : Prop :=
  ∃ t, x s = some (.ok (), t) ∧ t.violations.items ⊆ vs.items

variable {s t : Progress} {vs : ViolationSet}

theorem Succeeds.bind {x : Walk α} {f : α → Walk Unit} (h : (x >>= f).Succeeds s vs) :
    ∃ a t, x s = some (.ok a, t) ∧ (f a).Succeeds t vs := by
  obtain ⟨u, hu, hsub⟩ := h
  rw [bind_apply] at hu
  rcases hs : x s with _ | ⟨e | a, t⟩ <;> rw [hs] at hu
  · cases hu
  · cases hu
  · exact ⟨a, t, rfl, u, hu, hsub⟩

/-- What is done first succeeds, for what follows it takes nothing back. -/
theorem Succeeds.first {x : Walk Unit} {f : Unit → Walk Unit} (h : (x >>= f).Succeeds s vs)
    (hf : (f ()).Extends) : x.Succeeds s vs := by
  obtain ⟨⟨⟩, t, hx, u, hu, hsub⟩ := h.bind
  exact ⟨t, hx, List.Subset.trans (hf _ _ _ hu).violations hsub⟩

/-- What follows a step succeeds in the state that the step leaves. -/
theorem Succeeds.next {x : Step α} {f : α → Walk Unit} {a : α}
    (h : (ofStep x >>= f).Succeeds s vs) (hx : x s = (.ok a, t)) : (f a).Succeeds t vs := by
  obtain ⟨_, _, hx', hf⟩ := h.bind
  rw [ofStep_apply, hx] at hx'
  cases hx'
  exact hf

theorem Succeeds.of_below {x : Walk Unit} {name : String} (h : Succeeds (below name x) s vs) :
    x.Succeeds (s.push name) vs := by
  obtain ⟨t, ht, hsub⟩ := h
  obtain ⟨⟨r, u⟩, hu, heq⟩ := Option.map_eq_some_iff.1 ht
  cases heq
  exact ⟨u, hu, hsub⟩

/-- A turn of a loop succeeds in the state that the turns before it leave. -/
theorem Succeeds.turn {f : α → Walk Unit} {before after : List α} {a : α}
    (h : ((before ++ a :: after).forM f).Succeeds s vs)
    (hbefore : before.forM f s = some (.ok (), t)) (hf : ∀ a, (f a).Extends) :
    (f a).Succeeds t vs := by
  have happend : (before ++ a :: after).forM f =
      before.forM f >>= fun _ => f a >>= fun _ => after.forM f := List.forM_append
  rw [happend] at h
  obtain ⟨_, _, hbefore', hrest⟩ := h.bind
  rw [hbefore] at hbefore'
  cases hbefore'
  exact hrest.first (extends_forM hf after)

/-- The turns before one in a loop that succeeds come to an end. -/
theorem Succeeds.exists_before {f : α → Walk Unit} {before after : List α}
    (h : ((before ++ after).forM f).Succeeds s vs) :
    ∃ t, before.forM f s = some (.ok (), t) := by
  have happend : (before ++ after).forM f = before.forM f >>= fun _ => after.forM f :=
    List.forM_append
  rw [happend] at h
  obtain ⟨⟨⟩, t, hbefore, -⟩ := h.bind
  exact ⟨t, hbefore⟩

end Walk

/-- The groups that a run is made for. -/
def Run.groups : Run → List Group
  | .validate _ groups _ => groups
  | .validateProperty _ _ groups _ => groups
  | .validateValue _ _ _ groups _ => groups

namespace Validator

open Walk

variable {v : Validator} {heap : Heap} {run : Run} {a a' : Activation} {s s' t u : Progress}
  {hops more : List Hop} {vs : ViolationSet} {visitBelow : Introspection → Bean → Walk Unit}

/-! ## The functions of a validator take nothing back -/

theorem extends_checkValue (leaf? : Option Bean) (p : Property) (u : Value) :
    (ofStep (v.checkValue leaf? p u)).Extends := by
  intro s r t h
  refine ((checkValue_keeps (D := True) (P := fun _ t => s.Extends t) (.refl s)
    (fun t e _ ht => ht.trans ⟨List.Subset.refl _, rfl⟩) fun t routine declaration c _ ht _ =>
      ht.trans ?_).of_eq_some h).1
  refine ⟨?_, by rw [context_judge]⟩
  rw [judge_apply]
  split
  · exact List.Subset.refl _
  · exact ViolationSet.subset_insert _ _
  · exact List.Subset.refl _

theorem extends_checkProperty (leaf? : Option Bean) (p : Property) (w : Value) :
    (ofStep (v.checkProperty heap leaf? p w)).Extends := by
  rw [checkProperty, ofStep_below]
  refine Extends.below ?_ _
  split
  · rw [ofStep_feed]
    exact extends_forM (fun (e : Extracted) => extends_checkValue leaf? p e.value) _
  · exact extends_checkValue leaf? p w

theorem extends_lookUp (u : Value) : (ofStep (v.lookUp u)).Extends := by
  refine extends_ofStep fun s => ?_
  unfold lookUp
  cases u.bean? with
  | none => exact .refl s
  | some b => exact ⟨List.Subset.refl _, rfl⟩

theorem extends_permits (u : Value) (elementType : ElementType) :
    (ofStep (v.permits u elementType)).Extends := by
  have query (question : Question) (target : Target) :
      (ofStep (v.query question target)).Extends :=
    extends_ofStep fun s => ⟨List.Subset.refl _, rfl⟩
  have answer (allowed : Bool) : (ofStep (pure allowed)).Extends := extends_pure allowed
  rw [permits, ofStep_bind]
  refine extends_context.bind fun context => ?_
  split
  · exact answer true
  · rename_i target _
    rw [ofStep_bind]
    refine Extends.bind ?_ fun allowed => ?_
    · rw [allows, ofStep_bind]
      refine (query .isCascadable target).bind fun cascadable => ?_
      cases cascadable with
      | true => exact query .isReachable target
      | false => exact answer false
    · cases allowed with
      | true => exact answer true
      | false => exact (extends_record _).bind fun _ => answer false

theorem extends_enter (h : ∀ i b, (visitBelow i b).Extends) (leaf : Bean) (p : Property)
    (u : Value) : (v.enter visitBelow leaf p u).Extends := by
  refine (extends_lookUp u).bind fun found? => ?_
  split
  · exact extends_checkValue (some leaf) p u
  · refine Extends.bind (extends_ofStep fun s => .visit s _) fun _ => ?_
    split
    · exact extends_pure ()
    · exact h _ _

theorem extends_descend (h : ∀ i b, (visitBelow i b).Extends) (leaf : Bean) (p : Property)
    (u : Value) (elementType : ElementType) :
    (v.descend visitBelow leaf p u elementType).Extends := by
  refine Extends.below ((extends_permits u elementType).bind fun allowed => ?_) _
  split
  · exact extends_enter h leaf p u
  · exact extends_pure ()

theorem extends_cascadeElement (h : ∀ i b, (visitBelow i b).Extends) (leaf : Bean) (p : Property)
    (e : Extracted) : (v.cascadeElement visitBelow leaf p e).Extends := by
  refine extends_context.bind fun context => ?_
  split
  · exact extends_record _
  · refine Extends.bind (extends_ofStep fun s => ⟨List.Subset.refl _, rfl⟩) fun _ => ?_
    exact extends_descend h leaf p e.value .typeUse

theorem extends_cascade (h : ∀ i b, (visitBelow i b).Extends) (leaf : Bean) (p : Property)
    (w : Value) : (v.cascade heap visitBelow leaf p w).Extends := by
  unfold cascade
  split
  · exact extends_pure ()
  · split
    · rw [Extractor.feed_eq_forM]
      exact extends_forM (extends_cascadeElement h leaf p) _
    · refine extends_context.bind fun context => ?_
      split
      · exact extends_record _
      · exact extends_descend h leaf p w .field

theorem extends_checking (i : Introspection) (b : Bean) (p : Property) :
    (ofStep (do v.checkProperty heap (some b) p (← read heap i p b))).Extends := by
  rw [ofStep_bind]
  refine Extends.bind (extends_ofStep fun _ => ⟨List.Subset.refl _, rfl⟩) fun w => ?_
  exact extends_checkProperty (some b) p w

theorem extends_checkEach (i : Introspection) (b : Bean) (l : List Property) :
    (ofStep (v.checkEach heap i b l)).Extends := by
  rw [checkEach, ofStep_forM]
  exact extends_forM (extends_checking i b) l

theorem extends_cascading (h : ∀ i b, (visitBelow i b).Extends) (i : Introspection) (b : Bean)
    (p : Property) :
    (ofStep (read heap i p b) >>= fun w => v.cascade heap visitBelow b p w).Extends :=
  Extends.bind (extends_ofStep fun _ => ⟨List.Subset.refl _, rfl⟩) fun w => extends_cascade h b p w

theorem extends_cascadeEach (h : ∀ i b, (visitBelow i b).Extends) (i : Introspection) (b : Bean)
    (l : List Property) : (v.cascadeEach heap visitBelow i b l).Extends :=
  extends_forM (extends_cascading h i b) l

theorem extends_visitBy (h : ∀ i b, (visitBelow i b).Extends) (i : Introspection) (b : Bean) :
    (v.visitBy heap visitBelow i b).Extends := by
  refine extends_context.bind fun context => (extends_record _).bind fun _ => ?_
  exact (extends_checkEach i b i.constrained).bind fun _ => extends_cascadeEach h i b i.cascading

theorem extends_visit (v : Validator) (heap : Heap) (i : Introspection) (b : Bean) :
    Walk.Extends (v.visit heap i b) := by
  have key := visit.partial_correctness v heap fun i b s o => s.Extends o.2
  refine fun s r t hs => key (fun visitBelow ih i b s o ho => ?_) i b s (r, t) hs
  exact extends_visitBy (fun i b s r t hs => ih i b s (r, t) hs) i b s o.1 o.2 ho

/-! ## The calls of a run that goes well -/

/-- A visit that succeeds checks its bean and goes through the cascade properties. -/
theorem succeeds_of_visit {i : Introspection} {b : Bean}
    (h : Walk.Succeeds (v.visit heap i b) s vs) :
    (Walk.ofStep (v.checkBean heap i b)).Succeeds (s.enter b) vs ∧
      ∃ t, Walk.ofStep (v.checkBean heap i b) (s.enter b) = some (.ok (), t) ∧
        (v.cascadeEach heap (v.visit heap) i b i.cascading).Succeeds t vs := by
  rw [visit_eq] at h
  have h := (h.next (context_apply s)).next (record_apply s _)
  obtain ⟨⟨⟩, t, hcheck, hcascade⟩ := h.bind
  exact ⟨h.first (extends_cascadeEach (extends_visit v heap) i b i.cascading), t, hcheck, hcascade⟩

/-- A visit that succeeds comes to each of its cascade properties. -/
theorem exists_comesTo {i : Introspection} {b : Bean} {p : Property}
    (h : Walk.Succeeds (v.visit heap i b) s vs) (hp : p ∈ i.cascading) :
    ∃ w t, v.ComesTo heap i b s p w t := by
  obtain ⟨before, after, hp⟩ := List.append_of_mem hp
  obtain ⟨-, t, hcheck, hcascade⟩ := succeeds_of_visit h
  rw [hp] at hcascade
  obtain ⟨u, hbefore⟩ := hcascade.exists_before
  refine ⟨_, _, .intro (t := u) hp ?_ (read_apply u heap i p b)⟩
  rw [Walk.bind_apply, hcheck]
  exact hbefore

/-- It succeeds with what a cascade property holds. -/
theorem ComesTo.succeeds {i : Introspection} {b : Bean} {p : Property} {w : Value}
    (h : v.ComesTo heap i b s p w t) (hs : Walk.Succeeds (v.visit heap i b) s vs) :
    (v.cascade heap (v.visit heap) b p w).Succeeds t vs := by
  obtain @⟨before, after, x, _, hp, hbefore, hread⟩ := h
  obtain ⟨-, y, hcheck, hloop⟩ := succeeds_of_visit hs
  rw [Walk.bind_apply, hcheck] at hbefore
  rw [hp] at hloop
  exact (hloop.turn hbefore (extends_cascading (extends_visit v heap) i b)).next hread

/-- A call that succeeds makes calls that do. -/
theorem Calls.succeeds (hc : v.Calls heap a s more a' s') (h : (v.perform heap a).Succeeds s vs) :
    (v.perform heap a').Succeeds s' vs := by
  have below := extends_visit v heap
  cases hc with
  | @property i b _ p w before after x _ hp hbefore hread =>
    obtain ⟨hcheck, -⟩ := succeeds_of_visit h
    rw [checkBean, ofStep_forM, hp] at hcheck
    have hbefore := congrArg some hbefore
    rw [checkEach, ← ofStep_apply, ofStep_forM] at hbefore
    have hturn := hcheck.turn hbefore (extends_checking i b)
    rw [ofStep_bind] at hturn
    exact hturn.next hread
  | @element i b _ p w extractor earlier e later x _ hcomes hextractor he hearlier =>
    obtain ⟨tag, htag, hextractor⟩ := Option.bind_eq_some_iff.1 hextractor
    have hcascade := hcomes.succeeds h
    rw [cascade, htag] at hcascade
    dsimp only at hcascade
    rw [hextractor] at hcascade
    dsimp only at hcascade
    rw [Extractor.feed_eq_forM, he] at hcascade
    exact hcascade.turn hearlier (extends_cascadeElement below b p)
  | @field i b _ p w tag x _ hcomes htag hextractor fresh permitted =>
    have hcascade := hcomes.succeeds h
    rw [cascade, htag] at hcascade
    dsimp only at hcascade
    rw [hextractor] at hcascade
    have hcascade := hcascade.next (context_apply x)
    rw [fresh] at hcascade
    exact hcascade.of_below.next permitted
  | @elementTarget leaf p e _ _ fresh permitted =>
    have h : (v.cascadeElement (v.visit heap) leaf p e).Succeeds s vs := h
    have h := h.next (context_apply s)
    rw [fresh] at h
    exact (h.next (changeContext_apply s _)).of_below.next permitted
  | @visit leaf p u _ b i x hu hi =>
    have h : (v.enter (v.visit heap) leaf p u).Succeeds s vs := h
    have h := (h.next hu).next (changeContext_apply x _)
    rw [hi] at h
    exact h
  | @targetValue leaf p u _ _ hu =>
    have h : (v.enter (v.visit heap) leaf p u).Succeeds s vs := h
    exact h.next hu
  | @wrappedValue leaf? p w _ unwrap earlier e later _ hunwrap he hearlier =>
    have h : Succeeds (ofStep (v.checkProperty heap leaf? p w)) s vs := h
    have hearlier := congrArg some hearlier
    rw [← ofStep_apply, ofStep_forM] at hearlier
    rw [checkProperty, hunwrap, ofStep_below] at h
    have h := h.of_below
    dsimp only at h
    rw [ofStep_feed, he] at h
    exact h.turn hearlier fun e => extends_checkValue leaf? p e.value
  | @ownValue leaf? p w _ hunwrap =>
    have h : Succeeds (ofStep (v.checkProperty heap leaf? p w)) s vs := h
    rw [checkProperty, hunwrap, ofStep_below] at h
    exact h.of_below

theorem ComesTo.extends {i : Introspection} {b : Bean} {p : Property} {w : Value}
    (h : v.ComesTo heap i b s p w t) : s.Extends t := by
  obtain @⟨before, after, x, _, hp, hbefore, hread⟩ := h
  have come : (s.enter b).Extends x := Extends.bind (extends_checkEach i b i.constrained)
    (fun _ => extends_cascadeEach (extends_visit v heap) i b before) _ _ _ hbefore
  have read : x.Extends t := by
    cases hread
    exact .read x _
  exact ((Progress.Extends.enter s b).trans come).trans read

/-- What is done before a call takes nothing back. -/
theorem Calls.extends (hc : v.Calls heap a s more a' s') : s.Extends s' := by
  have below := extends_visit v heap
  cases hc with
  | @property i b _ p w before after x _ hp hbefore hread =>
    have checked := (extends_checkEach i b before).of_step hbefore
    have read : x.Extends s' := by
      cases hread
      exact .read x _
    exact ((Progress.Extends.enter s b).trans checked).trans read
  | @element i b _ p w extractor earlier e later x _ hcomes hextractor he hearlier =>
    exact hcomes.extends.trans
      (extends_forM (extends_cascadeElement below b p) earlier _ _ _ hearlier)
  | @field i b _ p w tag x _ hcomes htag hextractor fresh permitted =>
    exact (hcomes.extends.trans (.hop x _)).trans ((extends_permits w _).of_step permitted)
  | @elementTarget leaf p e _ _ fresh permitted =>
    exact (Progress.Extends.hop s _).trans ((extends_permits e.value _).of_step permitted)
  | @visit leaf p u _ b i x hu hi => exact ((extends_lookUp u).of_step hu).trans (.visit x b)
  | @targetValue leaf p u _ _ hu => exact (extends_lookUp u).of_step hu
  | @wrappedValue leaf? p w _ unwrap earlier e later _ hunwrap he hearlier =>
    rw [← Option.some.injEq, ← Walk.ofStep_apply, Walk.ofStep_forM] at hearlier
    exact (Progress.Extends.hop s _).trans
      (extends_forM (fun e => extends_checkValue leaf? p e.value) earlier _ _ _ hearlier)
  | @ownValue leaf? p w _ hunwrap => exact .hop s _

/-- Every call of a run that goes well goes well, and the violations that it leaves are reported. -/
theorem Activated.succeeds {report : Report} (h : v.Activated heap run hops a s)
    (hreport : v.report? heap run = some report) (hvs : report.result = .ok vs) :
    (v.perform heap a).Succeeds s vs := by
  induction h with
  | first h =>
    rw [h.report?_eq] at hreport
    obtain ⟨⟨r, t⟩, hperform, rfl⟩ := Option.map_eq_some_iff.1 hreport
    cases r with
    | error e => cases hvs
    | ok _ =>
      cases hvs
      exact ⟨t, hperform, List.Subset.refl _⟩
  | call _ hc ih => exact hc.succeeds ih

/-- Every call of a run is made for the groups of the run. -/
theorem Activated.groups_eq (h : v.Activated heap run hops a s) :
    s.context.groups = run.groups := by
  induction h with
  | first h => cases h <;> rfl
  | call _ hc ih => exact hc.extends.groups.trans ih

/-- What a routine rejects in a run that goes well is reported. -/
theorem Activated.reported {report : Report} {leaf? : Option Bean} {p : Property} {u : Value}
    (h : v.Activated heap run hops (.value leaf? p u) s)
    (hreport : v.report? heap run = some report) (hvs : report.result = .ok vs)
    {routine : Routine} {declaration : Nat} {c : Constraint}
    (hc : v.Applies run.groups p u routine declaration c)
    (rejected : routine.check u c s.context = .ok false) :
    vs.contains (.of s.context leaf? declaration c u) = true := by
  obtain ⟨t, ht, hsub⟩ := h.succeeds hreport hvs
  have hdone : v.checkValue leaf? p u s = (.ok (), t) := Option.some.inj ht
  have hbears : s.Bears (v.checkValue leaf? p u s) (v.verdict s.context leaf? p u) :=
    judges_checkValue s rfl
  rw [hdone] at hbears
  cases hverdict : v.verdict s.context leaf? p u with
  | error failure =>
    rw [hverdict] at hbears
    cases (hbears : (Except.ok () : Except Failure Unit) = .error failure)
  | ok found =>
    rw [hverdict] at hbears
    obtain ⟨-, hadds⟩ : _ ∧ s.Adds found t := hbears
    have hfound : .of s.context leaf? declaration c u ∈ found := by
      rw [(Verdict.all_eq_ok_iff.1 hverdict).2]
      rw [← h.groups_eq] at hc
      refine List.mem_flatMap.2 ⟨_, List.mem_map_of_mem (mem_askings.2 hc), ?_⟩
      simp [Routine.verdict, rejected]
    have hrecorded : t.violations.contains (.of s.context leaf? declaration c u) = true := by
      rw [hadds.violations]
      exact ViolationSet.contains_insertAll.2 (.inr ⟨_, hfound, BEq.rfl⟩)
    obtain ⟨x, hx, heq⟩ := ViolationSet.contains_iff.1 hrecorded
    exact ViolationSet.contains_iff.2 ⟨x, hsub hx, heq⟩

end Validator

end BeanGraph
