import BeanGraph.Proofs.Visit

/-!
# What a visit leaves settled

A bean is settled in a state if all that its constraints reject is among the violations, and all the
beans it leads to are visited.  Under a resolver that permits everything, and with stable getters, a
visit that goes well leaves its bean settled, and every bean that it visits on the way.  What is
settled stays so, since violations and visited beans are never taken back.

* `Grows`: every bean that is visited between two states is settled in the later one;
* `leads_forM_after`: what each turn of a loop achieves holds at its end;
* `visit_settles`: a visit that goes well settles its bean.
-/

namespace BeanGraph

open Call

/-! ## Reports -/

namespace ViolationSet

/-- A violation says that a declared constraint of the named property of a bean rejects a value. -/
def Reports (vs : ViolationSet) (b : Bean) (name : String) (u : Value) (declaration : Nat) : Prop :=
  ∃ x ∈ vs.items, x.leaf? = some b ∧ x.path.last?.map (·.name) = some name ∧ x.value = u ∧
    x.declaration = declaration

variable {vs ws : ViolationSet} {b : Bean} {name : String} {u : Value} {declaration : Nat}

theorem Reports.mono (h : vs.Reports b name u declaration) (hsub : vs.items ⊆ ws.items) :
    ws.Reports b name u declaration := by
  obtain ⟨x, hx, hrest⟩ := h
  exact ⟨x, hsub hx, hrest⟩

theorem reports_insert (vs : ViolationSet) {context : Context} (c : Constraint)
    (hname : context.path.last?.map (·.name) = some name) :
    (vs.insert (.of context (some b) declaration c u)).Reports b name u declaration := by
  obtain ⟨x, hx, rfl | heq⟩ := vs.exists_mem_insert (.of context (some b) declaration c u)
  · exact ⟨_, hx, rfl, hname, rfl, rfl⟩
  · obtain ⟨hleaf, hpath, hvalue, hdeclaration⟩ := Violation.agrees_of_beq heq
    exact ⟨x, hx, hleaf.symm, hpath ▸ hname, hvalue.symm, hdeclaration.symm⟩

end ViolationSet

namespace Validator

variable (v : Validator) (heap : Heap) (groups : List Group)

/-- The resolver permits every descent. -/
def PermitsAll : Prop :=
  ∀ target, v.resolver.isCascadable target = true ∧ v.resolver.isReachable target = true

/-- The routine for a declared constraint of a property rejects a value wherever it is asked. -/
def Rejects (p : Property) (u : Value) (declaration : Nat) : Prop :=
  ∃ routine c, v.Applies groups p u routine declaration c ∧
    ∀ context, routine.check u c context = .ok false

/-! ## Settled beans -/

/-- All that the constraints of a property reject in a value is reported. -/
def Checked (b : Bean) (p : Property) (u : Value) (s : Progress) : Prop :=
  ∀ declaration, v.Rejects groups p u declaration → s.violations.Reports b p.name u declaration

/-- A cascade target of a property is dealt with: it is a bean that is visited, or it is checked. -/
structure Handled (b : Bean) (p : Property) (u : Value) (s : Progress) : Prop where
  checked : v.toEnter? u = none → v.Checked groups b p u s
  visited : ∀ t i, v.toEnter? u = some (t, i) → t ∈ s.context.visited

/-- All that the constraints of a bean reject is reported, and all beans it leads to are visited. -/
structure Settled (b : Bean) (s : Progress) : Prop where
  known : (v.introspection? b.type).isSome
  checked : ∀ p w, v.Reads heap b p w → ∀ u ∈ v.subjects heap p w, v.Checked groups b p u s
  handled : ∀ p w, v.Reads heap b p w → p.cascade = true → ∀ u ∈ v.targets heap w,
    v.Handled groups b p u s

/-- Between two states no violation and no bean is taken back, and every bean that is visited is
settled. -/
structure Grows (s t : Progress) : Prop where
  violations : s.violations.items ⊆ t.violations.items
  visited : s.context.visited ⊆ t.context.visited
  settled : ∀ b ∈ t.context.visited, b ∉ s.context.visited → v.Settled heap groups b t

variable {v heap groups}
variable {s t u : Progress} {b : Bean} {p : Property} {w : Value}

theorem Checked.mono {x : Value} (h : v.Checked groups b p x s) (hst : v.Grows heap groups s t) :
    v.Checked groups b p x t :=
  fun declaration hrejects => (h declaration hrejects).mono hst.violations

theorem Handled.mono {x : Value} (h : v.Handled groups b p x s) (hst : v.Grows heap groups s t) :
    v.Handled groups b p x t where
  checked hx := (h.checked hx).mono hst
  visited y i hx := hst.visited (h.visited y i hx)

theorem Settled.mono (h : v.Settled heap groups b s) (hst : v.Grows heap groups s t) :
    v.Settled heap groups b t where
  known := h.known
  checked p w hw x hx := (h.checked p w hw x hx).mono hst
  handled p w hw hp x hx := (h.handled p w hw hp x hx).mono hst

/-- A bean with nothing to validate is settled. -/
theorem settled_of_unconstrained {i : Introspection} (hi : v.introspection? b.type = some i)
    (h : i.isUnconstrained = true) : v.Settled heap groups b s := by
  obtain ⟨hconstrained, hcascading⟩ := Bool.and_eq_true_iff.1 h
  refine ⟨by rw [hi]; rfl, fun p w hw x _ declaration hrejects => ?_, fun p w hw hp => ?_⟩
  · obtain ⟨routine, c, ⟨hmem, -⟩, -⟩ := hrejects
    have hp : p ∈ i.constrained :=
      List.mem_filter.2 ⟨hw.mem_properties hi, Property.isConstrained_of_mem_applicable hmem⟩
    rw [List.isEmpty_iff.1 hconstrained] at hp
    cases hp
  · have hp : p ∈ i.cascading := List.mem_filter.2 ⟨hw.mem_properties hi, hp⟩
    rw [List.isEmpty_iff.1 hcascading] at hp
    cases hp

theorem Grows.of_unmoved (h : Unmoved s t) : v.Grows heap groups s t where
  violations := by rw [h.violations]; exact List.Subset.refl _
  visited := by rw [h.context]; exact List.Subset.refl _
  settled b hb hb' := by
    rw [h.context] at hb
    exact absurd hb hb'

theorem Grows.refl (s : Progress) : v.Grows heap groups s s :=
  .of_unmoved (.refl s)

theorem Grows.trans (h : v.Grows heap groups s t) (h' : v.Grows heap groups t u) :
    v.Grows heap groups s u where
  violations := List.Subset.trans h.violations h'.violations
  visited := List.Subset.trans h.visited h'.visited
  settled b hb hb' := by
    by_cases hbt : b ∈ t.context.visited
    · exact (h.settled b hbt hb').mono h'
    · exact h'.settled b hb hbt

/-- Visiting a bean for the first time is growth once the bean is settled. -/
theorem Grows.of_visit (h : v.Grows heap groups (s.changeContext (·.visit b)) t)
    (hb : v.Settled heap groups b t) : v.Grows heap groups s t where
  violations := h.violations
  visited := List.Subset.trans (Framed.visit s b).visited h.visited
  settled x hx hx' := by
    by_cases hmem : x ∈ (s.changeContext (·.visit b)).context.visited
    · rcases Context.mem_visited_visit.1 hmem with rfl | hmem
      · exact hb
      · exact absurd hmem hx'
    · exact h.settled x hx hmem

/-! ## States that a visit goes on from -/

/-- A state in which there is no element pending, and every bean visited has an introspection. -/
structure Ready (v : Validator) (groups : List Group) (s : Progress) : Prop where
  pending : s.context.pending = none
  groups : s.context.groups = groups
  known : ∀ b ∈ s.context.visited, (v.introspection? b.type).isSome

theorem Ready.of_grows (h : Ready v groups s) (hst : Framed s t)
    (hgrows : v.Grows heap groups s t) : Ready v groups t where
  pending := hst.pending h.pending
  groups := by rw [hst.context]; exact h.groups
  known b hb := by
    by_cases hbs : b ∈ s.context.visited
    · exact h.known b hbs
    · exact (hgrows.settled b hb hbs).known

theorem Ready.hop (h : Ready v groups s) (hop : Hop) : Ready v groups (s.hop hop) := by
  refine ⟨?_, ?_, ?_⟩ <;> rw [Progress.context_hop h.pending]
  · exact h.groups
  · exact h.known

/-- What a part of a call achieves from a state if it goes well. -/
def After (v : Validator) (heap : Heap) (groups : List Group) (s : Progress)
    (Q : Progress → Prop) (r : Except Failure Unit) (t : Progress) : Prop :=
  r = .ok () → Framed s t ∧ v.Grows heap groups s t ∧ Q t

theorem After.of_unmoved {Q : Progress → Prop} (h : Unmoved s t) (hQ : Q t) :
    After v heap groups s Q (.ok ()) t :=
  fun _ => ⟨.of_context_eq h.context, .of_unmoved h, hQ⟩

theorem After.trans {Q : Progress → Prop} {r : Except Failure Unit}
    (hst : Framed s t ∧ v.Grows heap groups s t) (h : After v heap groups t Q r u) :
    After v heap groups s Q r u := by
  intro hr
  obtain ⟨hframed, hgrows, hQ⟩ := h hr
  exact ⟨hst.1.trans hframed, hst.2.trans hgrows, hQ⟩

theorem After.mono {Q Q' : Progress → Prop} {r : Except Failure Unit}
    (h : After v heap groups s Q r t) (hQ : Q t → Q' t) : After v heap groups s Q' r t := by
  intro hr
  obtain ⟨hframed, hgrows, hq⟩ := h hr
  exact ⟨hframed, hgrows, hQ hq⟩

/-- What a part of a call achieves below a node it achieves from the state above. -/
theorem After.pop {hop : Hop} {Q : Progress → Prop} {r : Except Failure Unit}
    (hs : s.context.pending = none) (h : After v heap groups (s.hop hop) Q r t)
    (hQ : Q t → Q t.pop) : After v heap groups s Q r t.pop := by
  intro hr
  obtain ⟨hframed, hgrows, hq⟩ := h hr
  refine ⟨hframed.pop hs, ⟨hgrows.violations, ?_, ?_⟩, hQ hq⟩
  · have hvisited := hgrows.visited
    rwa [Progress.visited_hop] at hvisited
  · intro b hb hb'
    rw [← Progress.visited_hop s hop] at hb'
    have hsettled := hgrows.settled b hb hb'
    exact hsettled.mono ⟨List.Subset.refl _, List.Subset.refl _, fun _ h h' => absurd h h'⟩

/-- What each turn of a loop achieves holds at the end of the loop, if it is not lost on the way. -/
theorem leads_forM_after {β : Type} {f : β → Walk Unit} {l : List β} {Q : β → Progress → Prop}
    (mono : ∀ a t u, v.Grows heap groups t u → Q a t → Q a u)
    (hf : ∀ a ∈ l, ∀ t, Framed s t → v.Grows heap groups s t →
      (f a).Leads t (After v heap groups t (Q a)) True) :
    (l.forM f).Leads s (After v heap groups s fun t => ∀ a ∈ l, Q a t) True := by
  induction l generalizing s with
  | nil =>
    refine Walk.leads_pure (After.of_unmoved (.refl s) ?_)
    intro a ha
    cases ha
  | cons a l ih =>
    have first := hf a List.mem_cons_self s (.refl s) (.refl s)
    refine first.bind (fun _ t ht => ?_) fun _ _ _ => nofun
    obtain ⟨hframed, hgrows, ha⟩ := ht rfl
    have rest := ih fun a' ha' u hu hu' =>
      hf a' (List.mem_cons_of_mem _ ha') u (hframed.trans hu) (hgrows.trans hu')
    refine rest.mono fun r u hu => After.trans ⟨hframed, hgrows⟩ fun hr => ?_
    obtain ⟨hframed', hgrows', hl⟩ := hu hr
    refine ⟨hframed', hgrows', fun a' ha' => ?_⟩
    rcases List.mem_cons.1 ha' with rfl | ha'
    · exact mono _ t u hgrows' ha
    · exact hl a' ha'

/-! ## Checking -/

theorem judge_after {routine : Routine} {declaration : Nat} {c : Constraint} {x : Value}
    {name : String} (hname : s.context.path.last?.map (·.name) = some name) :
    (Walk.ofStep (judge (some b) routine declaration c x)).Leads s
      (After v heap groups s fun t =>
        (∀ context, routine.check x c context = .ok false) →
          t.violations.Reports b name x declaration) True := by
  refine Walk.leads_ofStep.2 ?_
  rw [judge_apply]
  split
  · rename_i hcheck
    refine After.of_unmoved ⟨rfl, rfl⟩ fun hrejects => ?_
    rw [hrejects] at hcheck
    cases hcheck
  · refine fun _ => ⟨.of_context_eq rfl, ⟨?_, List.Subset.refl _, fun _ h h' => absurd h h'⟩, ?_⟩
    · exact ViolationSet.subset_insert _ _
    · exact fun _ => ViolationSet.reports_insert _ c hname
  · exact nofun

theorem path_framed (h : Framed s t) : t.context.path = s.context.path := by
  rw [h.context]

theorem checkValue_after {x : Value}
    (hname : s.context.path.last?.map (·.name) = some p.name)
    (hgroups : s.context.groups = groups) :
    (Walk.ofStep (v.checkValue (some b) p x)).Leads s
      (After v heap groups s (v.Checked groups b p x)) True := by
  let reported (kind : ConstraintKind) (t : Progress) : Prop :=
    ∀ routine declaration c, v.Applies groups p x routine declaration c → c.kind = kind →
      (∀ context, routine.check x c context = .ok false) →
        t.violations.Reports b p.name x declaration
  rw [checkValue, Walk.ofStep_bind, Walk.leads_bind_ofStep (context_apply s), Walk.ofStep_forM,
    hgroups]
  refine Walk.Leads.mono (leads_forM_after (Q := reported) ?_ ?_) fun r t h => h.mono ?_
  · intro kind t u hgrows h routine declaration c hc hkind hrejects
    exact (h routine declaration c hc hkind hrejects).mono hgrows.violations
  · intro kind _ t hframed _
    have hpath := path_framed hframed
    split
    · rename_i hnone
      rw [Walk.ofStep_bind, Walk.leads_bind_ofStep (context_apply t)]
      refine After.of_unmoved ⟨rfl, rfl⟩ fun routine declaration c hc hkind _ => ?_
      rw [← hkind, hc.2] at hnone
      cases hnone
    · rename_i routine hroutine
      rw [Walk.ofStep_forM]
      refine Walk.Leads.mono (leads_forM_after (Q := fun d t =>
        (∀ context, routine.check x d.2 context = .ok false) →
          t.violations.Reports b p.name x d.1) ?_ ?_) fun r u h => h.mono ?_
      · exact fun d t u hgrows h hrejects => (h hrejects).mono hgrows.violations
      · intro d _ u hframed' _
        have hpath' := (path_framed hframed').trans hpath
        exact judge_after (by rwa [hpath'])
      · intro hreported routine' declaration c hc hkind hrejects
        obtain ⟨happlicable, hfound⟩ := hc
        rw [hkind, hroutine] at hfound
        obtain rfl := Option.some.inj hfound
        exact hreported (declaration, c) (Property.mem_ofKind.2 ⟨happlicable, hkind⟩) hrejects
  · rintro hreported declaration ⟨routine, c, hc, hrejects⟩
    have hkind : c.kind ∈ p.kinds groups := Property.mem_kinds.2 ⟨_, hc.1, rfl⟩
    exact hreported c.kind hkind routine declaration c hc rfl hrejects

theorem last?_hop (hs : s.context.pending = none) (hop : Hop) :
    (s.hop hop).context.path.last?.map (·.name) = some hop.name := by
  rw [Progress.context_hop hs]
  exact Path.name_last?_descend ..

theorem checkProperty_after (hs : Ready v groups s) :
    (Walk.ofStep (v.checkProperty heap (some b) p w)).Leads s
      (After v heap groups s fun t => ∀ x ∈ v.subjects heap p w, v.Checked groups b p x t)
      True := by
  have hready := hs.hop ⟨p.name, none⟩
  have hname := last?_hop hs.pending ⟨p.name, none⟩
  rw [checkProperty, Walk.ofStep_below]
  let Below : Except Failure Unit → Progress → Prop :=
    After v heap groups (s.hop ⟨p.name, none⟩)
      fun t => ∀ x ∈ v.subjects heap p w, v.Checked groups b p x t
  refine Walk.Leads.below (Walk.Leads.mono (P := Below) ?_ fun r t h => h.pop hs.pending id)
  split
  · rename_i unwrap hunwrap
    have hsubjects : v.subjects heap p w = (unwrap heap w).map (·.value) := by
      simp only [subjects, hunwrap]
    unfold Below
    rw [Walk.ofStep_feed, hsubjects]
    refine Walk.Leads.mono (leads_forM_after (Q := fun e t => v.Checked groups b p e.value t)
      ?_ ?_) fun r t h => h.mono ?_
    · exact fun e t u hgrows h => h.mono hgrows
    · intro e _ t hframed hgrows
      exact checkValue_after (by rw [path_framed hframed]; exact hname)
        (hready.of_grows hframed hgrows).groups
    · intro hchecked x hx
      obtain ⟨e, he, rfl⟩ := List.mem_map.1 hx
      exact hchecked e he
  · rename_i hunwrap
    have hsubjects : v.subjects heap p w = [w] := by simp only [subjects, hunwrap]
    unfold Below
    rw [hsubjects]
    refine (checkValue_after hname hready.groups).mono fun r t h => h.mono fun hchecked x hx => ?_
    rw [List.mem_singleton.1 hx]
    exact hchecked

theorem Reads.unique {x : Value} (stable : v.Stable) (hw : v.Reads heap b p w)
    (hx : v.Reads heap b p x) : x = w := by
  obtain ⟨i, hi, -, rfl⟩ := hw.eq_get stable
  obtain ⟨j, hj, -, rfl⟩ := hx.eq_get stable
  obtain rfl := Option.some.inj (hi.symm.trans hj)
  rfl

theorem checkBean_after (stable : v.Stable) {i : Introspection}
    (hi : v.introspection? b.type = some i) (hs : Ready v groups s) :
    (Walk.ofStep (v.checkBean heap i b)).Leads s
      (After v heap groups s fun t => ∀ p ∈ i.constrained, ∀ w, v.Reads heap b p w →
        ∀ x ∈ v.subjects heap p w, v.Checked groups b p x t) True := by
  rw [checkBean, Walk.ofStep_forM]
  refine leads_forM_after ?_ ?_
  · exact fun p t u hgrows h w hw x hx => (h w hw x hx).mono hgrows
  · intro p hp t hframed hgrows
    have hready := hs.of_grows hframed hgrows
    have hread : v.Reads heap b p (i.read p heap b t.copies).1 :=
      ⟨i, hi, (List.mem_filter.1 hp).1, t.copies, rfl⟩
    rw [Walk.ofStep_bind, Walk.leads_bind_ofStep (read_apply t heap i p b)]
    have hready' : Ready v groups { t with copies := (i.read p heap b t.copies).2 } :=
      ⟨hready.pending, hready.groups, hready.known⟩
    refine (checkProperty_after hready').mono fun r u h => ?_
    refine After.trans (t := { t with copies := (i.read p heap b t.copies).2 })
      ⟨.of_context_eq rfl, .of_unmoved ⟨rfl, rfl⟩⟩ (h.mono fun hchecked w hw => ?_)
    rw [hread.unique stable hw]
    exact hchecked

/-! ## Descending -/

/-- The visits below a bean settle the beans that they visit. -/
def SettlesBelow (v : Validator) (heap : Heap) (groups : List Group)
    (visitBelow : Introspection → Bean → Walk Unit) : Prop :=
  ∀ i b s, v.introspection? b.type = some i → Ready v groups s →
    (visitBelow i b).Leads s (After v heap groups s (v.Settled heap groups b)) True

section Descent

variable {visitBelow : Introspection → Bean → Walk Unit} {x : Value} {element? : Option Element}

theorem Ready.visit {i : Introspection} {y : Bean} (h : Ready v groups s)
    (hi : v.introspection? y.type = some i) : Ready v groups (s.changeContext (·.visit y)) where
  pending := (Framed.visit s y).pending h.pending
  groups := by rw [(Framed.visit s y).context]; exact h.groups
  known z hz := by
    rcases Context.mem_visited_visit.1 hz with rfl | hz
    · rw [hi]
      rfl
    · exact h.known z hz

/-- A bean that is visited is dealt with as a target. -/
theorem handled_of_mem {y : Bean} (hy : (v.introspection? y.type).isSome)
    (hmem : y ∈ s.context.visited) : v.Handled groups b p (.bean y) s where
  checked hnone := by
    obtain ⟨i, hi⟩ := Option.isSome_iff_exists.1 hy
    rw [toEnter?_eq_some.2 ⟨rfl, hi⟩] at hnone
    cases hnone
  visited z i hz := by
    cases (toEnter?_eq_some.1 hz).1
    exact hmem

theorem enter_after (below : SettlesBelow v heap groups visitBelow) (hs : Ready v groups s)
    (hname : s.context.path.last?.map (·.name) = some p.name) :
    (v.enter visitBelow b p x).Leads s
      (After v heap groups s (v.Handled groups b p x)) True := by
  refine (lookUp_leads heap b p none x).bind ?_ (by rintro e t ⟨h, -⟩; cases h)
  rintro _ t ⟨⟨⟩, hunmoved, -⟩
  have hframed : Framed s t := .of_context_eq hunmoved.context
  have hgrows : v.Grows heap groups s t := .of_unmoved hunmoved
  have hready := hs.of_grows hframed hgrows
  rw [← hunmoved.context] at hname
  cases hx : v.toEnter? x with
  | none =>
    have handled {u : Progress} (h : v.Checked groups b p x u) : v.Handled groups b p x u :=
      ⟨fun _ => h, fun y i hy => by rw [hx] at hy; cases hy⟩
    have check : (Walk.ofStep (v.checkValue (some b) p x)).Leads t
        (After v heap groups t (v.Checked groups b p x)) True :=
      checkValue_after hname hready.groups
    exact check.mono fun r u h => After.trans ⟨hframed, hgrows⟩ (h.mono handled)
  | some entry =>
    obtain ⟨y, i⟩ := entry
    obtain ⟨rfl, hi⟩ := toEnter?_eq_some.1 hx
    have hready' := hready.visit hi
    refine (Walk.leads_bind_ofStep (changeContext_apply t _)).2 ?_
    have visited {u : Progress} (hy : y ∈ u.context.visited) : v.Handled groups b p (.bean y) u :=
      handled_of_mem (by rw [hi]; rfl) hy
    have hmem : y ∈ (t.changeContext (·.visit y)).context.visited :=
      Context.mem_visited_visit.2 (.inl rfl)
    by_cases hunconstrained : i.isUnconstrained = true
    · rw [if_pos hunconstrained]
      refine Walk.leads_pure fun _ => ?_
      have grown : v.Grows heap groups t (t.changeContext (·.visit y)) :=
        .of_visit (.refl _) (settled_of_unconstrained hi hunconstrained)
      exact ⟨hframed.trans (.visit t y), hgrows.trans grown, visited hmem⟩
    · rw [if_neg hunconstrained]
      refine (below i y _ hi hready').mono fun r u h hr => ?_
      obtain ⟨hframed', hgrows', hsettled⟩ := h hr
      exact ⟨hframed.trans ((Framed.visit t y).trans hframed'),
        hgrows.trans (.of_visit hgrows' hsettled), visited (hgrows'.visited hmem)⟩

theorem descend_after (all : v.PermitsAll) (below : SettlesBelow v heap groups visitBelow)
    (hs : Ready v groups s) (fresh : s.context.hasVisitedValue x = false) :
    (v.descend visitBelow b p x (.of element?)).Leads (s.changeContext (·.awaiting? element?))
      (After v heap groups s (v.Handled groups b p x)) True := by
  have hready := hs.hop ⟨p.name, element?⟩
  have hname := last?_hop hs.pending ⟨p.name, element?⟩
  have fresh' : (s.hop ⟨p.name, element?⟩).context.hasVisitedValue x = false := by
    rw [Progress.context_hop hs.pending]
    exact fresh
  have target : Walk.Leads (do if ← v.permits x (.of element?) then v.enter visitBelow b p x)
      (s.hop ⟨p.name, element?⟩)
      (After v heap groups (s.hop ⟨p.name, element?⟩) (v.Handled groups b p x)) True := by
    refine (permits_leads heap b p fresh').bind ?_ (by rintro e t ⟨_, h, -⟩; cases h)
    rintro allowed t ⟨_, ⟨⟩, hunmoved, -, permitted, -⟩
    rw [permitted.2 fun target _ => all target]
    have hframed : Framed (s.hop ⟨p.name, element?⟩) t := .of_context_eq hunmoved.context
    have hgrows : v.Grows heap groups (s.hop ⟨p.name, element?⟩) t := .of_unmoved hunmoved
    rw [← hunmoved.context] at hname
    refine (enter_after below (hready.of_grows hframed hgrows) hname).mono fun r u h => ?_
    exact After.trans ⟨hframed, hgrows⟩ h
  rw [descend]
  exact Walk.Leads.below (target.mono fun r t h =>
    h.pop hs.pending fun handled => ⟨handled.checked, handled.visited⟩)

theorem cascadeElement_after (all : v.PermitsAll) (below : SettlesBelow v heap groups visitBelow)
    (hs : Ready v groups s) {e : Extracted} :
    (v.cascadeElement visitBelow b p e).Leads s
      (After v heap groups s (v.Handled groups b p e.value)) True := by
  refine (Walk.leads_bind_ofStep (context_apply s)).2 ?_
  split
  · rename_i hvisited
    obtain ⟨y, hy, hmem⟩ := Context.hasVisitedValue_eq_true.1 hvisited
    refine Walk.leads_ofStep.2 (After.of_unmoved ⟨rfl, rfl⟩ ?_)
    rw [hy]
    exact handled_of_mem (hs.known y hmem) hmem
  · rename_i fresh
    have descends : (v.descend visitBelow b p e.value (.of (some e.element))).Leads
        (s.changeContext (·.awaiting? (some e.element)))
        (After v heap groups s (v.Handled groups b p e.value)) True :=
      descend_after all below hs (by simpa using fresh)
    exact (Walk.leads_bind_ofStep (changeContext_apply s _)).2 descends

theorem cascade_after (all : v.PermitsAll) (below : SettlesBelow v heap groups visitBelow)
    (hs : Ready v groups s) :
    (v.cascade heap visitBelow b p w).Leads s
      (After v heap groups s fun t => ∀ x ∈ v.targets heap w, v.Handled groups b p x t) True := by
  unfold cascade
  split
  · rename_i hnull
    have htargets : v.targets heap w = [] := by simp only [targets, held, hnull, List.map_nil]
    refine Walk.leads_pure (After.of_unmoved (.refl s) ?_)
    rw [htargets]
    intro x hx
    cases hx
  · rename_i tag htag
    split
    · rename_i extractor hextractor
      have htargets : v.targets heap w = (extractor heap w).map (·.value) := by
        simp only [targets, held, htag, hextractor, List.map_map, Function.comp_def]
      rw [Extractor.feed_eq_forM, htargets]
      refine Walk.Leads.mono (leads_forM_after (Q := fun e t => v.Handled groups b p e.value t)
        ?_ ?_) fun r t h => h.mono ?_
      · exact fun e t u hgrows h => h.mono hgrows
      · exact fun e _ t hframed hgrows =>
          cascadeElement_after all below (hs.of_grows hframed hgrows)
      · intro handled x hx
        obtain ⟨e, he, rfl⟩ := List.mem_map.1 hx
        exact handled e he
    · rename_i hextractor
      have htargets : v.targets heap w = [w] := by
        simp only [targets, held, htag, hextractor, List.map_cons, List.map_nil]
      rw [htargets]
      have single {t : Progress} (h : v.Handled groups b p w t) :
          ∀ x ∈ [w], v.Handled groups b p x t := fun x hx => by
        rw [List.mem_singleton.1 hx]
        exact h
      refine (Walk.leads_bind_ofStep (context_apply s)).2 ?_
      split
      · rename_i hvisited
        obtain ⟨y, rfl, hmem⟩ := Context.hasVisitedValue_eq_true.1 hvisited
        exact Walk.leads_ofStep.2 (After.of_unmoved ⟨rfl, rfl⟩
          (single (handled_of_mem (hs.known y hmem) hmem)))
      · rename_i fresh
        have descends : (v.descend visitBelow b p w (.of none)).Leads
            (s.changeContext (·.awaiting? none))
            (After v heap groups s (v.Handled groups b p w)) True :=
          descend_after all below hs (by simpa using fresh)
        exact descends.mono fun r t h => h.mono single

end Descent

/-! ## Visiting -/

theorem visitBy_after (all : v.PermitsAll) (stable : v.Stable)
    {visitBelow : Introspection → Bean → Walk Unit} (below : SettlesBelow v heap groups visitBelow)
    {i : Introspection} (hi : v.introspection? b.type = some i) (hs : Ready v groups s) :
    (v.visitBy heap visitBelow i b).Leads s
      (After v heap groups s (v.Settled heap groups b)) True := by
  have entered : Ready v groups (s.enter b) := ⟨hs.pending, hs.groups, hs.known⟩
  refine (Walk.leads_bind_ofStep (context_apply s)).2 ?_
  refine (Walk.leads_bind_ofStep (record_apply s _)).2 ?_
  refine (checkBean_after stable hi entered).bind (fun _ t ht => ?_) fun _ _ _ => nofun
  obtain ⟨hframed, hgrows, hchecked⟩ := ht rfl
  have ready := entered.of_grows hframed hgrows
  refine Walk.Leads.mono (P := After v heap groups t fun u => ∀ p ∈ i.cascading, ∀ w,
    v.Reads heap b p w → ∀ x ∈ v.targets heap w, v.Handled groups b p x u)
    (leads_forM_after ?_ ?_) fun r u h hr => ?_
  · exact fun p t u hgrows h w hw x hx => (h w hw x hx).mono hgrows
  · intro p hp u hframed' hgrows'
    have turn := ready.of_grows hframed' hgrows'
    have hread : v.Reads heap b p (i.read p heap b u.copies).1 :=
      ⟨i, hi, (List.mem_filter.1 hp).1, u.copies, rfl⟩
    refine (Walk.leads_bind_ofStep (read_apply u heap i p b)).2 ?_
    have read : Ready v groups { u with copies := (i.read p heap b u.copies).2 } :=
      ⟨turn.pending, turn.groups, turn.known⟩
    have cascades : (v.cascade heap visitBelow b p (i.read p heap b u.copies).1).Leads _
        (After v heap groups _ fun t => ∀ x ∈ v.targets heap (i.read p heap b u.copies).1,
          v.Handled groups b p x t) True := cascade_after all below read
    refine cascades.mono fun r x h => ?_
    refine After.trans (t := { u with copies := (i.read p heap b u.copies).2 })
      ⟨.of_context_eq rfl, .of_unmoved ⟨rfl, rfl⟩⟩ (h.mono fun handled w hw => ?_)
    rw [hread.unique stable hw]
    exact handled
  · obtain ⟨hframed', hgrows', handled⟩ := h hr
    have hentered : Framed s (s.enter b) ∧ v.Grows heap groups s (s.enter b) :=
      ⟨.enter s b, .of_unmoved ⟨rfl, rfl⟩⟩
    refine ⟨hentered.1.trans (hframed.trans hframed'),
      hentered.2.trans (hgrows.trans hgrows'), ?_⟩
    refine ⟨by rw [hi]; rfl, fun p w hw x hx declaration hrejects => ?_, fun p w hw hp => ?_⟩
    · obtain ⟨routine, c, ⟨hmem, -⟩, -⟩ := id hrejects
      have hp : p ∈ i.constrained :=
        List.mem_filter.2 ⟨hw.mem_properties hi, Property.isConstrained_of_mem_applicable hmem⟩
      exact ((hchecked p hp w hw x hx).mono hgrows') declaration hrejects
    · exact handled p (List.mem_filter.2 ⟨hw.mem_properties hi, hp⟩) w hw

/-- A visit that goes well settles its bean, and all beans that it visits. -/
theorem visit_settles (all : v.PermitsAll) (stable : v.Stable) {i : Introspection}
    (hi : v.introspection? b.type = some i) (hs : Ready v groups s)
    (h : v.visit heap i b s = some (.ok (), t)) :
    v.Grows heap groups s t ∧ v.Settled heap groups b t := by
  have key := visit.partial_correctness v heap
    (fun i b s o => v.introspection? b.type = some i → Ready v groups s →
      After v heap groups s (v.Settled heap groups b) o.1 o.2)
  refine (key (fun visitBelow ih i b s o ho hi hs => ?_) i b s _ h hi hs rfl).2
  refine (visitBy_after all stable (fun j x s' hj hs' => ?_) hi hs).of_eq_some ho
  exact Walk.leads_iff.2 ⟨fun r y hy => ih j x s' (r, y) hy hj hs', fun _ => trivial⟩

end Validator

end BeanGraph
