import BeanGraph.Proofs.Activation

/-!
# The nodes of a path

A violation, or a constraint that could not be evaluated, is found by a routine that a run asks, in
one of its calls to ask about a value.  The path is that of the hops whose nodes have been pushed
for this call, and the hops say what each node was pushed for.

* `accounted_perform`: whatever a call finds is found by a routine that the run asks;
* `Activated.emitted`: a node of a hop to an element is pushed for an element that a cascade
  extractor has emitted;
* `pushedFor_of_asks`: so the marks of the nodes at which a routine is asked are told by the
  elements that they were pushed for;
* `nodes_of_report`: those are the nodes of the paths in a report.
-/

namespace BeanGraph

open Call

/-! ## The marks of nodes -/

theorem Hop.isElement_node (hop : Hop) : hop.node.isElement = hop.element?.isSome := by
  obtain ⟨_, _ | _⟩ := hop <;> rfl

theorem Hop.isSome_element? {hop : Hop} (h : hop.isIterable = true) : hop.element?.isSome := by
  obtain ⟨_, _ | _⟩ := hop
  · cases h
  · rfl

theorem PathNode.index_or_key (n : PathNode) :
    ¬(n.index?.isSome ∧ n.key?.isSome) ∧
      (n.index?.isSome ∨ n.key?.isSome → n.isElement = true) := by
  obtain ⟨_, _ | ⟨_ | _ | _⟩, _⟩ := n <;> simp [index?, key?, isElement]

/-- The node of a hop on a path is in an iterable exactly if the hop, or one before it, is to one of
several elements. -/
theorem Path.inIterable_iff {hops : List Hop} {j : Nat} {n : PathNode}
    (h : (Path.along hops).nodes[j]? = some n) :
    n.inIterable = true ↔
      ∃ k ≤ j, ∃ hop, hops[k]? = some hop ∧ hop.isIterable = true := by
  have hj : j < hops.length := by simpa using (List.getElem?_eq_some_iff.1 h).1
  have hhop : hops[j]? = some hops[j] := List.getElem?_eq_getElem hj
  rw [getElem?_nodes_along hhop, Option.some.injEq] at h
  subst h
  rw [PathNode.within, Hop.inIterable_node, Bool.or_eq_true, List.any_eq_true]
  constructor
  · rintro (hiterable | ⟨hop, hmem, hiterable⟩)
    · exact ⟨j, Nat.le_refl j, hops[j], hhop, hiterable⟩
    · obtain ⟨k, hk⟩ := List.mem_iff_getElem?.1 hmem
      have hkj : k < j := by
        have := (List.getElem?_eq_some_iff.1 hk).1
        rw [List.length_take] at this
        omega
      exact ⟨k, Nat.le_of_lt hkj, hop, by rwa [List.getElem?_take_of_lt hkj] at hk, hiterable⟩
  · rintro ⟨k, hk, hop, hmem, hiterable⟩
    rcases Nat.eq_or_lt_of_le hk with rfl | hk
    · rw [hhop, Option.some.injEq] at hmem
      exact .inl (hmem ▸ hiterable)
    · refine .inr ⟨hop, List.mem_iff_getElem?.2 ⟨k, ?_⟩, hiterable⟩
      rwa [List.getElem?_take_of_lt hk]

/-- The name of the only property that a run validates. -/
def Run.property? : Run → Option String
  | .validate _ _ _ => none
  | .validateProperty _ name _ _ => some name
  | .validateValue _ name _ _ _ => some name

namespace Validator

/-! ## What a run finds -/

section Trace

variable (v : Validator) (heap : Heap) (run : Run)

/-- A run makes a call of a routine, in one of its own to ask about a value below the nodes of
hops. -/
inductive Asks (hops : List Hop) (leaf? : Option Bean) : RoutineCall → Prop
  | intro {p u s routine declaration c}
      (h : v.Activated heap run hops (.value leaf? p u) s)
      (hc : v.Applies s.context.groups p u routine declaration c) :
      Asks hops leaf? (s.callOf routine declaration c u)

/-- A violation is found by a routine that the run asks and that has answered no. -/
def FoundBy (x : Violation) : Prop :=
  ∃ hops leaf? call, v.Asks heap run hops leaf? call ∧ call.answer = .ok false ∧
    x = .of call.context leaf? call.declaration call.constraint call.value

/-- A failure is that of a routine that the run asks and that cannot answer. -/
def FailedBy (e : Failure) : Prop :=
  ∃ hops leaf? call source, v.Asks heap run hops leaf? call ∧ call.answer = .error source ∧
    e = .evaluation call.constraint.kind call.context.path source

/-- What a part of a run finds, and the failure it ends with, is accounted for by the routines that
the run asks. -/
structure Accounted (s : Progress) (r : Except Failure Unit) (t : Progress) : Prop where
  found : ∀ x ∈ t.violations.items, x ∈ s.violations.items ∨ v.FoundBy heap run x
  failed : ∀ e, r = .error e → v.FailedBy heap run e

/-- A way to visit the beans below one that stays within the visits of a run, and accounts for what
it finds. -/
structure Tracks (visitBelow : Introspection → Bean → Walk Unit) : Prop where
  le : ∀ i b, Walk.Le (visitBelow i b) (v.visit heap i b)
  accounted : ∀ hops i b s, v.Activated heap run hops (.visit i b) s →
    (visitBelow i b).Leads s (v.Accounted heap run s) True

variable {v heap run}
variable {s t u : Progress} {r : Except Failure Unit} {hops : List Hop} {leaf? : Option Bean}
  {leaf b : Bean} {p : Property} {w : Value} {i : Introspection}
  {visitBelow : Introspection → Bean → Walk Unit}

theorem Accounted.rest (h : t.violations = s.violations) : v.Accounted heap run s (.ok ()) t where
  found x hx := .inl (by rwa [h] at hx)
  failed := nofun

theorem Accounted.next (h : v.Accounted heap run s (.ok ()) t) (h' : v.Accounted heap run t r u) :
    v.Accounted heap run s r u where
  found x hx := (h'.found x hx).elim (h.found x) .inr
  failed := h'.failed

theorem Accounted.since (h : v.Accounted heap run t r u) (hs : t.violations = s.violations) :
    v.Accounted heap run s r u :=
  (Accounted.rest hs).next h

theorem accounted_value (h : v.Activated heap run hops (.value leaf? p w) s) :
    (Walk.ofStep (v.checkValue leaf? p w)).Leads s (v.Accounted heap run s) True := by
  have judges (t : Progress) (routine : Routine) (declaration : Nat) (c : Constraint)
      (hcontext : t.context = s.context)
      (happlies : v.Applies t.context.groups p w routine declaration c) :
      v.Accounted heap run t (judge leaf? routine declaration c w t).1
        (judge leaf? routine declaration c w t).2 := by
    rw [hcontext] at happlies
    have asks := Asks.intro h happlies
    constructor
    · refine fun x hx => (mem_violations_judge hx).imp id fun ⟨hcheck, hx⟩ => ?_
      rw [hcontext] at hcheck hx
      exact ⟨hops, leaf?, _, asks, hcheck, hx⟩
    · intro e he
      rw [judge_apply] at he
      split at he <;> cases he
      rename_i source hcheck
      rw [hcontext] at hcheck ⊢
      exact ⟨hops, leaf?, _, source, asks, hcheck, rfl⟩
  exact (checkValue_keeps (Accounted.rest rfl) (fun _ _ _ ht => ht.next (.rest rfl))
    fun t routine declaration c hcontext ht happlies =>
      ht.next (judges t routine declaration c hcontext happlies)).mono fun _ _ h => h.1

theorem accounted_property (h : v.Activated heap run hops (.property leaf? p w) s) :
    (Walk.ofStep (v.checkProperty heap leaf? p w)).Leads s (v.Accounted heap run s) True := by
  rw [checkProperty, Walk.ofStep_below]
  refine Walk.Leads.below (Walk.Leads.mono (P := v.Accounted heap run s) ?_
    fun _ _ h => ⟨h.found, h.failed⟩)
  split
  · rename_i unwrap hunwrap
    rw [Walk.ofStep_feed]
    refine Walk.leads_forM_prefix (.rest rfl) fun earlier e later t he hearlier ht => ?_
    rw [← Walk.ofStep_forM, Walk.ofStep_apply, Option.some.injEq] at hearlier
    exact (accounted_value (h.call (.wrappedValue hunwrap he hearlier))).mono
      fun _ _ h => ht.next h
  · rename_i hunwrap
    exact (accounted_value (h.call (.ownValue hunwrap))).mono fun _ _ h => h.since rfl

theorem accounted_target (hf : v.Tracks heap run visitBelow)
    (h : v.Activated heap run hops (.target leaf p w) s) :
    (v.enter visitBelow leaf p w).Leads s (v.Accounted heap run s) True := by
  refine (lookUp_leads heap leaf p none w).and_run.bind ?_ (by rintro e t ⟨⟨h, -⟩, -⟩; cases h)
  rintro _ t ⟨⟨⟨⟩, hunmoved, -⟩, hrun⟩
  have hlookUp := Option.some.inj hrun
  have rest : v.Accounted heap run s (.ok ()) t := .rest hunmoved.violations
  cases hw : v.toEnter? w with
  | none =>
    rw [hw] at hlookUp
    exact (accounted_value (h.call (.targetValue hlookUp))).mono fun _ _ h => rest.next h
  | some entry =>
    obtain ⟨b, i⟩ := entry
    rw [hw] at hlookUp
    refine (Walk.leads_bind_ofStep (changeContext_apply t _)).2 ?_
    split
    · exact Walk.leads_pure (.rest hunmoved.violations)
    · rename_i hi
      have visit := h.call (.visit hlookUp (by simpa using hi))
      exact (hf.accounted _ _ _ _ visit).mono fun _ _ h => rest.next (h.since rfl)

/-- A descent accounts for what it finds if the call that it may make is one of the run. -/
theorem accounted_descend (hf : v.Tracks heap run visitBelow) (element? : Option Element)
    (hs : s.context.pending = none) (fresh : s.context.hasVisitedValue w = false)
    (calls : ∀ t, v.permits w (.of element?) (s.hop ⟨p.name, element?⟩) = (.ok true, t) →
      v.Activated heap run (hops ++ [⟨p.name, element?⟩]) (.target leaf p w) t) :
    (v.descend visitBelow leaf p w (.of element?)).Leads (s.changeContext (·.awaiting? element?))
      (v.Accounted heap run s) True := by
  have fresh' : (s.hop ⟨p.name, element?⟩).context.hasVisitedValue w = false := by
    rw [Progress.context_hop hs]
    exact fresh
  rw [descend]
  refine Walk.Leads.below (Walk.Leads.mono (P := v.Accounted heap run s) ?_
    fun _ _ h => ⟨h.found, h.failed⟩)
  refine (permits_leads heap leaf p fresh').and_run.bind ?_
    (by rintro e t ⟨⟨_, h, -⟩, -⟩; cases h)
  rintro allowed t ⟨⟨_, ⟨⟩, hunmoved, -⟩, hrun⟩
  have rest : v.Accounted heap run s (.ok ()) t := .rest hunmoved.violations
  cases allowed with
  | false => exact Walk.leads_pure rest
  | true =>
    exact (accounted_target hf (calls t (Option.some.inj hrun))).mono fun _ _ h => rest.next h

theorem accounted_element (hf : v.Tracks heap run visitBelow) {e : Extracted}
    (h : v.Activated heap run hops (.element leaf p e) s) :
    (v.cascadeElement visitBelow leaf p e).Leads s (v.Accounted heap run s) True := by
  refine (Walk.leads_bind_ofStep (context_apply s)).2 ?_
  split
  · exact Accounted.rest rfl
  · rename_i fresh
    have fresh : s.context.hasVisitedValue e.value = false := by simpa using fresh
    have hs := h.begins.orderly.pending
    have descends := accounted_descend hf (some e.element) hs fresh fun t permitted =>
      h.call (.elementTarget fresh permitted)
    exact (Walk.leads_bind_ofStep (changeContext_apply s _)).2 descends

theorem accounted_cascade (hf : v.Tracks heap run visitBelow)
    (h : v.Activated heap run hops (.visit i b) s) (hcomes : v.ComesTo heap i b s p w t) :
    (v.cascade heap visitBelow b p w).Leads t (v.Accounted heap run t) True := by
  unfold cascade
  split
  · exact Walk.leads_pure (.rest rfl)
  · rename_i tag htag
    split
    · rename_i extractor hextractor
      have hfind : w.runtimeType?.bind v.extractors.cascade.find? = some extractor := by
        rw [htag]
        exact hextractor
      rw [Extractor.feed_eq_forM]
      refine Walk.leads_forM_prefix (.rest rfl) fun earlier e later u he hearlier hu => ?_
      have hearlier := Walk.Le.forM (fun e _ => cascadeElement_le hf.le b p e) _ _ hearlier
      exact (accounted_element hf (h.call (.element hcomes hfind he hearlier))).mono
        fun _ _ h => hu.next h
    · rename_i hextractor
      refine (Walk.leads_bind_ofStep (context_apply t)).2 ?_
      split
      · exact Accounted.rest rfl
      · rename_i fresh
        have fresh : t.context.hasVisitedValue w = false := by simpa using fresh
        have hs := h.begins.orderly.pending
        have hpending := ((hcomes.passage h.begins.sound hs).1.framed hs).pending hs
        have descends := accounted_descend hf none hpending fresh fun u permitted =>
          h.call (.field hcomes htag hextractor fresh permitted)
        exact descends

theorem accounted_visitBy (hf : v.Tracks heap run visitBelow)
    (h : v.Activated heap run hops (.visit i b) s) :
    (v.visitBy heap visitBelow i b).Leads s (v.Accounted heap run s) True := by
  refine (Walk.leads_bind_ofStep (context_apply s)).2 ?_
  refine (Walk.leads_bind_ofStep (record_apply s _)).2 ?_
  have checks : (Walk.ofStep (v.checkBean heap i b)).Leads (s.enter b) (v.Accounted heap run s)
      True := by
    rw [checkBean, Walk.ofStep_forM]
    refine Walk.leads_forM_prefix (.rest rfl) fun before p after t hp hbefore ht => ?_
    rw [← Walk.ofStep_forM, Walk.ofStep_apply, Option.some.injEq] at hbefore
    rw [Walk.ofStep_bind, Walk.leads_bind_ofStep (read_apply t heap i p b)]
    exact (accounted_property (h.call (.property hp hbefore rfl))).mono
      fun _ _ h => ht.next (h.since rfl)
  refine checks.and_run.bind ?_ fun _ _ h => h.1
  rintro _ t ⟨ht, hchecked⟩
  refine Walk.leads_forM_prefix ht fun before p after x hp hbefore hx => ?_
  refine (Walk.leads_bind_ofStep (read_apply x heap i p b)).2 ?_
  have hbefore : (Walk.ofStep (v.checkBean heap i b) >>= fun _ =>
      v.cascadeEach heap (v.visit heap) i b before) (s.enter b) = some (.ok (), x) := by
    have hchecked : Walk.ofStep (v.checkBean heap i b) (s.enter b) = some (.ok (), t) := hchecked
    rw [Walk.bind_apply, hchecked]
    have hle : Walk.Le (v.cascadeEach heap visitBelow i b before)
        (v.cascadeEach heap (v.visit heap) i b before) :=
      Walk.Le.forM fun p _ => (Walk.Le.refl _).bind fun w => cascade_le hf.le b p w
    exact hle _ _ hbefore
  exact (accounted_cascade hf h (.intro hp hbefore rfl)).mono fun _ _ h => hx.next (h.since rfl)

/-- A visit of a run accounts for what it finds. -/
theorem accounted_visit (h : v.Activated heap run hops (.visit i b) s) :
    Walk.Leads (v.visit heap i b) s (v.Accounted heap run s) True := by
  -- a visit with an end is the visit of one bean whose visits below have ends, and account for
  -- what they find
  have key := visit.partial_correctness v heap (fun i b s o => v.visit heap i b s = some o ∧
    ∀ hops, v.Activated heap run hops (.visit i b) s → v.Accounted heap run s o.1 o.2)
  refine Walk.leads_iff.2 ⟨fun r t ht => ?_, fun _ => trivial⟩
  refine (key (fun visitBelow ih i b s o ho => ?_) i b s (r, t) ht).2 hops h
  have hf : v.Tracks heap run visitBelow := by
    refine ⟨fun i b s o ho => (ih i b s o ho).1, fun hops i b s h => ?_⟩
    exact Walk.leads_iff.2 ⟨fun r t ht => (ih i b s (r, t) ht).2 hops h, fun _ => trivial⟩
  refine ⟨?_, fun hops h => (accounted_visitBy hf h).of_eq_some ho⟩
  rw [visit_eq]
  exact visitBy_le hf.le i b s o ho

theorem tracks_visit : v.Tracks heap run (v.visit heap) where
  le _ _ := Walk.Le.refl _
  accounted _ _ _ _ := accounted_visit

/-- So does any call of a run. -/
theorem accounted_perform {a : Activation} (h : v.Activated heap run hops a s) :
    (v.perform heap a).Leads s (v.Accounted heap run s) True := by
  cases a with
  | visit i b => exact accounted_visit h
  | property leaf? p w => exact accounted_property h
  | element leaf p e => exact accounted_element tracks_visit h
  | target leaf p u => exact accounted_target tracks_visit h
  | value leaf? p u => exact accounted_value h

/-- So does a report. -/
theorem accounted_of_report {report : Report} (h : v.report? heap run = some report) :
    (∀ vs, report.result = .ok vs → ∀ x ∈ vs.items, v.FoundBy heap run x) ∧
    ∀ kind path source, report.result = .error (.evaluation kind path source) →
      v.FailedBy heap run (.evaluation kind path source) := by
  obtain hidle | ⟨a, s, r, t, hfirst, hperform, rfl⟩ := first_of_report h
  · refine ⟨fun vs hvs x hx => ?_, fun kind path source hr =>
      absurd hr (hidle.failed kind path source)⟩
    rw [hidle.found vs hvs] at hx
    cases hx
  · have accounted := (accounted_perform (.first hfirst)).of_eq_some hperform
    have hempty : s.violations = .empty := by cases hfirst <;> rfl
    refine ⟨fun vs hvs x hx => ?_, fun kind path source hr => ?_⟩
    · obtain rfl := violations_of_result hvs
      refine (accounted.found x hx).resolve_left fun hx => ?_
      rw [hempty] at hx
      cases hx
    · cases r with
      | ok _ => cases hr
      | error e => exact accounted.failed _ (congrArg Except.error (Except.error.inj hr))

end Trace

/-! ## What nodes are pushed for -/

section Nodes

variable {v : Validator} {heap : Heap} {run : Run} {hops : List Hop} {hop : Hop}
  {a : Activation} {s : Progress}

/-- Below the nodes of some hops, a run pushes the node of another one for an element that a cascade
extractor has emitted from what a property holds. -/
inductive Emitted (v : Validator) (heap : Heap) (run : Run) (hops : List Hop) : Hop → Prop
  | intro {b p w tag extractor e s} (h : v.Activated heap run hops (.element b p e) s)
      (hw : v.Reads heap b p w) (hp : p.cascade = true) (htag : w.runtimeType? = some tag)
      (hextractor : v.extractors.cascade.find? tag = some extractor) (he : e ∈ extractor heap w) :
      Emitted v heap run hops ⟨p.name, some e.element⟩

/-- The hops that a call adds are to elements only if it is a call for an element. -/
theorem Calls.emitted {more : List Hop} {a' : Activation} {s' : Progress}
    (hc : v.Calls heap a s more a' s') (h : v.Activated heap run hops a s) (hhop : hop ∈ more)
    (helement : hop.element?.isSome) : more = [hop] ∧ v.Emitted heap run hops hop := by
  cases hc with
  | elementTarget =>
    obtain rfl := List.mem_singleton.1 hhop
    obtain ⟨hp, w, hw, he⟩ := h.begins.sound
    obtain ⟨tag, extractor, htag, hextractor, he⟩ := (v.mem_held_some heap).1 he
    exact ⟨rfl, .intro h hw hp htag hextractor he⟩
  | field | wrappedValue | ownValue =>
    obtain rfl := List.mem_singleton.1 hhop
    cases helement
  | property | element | visit | targetValue => cases hhop

/-- A hop to an element is one that has been emitted when its node is pushed. -/
theorem Activated.emitted (h : v.Activated heap run hops a s) {j : Nat} (hhop : hops[j]? = some hop)
    (helement : hop.element?.isSome) : v.Emitted heap run (hops.take j) hop := by
  induction h with
  | first => cases hhop
  | @call hops _ _ more _ _ h hc ih =>
    rcases Nat.lt_or_ge j hops.length with hj | hj
    · rw [List.getElem?_append_left hj] at hhop
      rw [List.take_append_of_le_length (Nat.le_of_lt hj)]
      exact ih hhop
    · rw [List.getElem?_append_right hj] at hhop
      obtain ⟨rfl, hemitted⟩ := hc.emitted h (List.mem_of_getElem? hhop) helement
      have hlength := (List.getElem?_eq_some_iff.1 hhop).1
      rw [List.length_singleton] at hlength
      obtain rfl : j = hops.length := by omega
      rwa [List.take_left]

/-- A run of one property makes one call to check it, which asks about values one node below. -/
theorem Activated.of_property (h : v.Activated heap run hops a s) {name : String}
    (hname : run.property? = some name) :
    (hops = [] ∧ ∃ leaf? p w, a = .property leaf? p w ∧ p.name = name) ∨
      hops = [⟨name, none⟩] ∧ ∃ leaf? p u, a = .value leaf? p u := by
  induction h with
  | first hfirst =>
    cases hfirst with
    | visit => cases hname
    | property _ hp | value _ hp =>
      obtain rfl := Option.some.inj hname
      exact .inl ⟨rfl, _, _, _, rfl, (Introspection.mem_of_property? hp).2⟩
  | call _ hc ih =>
    obtain ⟨rfl, leaf?, p, w, rfl, rfl⟩ | ⟨-, leaf?, p, u, rfl⟩ := ih
    · cases hc with
      | wrappedValue | ownValue => exact .inr ⟨rfl, _, _, _, rfl⟩
    · cases hc

/-- The nodes of a path have been pushed by a run for some hops, and are marked as these tell: a
node is an element exactly if it was pushed for one that a cascade extractor had emitted, and in an
iterable exactly if it, or a node before it, was pushed for an emitted one of several elements. -/
structure PushedFor (v : Validator) (heap : Heap) (run : Run) (hops : List Hop) (path : Path) :
    Prop where
  nonempty : path ≠ .root
  length : path.nodes.length = hops.length
  place : ∀ n ∈ path.nodes, ¬(n.index?.isSome ∧ n.key?.isSome) ∧
    (n.index?.isSome ∨ n.key?.isSome → n.isElement = true)
  name : ∀ (j : Nat) (n : PathNode) (hop : Hop), path.nodes[j]? = some n → hops[j]? = some hop →
    n.name = hop.name
  element : ∀ (j : Nat) (n : PathNode) (hop : Hop), path.nodes[j]? = some n →
    hops[j]? = some hop → (n.isElement = true ↔ v.Emitted heap run (hops.take j) hop)
  inIterable : ∀ (j : Nat) (n : PathNode), path.nodes[j]? = some n →
    (n.inIterable = true ↔ ∃ k ≤ j, ∃ hop, hops[k]? = some hop ∧
      v.Emitted heap run (hops.take k) hop ∧ hop.isIterable = true)
  monotone : ∀ (j k : Nat) (n n' : PathNode), j ≤ k → path.nodes[j]? = some n →
    path.nodes[k]? = some n' → n.inIterable = true → n'.inIterable = true

/-- The nodes at which a run asks a routine have been pushed for the hops below which it does. -/
theorem pushedFor_of_asks {leaf? : Option Bean} {call : RoutineCall}
    (h : v.Asks heap run hops leaf? call) : v.PushedFor heap run hops call.context.path := by
  obtain @⟨p, u, s, routine, declaration, c, hactivated, -⟩ := h
  show v.PushedFor heap run hops s.context.path
  have halong := hactivated.begins.path
  have node {j : Nat} {n : PathNode} {hop : Hop} (hn : s.context.path.nodes[j]? = some n)
      (hhop : hops[j]? = some hop) : n = hop.node.within ((hops.take j).any Hop.isIterable) := by
    rw [halong, Path.getElem?_nodes_along hhop, Option.some.injEq] at hn
    exact hn.symm
  refine ⟨hactivated.begins.sound, by rw [halong, Path.length_along], fun n _ => n.index_or_key,
    fun j n hop hn hhop => ?_, fun j n hop hn hhop => ?_, fun j n hn => ?_,
    fun j k n n' hjk hn hn' hiterable => ?_⟩
  · rw [node hn hhop]
    exact hop.name_node
  · have hmark : n.isElement = hop.element?.isSome := by
      rw [node hn hhop]
      exact hop.isElement_node
    rw [hmark]
    exact ⟨hactivated.emitted hhop, by rintro ⟨⟩; rfl⟩
  · rw [halong] at hn
    rw [Path.inIterable_iff hn]
    constructor
    · rintro ⟨k, hk, hop, hhop, hiterable⟩
      exact ⟨k, hk, hop, hhop, hactivated.emitted hhop (Hop.isSome_element? hiterable), hiterable⟩
    · rintro ⟨k, hk, hop, hhop, -, hiterable⟩
      exact ⟨k, hk, hop, hhop, hiterable⟩
  · rw [halong] at hn hn'
    obtain ⟨l, hl, hop, hhop, hiterable⟩ := (Path.inIterable_iff hn).1 hiterable
    exact (Path.inIterable_iff hn').2 ⟨l, Nat.le_trans hl hjk, hop, hhop, hiterable⟩

/-- A run of one property asks at the node of this property. -/
theorem path_of_asks {leaf? : Option Bean} {call : RoutineCall}
    (h : v.Asks heap run hops leaf? call) {name : String} (hname : run.property? = some name) :
    call.context.path.nodes = [.property name] := by
  obtain @⟨p, u, s, routine, declaration, c, hactivated, -⟩ := h
  obtain ⟨-, _, _, _, ⟨⟩, -⟩ | ⟨rfl, -⟩ := hactivated.of_property hname
  show s.context.path.nodes = _
  rw [hactivated.begins.path]
  rfl

/-- In the report of every run, a violation has been found by a routine that the run has asked, and
so has the failure of a constraint that could not be evaluated, and the nodes of its path have been
pushed for the hops below which the run has asked.  In a run of one property the path is the node of
this property. -/
theorem nodes_of_report (v : Validator) (heap : Heap) {run : Run} {report : Report}
    (h : v.report? heap run = some report) :
    (∀ vs, report.result = .ok vs → ∀ x ∈ vs.items, ∃ hops leaf? call,
      v.Asks heap run hops leaf? call ∧ call.answer = .ok false ∧
        x = .of call.context leaf? call.declaration call.constraint call.value ∧
        v.PushedFor heap run hops x.path ∧
        ∀ name, run.property? = some name → x.path.nodes = [.property name]) ∧
    ∀ kind path source, report.result = .error (.evaluation kind path source) →
      ∃ hops leaf? call, v.Asks heap run hops leaf? call ∧ call.answer = .error source ∧
        kind = call.constraint.kind ∧ path = call.context.path ∧
        v.PushedFor heap run hops path ∧
        ∀ name, run.property? = some name → path.nodes = [.property name] := by
  obtain ⟨finds, fails⟩ := accounted_of_report h
  constructor
  · intro vs hvs x hx
    obtain ⟨hops, leaf?, call, hasks, hanswer, rfl⟩ := finds vs hvs x hx
    exact ⟨hops, leaf?, call, hasks, hanswer, rfl, pushedFor_of_asks hasks,
      fun _ => path_of_asks hasks⟩
  · intro kind path source hr
    obtain ⟨hops, leaf?, call, _, hasks, hanswer, ⟨⟩⟩ := fails kind path source hr
    exact ⟨hops, leaf?, call, hasks, hanswer, rfl, rfl, pushedFor_of_asks hasks,
      fun _ => path_of_asks hasks⟩

/-- In the ring the path of the missing name has a node in an iterable first, which was pushed for
an item, and so the wrapped gift below is written with brackets. -/
theorem ring_nodes_of_report :
    ∃ report vs hops hop, Ring.validator.report? Ring.heap (.validate (.bean Ring.first) [] 0) =
        some report ∧ report.result = .ok vs ∧ vs.items = [Ring.missing] ∧
      Ring.validator.PushedFor Ring.heap (.validate (.bean Ring.first) [] 0) hops
        Ring.missing.path ∧
      hops[0]? = some hop ∧ hop.isIterable = true ∧
      Ring.validator.Emitted Ring.heap (.validate (.bean Ring.first) [] 0) [] hop ∧
      Ring.missing.path.text = "items[0].gift[].name" := by
  obtain ⟨report, vs, h, hvs, hitems⟩ := Ring.validate_first
  have hmem : Ring.missing ∈ vs.items := hitems ▸ List.mem_cons_self
  have h : Ring.validator.report? Ring.heap (.validate (.bean Ring.first) [] 0) = some report := h
  obtain ⟨found, -⟩ := nodes_of_report Ring.validator Ring.heap h
  obtain ⟨hops, leaf?, call, -, -, -, pushed, -⟩ := found vs hvs _ hmem
  obtain ⟨k, hk, hop, hhop, hemitted, hiterable⟩ := (pushed.inIterable 0 _ rfl).1 rfl
  obtain rfl := Nat.le_zero.1 hk
  exact ⟨report, vs, hops, hop, h, hvs, hitems, pushed, hhop, hiterable, hemitted, by decide⟩

end Nodes

end Validator

end BeanGraph
