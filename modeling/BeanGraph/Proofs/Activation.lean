import BeanGraph.Proofs.Outcome

/-!
# The calls of a run

A run of a validator is a tree of calls of the functions that it is made of.  An `Activation` is one
of them with its arguments, and `Calls` says which calls it makes itself: one constructor for each
place in the functions where a call is made, with all that is done before it.  `Activated` are the
calls of a whole run, whether it has an end or not, each with the state in which it begins and the
hops whose nodes have been pushed by then and not yet left.

A call begins with no element pending, at the path of the hops (`Begins`), and however it returns,
the context is as it was but for beans that have been entered.

* `Calls.begins`, `Activated.begins`: this is how the calls of a run begin;
* `Begins.returns`: and so they leave the context as it was;
* `context_of_activated`: resolvers and routines are asked at a node with no element pending.
-/

namespace BeanGraph

open Call

/-! ## Activations -/

/-- A call of one of the functions of a validator, with its arguments. -/
inductive Activation
  /-- Of the one that visits a bean. -/
  | visit (i : Introspection) (b : Bean)
  /-- Of the one that checks a property with the value read from it. -/
  | property (leaf? : Option Bean) (p : Property) (w : Value)
  /-- Of the one that goes into an element of the container that a cascade property holds. -/
  | element (leaf : Bean) (p : Property) (e : Extracted)
  /-- Of the one that enters a cascade target below its node. -/
  | target (leaf : Bean) (p : Property) (u : Value)
  /-- Of the one that asks the routines about a value. -/
  | value (leaf? : Option Bean) (p : Property) (u : Value)

/-- A call of a validator from outside. -/
inductive Run
  | validate (object : Value) (groups : List Group) (copies : Nat)
  | validateProperty (object : Value) (name : String) (groups : List Group) (copies : Nat)
  | validateValue (type : BeanType) (name : String) (value : Value) (groups : List Group)
      (copies : Nat)

namespace Validator

variable (v : Validator) (heap : Heap)

/-- What a call does. -/
def perform : Activation → Walk Unit
  | .visit i b => v.visit heap i b
  | .property leaf? p w => .ofStep (v.checkProperty heap leaf? p w)
  | .element leaf p e => v.cascadeElement (v.visit heap) leaf p e
  | .target leaf p u => v.enter (v.visit heap) leaf p u
  | .value leaf? p u => .ofStep (v.checkValue leaf? p u)

/-- The visit of a bean from a state comes to a cascade property, and reads a value. -/
inductive ComesTo (i : Introspection) (b : Bean) (s : Progress) (p : Property) (w : Value) :
    Progress → Prop
  | intro {before after t u} (hp : i.cascading = before ++ p :: after)
      (hbefore : (Walk.ofStep (v.checkBean heap i b) >>= fun _ =>
        v.cascadeEach heap (v.visit heap) i b before) (s.enter b) = some (.ok (), t))
      (hread : read heap i p b t = (.ok w, u)) : ComesTo i b s p w u

/-- A call begun in a state makes another one, in the state that what it does before leaves, and
pushes the nodes of some hops for it. -/
inductive Calls : Activation → Progress → List Hop → Activation → Progress → Prop
  | property {i b s p w before after t u} (hp : i.constrained = before ++ p :: after)
      (hbefore : v.checkEach heap i b before (s.enter b) = (.ok (), t))
      (hread : read heap i p b t = (.ok w, u)) :
      Calls (.visit i b) s [] (.property (some b) p w) u
  | element {i b s p w extractor earlier e later t u} (h : v.ComesTo heap i b s p w t)
      (hextractor : w.runtimeType?.bind v.extractors.cascade.find? = some extractor)
      (he : extractor heap w = earlier ++ e :: later)
      (hearlier : earlier.forM (v.cascadeElement (v.visit heap) b p) t = some (.ok (), u)) :
      Calls (.visit i b) s [] (.element b p e) u
  | field {i b s p w tag t u} (h : v.ComesTo heap i b s p w t) (htag : w.runtimeType? = some tag)
      (hextractor : v.extractors.cascade.find? tag = none)
      (fresh : t.context.hasVisitedValue w = false)
      (permitted : v.permits w .field (t.hop ⟨p.name, none⟩) = (.ok true, u)) :
      Calls (.visit i b) s [⟨p.name, none⟩] (.target b p w) u
  | elementTarget {leaf p e s t} (fresh : s.context.hasVisitedValue e.value = false)
      (permitted : v.permits e.value .typeUse (s.hop ⟨p.name, some e.element⟩) = (.ok true, t)) :
      Calls (.element leaf p e) s [⟨p.name, some e.element⟩] (.target leaf p e.value) t
  | visit {leaf p u s b i t} (hu : v.lookUp u s = (.ok (some (b, i)), t))
      (hi : i.isUnconstrained = false) :
      Calls (.target leaf p u) s [] (.visit i b) (t.changeContext (·.visit b))
  | targetValue {leaf p u s t} (hu : v.lookUp u s = (.ok none, t)) :
      Calls (.target leaf p u) s [] (.value (some leaf) p u) t
  | wrappedValue {leaf? p w s unwrap earlier e later t} (hunwrap : v.unwrapFor? p w = some unwrap)
      (he : unwrap heap w = earlier ++ e :: later)
      (hearlier : (earlier.forM fun e => v.checkValue leaf? p e.value) (s.hop ⟨p.name, none⟩) =
        (.ok (), t)) :
      Calls (.property leaf? p w) s [⟨p.name, none⟩] (.value leaf? p e.value) t
  | ownValue {leaf? p w s} (hunwrap : v.unwrapFor? p w = none) :
      Calls (.property leaf? p w) s [⟨p.name, none⟩] (.value leaf? p w) (s.hop ⟨p.name, none⟩)

/-! ## Runs -/

/-- What a run reports, if it has an end. -/
def report? : Run → Option Report
  | .validate object groups copies => v.validate heap object groups copies
  | .validateProperty object name groups copies =>
    some (v.validateProperty heap object name groups copies)
  | .validateValue type name value groups copies =>
    some (v.validateValue heap type name value groups copies)

/-- The call that a run makes first, and the state in which it begins. -/
inductive First : Run → Activation → Progress → Prop
  | visit {object groups copies b i} (hobject : v.toVisit? object = some (b, i)) :
      First (.validate object groups copies) (.visit i b) (.start b groups copies)
  | property {object name groups copies b i p} (hobject : v.toEnter? object = some (b, i))
      (hp : i.property? name = some p) :
      First (.validateProperty object name groups copies)
        (.property (some b) p (i.read p heap b copies).1)
        { Progress.start b groups copies with copies := (i.read p heap b copies).2 }
  | value {type name value groups copies i p} (hi : v.introspection? type = some i)
      (hp : i.property? name = some p) :
      First (.validateValue type name value groups copies) (.property none p value)
        ⟨.detached type groups, copies, .empty, #[.lookedUp type]⟩

/-- The calls that a run makes: the first one, and those that they make. -/
inductive Activated (run : Run) : List Hop → Activation → Progress → Prop
  | first {a s} (h : v.First heap run a s) : Activated run [] a s
  | call {hops a s more a' s'} (h : Activated run hops a s) (hc : v.Calls heap a s more a' s') :
      Activated run (hops ++ more) a' s'

variable {v heap} {object : Value} {run : Run} {a : Activation} {s t : Progress}

theorem root_of_toEnter {b : Bean} {i : Introspection} (h : v.toEnter? object = some (b, i)) :
    v.root object = (.ok (b, i), #[.lookedUp b.type]) := by
  obtain ⟨rfl, hi⟩ := toEnter?_eq_some.1 h
  simp only [root, hi]

/-- What there is no bean to start from is refused, and not for a constraint. -/
theorem root_of_not_toEnter (h : v.toEnter? object = none) :
    ∃ e events, v.root object = (.error e, events) ∧ (∀ ev ∈ events, Event.IsNote ev) ∧
      ∀ kind path source, e ≠ .evaluation kind path source := by
  cases object with
  | bean b =>
    have hi : v.introspection? b.type = none := by simpa [toEnter?, Value.bean?] using h
    exact ⟨_, _, by simp only [root, hi]; rfl, by simp [Event.IsNote], by rintro _ _ _ ⟨⟩⟩
  | null => exact ⟨_, _, rfl, by simp, by rintro _ _ _ ⟨⟩⟩
  | _ => exact ⟨_, _, rfl, by simp [Event.IsNote], by rintro _ _ _ ⟨⟩⟩

/-- A run comes to what its first call comes to. -/
theorem First.report?_eq (h : v.First heap run a s) :
    v.report? heap run = (v.perform heap a s).map Report.of := by
  cases h with
  | visit hobject => exact validate_of_toVisit hobject _ _
  | property hobject hp =>
    simp only [report?, validateProperty, root_of_toEnter hobject, hp]
    exact congrArg (some <| Report.of ·) (bind_apply ..)
  | value hi hp =>
    simp only [report?, validateValue, hi, hp]
    rfl

/-- A report without findings, of a run that asks nothing. -/
structure Idle (report : Report) : Prop where
  notes : ∀ e ∈ report.events, Event.IsNote e
  found : ∀ vs, report.result = .ok vs → vs.items = []
  failed : ∀ kind path source, report.result ≠ .error (.evaluation kind path source)

theorem idle_of_ok {events : Array Event} (h : ∀ e ∈ events, Event.IsNote e) (copies : Nat) :
    Idle { result := .ok .empty, events, copies } where
  notes := h
  found := by rintro _ ⟨⟩; rfl
  failed _ _ _ heq := by cases heq

theorem idle_of_error {events : Array Event} {e : Failure} (h : ∀ e ∈ events, Event.IsNote e)
    (he : ∀ kind path source, e ≠ .evaluation kind path source) (copies : Nat) :
    Idle { result := .error e, events, copies } where
  notes := h
  found := nofun
  failed kind path source heq := he kind path source (Except.error.inj heq)

/-- A run makes a first call, or it ends at once. -/
theorem first_or_idle (v : Validator) (heap : Heap) (run : Run) :
    (∃ a s, v.First heap run a s) ∨ ∃ report, v.report? heap run = some report ∧ Idle report := by
  have looked (type : BeanType) : ∀ e ∈ #[Event.lookedUp type], Event.IsNote e := by
    simp [Event.IsNote]
  cases run with
  | validate object groups copies =>
    cases hobject : v.toEnter? object with
    | none =>
      obtain ⟨e, events, hroot, hnotes, he⟩ := root_of_not_toEnter hobject
      exact .inr ⟨_, by simp only [report?, validate, hroot], idle_of_error hnotes he copies⟩
    | some start =>
      obtain ⟨b, i⟩ := start
      cases hi : i.isUnconstrained with
      | true =>
        exact .inr ⟨_, by simp only [report?, validate, root_of_toEnter hobject, hi, if_true],
          idle_of_ok (looked b.type) copies⟩
      | false =>
        obtain ⟨rfl, hintrospection⟩ := toEnter?_eq_some.1 hobject
        exact .inl ⟨_, _, .visit (toVisit?_eq_some.2 ⟨rfl, hintrospection, hi⟩)⟩
  | validateProperty object name groups copies =>
    cases hobject : v.toEnter? object with
    | none =>
      obtain ⟨e, events, hroot, hnotes, he⟩ := root_of_not_toEnter hobject
      exact .inr ⟨_, by simp only [report?, validateProperty, hroot],
        idle_of_error hnotes he copies⟩
    | some start =>
      obtain ⟨b, i⟩ := start
      cases hp : i.property? name with
      | none =>
        exact .inr ⟨_, by simp only [report?, validateProperty, root_of_toEnter hobject, hp],
          idle_of_ok (looked b.type) copies⟩
      | some p => exact .inl ⟨_, _, .property hobject hp⟩
  | validateValue type name value groups copies =>
    cases hi : v.introspection? type with
    | none =>
      exact .inr ⟨_, by simp only [report?, validateValue, hi]; rfl,
        idle_of_error (looked type) (by rintro _ _ _ ⟨⟩) copies⟩
    | some i =>
      cases hp : i.property? name with
      | none =>
        exact .inr ⟨_, by simp only [report?, validateValue, hi, hp]; rfl,
          idle_of_error (looked type) (by rintro _ _ _ ⟨⟩) copies⟩
      | some p => exact .inl ⟨_, _, .value hi hp⟩

/-- A run with an end had nothing to validate, or it reports what its first call has come to. -/
theorem first_of_report {report : Report} (h : v.report? heap run = some report) :
    Idle report ∨ ∃ a s r t, v.First heap run a s ∧ v.perform heap a s = some (r, t) ∧
      report = .of (r, t) := by
  obtain ⟨a, s, hfirst⟩ | ⟨report', hreport, hidle⟩ := first_or_idle v heap run
  · rw [hfirst.report?_eq] at h
    obtain ⟨⟨r, t⟩, hperform, rfl⟩ := Option.map_eq_some_iff.1 h
    exact .inr ⟨a, s, r, t, hfirst, hperform, rfl⟩
  · obtain rfl := Option.some.inj (h.symm.trans hreport)
    exact .inl hidle

end Validator

/-! ## Resolvers and routines are asked at nodes -/

/-- The context in which a resolver or a routine is asked. -/
def Event.askedIn? : Event → Option Context
  | .asked _ _ context _ => some context
  | .called call => some call.context
  | _ => none

theorem Event.IsNote.askedIn? {e : Event} (h : e.IsNote) : e.askedIn? = none := by
  cases e with
  | lookedUp | logged => rfl
  | entered | asked | called => exact False.elim h

/-- The context of a call that is at a node and does not await an element. -/
structure Context.AtNode (c : Context) : Prop where
  pending : c.pending = none
  path : c.path ≠ .root

/-- No element is pending, and resolvers and routines have been asked at nodes only. -/
structure Progress.Orderly (s : Progress) : Prop where
  pending : s.context.pending = none
  asks : ∀ e ∈ s.events, ∀ c, e.askedIn? = some c → c.AtNode

namespace Progress.Orderly

variable {s t : Progress}

theorem record (h : s.Orderly) {e : Event} (he : ∀ c, e.askedIn? = some c → c.AtNode) :
    (s.record e).Orderly := by
  refine ⟨h.pending, fun e' he' => ?_⟩
  rcases Array.mem_push.1 he' with he' | rfl
  · exact h.asks e' he'
  · exact he

theorem note (h : s.Orderly) {e : Event} (he : e.IsNote) : (s.record e).Orderly :=
  h.record (by rw [he.askedIn?]; nofun)

theorem enter (h : s.Orderly) (b : Bean) : (s.enter b).Orderly := h.record nofun

theorem visit (h : s.Orderly) (b : Bean) : (s.changeContext (·.visit b)).Orderly :=
  ⟨(Framed.visit s b).pending h.pending, h.asks⟩

theorem hop (h : s.Orderly) (hop : Hop) : (s.hop hop).Orderly :=
  ⟨by rw [context_hop h.pending], h.asks⟩

theorem pop (h : s.Orderly) : s.pop.Orderly := ⟨rfl, h.asks⟩

theorem read (h : s.Orderly) (copies : Nat) : Orderly { s with copies } := ⟨h.pending, h.asks⟩

theorem judge (h : s.Orderly) (hpath : s.context.path ≠ .root) {leaf? : Option Bean}
    {routine : Routine} {declaration : Nat} {c : Constraint} {u : Value} :
    (judge leaf? routine declaration c u s).2.Orderly := by
  refine ⟨by rw [context_judge]; exact h.pending, fun e he c' hc' => ?_⟩
  rcases Validator.eq_called_of_mem_events_judge he with he | rfl | hnote
  · exact h.asks e he c' hc'
  · cases hc'
    exact ⟨h.pending, hpath⟩
  · rw [hnote.askedIn?] at hc'
    cases hc'

end Progress.Orderly

namespace Validator

variable {v : Validator} {heap : Heap} {run : Run} {a a' : Activation} {s s' t : Progress}
  {place : Place} {r : Except Failure Unit} {hops more : List Hop}

/-- A place is at a bean or at a node below one. -/
def Place.AtNode (s : Progress) : Place → Prop
  | .bean _ => True
  | _ => s.context.path ≠ .root

theorem Place.AtNode.framed (h : place.AtNode s) (hst : Framed s t) : place.AtNode t := by
  have hpath : t.context.path = s.context.path := by rw [hst.context]
  cases place with
  | bean => trivial
  | value | target =>
    show t.context.path ≠ .root
    rwa [hpath]

theorem path_hop_ne_root (hs : s.context.pending = none) (hop : Hop) :
    (s.hop hop).context.path ≠ .root := by
  rw [Progress.context_hop hs]
  intro h
  simpa [Path.descend, Path.root] using congrArg Path.nodes h

/-- What a passage asks it asks at nodes. -/
theorem Passage.orderly (h : v.Passage heap place s r t) (hs : s.Orderly)
    (hplace : place.AtNode s) : t.Orderly := by
  induction h with
  | rest => exact hs
  | next h _ ih ih' => exact ih' (ih hs hplace) (hplace.framed (h.framed hs.pending))
  | read copies => exact hs.read copies
  | note he => exact hs.note he
  | value _ _ ih | target _ _ _ _ ih =>
    exact (ih (hs.hop _) (path_hop_ne_root hs.pending _)).pop
  | ask => exact hs.record (by rintro _ ⟨⟩; exact ⟨hs.pending, hplace⟩)
  | judge | judgeTarget => exact hs.judge hplace
  | mark => exact hs.visit _
  | enter _ _ _ _ ih => exact ih ((hs.visit _).enter _) trivial

/-- What a check of a value asks it asks where it is. -/
theorem checkValue_orderly (hs : s.Orderly) (hpath : s.context.path ≠ .root) {leaf? : Option Bean}
    {p : Property} {u : Value} {D : Prop} :
    (Walk.ofStep (v.checkValue leaf? p u)).Leads s
      (fun _ t => t.Orderly ∧ t.context = s.context) D :=
  checkValue_keeps (P := fun _ t => t.Orderly) hs (fun _ _ he ht => ht.note he)
    fun _ _ _ _ hcontext ht _ => ht.judge (by rwa [hcontext])

theorem checkValues_orderly (hs : s.Orderly) (hpath : s.context.path ≠ .root)
    {leaf? : Option Bean} {p : Property} {es : List Extracted} {D : Prop} :
    (es.forM fun e => Walk.ofStep (v.checkValue leaf? p e.value)).Leads s
      (fun _ t => t.Orderly ∧ t.context = s.context) D := by
  refine Walk.leads_forM ⟨hs, rfl⟩ fun e _ t ⟨ht, hcontext⟩ => ?_
  refine (checkValue_orderly ht (by rwa [hcontext])).mono fun _ u ⟨hu, hcontext'⟩ => ?_
  exact ⟨hu, hcontext'.trans hcontext⟩

/-! ## How calls begin and return -/

/-- What the arguments of a call are known to be. -/
def Sound (v : Validator) (heap : Heap) (s : Progress) : Activation → Prop
  | .visit i b => v.introspection? b.type = some i
  | .property _ _ _ => True
  | .element leaf p e => p.cascade = true ∧
      ∃ w, v.Reads heap leaf p w ∧ (some e.element, e.value) ∈ v.held heap w
  | .target _ _ u => s.context.path ≠ .root ∧ s.context.hasVisitedValue u = false ∧
      ∃ element?, v.Permitted s u (.of element?)
  | .value _ _ _ => s.context.path ≠ .root

/-- A call begins as it should, below the nodes of hops. -/
structure Begins (v : Validator) (heap : Heap) (hops : List Hop) (a : Activation) (s : Progress) :
    Prop where
  orderly : s.Orderly
  path : s.context.path = .along hops
  sound : v.Sound heap s a

theorem visits_visit {b : Bean} : v.Visits heap (v.visit heap) b s True := fun _ _ _ h =>
  Walk.leads_iff.2 ⟨fun _ _ hvisit => visit_passage h.introspection h.pending hvisit,
    fun _ => trivial⟩

/-- However a call returns, it leaves the context as it was but for the beans entered. -/
theorem Begins.returns (h : v.Begins heap hops a s) (ha : v.perform heap a s = some (r, t)) :
    Framed s t ∧ t.Orderly := by
  have hs := h.orderly.pending
  cases a with
  | visit i b =>
    have hpassage := visit_passage h.sound hs ha
    exact ⟨(Framed.enter s b).trans (hpassage.framed hs),
      hpassage.orderly (h.orderly.enter b) trivial⟩
  | property leaf? p w =>
    obtain ⟨u, hpassage, rfl⟩ := (checkProperty_leads (D := True) leaf? p w).of_eq_some ha
    exact ⟨(hpassage.framed (h.orderly.hop _).pending).pop hs,
      (hpassage.orderly (h.orderly.hop _) (path_hop_ne_root hs _)).pop⟩
  | element leaf p e =>
    obtain ⟨hp, w, hw, he⟩ := h.sound
    have hpassage := (cascadeElement_leads hs hw hp he visits_visit).of_eq_some ha
    exact ⟨hpassage.framed hs, hpassage.orderly h.orderly trivial⟩
  | target leaf p u =>
    obtain ⟨hpath, fresh, element?, permitted⟩ := h.sound
    have hpassage : v.Passage heap (.target leaf p element? u) s r t := by
      refine (enter_leads (D := True) fresh permitted
        fun x i s' hentry hcontext => ?_).of_eq_some ha
      have hi := (toEnter?_eq_some.1 hentry).2
      have hpending : s'.context.pending = none := by
        rw [hcontext]
        exact (Framed.visit s x).pending hs
      exact Walk.leads_iff.2 ⟨fun _ _ hvisit => visit_passage hi hpending hvisit, fun _ => trivial⟩
    exact ⟨hpassage.framed hs, hpassage.orderly h.orderly hpath⟩
  | value leaf? p u =>
    obtain ⟨horderly, hcontext⟩ :=
      (checkValue_orderly (D := True) h.orderly h.sound).of_eq_some ha
    exact ⟨Framed.of_context_eq hcontext, horderly⟩

/-- A visit comes to its cascade properties as a passage does. -/
theorem ComesTo.passage {i : Introspection} {b : Bean} {p : Property} {w : Value}
    (h : v.ComesTo heap i b s p w t) (hi : v.introspection? b.type = some i)
    (hs : s.context.pending = none) :
    v.Passage heap (.bean b) (s.enter b) (.ok ()) t ∧ v.Reads heap b p w ∧ p.cascade = true := by
  obtain @⟨before, after, x, _, hp, hbefore, hread⟩ := h
  have hmem : p ∈ i.cascading := by simp [hp]
  obtain ⟨hproperty, hcascade⟩ := List.mem_filter.1 hmem
  have hpassage : v.Passage heap (.bean b) (s.enter b) (.ok ()) x := by
    refine Walk.Leads.of_eq_some (D := True)
      ((checkBean_leads hi).bind (fun _ y hy => ?_) fun _ _ h => h) hbefore
    have hsub : before ⊆ i.cascading := by simp [hp]
    exact (cascadeEach_leads hi hsub ((hy.framed hs).pending hs) visits_visit).mono
      fun _ _ h => hy.next h
  cases hread
  exact ⟨hpassage.next (.read _), ⟨i, hi, hproperty, _, rfl⟩, hcascade⟩

/-- A target that the resolver permits is fresh and permitted where it is gone into. -/
theorem begins_of_permits {leaf : Bean} {p : Property} (element? : Option Element) {u : Value}
    (hs : s.Orderly) (hpath : s.context.path = .along hops)
    (fresh : s.context.hasVisitedValue u = false)
    (permitted : v.permits u (.of element?) (s.hop ⟨p.name, element?⟩) = (.ok true, t)) :
    v.Begins heap (hops ++ [⟨p.name, element?⟩]) (.target leaf p u) t := by
  have hnode := path_hop_ne_root hs.pending ⟨p.name, element?⟩
  have hcontext := Progress.context_hop hs.pending ⟨p.name, element?⟩
  have fresh' : (s.hop ⟨p.name, element?⟩).context.hasVisitedValue u = false := by
    rw [hcontext]
    exact fresh
  obtain ⟨_, ⟨⟩, hunmoved, hpassage, -, hpermitted⟩ :=
    (permits_leads heap leaf p (D := True) fresh').of_eq_some (congrArg some permitted)
  refine ⟨hpassage.orderly (hs.hop _) hnode, ?_, ?_, ?_, element?, hpermitted rfl⟩
  · rw [hunmoved.context, hcontext, Path.along_append_singleton, ← hpath]
  · rwa [hunmoved.context]
  · rwa [hunmoved.context]

/-- To look up a target moves nowhere. -/
theorem Begins.lookUp {leaf : Bean} {p : Property} {u : Value}
    {found? : Option (Bean × Introspection)} (h : v.Begins heap hops (.target leaf p u) s)
    (hu : v.lookUp u s = (.ok found?, t)) :
    t.Orderly ∧ t.context = s.context ∧ found? = v.toEnter? u := by
  obtain ⟨hpath, -, -⟩ := h.sound
  obtain ⟨hentry, hunmoved, hpassage⟩ :=
    (lookUp_leads heap leaf p none u (D := True)).of_eq_some (congrArg some hu)
  exact ⟨hpassage.orderly h.orderly hpath, hunmoved.context, Except.ok.inj hentry⟩

/-- A call that begins as it should makes calls that do. -/
theorem Calls.begins (hc : v.Calls heap a s more a' s') (h : v.Begins heap hops a s) :
    v.Begins heap (hops ++ more) a' s' := by
  have hs := h.orderly.pending
  have at_bean {b : Bean} {t : Progress} (ht : v.Passage heap (.bean b) (s.enter b) (.ok ()) t) :
      t.Orderly ∧ t.context.path = .along hops := by
    have hframed := ht.framed hs
    exact ⟨ht.orderly (h.orderly.enter b) trivial, by rw [hframed.context]; exact h.path⟩
  cases hc with
  | @property i b _ p w before after x _ hp hbefore hread =>
    have hsub : before ⊆ i.properties := fun q hq =>
      (List.mem_filter.1 (show q ∈ i.constrained by simp [hp, hq])).1
    obtain ⟨horderly, hpath⟩ := at_bean
      ((checkEach_leads (D := True) h.sound hsub).of_eq_some (congrArg some hbefore))
    cases hread
    rw [List.append_nil]
    exact ⟨horderly.read _, hpath, trivial⟩
  | @element i b _ p w extractor earlier e later x _ hcomes hextractor he hearlier =>
    obtain ⟨hpassage, hw, hp⟩ := hcomes.passage h.sound hs
    obtain ⟨tag, htag, hextractor⟩ := Option.bind_eq_some_iff.1 hextractor
    have held {e' : Extracted} (he' : e' ∈ extractor heap w) :
        (some e'.element, e'.value) ∈ v.held heap w :=
      (v.mem_held_some heap).2 ⟨tag, extractor, htag, hextractor, he'⟩
    have helements := (cascadeElements_leads ((hpassage.framed hs).pending hs) hw hp
      (fun e' he' => held (by simp [he, he'])) visits_visit).of_eq_some hearlier
    obtain ⟨horderly, hpath⟩ := at_bean (hpassage.next helements)
    rw [List.append_nil]
    exact ⟨horderly, hpath, hp, w, hw, held (by simp [he])⟩
  | @field i b _ p w tag x _ hcomes htag hextractor fresh permitted =>
    obtain ⟨horderly, hpath⟩ := at_bean (hcomes.passage h.sound hs).1
    exact begins_of_permits none horderly hpath fresh permitted
  | @elementTarget leaf p e _ _ fresh permitted =>
    exact begins_of_permits (some e.element) h.orderly h.path fresh permitted
  | @visit leaf p u _ b i x hu hi =>
    obtain ⟨horderly, hcontext, hentry⟩ := h.lookUp hu
    have hvisit := Framed.visit x b
    rw [List.append_nil]
    refine ⟨horderly.visit b, ?_, (toEnter?_eq_some.1 hentry.symm).2⟩
    rw [hvisit.context, hcontext]
    exact h.path
  | @targetValue leaf p u _ _ hu =>
    obtain ⟨horderly, hcontext, -⟩ := h.lookUp hu
    rw [List.append_nil]
    exact ⟨horderly, by rw [hcontext]; exact h.path,
      show _ ≠ _ by rw [hcontext]; exact h.sound.1⟩
  | @wrappedValue leaf? p w _ unwrap earlier e later _ hunwrap he hearlier =>
    have hnode := path_hop_ne_root hs ⟨p.name, none⟩
    rw [← Option.some.injEq, ← Walk.ofStep_apply, Walk.ofStep_forM] at hearlier
    obtain ⟨horderly, hcontext⟩ :=
      (checkValues_orderly (D := True) (h.orderly.hop _) hnode).of_eq_some hearlier
    exact ⟨horderly, by rw [hcontext]; exact path_hop hs h.path,
      show _ ≠ _ by rw [hcontext]; exact hnode⟩
  | @ownValue leaf? p w _ hunwrap =>
    exact ⟨h.orderly.hop _, path_hop hs h.path, path_hop_ne_root hs _⟩

theorem First.begins (h : v.First heap run a s) : v.Begins heap [] a s := by
  have looked {type : BeanType} {c : Context} {copies : Nat} (hc : c.pending = none) :
      Progress.Orderly ⟨c, copies, .empty, #[.lookedUp type]⟩ := by
    refine ⟨hc, fun e he c hc => ?_⟩
    obtain rfl : e = .lookedUp type := by simpa using he
    cases hc
  cases h with
  | visit hobject => exact ⟨looked rfl, rfl, (toVisit?_eq_some.1 hobject).2.1⟩
  | property | value => exact ⟨looked rfl, rfl, trivial⟩

/-- So do all the calls of a run. -/
theorem Activated.begins (h : v.Activated heap run hops a s) : v.Begins heap hops a s := by
  induction h with
  | first h => exact h.begins
  | call _ hc ih => exact hc.begins ih

/-- In every run, whichever call it makes, and whether this call returns well or fails: no element
is pending when it begins, and when it returns the path, the pending element, the root, its type and
the groups are what they were, and no bean that was visited is not.  Whenever a resolver or a
routine has been asked, no element was pending and the path had a node. -/
theorem context_of_activated (v : Validator) (heap : Heap) (run : Run) :
    (∀ hops a s, v.Activated heap run hops a s → s.Orderly ∧
      ∀ r t, v.perform heap a s = some (r, t) → Framed s t ∧ t.Orderly) ∧
    ∀ report, v.report? heap run = some report →
      ∀ e ∈ report.events, ∀ c, e.askedIn? = some c → c.AtNode := by
  refine ⟨fun hops a s h => ⟨h.begins.orderly, fun r t => h.begins.returns⟩, ?_⟩
  intro report hreport e he c hc
  obtain hidle | ⟨a, s, r, t, hfirst, hperform, rfl⟩ := first_of_report hreport
  · rw [(hidle.notes e he).askedIn?] at hc
    cases hc
  · exact (hfirst.begins.returns hperform).2.asks e he c hc

/-- In the ring the item of the first bean is gone into, and the call fails, for the gift of the
item has no name. -/
theorem ring_context_of_activated :
    ∃ s e t, Ring.strict.Activated Ring.heap (.validate (.bean Ring.first) [] 0) []
        (.element Ring.first Ring.items ⟨.indexed 0, .bean Ring.second⟩) s ∧
      Ring.strict.perform Ring.heap (.element Ring.first Ring.items ⟨.indexed 0, .bean Ring.second⟩)
        s = some (.error e, t) ∧
      s.Orderly ∧ Framed s t ∧ t.Orderly := by
  let start : Progress := .start Ring.first [] 0
  let checked := (Ring.strict.checkBean Ring.heap Ring.introspection Ring.first
    (start.enter Ring.first)).2
  have first : Ring.introspection.cascading = [] ++ Ring.items :: [Ring.gift] := rfl
  have comes : Ring.strict.ComesTo Ring.heap Ring.introspection Ring.first start Ring.items
      (.list [.bean Ring.second]) checked :=
    .intro first rfl rfl
  have item : Extractor.list Ring.heap (.list [.bean Ring.second]) =
      [] ++ ⟨.indexed 0, .bean Ring.second⟩ :: [] := rfl
  have made : Ring.strict.Activated Ring.heap (.validate (.bean Ring.first) [] 0) []
      (.element Ring.first Ring.items ⟨.indexed 0, .bean Ring.second⟩) checked :=
    .call (.first (.visit rfl)) (.element comes rfl item rfl)
  have hrun : ((Ring.strict.cascadeElement (Ring.strict.visitWithin Ring.heap 2) Ring.first
      Ring.items ⟨.indexed 0, .bean Ring.second⟩ checked).map fun done => done.1.toOption) =
        some none := by
    cbv
  obtain ⟨⟨r, t⟩, hdone, hr⟩ := Option.map_eq_some_iff.1 hrun
  cases r with
  | ok _ => cases hr
  | error e =>
    have hperform := cascadeElement_le (visitWithin_le Ring.strict Ring.heap 2) _ _ _ _ _ hdone
    obtain ⟨orderly, returns⟩ := (context_of_activated Ring.strict Ring.heap _).1 _ _ _ made
    exact ⟨checked, e, t, made, hperform, orderly, returns _ _ hperform⟩

end Validator

end BeanGraph
