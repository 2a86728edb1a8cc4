import BeanGraph.Proofs.Location

/-!
# How a validation ends

The routines that a validation asks are asked one after the other.  One that cannot answer is the
last one, and its failure is that of the validation, told with the path at which it was asked.  If
the validation goes well then all of them have answered, and what they rejected is in the result.

* `Answered`: the invariant of a part of a call that has gone well;
* `Passage.ends`: how a passage ends is told by the routines that it has asked;
* `outcome_of_validate`: so is how a validation ends, and what it refuses to begin with.
-/

namespace BeanGraph

open Call

/-! ## Calls of routines -/

/-- The call of a routine that an event records. -/
def Event.call? : Event → Option RoutineCall
  | .called call => some call
  | _ => none

/-- The calls of routines made so far, in order. -/
def Progress.calls (s : Progress) : List RoutineCall := s.events.toList.filterMap Event.call?

/-- The calls of routines made by a call, in order. -/
def Report.calls (report : Report) : List RoutineCall :=
  report.events.toList.filterMap Event.call?

namespace RoutineCall

/-- The violation by the value that was judged, if a bean holds it. -/
def violation (call : RoutineCall) (leaf : Bean) : Violation :=
  .of call.context (some leaf) call.declaration call.constraint call.value

/-- The violation is among those recorded, of a bean that was entered one node above. -/
def KeptIn (call : RoutineCall) (events : Array Event) (vs : ViolationSet) : Prop :=
  ∃ leaf path, call.context.path.parent? = some path ∧ .entered leaf path ∈ events ∧
    vs.contains (call.violation leaf) = true

/-- The routine has answered, and if it answered no then the violation is recorded. -/
def Settled (call : RoutineCall) (events : Array Event) (vs : ViolationSet) : Prop :=
  ∃ valid, call.answer = .ok valid ∧ (valid = false → call.KeptIn events vs)

theorem Settled.mono {call : RoutineCall} {events events' : Array Event} {vs vs' : ViolationSet}
    (h : call.Settled events vs) (hevents : ∀ e ∈ events, e ∈ events')
    (hviolations : ∀ x, vs.contains x = true → vs'.contains x = true) :
    call.Settled events' vs' := by
  obtain ⟨valid, hanswer, hkept⟩ := h
  refine ⟨valid, hanswer, fun hvalid => ?_⟩
  obtain ⟨leaf, path, hparent, hentered, hcontains⟩ := hkept hvalid
  exact ⟨leaf, path, hparent, hevents _ hentered, hviolations _ hcontains⟩

end RoutineCall

/-- Of some calls of routines the last one alone has no answer, and a failure tells why: the kind of
the constraint, the path at which the call was made, and the error. -/
def FailsLast (e : Failure) (calls : List RoutineCall) : Prop :=
  ∃ before last source, calls = before ++ [last] ∧
    (∀ call ∈ before, ∃ valid, call.answer = .ok valid) ∧ last.answer = .error source ∧
    e = .evaluation last.constraint.kind last.context.path source

theorem FailsLast.exists_error {e : Failure} {calls : List RoutineCall} (h : FailsLast e calls) :
    ∃ call ∈ calls, ∃ source, call.answer = .error source := by
  obtain ⟨before, last, source, rfl, -, hanswer, -⟩ := h
  exact ⟨last, List.mem_append_right _ List.mem_cons_self, source, hanswer⟩

/-- The call of a routine that is made in a state. -/
def Progress.callOf (s : Progress) (routine : Routine) (declaration : Nat) (c : Constraint)
    (value : Value) : RoutineCall :=
  ⟨routine.name, c, declaration, value, s.context, routine.check value c s.context⟩

theorem Progress.calls_record (s : Progress) (e : Event) :
    (s.record e).calls = s.calls ++ e.call?.toList :=
  filterMap_record _ s e

theorem Progress.calls_record_of_none {e : Event} (h : e.call? = none) (s : Progress) :
    (s.record e).calls = s.calls := by
  rw [calls_record, h]
  exact List.append_nil _

theorem Event.IsNote.call? {e : Event} (h : e.IsNote) : e.call? = none := by
  cases e with
  | called => exact False.elim h
  | _ => rfl

theorem Call.calls_judge (s : Progress) (leaf? : Option Bean) (routine : Routine)
    (declaration : Nat) (c : Constraint) (value : Value) :
    (judge leaf? routine declaration c value s).2.calls =
      s.calls ++ [s.callOf routine declaration c value] := by
  have hcalled : (s.record (called s routine declaration c value)).calls =
      s.calls ++ [s.callOf routine declaration c value] := s.calls_record _
  rw [judge_apply]
  split
  · exact hcalled
  · exact (Progress.calls_record_of_none rfl _).trans hcalled
  · exact hcalled

namespace Validator

variable {v : Validator} {heap : Heap} {place : Place} {s t : Progress} {r : Except Failure Unit}

/-- A call is made of the routine that is registered for a declared constraint and the type of the
value, and has its answer. -/
def Made (v : Validator) (call : RoutineCall) : Prop :=
  ∃ p routine, v.Applies call.context.groups p call.value routine call.declaration call.constraint ∧
    call.routine = routine.name ∧
    call.answer = routine.check call.value call.constraint call.context

theorem Passage.made (h : v.Passage heap place s r t) {call : RoutineCall}
    (hcall : call ∈ t.calls) : call ∈ s.calls ∨ v.Made call := by
  have judged {leaf? p routine declaration c u} {s : Progress}
      (hc : v.Applies s.context.groups p u routine declaration c)
      (hcall : call ∈ (Call.judge leaf? routine declaration c u s).2.calls) :
      call ∈ s.calls ∨ v.Made call := by
    rw [calls_judge, List.mem_append, List.mem_singleton] at hcall
    exact hcall.imp_right fun h => by subst h; exact ⟨p, routine, hc, rfl, rfl⟩
  induction h with
  | rest | read | mark => exact .inl hcall
  | next _ _ ih ih' => exact (ih' hcall).elim ih .inr
  | note he =>
    rw [Progress.calls_record_of_none he.call?] at hcall
    exact .inl hcall
  | ask =>
    rw [Progress.calls_record_of_none rfl] at hcall
    exact .inl hcall
  | value _ _ ih | target _ _ _ _ ih => exact ih hcall
  | judge _ hc | judgeTarget _ _ hc => exact judged hc hcall
  | enter _ _ _ _ ih =>
    refine (ih hcall).imp_left fun h => ?_
    rwa [Progress.enter, Progress.calls_record_of_none rfl] at h

/-! ## Answers -/

/-- Every routine asked so far has answered, and what it rejected is recorded. -/
def Answered (s : Progress) : Prop := ∀ call ∈ s.calls, call.Settled s.events s.violations

/-- How a part of a call ends is told by the routines asked so far: all of them have answered, or
all but the last one. -/
def Ends : Except Failure Unit → Progress → Prop
  | .ok _, s => Answered s
  | .error e, s => FailsLast e s.calls

theorem Answered.of_calls_eq (h : Answered s) (hcalls : t.calls = s.calls)
    (hviolations : t.violations = s.violations) (hevents : ∀ e ∈ s.events, e ∈ t.events) :
    Answered t := by
  intro call hcall
  rw [hcalls] at hcall
  exact (h call hcall).mono hevents fun _ hx => hviolations ▸ hx

theorem Answered.record (h : Answered s) {e : Event} (he : e.call? = none) :
    Answered (s.record e) :=
  h.of_calls_eq (Progress.calls_record_of_none he s) rfl fun _ => Array.mem_push_of_mem _

theorem Ends.pop (h : Ends r t) : Ends r t.pop := by
  cases r with
  | error e => exact h
  | ok _ => exact Answered.of_calls_eq h rfl rfl fun _ => id

/-- A routine that is asked either has no answer, and is the last one, or its answer is settled. -/
theorem Answered.judge (h : Answered s) {b : Bean} {path : Path}
    (hparent : s.context.path.parent? = some path) (hentered : .entered b path ∈ s.events)
    (routine : Routine) (declaration : Nat) (c : Constraint) (u : Value) :
    Ends (judge (some b) routine declaration c u s).1
      (judge (some b) routine declaration c u s).2 := by
  let call := s.callOf routine declaration c u
  have hcalls := calls_judge s (some b) routine declaration c u
  have hevents : ∀ e ∈ s.events, e ∈ (Call.judge (some b) routine declaration c u s).2.events :=
    fun _ => mem_events_judge
  rw [judge_apply] at hcalls hevents ⊢
  cases hcheck : routine.check u c s.context with
  | error source =>
    rw [hcheck] at hcalls
    have before : ∀ call ∈ s.calls, ∃ valid, call.answer = .ok valid := fun call hcall =>
      (h call hcall).imp fun _ hvalid => hvalid.1
    exact ⟨s.calls, call, source, hcalls, before, hcheck, rfl⟩
  | ok valid =>
    rw [hcheck] at hcalls hevents
    cases valid with
    | true =>
      have settled : call.Settled s.events s.violations := ⟨true, hcheck, nofun⟩
      intro call hcall
      rw [hcalls] at hcall
      obtain hcall | hcall := List.mem_append.1 hcall
      · exact (h call hcall).mono hevents fun _ => id
      · obtain rfl := List.mem_singleton.1 hcall
        exact settled.mono hevents fun _ => id
    | false =>
      have kept : call.KeptIn s.events (s.violations.insert (call.violation b)) :=
        ⟨b, path, hparent, hentered, ViolationSet.contains_insert.2 (.inr BEq.rfl)⟩
      have settled : call.Settled s.events (s.violations.insert (call.violation b)) :=
        ⟨false, hcheck, fun _ => kept⟩
      intro call hcall
      rw [hcalls] at hcall
      obtain hcall | hcall := List.mem_append.1 hcall
      · exact (h call hcall).mono hevents fun _ hx => ViolationSet.contains_insert.2 (.inl hx)
      · obtain rfl := List.mem_singleton.1 hcall
        exact settled.mono hevents fun _ => id

/-- How a passage ends is told by the routines that it has asked. -/
theorem Passage.ends (h : v.Passage heap place s r t) (hs : s.context.pending = none)
    (hplace : place.Anchored s) (hanswered : Answered s) : Ends r t := by
  induction h with
  | rest => exact hanswered
  | next h _ ih ih' =>
    have hframed := h.framed hs
    have hpath : _ = _ := congrArg Context.path hframed.context
    have hplace' := hplace.mono hpath fun _ => h.mem_events
    exact ih' (hframed.pending hs) hplace' (ih hs hplace hanswered)
  | read | mark => exact hanswered.of_calls_eq rfl rfl fun _ => id
  | note he => exact hanswered.record he.call?
  | ask => exact hanswered.record rfl
  | @value b p w s _ _ _ _ ih =>
    refine Ends.pop (ih (by rw [Progress.context_hop hs]) ⟨b, _, rfl, parent?_hop hs _, hplace⟩ ?_)
    exact hanswered.of_calls_eq rfl rfl fun _ => id
  | @target b p element? w u s _ _ _ _ _ _ ih =>
    refine Ends.pop (ih (by rw [Progress.context_hop hs]) ⟨_, parent?_hop hs _, hplace⟩ ?_)
    exact hanswered.of_calls_eq rfl rfl fun _ => id
  | judge =>
    obtain ⟨b, path, rfl, hparent, hentered⟩ := hplace
    exact hanswered.judge hparent hentered ..
  | judgeTarget =>
    obtain ⟨path, hparent, hentered⟩ := hplace
    exact hanswered.judge hparent hentered ..
  | @enter b p element? u x i s _ _ _ _ _ _ ih =>
    refine ih ((Framed.visit s x).pending hs) ?_ ?_
    · exact Array.mem_push_self
    · have hvisit : Answered (s.changeContext (·.visit x)) :=
        hanswered.of_calls_eq rfl rfl fun _ => id
      exact hvisit.record rfl

/-! ## Validations -/

/-- A validation of what is neither null nor a bean with an introspection is refused. -/
theorem validate_of_unknown {object : Value} (hnull : object ≠ .null)
    (hunknown : ∀ b, object = .bean b → v.introspection? b.type = none) (groups : List Group)
    (copies : Nat) :
    ∃ report typeName, v.validate heap object groups copies = some report ∧
      report.result = .error (.unintrospectable typeName) := by
  cases object with
  | null => exact absurd rfl hnull
  | bean b =>
    have hi := hunknown b rfl
    refine ⟨_, b.type.name, by simp only [validate, root, hi]; rfl, rfl⟩
  | _ => exact ⟨_, _, rfl, rfl⟩

/-- How a validation of a bean with an introspection ends is told by the routines that it asks. -/
theorem told_of_validate {b : Bean} {i : Introspection} (hi : v.introspection? b.type = some i)
    {groups : List Group} {copies : Nat} {report : Report}
    (h : v.validate heap (.bean b) groups copies = some report) :
    (∀ call ∈ report.calls, v.Made call) ∧
      ((∃ e, report.result = .error e ∧ FailsLast e report.calls) ∨
        ∃ vs, report.result = .ok vs ∧ ∀ call ∈ report.calls, call.Settled report.events vs) := by
  cases hunconstrained : i.isUnconstrained with
  | true =>
    simp only [validate, root, hi, hunconstrained, if_true, Option.some.injEq] at h
    subst h
    refine ⟨?_, .inr ⟨.empty, rfl, ?_⟩⟩ <;> rintro call ⟨⟩
  | false =>
    have hobject : v.toVisit? (.bean b) = some (b, i) :=
      toVisit?_eq_some.2 ⟨rfl, hi, hunconstrained⟩
    rw [validate_of_toVisit hobject] at h
    obtain ⟨⟨r, t⟩, hvisit, rfl⟩ := Option.map_eq_some_iff.1 h
    have hpassage := visit_passage hi rfl hvisit
    have start : .entered b .root ∈ ((Progress.start b groups copies).enter b).events :=
      Array.mem_push_self
    have none : ((Progress.start b groups copies).enter b).calls = [] := rfl
    have hends : Ends r t := hpassage.ends rfl start (by rw [Answered, none]; simp)
    refine ⟨fun call hcall => ?_, ?_⟩
    · exact (hpassage.made hcall).resolve_left (by rw [none]; simp)
    · cases r with
      | error e => exact .inl ⟨e, rfl, hends⟩
      | ok _ => exact .inr ⟨t.violations, rfl, hends⟩

/-- A bean with an introspection is refused for no other reason than a routine without an answer. -/
theorem evaluation_of_validate {b : Bean} {i : Introspection}
    (hi : v.introspection? b.type = some i) {groups : List Group} {copies : Nat} {report : Report}
    {e : Failure} (h : v.validate heap (.bean b) groups copies = some report)
    (he : report.result = .error e) : ∃ kind path source, e = .evaluation kind path source := by
  obtain ⟨-, ⟨e', he', _, last, source, -, -, -, hfailure⟩ | ⟨vs, hvs, -⟩⟩ := told_of_validate hi h
  · obtain rfl := Except.error.inj (he.symm.trans he')
    exact ⟨_, _, _, hfailure⟩
  · cases he.symm.trans hvs

theorem nullArgument_iff {object : Value} {groups : List Group} {copies : Nat} :
    (∃ report argument, v.validate heap object groups copies = some report ∧
      report.result = .error (.nullArgument argument)) ↔ object = .null := by
  constructor
  · rintro ⟨report, argument, h, he⟩
    by_contra hnull
    by_cases hunknown : ∀ b, object = .bean b → v.introspection? b.type = none
    · obtain ⟨report', typeName, h', he'⟩ := validate_of_unknown hnull hunknown groups copies
      obtain rfl := Option.some.inj (h.symm.trans h')
      cases he.symm.trans he'
    · obtain ⟨b, hunknown⟩ := not_forall.1 hunknown
      obtain ⟨rfl, hknown⟩ := Classical.not_imp.1 hunknown
      obtain ⟨i, hi⟩ := Option.ne_none_iff_exists'.1 hknown
      obtain ⟨_, _, _, hfailure⟩ := evaluation_of_validate hi h he
      cases hfailure
  · rintro rfl
    exact ⟨_, _, rfl, rfl⟩

theorem unintrospectable_iff {object : Value} {groups : List Group} {copies : Nat} :
    (∃ report typeName, v.validate heap object groups copies = some report ∧
      report.result = .error (.unintrospectable typeName)) ↔
        object ≠ .null ∧ ∀ b, object = .bean b → v.introspection? b.type = none := by
  constructor
  · rintro ⟨report, typeName, h, he⟩
    constructor
    · rintro rfl
      obtain rfl := Option.some.inj h
      cases he
    · rintro b rfl
      by_contra hknown
      obtain ⟨i, hi⟩ := Option.ne_none_iff_exists'.1 hknown
      obtain ⟨_, _, _, hfailure⟩ := evaluation_of_validate hi h he
      cases hfailure
  · rintro ⟨hnull, hunknown⟩
    exact validate_of_unknown hnull hunknown groups copies

/-- A validation refuses null, and what is no bean with an introspection, each with a failure of its
own.  Otherwise it has an end if finitely many beans are within reach, and it fails if and only if a
routine that it asks has no answer: this one is then the last one that it asks, all before it have
answered, and the failure has the kind of its constraint, the path at which it was asked, and its
error.  If the validation goes well all routines have answered, and the result has the violation for
each one that answered no. -/
theorem outcome_of_validate (v : Validator) (heap : Heap) (object : Value) (groups : List Group)
    (copies : Nat) :
    ((∃ report argument, v.validate heap object groups copies = some report ∧
      report.result = .error (.nullArgument argument)) ↔ object = .null) ∧
    ((∃ report typeName, v.validate heap object groups copies = some report ∧
      report.result = .error (.unintrospectable typeName)) ↔
        object ≠ .null ∧ ∀ b, object = .bean b → v.introspection? b.type = none) ∧
    ∀ b i, object = .bean b → v.introspection? b.type = some i →
      ({x | v.Reach heap b x}.Finite →
        ∃ report, v.validate heap object groups copies = some report) ∧
      ∀ report, v.validate heap object groups copies = some report →
        (∀ call ∈ report.calls, v.Made call) ∧
        ((∃ e, report.result = .error e) ↔
          ∃ call ∈ report.calls, ∃ source, call.answer = .error source) ∧
        (∀ e, report.result = .error e → FailsLast e report.calls) ∧
        ∀ vs, report.result = .ok vs → ∀ call ∈ report.calls, call.Settled report.events vs := by
  refine ⟨nullArgument_iff, unintrospectable_iff, ?_⟩
  rintro b i rfl hi
  refine ⟨fun finite => validate_ends (fun _ hroot => Option.some.inj hroot ▸ finite) groups copies,
    fun report h => ?_⟩
  obtain ⟨made, ⟨e, he, hlast⟩ | ⟨vs, hvs, hsettled⟩⟩ := told_of_validate hi h
  · refine ⟨made, iff_of_true ⟨e, he⟩ (FailsLast.exists_error hlast), ?_, ?_⟩
    · intro e' he'
      obtain rfl := Except.error.inj (he.symm.trans he')
      exact hlast
    · intro vs hvs
      cases he.symm.trans hvs
  · refine ⟨made, iff_of_false ?_ ?_, ?_, ?_⟩
    · rintro ⟨e, he⟩
      cases he.symm.trans hvs
    · rintro ⟨call, hcall, source, herror⟩
      obtain ⟨valid, hvalid, -⟩ := hsettled call hcall
      cases herror.symm.trans hvalid
    · intro e he
      cases he.symm.trans hvs
    · intro vs' hvs'
      obtain rfl := Except.ok.inj (hvs.symm.trans hvs')
      exact hsettled

end Validator

/-! ## A ring that cannot be judged -/

namespace Ring

/-- Knows the beans of the ring, and cannot tell whether a value is valid that is not there. -/
def strict : Validator :=
  let routine : Routine :=
    ⟨"Strict", fun value _ _ => if value.isNull then .error (.custom "no value") else .ok true⟩
  { validator with routines := .ofList (RoutineRegistry.onTags .notNull [.any] routine) }

theorem strict_validate_first :
    ∃ report e, strict.validate heap (.bean first) [] 0 = some report ∧
      report.result = .error e := by
  have hrun : ((strict.visitWithin heap 4 introspection first (.start first [] 0)).map
      fun done => done.1.toOption) = some none := by
    cbv
  obtain ⟨⟨r, t⟩, hdone, hr⟩ := Option.map_eq_some_iff.1 hrun
  cases r with
  | ok _ => cases hr
  | error e => exact ⟨_, e, Validator.validate_of_within rfl hdone, rfl⟩

end Ring

namespace Validator

/-- Where the missing name cannot be judged, it is the last one that is judged. -/
theorem ring_outcome :
    (∃ report before last source,
      Ring.strict.validate Ring.heap (.bean Ring.first) [] 0 = some report ∧
        report.result = .error (.evaluation last.constraint.kind last.context.path source) ∧
        report.calls = before ++ [last] ∧ (∀ call ∈ before, ∃ valid, call.answer = .ok valid) ∧
        last.answer = .error source) ∧
    ∃ report vs, Ring.validator.validate Ring.heap (.bean Ring.first) [] 0 = some report ∧
      report.result = .ok vs ∧ vs.items = [Ring.missing] ∧
      ∀ call ∈ report.calls, call.Settled report.events vs := by
  constructor
  · obtain ⟨report, e, h, he⟩ := Ring.strict_validate_first
    obtain ⟨-, -, told⟩ :=
      outcome_of_validate Ring.strict Ring.heap (.bean Ring.first) [] 0
    obtain ⟨-, -, fails, -⟩ := (told _ _ rfl rfl).2 report h
    obtain ⟨before, last, source, hcalls, hbefore, hlast, rfl⟩ := fails e he
    exact ⟨report, before, last, source, h, he, hcalls, hbefore, hlast⟩
  · obtain ⟨-, -, told⟩ :=
      outcome_of_validate Ring.validator Ring.heap (.bean Ring.first) [] 0
    obtain ⟨ends, told⟩ := told _ _ rfl rfl
    obtain ⟨report, h⟩ := ends finite_reach_ring
    obtain ⟨report', vs, h', hvs, hitems⟩ := Ring.validate_first
    obtain rfl := Option.some.inj (h.symm.trans h')
    obtain ⟨-, -, -, settled⟩ := told report h
    exact ⟨report, vs, h, hvs, hitems, settled vs hvs⟩

end Validator

end BeanGraph
