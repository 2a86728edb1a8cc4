import BeanGraph.Proofs.Visit
import Mathlib.Data.Set.Finite.Basic

/-!
# Every bean is entered once

A visit enters only beans that it has just marked for the first time, so no bean is entered twice,
in runs that fail as in runs that go well.  Every entry leaves one bean less to enter, so a visit
has an end when there are finitely many within reach.

* `EnteredOnce`: the invariant, which every passage keeps (`Passage.enteredOnce`);
* `visit_ends`: a visit has an end if finitely many beans are within reach;
* `validate_enters_once_and_ends`: the two of them for validations.
-/

namespace BeanGraph

open Call

/-- The bean that an event enters. -/
def Event.entered? : Event → Option Bean
  | .entered b _ => some b
  | _ => none

/-- The beans entered so far, in order. -/
def Progress.entered (s : Progress) : List Bean := s.events.toList.filterMap Event.entered?

/-- The beans entered in a call, in order. -/
def Report.entered (report : Report) : List Bean := report.events.toList.filterMap Event.entered?

theorem Progress.entered_record (s : Progress) (e : Event) :
    (s.record e).entered = s.entered ++ e.entered?.toList :=
  filterMap_record _ s e

@[simp] theorem Progress.entered_enter (s : Progress) (b : Bean) :
    (s.enter b).entered = s.entered ++ [b] := s.entered_record _

@[simp] theorem Progress.entered_asked (s : Progress) (question : Question) (target : Target)
    (context : Context) (answer : Bool) :
    (s.record (.asked question target context answer)).entered = s.entered :=
  (s.entered_record _).trans (List.append_nil _)

theorem Event.IsNote.entered? {e : Event} (h : e.IsNote) : e.entered? = none := by
  cases e with
  | entered => exact False.elim h
  | _ => rfl

theorem Event.IsNote.entered_record {e : Event} (h : e.IsNote) (s : Progress) :
    (s.record e).entered = s.entered := by
  rw [Progress.entered_record, h.entered?]
  exact List.append_nil _

theorem Call.entered_judge (s : Progress) (leaf? : Option Bean) (routine : Routine)
    (declaration : Nat) (c : Constraint) (value : Value) :
    (judge leaf? routine declaration c value s).2.entered = s.entered := by
  rw [judge_apply]
  split <;> simp [Progress.entered, Progress.record, Progress.insert, called, Event.entered?]

/-! ## No bean is entered twice -/

/-- The beans entered so far are distinct, and visited. -/
structure EnteredOnce (s : Progress) : Prop where
  nodup : s.entered.Nodup
  visited : s.entered ⊆ s.context.visited

theorem EnteredOnce.of_entered_eq {s t : Progress} (h : EnteredOnce s)
    (hentered : t.entered = s.entered) (hvisited : s.context.visited ⊆ t.context.visited) :
    EnteredOnce t :=
  ⟨hentered ▸ h.nodup, hentered ▸ List.Subset.trans h.visited hvisited⟩

theorem EnteredOnce.enter {s : Progress} (h : EnteredOnce s) {b : Bean}
    (fresh : s.context.hasVisited b = false) :
    EnteredOnce ((s.changeContext (·.visit b)).enter b) := by
  have hb : b ∉ s.entered := fun hmem => Context.hasVisited_eq_false.1 fresh (h.visited hmem)
  have hentered : ((s.changeContext (·.visit b)).enter b).entered = s.entered ++ [b] :=
    Progress.entered_enter _ b
  constructor
  · rw [hentered, ← List.concat_eq_append]
    exact h.nodup.concat hb
  · rw [hentered]
    exact Context.append_subset_visit h.visited b

namespace Validator

variable {v : Validator} {heap : Heap} {place : Place} {s t u : Progress} {r : Except Failure Unit}

theorem Passage.entered_prefix (h : v.Passage heap place s r t) : s.entered <+: t.entered :=
  h.prefix_events.filterMap _

theorem Passage.enteredOnce (h : v.Passage heap place s r t) (hs : EnteredOnce s) :
    EnteredOnce t := by
  induction h with
  | rest => exact hs
  | read => exact hs.of_entered_eq rfl (List.Subset.refl _)
  | value _ _ ih | target _ _ _ _ ih =>
    have hhop := ih (hs.of_entered_eq rfl (by simp))
    exact hhop.of_entered_eq rfl (List.Subset.refl _)
  | next _ _ ih ih' => exact ih' (ih hs)
  | @note _ s e he => exact hs.of_entered_eq (he.entered_record s) (List.Subset.refl _)
  | ask => exact hs.of_entered_eq (by simp) (List.Subset.refl _)
  | judge | judgeTarget => exact hs.of_entered_eq (entered_judge ..) (by simp)
  | mark =>
    exact hs.of_entered_eq rfl fun x hx => Context.mem_visited_visit.2 (.inr hx)
  | enter _ fresh _ _ ih => exact ih (hs.enter fresh)

/-! ## The end of a visit -/

theorem Reach.of_deeper {root b x : Bean} {i : Introspection} (hb : v.Reach heap root b)
    (h : v.Deeper heap b s i x u) : v.Reach heap root x := by
  obtain ⟨p, w, hw, hp, ht⟩ := h.held
  exact hb.step hw hp ht (by rw [h.introspection]; rfl)

/-- A visit has an end if finitely many beans are within reach: each entry leaves one less that is
not visited. -/
theorem visit_ends {root : Bean} (beans : Finset Bean)
    (hbeans : ∀ b, v.Reach heap root b → b ∈ beans) {b : Bean} {i : Introspection}
    (hi : v.introspection? b.type = some i) (hb : v.Reach heap root b)
    (hs : s.context.pending = none) : v.visit heap i b s ≠ none := by
  -- the number of beans within reach that are not visited goes down with every entry
  induction hn : (beans.filter (· ∉ s.context.visited)).card using Nat.strong_induction_on
    generalizing b i s with
  | _ n ih =>
    rw [visit_eq]
    refine (Walk.leads_iff.1 (visitBy_leads (D := False) hi hs fun j t x ht => ?_)).2
    refine Walk.leads_iff.2 ⟨fun r y hy => visit_passage ht.introspection ht.pending hy, ?_⟩
    have hfewer : (beans.filter (· ∉ x.context.visited)).card < n := by
      rw [← hn]
      refine Finset.card_lt_card (Finset.ssubset_iff_of_subset ?_ |>.2 ⟨t, ?_, ?_⟩)
      · intro y hy
        rw [Finset.mem_filter] at hy ⊢
        exact ⟨hy.1, fun hmem => hy.2 (ht.visited hmem)⟩
      · exact Finset.mem_filter.2 ⟨hbeans t (hb.of_deeper ht), ht.fresh⟩
      · exact fun hmem => (Finset.mem_filter.1 hmem).2 ht.entered
    exact ih _ hfewer ht.introspection (hb.of_deeper ht) ht.pending rfl

/-! ## Validations -/

/-- The beans that a validation enters are distinct, and the first one is the root, if there is
anything to validate.  This holds whether the validation fails or not. -/
theorem entered_of_validate {object : Value} {groups : List Group} {copies : Nat} {report : Report}
    (h : v.validate heap object groups copies = some report) :
    report.entered.Nodup ∧ report.entered.head? = (v.toVisit? object).map (·.1) := by
  rcases passage_of_validate h with ⟨hnone, hnotes, -⟩ | ⟨root, i, r, t, hsome, rfl, hpassage⟩
  · have hentered : report.entered = [] := by
      refine List.filterMap_eq_nil_iff.2 fun e he => ?_
      exact (hnotes e (Array.mem_toList_iff.1 he)).entered?
    rw [hentered, hnone]
    exact ⟨List.nodup_nil, rfl⟩
  · have hfirst : EnteredOnce ((Progress.start root groups copies).enter root) :=
      ⟨List.nodup_singleton root, List.Subset.refl [root]⟩
    obtain ⟨rest, hrest⟩ := hpassage.entered_prefix
    refine ⟨(hpassage.enteredOnce hfirst).nodup, ?_⟩
    show t.entered.head? = _
    rw [hsome, ← hrest]
    rfl

/-- A validation has an end if finitely many beans are within reach of its root. -/
theorem validate_ends {object : Value}
    (finite : ∀ root ∈ object.bean?, {b | v.Reach heap root b}.Finite) (groups : List Group)
    (copies : Nat) : ∃ report, v.validate heap object groups copies = some report := by
  cases hobject : v.toVisit? object with
  | none =>
    obtain ⟨report, h, -⟩ := validate_of_nothing hobject groups copies
    exact ⟨report, h⟩
  | some start =>
    obtain ⟨root, i⟩ := start
    obtain ⟨rfl, hi, -⟩ := toVisit?_eq_some.1 hobject
    rw [validate_of_toVisit hobject]
    have hfinite := finite root rfl
    have hends := visit_ends (s := .start root groups copies) hfinite.toFinset
      (fun b hb => hfinite.mem_toFinset.2 hb) hi .root rfl
    obtain ⟨done, hdone⟩ := Option.ne_none_iff_exists'.1 hends
    exact ⟨_, by rw [hdone]; rfl⟩

/-- A validation enters no bean twice, and the root first; and whatever cycles there are, it has an
end if finitely many beans are within reach. -/
theorem validate_enters_once_and_ends (v : Validator) (heap : Heap) (object : Value)
    (groups : List Group) (copies : Nat) :
    (∀ report, v.validate heap object groups copies = some report →
      report.entered.Nodup ∧ report.entered.head? = (v.toVisit? object).map (·.1)) ∧
    ((∀ root ∈ object.bean?, {b | v.Reach heap root b}.Finite) →
      ∃ report, v.validate heap object groups copies = some report) :=
  ⟨fun _ h => entered_of_validate h, fun finite => validate_ends finite groups copies⟩

/-- Finitely many beans of the ring are within reach. -/
theorem finite_reach_ring : {b | Ring.validator.Reach Ring.heap Ring.first b}.Finite :=
  (List.finite_toSet Ring.beans).subset fun _ hb => Ring.reach_mem hb

theorem ring_enters_once_and_ends :
    ∃ report, Ring.validator.validate Ring.heap (.bean Ring.first) [] 0 = some report ∧
      report.entered.Nodup ∧ report.entered.head? = some Ring.first := by
  obtain ⟨once, ends⟩ :=
    validate_enters_once_and_ends Ring.validator Ring.heap (.bean Ring.first) [] 0
  have finite : ∀ root ∈ (Value.bean Ring.first).bean?,
      {b | Ring.validator.Reach Ring.heap root b}.Finite := by
    rintro root ⟨⟩
    exact finite_reach_ring
  obtain ⟨report, h⟩ := ends finite
  exact ⟨report, h, once report h⟩

end Validator

end BeanGraph
