import BeanGraph.Proofs.Graph
import BeanGraph.Proofs.Rules

/-!
# What a visit may do

`Passage` says once what a part of a call can do to the state, move by move and with all that is
known at each move: values are read, notes are taken, a node is gone below and left again, a
resolver or a routine is asked, a bean is entered.  It covers parts that end well and parts that
fail.

* `Passage.framed`: a passage leaves the path and the root as they were, and takes no bean back;
* `Passage.prefix_events`: it adds to the events, and takes none of them back.

An invariant of a call is an induction on its passage, with one case for each move.
-/

namespace BeanGraph

/-- How a target stands that is an element of a container, or the value of a property itself. -/
def ElementType.of : Option Element → ElementType
  | none => .field
  | some _ => .typeUse

/-- The context in which the next node will stand for an element, if there is one. -/
def Context.awaiting? (c : Context) : Option Element → Context
  | none => c
  | some e => c.awaiting e

/-- The state below the node for a hop. -/
def Progress.hop (s : Progress) (hop : Hop) : Progress :=
  (s.changeContext (·.awaiting? hop.element?)).push hop.name

theorem Progress.context_hop {s : Progress} (hs : s.context.pending = none) (hop : Hop) :
    (s.hop hop).context =
      { s.context with path := s.context.path.descend hop.node, pending := none } := by
  obtain ⟨name, _ | e⟩ := hop
  · simp [Progress.hop, push, changeContext, Context.awaiting?, Context.push, Context.nodeFor, hs,
      Hop.node]
  · rfl

@[simp] theorem Progress.visited_hop (s : Progress) (hop : Hop) :
    (s.hop hop).context.visited = s.context.visited := by
  obtain ⟨_, _ | _⟩ := hop <;> rfl

/-- The state in which the visit of a root begins. -/
def Progress.start (root : Bean) (groups : List Group) (copies : Nat) : Progress :=
  ⟨.forRoot root groups, copies, .empty, #[.lookedUp root.type]⟩

/-- The state in which a bean is entered. -/
def Progress.enter (s : Progress) (b : Bean) : Progress := s.record (.entered b s.context.path)

/-- An event that is neither an entry nor a question to a resolver or a routine. -/
def Event.IsNote : Event → Prop
  | .lookedUp _ => True
  | .logged _ => True
  | _ => False

namespace Validator

open Call

variable (v : Validator) (heap : Heap)

/-- The resolver permits a descent. -/
def Permits (c : Context) (value : Value) (elementType : ElementType) : Prop :=
  ∀ target, c.target? value elementType = some target →
    v.resolver.isCascadable target = true ∧ v.resolver.isReachable target = true

/-- The resolver has been asked both questions about a descent, and has answered yes to each. -/
def Permitted (s : Progress) (value : Value) (elementType : ElementType) : Prop :=
  ∀ target, s.context.target? value elementType = some target → ∀ question,
    v.resolver.answer question target = true ∧ .asked question target s.context true ∈ s.events

/-- A routine is to be asked about a value for a declaration of a property. -/
def Applies (groups : List Group) (p : Property) (value : Value) (routine : Routine)
    (declaration : Nat) (c : Constraint) : Prop :=
  (declaration, c) ∈ p.applicable groups ∧
    v.routines.find? c.kind (value.runtimeType?.getD p.declaredType) = some routine

/-! ## Moves -/

/-- Where a call is. -/
inductive Place
  /-- At a bean that it visits. -/
  | bean (b : Bean)
  /-- Below the node of a property with a value, to check it. -/
  | value (leaf? : Option Bean) (p : Property) (w : Value)
  /-- Below the node of a hop from a bean to a cascade target. -/
  | target (b : Bean) (p : Property) (element? : Option Element) (u : Value)

/-- What a part of a call may do at a place: the state it begins in, how it ends, and the state that
it leaves. -/
inductive Passage : Place → Progress → Except Failure Unit → Progress → Prop
  | rest {place s} : Passage place s (.ok ()) s
  | next {place s r t u} (h : Passage place s (.ok ()) t) (h' : Passage place t r u) :
      Passage place s r u
  | read {b s} (copies : Nat) : Passage (.bean b) s (.ok ()) { s with copies }
  | note {place s e} (he : Event.IsNote e) : Passage place s (.ok ()) (s.record e)
  | value {b p w s r t} (hw : v.Reads heap b p w)
      (h : Passage (.value (some b) p w) (s.hop ⟨p.name, none⟩) r t) : Passage (.bean b) s r t.pop
  | target {b p element? w u s r t} (hw : v.Reads heap b p w) (hp : p.cascade = true)
      (hu : (element?, u) ∈ v.held heap w)
      (h : Passage (.target b p element? u) (s.hop ⟨p.name, element?⟩) r t) :
      Passage (.bean b) s r t.pop
  | ask {b p element? u s target} (question : Question)
      (fresh : s.context.hasVisitedValue u = false)
      (ht : s.context.target? u (.of element?) = some target)
      (hq : question = .isReachable →
        .asked .isCascadable target s.context true ∈ s.events) :
      Passage (.target b p element? u) s (.ok ())
        (s.record (.asked question target s.context (v.resolver.answer question target)))
  | judge {leaf? p w u routine declaration c s} (hu : u ∈ v.subjects heap p w)
      (hc : v.Applies s.context.groups p u routine declaration c) :
      Passage (.value leaf? p w) s (judge leaf? routine declaration c u s).1
        (judge leaf? routine declaration c u s).2
  | judgeTarget {b p element? u routine declaration c s} (hu : v.toEnter? u = none)
      (permitted : v.Permitted s u (.of element?))
      (hc : v.Applies s.context.groups p u routine declaration c) :
      Passage (.target b p element? u) s (judge (some b) routine declaration c u s).1
        (judge (some b) routine declaration c u s).2
  | mark {b p element? u t i s} (hu : v.toEnter? u = some (t, i))
      (fresh : s.context.hasVisited t = false)
      (permitted : v.Permitted s u (.of element?)) (hi : i.isUnconstrained = true) :
      Passage (.target b p element? u) s (.ok ()) (s.changeContext (·.visit t))
  | enter {b p element? u t i s r s'} (hu : v.toEnter? u = some (t, i))
      (fresh : s.context.hasVisited t = false)
      (permitted : v.Permitted s u (.of element?))
      (h : Passage (.bean t) ((s.changeContext (·.visit t)).enter t) r s') :
      Passage (.target b p element? u) s r s'

end Validator

/-! ## What a passage leaves as it was -/

/-- Two states with the same context and the same violations. -/
structure Unmoved (s t : Progress) : Prop where
  context : t.context = s.context
  violations : t.violations = s.violations

theorem Unmoved.refl (s : Progress) : Unmoved s s := ⟨rfl, rfl⟩

/-- Two states with the same root, groups and path, and no bean taken back. -/
structure Framed (s t : Progress) : Prop where
  context : t.context = { s.context with visited := t.context.visited }
  visited : s.context.visited ⊆ t.context.visited

namespace Framed

variable {s t u : Progress}

theorem of_context_eq (h : t.context = s.context) : Framed s t :=
  ⟨by rw [h], by rw [h]; exact List.Subset.refl _⟩

theorem refl (s : Progress) : Framed s s := of_context_eq rfl

theorem enter (s : Progress) (b : Bean) : Framed s (s.enter b) := of_context_eq rfl

theorem trans (h : Framed s t) (h' : Framed t u) : Framed s u :=
  ⟨by rw [h'.context, h.context], List.Subset.trans h.visited h'.visited⟩

theorem pending (h : Framed s t) (hs : s.context.pending = none) : t.context.pending = none := by
  rw [h.context]
  exact hs

theorem visit (s : Progress) (b : Bean) : Framed s (s.changeContext (·.visit b)) := by
  constructor
  · simp only [Progress.changeContext, Context.visit]
    split <;> rfl
  · simp only [Progress.changeContext, Context.visit]
    split
    · exact List.Subset.refl _
    · exact List.subset_cons_self _ _

/-- Leaving the node of a hop undoes going below it. -/
theorem pop {hop : Hop} (h : Framed (s.hop hop) t) (hs : s.context.pending = none) :
    Framed s t.pop := by
  have hcontext := congrArg Context.pop h.context
  have hvisited := h.visited
  rw [Progress.context_hop hs] at hcontext hvisited
  refine ⟨?_, hvisited⟩
  show t.context.pop = { s.context with visited := t.context.visited }
  rw [hcontext, Context.pop, Path.parent?_descend, Option.getD_some, ← hs]

end Framed

namespace Validator

open Call

variable {v : Validator} {heap : Heap} {place : Place} {s t u : Progress} {r : Except Failure Unit}

theorem Passage.framed (h : v.Passage heap place s r t) (hs : s.context.pending = none) :
    Framed s t := by
  induction h with
  | rest => exact Framed.refl _
  | next _ _ ih ih' => exact (ih hs).trans (ih' ((ih hs).pending hs))
  | read | note | ask => exact Framed.of_context_eq rfl
  | value _ _ ih | target _ _ _ _ ih =>
    exact (ih (by rw [Progress.context_hop hs])).pop hs
  | judge | judgeTarget => exact Framed.of_context_eq (context_judge ..)
  | mark => exact Framed.visit _ _
  | @enter _ _ _ _ b _ s _ _ _ _ _ _ ih =>
    have hvisit := Framed.visit s b
    exact hvisit.trans ((Framed.enter _ b).trans (ih (hvisit.pending hs)))

/-! ## What a passage adds to the events -/

theorem prefix_events_record (s : Progress) (e : Event) :
    s.events.toList <+: (s.record e).events.toList :=
  ⟨[e], (Array.toList_push ..).symm⟩

theorem prefix_events_judge (s : Progress) (leaf? : Option Bean) (routine : Routine)
    (declaration : Nat) (c : Constraint) (u : Value) :
    s.events.toList <+: (judge leaf? routine declaration c u s).2.events.toList := by
  have called := prefix_events_record s (called s routine declaration c u)
  rw [judge_apply]
  split
  · exact called
  · exact called.trans (prefix_events_record ..)
  · exact called

theorem Passage.prefix_events (h : v.Passage heap place s r t) :
    s.events.toList <+: t.events.toList := by
  induction h with
  | rest | read | mark => exact List.prefix_refl _
  | next _ _ ih ih' => exact ih.trans ih'
  | note | ask => exact prefix_events_record ..
  | value _ _ ih | target _ _ _ _ ih => exact ih
  | judge | judgeTarget => exact prefix_events_judge ..
  | @enter _ _ _ _ b _ s _ _ _ _ _ _ ih =>
    exact (prefix_events_record (s.changeContext (·.visit b)) _).trans ih

theorem Passage.mem_events (h : v.Passage heap place s r t) {e : Event} (he : e ∈ s.events) :
    e ∈ t.events :=
  Array.mem_toList_iff.1 (h.prefix_events.subset (Array.mem_toList_iff.2 he))

theorem mem_events_judge {leaf? : Option Bean} {routine : Routine} {declaration : Nat}
    {c : Constraint} {u : Value} {e : Event} (he : e ∈ s.events) :
    e ∈ (judge leaf? routine declaration c u s).2.events :=
  Array.mem_toList_iff.1 ((prefix_events_judge ..).subset (Array.mem_toList_iff.2 he))

/-- A judgement adds the event of asking the routine, and it may log a line. -/
theorem eq_called_of_mem_events_judge {leaf? : Option Bean} {routine : Routine} {declaration : Nat}
    {c : Constraint} {u : Value} {e : Event}
    (he : e ∈ (judge leaf? routine declaration c u s).2.events) :
    e ∈ s.events ∨ e = called s routine declaration c u ∨ e.IsNote := by
  rw [judge_apply] at he
  split at he <;> simp only [Progress.insert, Progress.record, Array.mem_push] at he
  · exact he.imp_right .inl
  · rcases he with he | rfl
    · exact he.imp_right .inl
    · exact .inr (.inr trivial)
  · exact he.imp_right .inl

end Validator

end BeanGraph
