import BeanGraph.Proofs.Visit
import Mathlib.Data.List.Nodup

/-!
# Where a visit is, and what it finds there

Throughout a visit the path in force is the path of a way from the root to the bean at hand
(`Located`).  The beans on the way are distinct and visited, so the next bean entered is none of
them.

* `Passage.findings`: every violation that a passage records was found at such a place.
* `finding_of_validate`: so was every violation in the result of a validation.
-/

namespace BeanGraph

open Call

namespace Validator

variable (v : Validator) (heap : Heap) (root : Bean) (groups : List Group)

/-- A call on a root is on a way to the last one of some beans. -/
structure OnWay (hops : List Hop) (beans : List Bean) (c : Context) : Prop where
  route : v.Route heap root hops beans
  nodup : beans.Nodup
  visited : beans ⊆ c.visited
  root : c.root? = some root
  groups : c.groups = groups
  pending : c.pending = none

/-- A call is at a place, which its path leads to. -/
inductive Located : Place → Context → Prop
  | bean {hops beans b c} (way : OnWay v heap root groups hops (beans ++ [b]) c)
      (path : c.path = Path.along hops) : Located (.bean b) c
  | value {hops beans b p w c} (way : OnWay v heap root groups hops (beans ++ [b]) c)
      (path : c.path = Path.along (hops ++ [⟨p.name, none⟩])) (hw : v.Reads heap b p w) :
      Located (.value (some b) p w) c
  | target {hops beans b p element? w u c} (way : OnWay v heap root groups hops (beans ++ [b]) c)
      (path : c.path = Path.along (hops ++ [⟨p.name, element?⟩])) (hw : v.Reads heap b p w)
      (hp : p.cascade = true) (hu : (element?, u) ∈ v.held heap w) :
      Located (.target b p element? u) c

/-- A violation found by a call on a root: a routine rejects what a property of a bean holds or
wraps, or a cascade target that there is nothing to enter in. -/
inductive Finding : Violation → Prop
  | value {b p w u routine declaration c context}
      (located : Located v heap root groups (.value (some b) p w) context)
      (hu : u ∈ v.subjects heap p w) (hc : v.Applies groups p u routine declaration c)
      (rejected : routine.check u c context = .ok false) :
      Finding (.of context (some b) declaration c u)
  | target {b p element? u routine declaration c context}
      (located : Located v heap root groups (.target b p element? u) context)
      (hu : v.toEnter? u = none) (hc : v.Applies groups p u routine declaration c)
      (rejected : routine.check u c context = .ok false) :
      Finding (.of context (some b) declaration c u)

variable {v heap root groups}
variable {hops : List Hop} {beans : List Bean} {place : Place} {s t : Progress} {b : Bean}
  {p : Property} {w : Value} {r : Except Failure Unit}

/-! ## Ways -/

theorem OnWay.start : OnWay v heap root groups [] [root] (.forRoot root groups) where
  route := .start
  nodup := List.nodup_singleton root
  visited := List.Subset.refl _
  root := rfl
  groups := rfl
  pending := rfl

theorem OnWay.framed (h : OnWay v heap root groups hops beans s.context) (hst : Framed s t) :
    OnWay v heap root groups hops beans t.context where
  route := h.route
  nodup := h.nodup
  visited := List.Subset.trans h.visited hst.visited
  root := by rw [hst.context]; exact h.root
  groups := by rw [hst.context]; exact h.groups
  pending := hst.pending h.pending

/-- A way goes on below a node. -/
theorem OnWay.hop (h : OnWay v heap root groups hops beans s.context) (hop : Hop) :
    OnWay v heap root groups hops beans (s.hop hop).context := by
  rw [Progress.context_hop h.pending]
  exact ⟨h.route, h.nodup, h.visited, h.root, h.groups, rfl⟩

/-- A way goes on to a bean that is entered. -/
theorem OnWay.visit {hop : Hop} {u : Bean}
    (h : OnWay v heap root groups hops (beans ++ [b]) s.context)
    (hu : v.Holds heap b hop (.bean u)) (fresh : s.context.hasVisited u = false) :
    OnWay v heap root groups (hops ++ [hop]) (beans ++ [b] ++ [u])
      (s.changeContext (·.visit u)).context := by
  have hframed := h.framed (Framed.visit s u)
  have hunvisited : u ∉ beans ++ [b] := fun hmem =>
    Context.hasVisited_eq_false.1 fresh (h.visited hmem)
  refine { hframed with route := .hop h.route hu, nodup := ?_, visited := ?_ }
  · rw [← List.concat_eq_append]
    exact h.nodup.concat hunvisited
  · exact Context.append_subset_visit h.visited u

/-! ## Places -/

theorem Located.pending {c : Context} (h : Located v heap root groups place c) :
    c.pending = none := by
  cases h with
  | bean way _ | value way _ _ | target way _ _ _ _ => exact way.pending

theorem Located.groups_eq {c : Context} (h : Located v heap root groups place c) :
    c.groups = groups := by
  cases h with
  | bean way _ | value way _ _ | target way _ _ _ _ => exact way.groups

theorem Located.framed (h : Located v heap root groups place s.context) (hst : Framed s t) :
    Located v heap root groups place t.context := by
  have hpath : t.context.path = s.context.path := by rw [hst.context]
  cases h with
  | bean way path => exact .bean (way.framed hst) (hpath.trans path)
  | value way path hw => exact .value (way.framed hst) (hpath.trans path) hw
  | target way path hw hp hu => exact .target (way.framed hst) (hpath.trans path) hw hp hu

theorem Located.trail {c : Context} (h : Located v heap root groups place c) :
    ∃ hops, v.Trail heap root hops ∧ c.path = Path.along hops := by
  cases h with
  | bean way path => exact ⟨_, .bean way.route, path⟩
  | value way path hw => exact ⟨_, .value way.route hw, path⟩
  | target way path hw hp hu => exact ⟨_, .target way.route ⟨_, _, hw, hp, rfl, hu⟩, path⟩

theorem Located.passage (h : Located v heap root groups place s.context)
    (hst : v.Passage heap place s r t) : Located v heap root groups place t.context :=
  h.framed (hst.framed h.pending)

/-- Below the node of a hop the path is longer by this hop. -/
theorem path_hop {hop : Hop} (pending : s.context.pending = none)
    (path : s.context.path = Path.along hops) :
    (s.hop hop).context.path = Path.along (hops ++ [hop]) := by
  rw [Progress.context_hop pending, Path.along_append_singleton, path]

theorem Located.below_value (h : Located v heap root groups (.bean b) s.context)
    (hw : v.Reads heap b p w) :
    Located v heap root groups (.value (some b) p w) (s.hop ⟨p.name, none⟩).context := by
  cases h with
  | bean way path => exact .value (way.hop _) (path_hop way.pending path) hw

theorem Located.below_target {element? : Option Element} {u : Value}
    (h : Located v heap root groups (.bean b) s.context) (hw : v.Reads heap b p w)
    (hp : p.cascade = true) (hu : (element?, u) ∈ v.held heap w) :
    Located v heap root groups (.target b p element? u) (s.hop ⟨p.name, element?⟩).context := by
  cases h with
  | bean way path => exact .target (way.hop _) (path_hop way.pending path) hw hp hu

theorem Located.enter {element? : Option Element} {u : Bean}
    (h : Located v heap root groups (.target b p element? (.bean u)) s.context)
    (fresh : s.context.hasVisited u = false) :
    Located v heap root groups (.bean u) (s.changeContext (·.visit u)).context := by
  cases h with
  | @target hops beans _ _ _ w _ _ way path hw hp hu =>
    have hheld : v.Holds heap b ⟨p.name, element?⟩ (.bean u) := ⟨p, w, hw, hp, rfl, hu⟩
    refine .bean (way.visit hheld fresh) ?_
    rw [← path, (Framed.visit s u).context]

/-! ## Findings -/

theorem mem_violations_judge {leaf? : Option Bean} {routine : Routine} {declaration : Nat}
    {c : Constraint} {u : Value} {x : Violation}
    (h : x ∈ (judge leaf? routine declaration c u s).2.violations.items) :
    x ∈ s.violations.items ∨
      routine.check u c s.context = .ok false ∧ x = .of s.context leaf? declaration c u := by
  rw [judge_apply] at h
  split at h
  · exact .inl h
  · rename_i hcheck
    exact (ViolationSet.mem_insert h).imp id fun hx => ⟨hcheck, hx⟩
  · exact .inl h

/-- What a passage records it has found at a place where it has been. -/
theorem Passage.findings (h : v.Passage heap place s r t)
    (located : Located v heap root groups place s.context) {x : Violation}
    (hx : x ∈ t.violations.items) : x ∈ s.violations.items ∨ Finding v heap root groups x := by
  induction h with
  | rest | read | note | ask | mark => exact .inl hx
  | next h _ ih ih' =>
    rcases ih' (located.passage h) hx with hx | hx
    · exact ih located hx
    · exact .inr hx
  | value hw _ ih => exact ih (located.below_value hw) hx
  | target hw hp hu _ ih => exact ih (located.below_target hw hp hu) hx
  | @judge leaf? p w u routine declaration c s hu hc =>
    refine (mem_violations_judge hx).imp id fun ⟨hcheck, hx⟩ => ?_
    rw [located.groups_eq] at hc
    subst hx
    cases located with
    | value way path hw => exact .value (.value way path hw) hu hc hcheck
  | judgeTarget hu permitted hc =>
    refine (mem_violations_judge hx).imp id fun ⟨hcheck, hx⟩ => ?_
    rw [located.groups_eq] at hc
    subst hx
    exact .target located hu hc hcheck
  | enter hu fresh _ _ ih =>
    obtain ⟨rfl, -⟩ := toEnter?_eq_some.1 hu
    exact ih (located.enter fresh) hx

theorem located_start : Located v heap root groups (.bean root) (.forRoot root groups) :=
  have way : OnWay v heap root groups [] ([] ++ [root]) (.forRoot root groups) := .start
  .bean way rfl

/-- What a validation reports it has found at a place where it has been. -/
theorem finding_of_validate {object : Value} {copies : Nat} {report : Report} {vs : ViolationSet}
    {x : Violation} (h : v.validate heap object groups copies = some report)
    (hvs : report.result = .ok vs) (hx : x ∈ vs.items) :
    ∃ root, object = .bean root ∧ Finding v heap root groups x := by
  rcases passage_of_validate h with ⟨-, -, hnone⟩ | ⟨root, i, r, t, hsome, rfl, hpassage⟩
  · rw [hnone vs hvs] at hx
    cases hx
  · obtain rfl := violations_of_result hvs
    rcases hpassage.findings located_start hx with hx | hfinding
    · cases hx
    · exact ⟨root, (toVisit?_eq_some.1 hsome).1, hfinding⟩

end Validator

end BeanGraph
