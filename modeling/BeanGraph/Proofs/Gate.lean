import BeanGraph.Proofs.Outcome

/-!
# The gate of the traversal is never passed by

A validation reports a violation only below targets that the resolver has permitted: whatever the
path leads through, the resolver was asked both questions about it before the routine was, and has
answered yes to each.  What it vetoes nothing is found in.

* `Always`: a law of the events of a log, each with those before it;
* `Lawful`, `Passage.lawful`: what the resolver is asked about, and when;
* `Cleared`, `Passage.cleared`: a violation with the way to it, permitted target by target;
* `gate_of_validate`: the two of them for validations, and what follows for a veto.
-/

namespace BeanGraph

open Call

/-! ## Logs -/

/-- A law holds of every event of a log and the events before it. -/
def Always (P : List Event → Event → Prop) (log : List Event) : Prop :=
  ∀ before e after, log = before ++ e :: after → P before e

theorem Always.concat {P : List Event → Event → Prop} {log : List Event} {e : Event}
    (h : Always P log) (he : P log e) : Always P (log ++ [e]) := by
  intro before e' after hlog
  rcases after.eq_nil_or_concat with rfl | ⟨after, last, rfl⟩
  · obtain ⟨rfl, hsingle⟩ := List.append_inj' hlog rfl
    obtain rfl := List.singleton_inj.1 hsingle
    exact he
  · rw [List.concat_eq_append, ← List.cons_append, ← List.append_assoc] at hlog
    exact h before e' after (List.append_inj' hlog rfl).1

theorem Always.nil {P : List Event → Event → Prop} : Always P [] := by
  intro before e after hlog
  cases before <;> cases hlog

theorem Always.record {P : List Event → Event → Prop} {s : Progress} {e : Event}
    (h : Always P s.events.toList) (he : P s.events.toList e) :
    Always P (s.record e).events.toList := by
  rw [Progress.record, Array.toList_push]
  exact h.concat he

theorem Always.of_mem {P : List Event → Event → Prop} {log : List Event} {e : Event}
    (h : Always P log) (he : e ∈ log) : ∃ before, before ⊆ log ∧ P before e := by
  obtain ⟨before, after, rfl⟩ := List.append_of_mem he
  exact ⟨before, List.subset_append_left .., h before e after rfl⟩

/-- The resolver was asked both questions about a target, and has answered yes to each. -/
def Admitted (log : List Event) (target : Target) : Prop :=
  ∀ question, ∃ context, .asked question target context true ∈ log

/-- The resolver was asked a question about a target, and has answered no. -/
def Vetoed (log : List Event) (target : Target) : Prop :=
  ∃ question context, .asked question target context false ∈ log

theorem Admitted.mono {log log' : List Event} {target : Target} (h : Admitted log target)
    (hlog : log ⊆ log') : Admitted log' target := fun question =>
  (h question).imp fun _ hmem => hlog hmem

/-! ## Targets along a path -/

/-- How a target stands at the end of a path with this last node. -/
def PathNode.elementType (n : PathNode) : ElementType := if n.isElement then .typeUse else .field

theorem Hop.elementType_node (hop : Hop) (inIterable : Bool) :
    (hop.node.within inIterable).elementType = .of hop.element? := by
  obtain ⟨name, _ | e⟩ := hop <;> rfl

/-- A value as a target at one of the nodes of a path. -/
def Path.target (path : Path) (rootType : BeanType) (value : Value) (n : PathNode) (j : Nat) :
    Target :=
  ⟨value, n, rootType, ⟨path.nodes.take (j + 1)⟩, n.elementType⟩

/-- At the last node this is the target that the resolver is asked about. -/
theorem Context.target?_eq {c : Context} {nodes : List PathNode} {n : PathNode}
    (hnodes : c.path.nodes = nodes ++ [n]) (value : Value) :
    c.target? value n.elementType = some (c.path.target c.rootType value n nodes.length) := by
  have htake : c.path.nodes.take (nodes.length + 1) = c.path.nodes :=
    List.take_of_length_le (by rw [hnodes]; simp)
  have hlast : c.path.last? = some n := by
    rw [Path.last?, hnodes]
    exact List.getLast?_concat
  rw [Context.target?, hlast, Path.target, htake]
  rfl

/-- The targets that a path leads through to a value, by some beans of which the first one is the
root: at every node but the last one the next bean, and at the last one the value if this node
stands for an element. -/
inductive Through (rootType : BeanType) (path : Path) (beans : List Bean) (value : Value) :
    Target → Prop
  | bean {j n b} (hn : path.nodes[j]? = some n) (hb : beans[j + 1]? = some b) :
    Through rootType path beans value (path.target rootType (.bean b) n j)
  | element {j n} (hn : path.nodes[j]? = some n) (hlast : j + 1 = path.length)
      (he : n.isElement = true) :
    Through rootType path beans value (path.target rootType value n j)

/-- Beans along a path: each was entered where the path leads to it, and each but the first one was
permitted there. -/
structure Passed (rootType : BeanType) (path : Path) (log : List Event) (beans : List Bean) :
    Prop where
  entered : ∀ {j b}, beans[j]? = some b → .entered b ⟨path.nodes.take j⟩ ∈ log
  admitted : ∀ {j n b}, path.nodes[j]? = some n → beans[j + 1]? = some b →
    Admitted log (path.target rootType (.bean b) n j)

namespace Passed

variable {rootType : BeanType} {path : Path} {log log' : List Event} {beans : List Bean}

theorem mono (h : Passed rootType path log beans) (hlog : log ⊆ log') :
    Passed rootType path log' beans where
  entered hb := hlog (h.entered hb)
  admitted hn hb := (h.admitted hn hb).mono hlog

theorem start {b : Bean} (h : .entered b .root ∈ log) : Passed rootType .root log [b] where
  entered {j x} hb := by
    obtain ⟨rfl, rfl⟩ : j = 0 ∧ x = b := by
      cases j with
      | zero => exact ⟨rfl, (Option.some.inj hb).symm⟩
      | succ j => cases hb
    exact h
  admitted hn := by cases hn

/-- One more node is below all the beans. -/
theorem push (h : Passed rootType path log beans) (hlength : beans.length ≤ path.length + 1)
    (n : PathNode) : Passed rootType (path.push n) log beans where
  entered {j b} hb := by
    have hj : j < beans.length := (List.getElem?_eq_some_iff.1 hb).1
    rw [Path.nodes_push, List.take_append_of_le_length (by unfold Path.length at hlength; omega)]
    exact h.entered hb
  admitted {j m b} hm hb := by
    have hj : j + 1 < beans.length := (List.getElem?_eq_some_iff.1 hb).1
    unfold Path.length at hlength
    rw [Path.nodes_push, List.getElem?_append_left (by omega)] at hm
    rw [Path.target, Path.nodes_push, List.take_append_of_le_length (by omega)]
    exact h.admitted hm hb

/-- One more bean is at the last node. -/
theorem concat {nodes : List PathNode} {n : PathNode} {u : Bean}
    (h : Passed rootType path log beans) (hnodes : path.nodes = nodes ++ [n])
    (hlength : beans.length = path.length) (hentered : .entered u path ∈ log)
    (hadmitted : Admitted log (path.target rootType (.bean u) n nodes.length)) :
    Passed rootType path log (beans ++ [u]) where
  entered {j b} hb := by
    rcases Nat.lt_or_ge j beans.length with hj | hj
    · rw [List.getElem?_append_left hj] at hb
      exact h.entered hb
    · have hj' : j < (beans ++ [u]).length := (List.getElem?_eq_some_iff.1 hb).1
      obtain rfl : j = beans.length := by
        rw [List.length_append, List.length_singleton] at hj'
        omega
      rw [List.getElem?_concat_length, Option.some.injEq] at hb
      rw [List.take_of_length_le (by rw [hlength]; exact Nat.le_refl _), ← hb]
      exact hentered
  admitted {j m b} hm hb := by
    rcases Nat.lt_or_ge (j + 1) beans.length with hj | hj
    · rw [List.getElem?_append_left hj] at hb
      exact h.admitted hm hb
    · have hj' : j < path.length := (List.getElem?_eq_some_iff.1 hm).1
      have hlength' : path.length = nodes.length + 1 := by
        rw [Path.length, hnodes, List.length_append, List.length_singleton]
      obtain rfl : j = nodes.length := by omega
      rw [hnodes, List.getElem?_concat_length, Option.some.injEq] at hm
      rw [← hlength', ← hlength, List.getElem?_concat_length, Option.some.injEq] at hb
      subst hm hb
      exact hadmitted

end Passed

namespace Validator

variable (v : Validator) (heap : Heap) (root : Bean)

/-! ## What a call has passed -/

/-- A call on a root is at a bean, or some hops below it, and what lies above was permitted. -/
def GatedAt (groups : List Group) (s : Progress) (b : Bean) (below : List Hop) : Prop :=
  ∃ hops beans, OnWay v heap root groups hops (beans ++ [b]) s.context ∧
    s.context.path = Path.along (hops ++ below) ∧ s.context.rootType = root.type ∧
    Passed root.type s.context.path s.events.toList (beans ++ [b])

/-- What lies above the place of a call was permitted. -/
def Place.Gated (groups : List Group) (s : Progress) : Place → Prop
  | .bean b => GatedAt v heap root groups s b []
  | .value leaf? p _ => ∃ b, leaf? = some b ∧ GatedAt v heap root groups s b [⟨p.name, none⟩]
  | .target b p element? u => GatedAt v heap root groups s b [⟨p.name, element?⟩] ∧
    v.Holds heap b ⟨p.name, element?⟩ u

/-- A value is at a path along a way from a root by some beans to a leaf, or a hop further; these
beans were entered, and what the path leads through was permitted. -/
def Reached (path : Path) (value : Value) (leaf : Bean) (beans : List Bean) (log : List Event) :
    Prop :=
  ∃ hops last, v.Route heap root hops beans ∧ beans.getLast? = some leaf ∧
    path = Path.along (hops ++ [last]) ∧
    (∀ j b, beans[j]? = some b → .entered b ⟨path.nodes.take j⟩ ∈ log) ∧
    ∀ target, Through root.type path beans value target → Admitted log target

/-- A violation was found in a call of a routine, before which its value was reached. -/
def Cleared (x : Violation) (beans : List Bean) (log : List Event) : Prop :=
  ∃ leaf before call after, log = before ++ .called call :: after ∧ call.answer = .ok false ∧
    x = call.violation leaf ∧ v.Reached heap root x.path x.value leaf beans before

/-- In a validation of an object, a question to the resolver has its answer; whether a target can be
reached is asked after it was said that it may be cascaded into; and the target is neither null in
the place of a property nor a bean that was entered before.  A routine is asked about a value that
was reached. -/
def Lawful (object : Value) (before : List Event) : Event → Prop
  | .asked question target context answer =>
    answer = v.resolver.answer question target ∧
      (question = .isReachable → .asked .isCascadable target context true ∈ before) ∧
      (target.elementType = .field → target.value ≠ .null) ∧
      ∀ b, target.value = .bean b → b ∉ context.visited ∧ ∀ path, .entered b path ∉ before
  | .called call => ∃ root leaf beans, object = .bean root ∧
      v.Reached heap root call.context.path call.value leaf beans before
  | _ => True

variable {v heap root}
variable {groups : List Group} {place : Place} {s t : Progress} {b : Bean} {below : List Hop}
  {r : Except Failure Unit} {hop : Hop}

theorem Cleared.mono {x : Violation} {beans : List Bean} {log log' : List Event}
    (h : v.Cleared heap root x beans log) (hlog : log <+: log') :
    v.Cleared heap root x beans log' := by
  obtain ⟨leaf, before, call, after, rfl, h⟩ := h
  obtain ⟨more, rfl⟩ := hlog
  refine ⟨leaf, before, call, after ++ more, ?_, h⟩
  rw [List.append_assoc, List.cons_append]

theorem Cleared.admitted {x : Violation} {beans : List Bean} {log : List Event}
    (h : v.Cleared heap root x beans log) {target : Target}
    (htarget : Through root.type x.path beans x.value target) : Admitted log target := by
  obtain ⟨_, before, _, _, rfl, _, _, _, _, _, _, _, _, admitted⟩ := h
  exact (admitted target htarget).mono (List.subset_append_left ..)

/-! ## Moves -/

theorem GatedAt.start (groups : List Group) (copies : Nat) :
    GatedAt v heap root groups ((Progress.start root groups copies).enter root) root [] := by
  refine ⟨[], [], .start, rfl, rfl, .start ?_⟩
  exact List.mem_cons_of_mem _ List.mem_cons_self

theorem GatedAt.mono (h : GatedAt v heap root groups s b below) (hst : Framed s t)
    (hevents : s.events.toList ⊆ t.events.toList) : GatedAt v heap root groups t b below := by
  obtain ⟨hops, beans, way, hpath, htype, passed⟩ := h
  have hpath' : t.context.path = s.context.path := by rw [hst.context]
  have htype' : t.context.rootType = s.context.rootType := by rw [hst.context]
  refine ⟨hops, beans, way.framed hst, hpath'.trans hpath, htype'.trans htype, ?_⟩
  rw [hpath']
  exact passed.mono hevents

theorem GatedAt.pending (h : GatedAt v heap root groups s b below) : s.context.pending = none := by
  obtain ⟨hops, beans, way, -⟩ := h
  exact way.pending

theorem Place.Gated.pending (h : place.Gated v heap root groups s) : s.context.pending = none := by
  cases place with
  | bean b => exact GatedAt.pending h
  | value leaf? p w =>
    obtain ⟨b, -, h⟩ := h
    exact h.pending
  | target b p element? u => exact h.1.pending

theorem Place.Gated.passage (h : place.Gated v heap root groups s)
    (hst : v.Passage heap place s r t) : place.Gated v heap root groups t := by
  have hframed := hst.framed h.pending
  have hevents := hst.prefix_events.subset
  cases place with
  | bean b => exact GatedAt.mono h hframed hevents
  | value leaf? p w =>
    obtain ⟨b, hleaf, h⟩ := h
    exact ⟨b, hleaf, h.mono hframed hevents⟩
  | target b p element? u => exact ⟨h.1.mono hframed hevents, h.2⟩

/-- A call goes on below a node. -/
theorem GatedAt.descend (h : GatedAt v heap root groups s b []) (hop : Hop) :
    GatedAt v heap root groups (s.hop hop) b [hop] := by
  obtain ⟨hops, beans, way, hpath, htype, passed⟩ := h
  rw [List.append_nil] at hpath
  have hlength : (beans ++ [b]).length ≤ s.context.path.length + 1 := by
    rw [way.route.length_beans, hpath, Path.length, Path.length_along]
  refine ⟨hops, beans, way.hop hop, path_hop way.pending hpath, ?_, ?_⟩
  · rw [Progress.context_hop way.pending]
    exact htype
  · rw [Progress.context_hop way.pending]
    exact passed.push hlength _

/-- A target that is permitted is so at the node of the hop to it. -/
theorem Permitted.admitted {hops : List Hop} {u : Value}
    (h : v.Permitted s u (.of hop.element?)) (hpath : s.context.path = Path.along (hops ++ [hop]))
    (htype : s.context.rootType = root.type) :
    Admitted s.events.toList (s.context.path.target root.type u
      (hop.node.within (hops.any Hop.isIterable)) (Path.along hops).nodes.length) := by
  have hnodes := (congrArg Path.nodes hpath).trans (Path.nodes_along_append_singleton ..)
  have htarget := Context.target?_eq hnodes u
  rw [Hop.elementType_node, htype] at htarget
  intro question
  exact ⟨s.context, Array.mem_toList_iff.2 (h _ htarget question).2⟩

/-- A call goes on to a bean that is permitted. -/
theorem GatedAt.enter {u : Bean} (h : GatedAt v heap root groups s b [hop])
    (hu : v.Holds heap b hop (.bean u)) (fresh : s.context.hasVisited u = false)
    (permitted : v.Permitted s (.bean u) (.of hop.element?)) :
    GatedAt v heap root groups ((s.changeContext (·.visit u)).enter u) u [] := by
  obtain ⟨hops, beans, way, hpath, htype, passed⟩ := h
  let x := (s.changeContext (·.visit u)).enter u
  have hcontext : x.context = { s.context with visited := x.context.visited } :=
    (Framed.visit s u).context
  have hpath' : x.context.path = s.context.path := by rw [hcontext]
  have hevents : s.events.toList ⊆ x.events.toList :=
    (prefix_events_record (s.changeContext (·.visit u)) _).subset
  have hentered : .entered u s.context.path ∈ x.events.toList := by
    rw [← hpath']
    exact Array.mem_toList_iff.2 Array.mem_push_self
  have hnodes := (congrArg Path.nodes hpath).trans (Path.nodes_along_append_singleton ..)
  have hlength : (beans ++ [b]).length = s.context.path.length := by
    rw [way.route.length_beans, hpath, Path.length, Path.length_along, List.length_append]
    rfl
  refine ⟨hops ++ [hop], beans ++ [b], way.visit hu fresh, ?_, ?_, ?_⟩
  · rw [hpath', hpath, List.append_nil]
  · rw [← htype]
    show x.context.rootType = _
    rw [hcontext]
  · rw [hpath']
    exact (passed.mono hevents).concat hnodes hlength hentered
      ((permitted.admitted hpath htype).mono hevents)

/-- A value at hand is reached, if it is permitted or no element. -/
theorem GatedAt.reached (h : GatedAt v heap root groups s b [hop]) {u : Value}
    (hpermitted : hop.element?.isSome → v.Permitted s u (.of hop.element?)) :
    ∃ beans, v.Reached heap root s.context.path u b beans s.events.toList := by
  obtain ⟨hops, beans, way, hpath, htype, passed⟩ := h
  refine ⟨beans ++ [b], hops, hop, way.route, List.getLast?_concat, hpath,
    fun _ _ => passed.entered, fun target htarget => ?_⟩
  have hnodes := (congrArg Path.nodes hpath).trans (Path.nodes_along_append_singleton ..)
  cases htarget with
  | bean hn hb => exact passed.admitted hn hb
  | @element j n hn hlast he =>
    have hlast : j + 1 = s.context.path.nodes.length := hlast
    obtain rfl : j = (Path.along hops).nodes.length := by
      rw [hnodes, List.length_append, List.length_singleton] at hlast
      omega
    obtain rfl : hop.node.within (hops.any Hop.isIterable) = n := by
      rw [hnodes, List.getElem?_concat_length] at hn
      exact Option.some.inj hn
    have hsome : hop.element?.isSome := by
      obtain ⟨name, _ | e⟩ := hop
      · cases he
      · rfl
    exact (hpermitted hsome).admitted hpath htype

/-! ## Violations -/

/-- Where a routine rejects a value that is reached, its violation is cleared. -/
theorem cleared_judge {beans : List Bean} {routine : Routine} {declaration : Nat} {c : Constraint}
    {u : Value} (h : v.Reached heap root s.context.path u b beans s.events.toList) {x : Violation}
    (hx : x ∈ (judge (some b) routine declaration c u s).2.violations.items) :
    x ∈ s.violations.items ∨ ∃ beans,
      v.Cleared heap root x beans (judge (some b) routine declaration c u s).2.events.toList := by
  refine (mem_violations_judge hx).imp id fun ⟨hcheck, hx⟩ => ?_
  have hevents : (judge (some b) routine declaration c u s).2.events.toList =
      s.events.toList ++ .called (s.callOf routine declaration c u) ::
        [.logged (.violated s.context.path c.kind)] := by
    rw [judge_apply, hcheck]
    simp [Progress.record, Progress.insert, called, Progress.callOf]
  subst hx
  exact ⟨beans, b, s.events.toList, s.callOf routine declaration c u, _, hevents, hcheck, rfl, h⟩

/-- What a passage records it has found where it was permitted. -/
theorem Passage.cleared (h : v.Passage heap place s r t)
    (gated : place.Gated v heap root groups s) {x : Violation} (hx : x ∈ t.violations.items) :
    x ∈ s.violations.items ∨ ∃ beans, v.Cleared heap root x beans t.events.toList := by
  induction h with
  | rest | read | note | ask | mark => exact .inl hx
  | next h h' ih ih' =>
    rcases ih' (gated.passage h) hx with hx | hx
    · exact (ih gated hx).imp_right fun ⟨beans, hcleared⟩ => ⟨beans, hcleared.mono h'.prefix_events⟩
    · exact .inr hx
  | value _ _ ih => exact ih ⟨_, rfl, GatedAt.descend gated _⟩ hx
  | target hw hp hu _ ih => exact ih ⟨GatedAt.descend gated _, _, _, hw, hp, rfl, hu⟩ hx
  | judge =>
    obtain ⟨b, rfl, gated⟩ := gated
    obtain ⟨beans, reached⟩ := gated.reached nofun
    exact cleared_judge reached hx
  | judgeTarget _ permitted =>
    obtain ⟨beans, reached⟩ := gated.1.reached fun _ => permitted
    exact cleared_judge reached hx
  | enter hu fresh permitted _ ih =>
    obtain ⟨rfl, -⟩ := toEnter?_eq_some.1 hu
    exact ih (gated.1.enter gated.2 fresh permitted) hx

/-! ## Questions -/

theorem Lawful.of_isNote {object : Value} {before : List Event} {e : Event} (he : e.IsNote) :
    v.Lawful heap object before e := by
  cases e with
  | asked | called => exact False.elim he
  | _ => trivial

theorem lawful_judge {object : Value} {beans : List Bean} {u : Value}
    (h : Always (v.Lawful heap object) s.events.toList) (hobject : object = .bean root)
    (reached : v.Reached heap root s.context.path u b beans s.events.toList) (leaf? : Option Bean)
    (routine : Routine) (declaration : Nat) (c : Constraint) :
    Always (v.Lawful heap object) (judge leaf? routine declaration c u s).2.events.toList := by
  have hcalled : Always (v.Lawful heap object)
      (s.record (called s routine declaration c u)).events.toList :=
    h.record ⟨root, b, beans, hobject, reached⟩
  rw [judge_apply]
  split
  · exact hcalled
  · exact Always.record (s := s.record _) hcalled trivial
  · exact hcalled

/-- What a property itself holds is not null where it is a target. -/
theorem Holds.ne_null {u : Value} {name : String} (h : v.Holds heap b ⟨name, none⟩ u) :
    u ≠ .null := by
  rintro rfl
  obtain ⟨p, w, -, -, -, hu⟩ := h
  obtain rfl := eq_of_mem_held_none v heap hu
  cases hu

/-- What is done in a passage is lawful. -/
theorem Passage.lawful (h : v.Passage heap place s r t) (gated : place.Gated v heap root groups s)
    (once : EnteredOnce s) (always : Always (v.Lawful heap (.bean root)) s.events.toList) :
    Always (v.Lawful heap (.bean root)) t.events.toList := by
  induction h with
  | rest | read | mark => exact always
  | next h _ ih ih' => exact ih' (gated.passage h) (h.enteredOnce once) (ih gated once always)
  | note he => exact always.record (.of_isNote he)
  | value _ _ ih =>
    exact ih ⟨_, rfl, GatedAt.descend gated _⟩ (once.of_entered_eq rfl (by simp)) always
  | target hw hp hu _ ih =>
    exact ih ⟨GatedAt.descend gated _, _, _, hw, hp, rfl, hu⟩ (once.of_entered_eq rfl (by simp))
      always
  | @ask b p element? u s target question fresh ht hq =>
    obtain ⟨n, -, rfl⟩ := Option.map_eq_some_iff.1 ht
    refine always.record ⟨rfl, fun h => Array.mem_toList_iff.2 (hq h), fun hfield => ?_, ?_⟩
    · cases element? with
      | none => exact gated.2.ne_null
      | some e => cases hfield
    · rintro x rfl
      have hunvisited : x ∉ s.context.visited := by
        intro hmem
        rw [Context.hasVisitedValue_eq_true.2 ⟨x, rfl, hmem⟩] at fresh
        cases fresh
      refine ⟨hunvisited, fun path hentered => hunvisited (once.visited ?_)⟩
      exact List.mem_filterMap.2 ⟨_, hentered, rfl⟩
  | judge =>
    obtain ⟨b, -, gated⟩ := gated
    obtain ⟨beans, reached⟩ := gated.reached nofun
    exact lawful_judge always rfl reached _ _ _ _
  | judgeTarget _ permitted =>
    obtain ⟨beans, reached⟩ := gated.1.reached fun _ => permitted
    exact lawful_judge always rfl reached _ _ _ _
  | @enter b p element? u x i s _ _ hu fresh permitted _ ih =>
    obtain ⟨rfl, -⟩ := toEnter?_eq_some.1 hu
    refine ih (gated.1.enter gated.2 fresh permitted) (once.enter fresh) ?_
    exact Always.record (s := s.changeContext _) always trivial

theorem answer_eq {object : Value} {log : List Event} (h : Always (v.Lawful heap object) log)
    {question : Question} {target : Target} {context : Context} {answer : Bool}
    (he : .asked question target context answer ∈ log) :
    answer = v.resolver.answer question target := by
  obtain ⟨before, -, hlaw⟩ := h.of_mem he
  exact hlaw.1

/-- What was permitted is not vetoed at any time. -/
theorem not_vetoed {object : Value} {log : List Event} (h : Always (v.Lawful heap object) log)
    {target : Target} (admitted : Admitted log target) : ¬ Vetoed log target := by
  rintro ⟨question, context, hno⟩
  obtain ⟨context', hyes⟩ := admitted question
  cases (answer_eq h hno).trans (answer_eq h hyes).symm

/-! ## Validations -/

/-- All that a validation does is lawful, and what it finds is cleared. -/
theorem lawful_of_validate {object : Value} {groups : List Group} {copies : Nat} {report : Report}
    (h : v.validate heap object groups copies = some report) :
    Always (v.Lawful heap object) report.events.toList ∧
      ∀ vs, report.result = .ok vs → ∀ x ∈ vs.items, ∃ root beans, object = .bean root ∧
        v.Cleared heap root x beans report.events.toList := by
  rcases passage_of_validate h with ⟨-, hnotes, hnone⟩ | ⟨root, i, r, t, hsome, rfl, hpassage⟩
  · refine ⟨fun before e after hlog => .of_isNote (hnotes e ?_), fun vs hvs => ?_⟩
    · exact Array.mem_toList_iff.1 (by rw [hlog]; simp)
    · rw [hnone vs hvs]
      nofun
  · obtain ⟨rfl, -⟩ := toVisit?_eq_some.1 hsome
    have gated : Place.Gated v heap root groups ((Progress.start root groups copies).enter root)
        (.bean root) := GatedAt.start groups copies
    have once : EnteredOnce ((Progress.start root groups copies).enter root) :=
      ⟨List.nodup_singleton root, List.Subset.refl [root]⟩
    have always : Always (v.Lawful heap (.bean root))
        (Progress.start root groups copies).events.toList := Always.concat .nil trivial
    refine ⟨hpassage.lawful gated once (always.record trivial), fun vs hvs x hx => ?_⟩
    obtain rfl := violations_of_result hvs
    obtain ⟨beans, hcleared⟩ := (hpassage.cleared gated hx).resolve_left nofun
    exact ⟨root, beans, rfl, hcleared⟩

/-- In a validation, the resolver is asked lawfully: with an answer for each target, whether it can
be reached only after it was said that it may be cascaded into, and never if it was said that it may
not, and neither about a null that a property holds nor about a bean that was entered before.  A
routine is asked, and a violation in the result was found, after both answers were yes for each
target that the path leads through; so no violation lies at or below a target that is vetoed. -/
theorem gate_of_validate (v : Validator) (heap : Heap) {object : Value} {groups : List Group}
    {copies : Nat} {report : Report} (h : v.validate heap object groups copies = some report) :
    Always (v.Lawful heap object) report.events.toList ∧
    (∀ target context answer, .asked .isReachable target context answer ∈ report.events.toList →
      ∀ context', .asked .isCascadable target context' false ∉ report.events.toList) ∧
    ∀ vs, report.result = .ok vs → ∀ x ∈ vs.items, ∃ root beans, object = .bean root ∧
      v.Cleared heap root x beans report.events.toList ∧
      ∀ target, Through root.type x.path beans x.value target →
        ¬ Vetoed report.events.toList target := by
  obtain ⟨lawful, cleared⟩ := lawful_of_validate h
  refine ⟨lawful, fun target context answer hasked context' hno => ?_, fun vs hvs x hx => ?_⟩
  · obtain ⟨before, hbefore, -, hyes, -⟩ := lawful.of_mem hasked
    cases (answer_eq lawful hno).trans (answer_eq lawful (hbefore (hyes rfl))).symm
  · obtain ⟨root, beans, hobject, hcleared⟩ := cleared vs hvs x hx
    exact ⟨root, beans, hobject, hcleared, fun target htarget =>
      not_vetoed lawful (hcleared.admitted htarget)⟩

theorem ring_gate :
    ∃ report vs, Ring.validator.validate Ring.heap (.bean Ring.first) [] 0 = some report ∧
      report.result = .ok vs ∧ vs.items = [Ring.missing] ∧
      Always (Ring.validator.Lawful Ring.heap (.bean Ring.first)) report.events.toList ∧
      ∃ beans, Ring.validator.Cleared Ring.heap Ring.first Ring.missing beans
        report.events.toList := by
  obtain ⟨report, vs, h, hvs, hitems⟩ := Ring.validate_first
  obtain ⟨lawful, -, cleared⟩ := gate_of_validate Ring.validator Ring.heap h
  obtain ⟨root, beans, ⟨⟩, hcleared, -⟩ :=
    cleared vs hvs Ring.missing (by rw [hitems]; exact List.mem_cons_self)
  exact ⟨report, vs, h, hvs, hitems, lawful, beans, hcleared⟩

end Validator

end BeanGraph
