import BeanGraph.Proofs.Settling
import BeanGraph.Proofs.Touring
import Mathlib.Data.Fintype.Card
import Mathlib.Logic.Relation

/-!
# Graphs without cycles

In a finite graph in which no bean leads back to itself, a tour without the guard has an end: the
beans that a bean leads to are fewer with every entry.  It enters a bean once for every way that
leads to it.

* `exists_tour`: a tour without the guard that is not broken off;
* `Tour.routed`: beans are entered at the paths of the ways to them.
-/

namespace BeanGraph

namespace Validator

variable (v : Validator) (heap : Heap)

/-- A bean has another one with an introspection as a cascade target. -/
def Below (b t : Bean) : Prop :=
  ∃ p w, v.Reads heap b p w ∧ p.cascade = true ∧ .bean t ∈ v.targets heap w ∧
    (v.introspection? t.type).isSome

/-- No bean within reach leads back to itself by one or more cascade targets. -/
def Acyclic (root : Bean) : Prop :=
  ∀ b, v.Reach heap root b → ¬ Relation.TransGen (v.Below heap) b b

variable {v heap}
variable {root b t : Bean} {i : Introspection} {p : Property} {element? : Option Element}
  {u : Value} {path : Path} {errands errands' : List Errand} {visited : List Bean}

/-! ## What errands lead to -/

theorem Reach.of_below (h : v.Reach heap root b) (ht : v.Below heap b t) :
    v.Reach heap root t := by
  obtain ⟨p, w, hw, hp, ht, hi⟩ := ht
  exact h.step hw hp ht hi

/-- A graph is without cycles if its beans lead to beans of a higher rank only. -/
theorem acyclic_of_rank (rank : Bean → Nat)
    (h : ∀ b t, v.Reach heap root b → v.Below heap b t → rank b < rank t) :
    v.Acyclic heap root := by
  intro b hb hcycle
  have ascends : ∀ t, Relation.TransGen (v.Below heap) b t →
      v.Reach heap root t ∧ rank b < rank t := by
    intro t ht
    induction ht with
    | single ht => exact ⟨hb.of_below ht, h b _ hb ht⟩
    | tail _ ht ih => exact ⟨ih.1.of_below ht, ih.2.trans (h _ _ ih.1 ht)⟩
  exact absurd (ascends b hcycle).2 (lt_irrefl _)

theorem below_of_due {j : Introspection} (hi : v.introspection? b.type = some i)
    (due : v.Due heap i b (.approach p element? u)) (hu : v.toEnter? u = some (t, j)) :
    v.Below heap b t := by
  obtain ⟨hp, hheld⟩ := due
  obtain ⟨hp, hcascade⟩ := List.mem_filter.1 hp
  obtain ⟨rfl, hj⟩ := toEnter?_eq_some.1 hu
  exact ⟨p, _, ⟨i, hi, hp, 0, rfl⟩, hcascade, List.mem_map_of_mem hheld, by rw [hj]; rfl⟩

theorem due_of_below (stable : v.Stable) (hi : v.introspection? b.type = some i)
    (h : v.Below heap b t) : ∃ p element? j,
      v.Due heap i b (.approach p element? (.bean t)) ∧ v.toEnter? (.bean t) = some (t, j) := by
  obtain ⟨p, w, hw, hcascade, ht, hj⟩ := h
  obtain ⟨j, hj⟩ := Option.isSome_iff_exists.1 hj
  obtain ⟨i', hi', hp, rfl⟩ := hw.eq_get stable
  obtain rfl := Option.some.inj (hi.symm.trans hi')
  obtain ⟨⟨element?, u⟩, hheld, rfl⟩ := List.mem_map.1 ht
  exact ⟨p, element?, j, ⟨List.mem_filter.2 ⟨hp, hcascade⟩, hheld⟩, toEnter?_eq_some.2 ⟨rfl, hj⟩⟩

theorem holds_of_due {j : Introspection} (hi : v.introspection? b.type = some i)
    (due : v.Due heap i b (.approach p element? u)) (hu : v.toEnter? u = some (t, j)) :
    v.Holds heap b ⟨p.name, element?⟩ (.bean t) := by
  obtain ⟨hp, hheld⟩ := due
  obtain ⟨hp, hcascade⟩ := List.mem_filter.1 hp
  obtain ⟨rfl, -⟩ := toEnter?_eq_some.1 hu
  exact ⟨p, _, ⟨i, hi, hp, 0, rfl⟩, hcascade, rfl, hheld⟩

theorem PermitsAll.admits (all : v.PermitsAll) (root : Bean) (path : Path) (u : Value)
    (element? : Option Element) : v.Admits root path u element? :=
  fun target _ => all target

theorem not_skips_false (visited : List Bean) (u : Value) : ¬ Skips false visited u :=
  fun h => Bool.false_ne_true h.1

/-! ## Tours without the guard -/

/-- There is a tour of some errands without the guard, whatever beans are visited. -/
def Passable (v : Validator) (heap : Heap) (root b : Bean) (path : Path) (errands : List Errand) :
    Prop :=
  ∀ visited, ∃ stages visited',
    v.Tour heap false root b path errands visited stages (some visited')

theorem passable_nil : v.Passable heap root b path [] := fun _ => ⟨[], _, .done⟩

theorem Passable.append (h : v.Passable heap root b path errands)
    (h' : v.Passable heap root b path errands') :
    v.Passable heap root b path (errands ++ errands') := by
  intro visited
  obtain ⟨stages, visited', htour⟩ := h visited
  obtain ⟨stages', visited'', htour'⟩ := h' visited'
  exact ⟨_, _, htour.append htour'⟩

theorem passable_of_forall (h : ∀ errand ∈ errands, v.Passable heap root b path [errand]) :
    v.Passable heap root b path errands := by
  induction errands with
  | nil => exact passable_nil
  | cons errand errands ih =>
    obtain ⟨hfirst, hrest⟩ := List.forall_mem_cons.1 h
    exact hfirst.append (ih hrest)

section

variable (all : v.PermitsAll) (hi : v.introspection? b.type = some i)
  (below : ∀ t j, v.Below heap b t → v.introspection? t.type = some j → ∀ path,
    v.Passable heap root t path j.errands)
include all hi below

theorem passable_approach (due : v.Due heap i b (.approach p element? u)) :
    v.Passable heap root b path [.approach p element? u] := by
  intro visited
  have fresh := not_skips_false visited u
  have admitted := all.admits root (path.below p element?) u element?
  cases hu : v.toEnter? u with
  | none => exact ⟨_, _, .look fresh admitted hu .done⟩
  | some entry =>
    obtain ⟨t, j⟩ := entry
    cases hj : j.isUnconstrained with
    | true => exact ⟨_, _, .mark fresh admitted hu hj .done⟩
    | false =>
      obtain ⟨stages, visited', htour⟩ := below t j (below_of_due hi due hu)
        (toEnter?_eq_some.1 hu).2 (path.below p element?) (visited.insert t)
      exact ⟨_, _, .enter fresh admitted hu hj htour .done⟩

theorem passable_errands : v.Passable heap root b path i.errands := by
  refine passable_of_forall fun errand herrand visited => ?_
  obtain ⟨p, hp, rfl⟩ := List.mem_map.1 herrand
  have targets : v.Passable heap root b path (v.approaches heap p (i.get p heap b)) := by
    refine passable_of_forall fun errand herrand => ?_
    have due := due_approach hp errand herrand
    obtain ⟨⟨element?, u⟩, -, rfl⟩ := List.mem_map.1 herrand
    exact passable_approach all hi below due
  obtain ⟨stages, visited', htour⟩ := targets visited
  exact ⟨stages, visited', .read hi hp (by simpa using htour)⟩

end

/-- In a finite graph without cycles there is a tour of the errands of any bean within reach. -/
theorem exists_tour (all : v.PermitsAll) (finite : {b | v.Reach heap root b}.Finite)
    (acyclic : v.Acyclic heap root) (hb : v.Reach heap root b)
    (hi : v.introspection? b.type = some i) (path : Path) (visited : List Bean) :
    ∃ stages visited',
      v.Tour heap false root b path i.errands visited stages (some visited') := by
  -- the beans within reach are in order: those that a bean leads to are below it
  let Deep (t b : {b // v.Reach heap root b}) : Prop :=
    Relation.TransGen (v.Below heap) b.val t.val
  have _ : Finite {b // v.Reach heap root b} := finite.to_subtype
  have _ : IsTrans _ Deep := ⟨fun _ _ _ h h' => h'.trans h⟩
  have _ : Std.Irrefl Deep := ⟨fun b => acyclic b.val b.property⟩
  have wellFounded : WellFounded Deep := Finite.wellFounded_of_trans_of_irrefl Deep
  suffices passable : ∀ b : {b // v.Reach heap root b}, ∀ i,
      v.introspection? b.val.type = some i → ∀ path,
      v.Passable heap root b.val path i.errands from passable ⟨b, hb⟩ i hi path visited
  intro b
  induction b using wellFounded.induction with
  | _ b ih =>
    intro i hi path
    exact passable_errands all hi fun t j ht hj path =>
      ih ⟨t, b.property.of_below ht⟩ (.single ht) j hj path

/-! ## Ways to the beans that are entered -/

/-- A bean with an introspection is at the path of a way to it. -/
def Routed (v : Validator) (heap : Heap) (root t : Bean) (path : Path) : Prop :=
  (v.introspection? t.type).isSome ∧ ∃ hops beans,
    v.Route heap root hops (beans ++ [t]) ∧ path = .along hops

theorem Routed.next (h : v.Routed heap root b path) (hi : v.introspection? b.type = some i)
    {path' : Path} (ht : v.Enters heap i b path t path') : v.Routed heap root t path' := by
  obtain ⟨p, element?, u, j, due, hu, rfl⟩ := ht
  obtain ⟨-, hops, beans, route, rfl⟩ := h
  refine ⟨by rw [(toEnter?_eq_some.1 hu).2]; rfl, _, _, .hop route (holds_of_due hi due hu), ?_⟩
  exact (Path.along_append_singleton ..).symm

theorem Tour.routed {guarded : Bool} {stages : List Stage} {left? : Option (List Bean)}
    (h : v.Tour heap guarded root b path errands visited stages left?)
    (hi : v.introspection? b.type = some i) (due : ∀ e ∈ errands, v.Due heap i b e)
    (hb : v.Routed heap root b path) {path' : Path} (ht : (t, path') ∈ Stage.entries stages) :
    v.Routed heap root t path' :=
  h.of_mem_entries hi due (fun _ _ => hb.next hi) (fun _ _ _ _ _ hj hb => hb.next hj) ht

/-- The beans that are entered are within reach. -/
theorem Journey.reach {guarded : Bool} {stages : List Stage} {left? : Option (List Bean)}
    (hi : v.introspection? root.type = some i)
    (h : v.Journey heap guarded root i root .root [root] stages left?)
    (ht : (t, path) ∈ Stage.entries stages) : v.Reach heap root t := by
  obtain ⟨stages', rfl, htour⟩ := h
  refine of_mem_entries_arrival (I := fun t _ => v.Reach heap root t) .root (fun ht => ?_) ht
  refine htour.of_mem_entries (I := fun t _ => v.Reach heap root t) hi due_read ?_ ?_ ht
  · rintro t path' ⟨p, element?, u, j, due, hu, -⟩
    exact Reach.root.of_below (below_of_due hi due hu)
  · rintro b path i t path' hi hb ⟨p, element?, u, j, due, hu, -⟩
    exact hb.of_below (below_of_due hi due hu)

end Validator

end BeanGraph
