import BeanGraph.Proofs.Verdict
import BeanGraph.Proofs.Visit

/-!
# Tours of a graph

A `Tour` tells what a traversal does without the state of a call: which beans it enters, at which
paths, and which values it inspects, in order, and which beans are visited when it is through.  The
groups that are asked for and the routines have no part in it, but that a failure breaks it off; so
a tour that is broken off may be so anywhere.

* `Tour.append`: tours of one list of errands and then another make a tour of both;
* `Tour.of_mem_entries`: what holds of the targets of beans that it holds of, holds of all beans
  entered;
* `Tour.inspected`: what is inspected belongs to the bean at hand or to one that is entered.
-/

namespace BeanGraph

/-! ## Stages -/

/-- A value that is checked against the constraints of a property of a bean. -/
structure Inspection where
  leaf : Bean
  property : Property
  path : Path
  value : Value

/-- One thing that a tour does: it enters a bean at a path, or it inspects a value. -/
inductive Stage
  | entry (b : Bean) (path : Path)
  | inspection (x : Inspection)

namespace Stage

/-- The entry that a stage is. -/
def entry? : Stage → Option (Bean × Path)
  | .entry b path => some (b, path)
  | .inspection _ => none

/-- The inspection that a stage is. -/
def inspection? : Stage → Option Inspection
  | .entry _ _ => none
  | .inspection x => some x

/-- The beans entered and the paths at which they are, in order. -/
def entries (stages : List Stage) : List (Bean × Path) := stages.filterMap entry?

/-- The values inspected, in order. -/
def inspections (stages : List Stage) : List Inspection := stages.filterMap inspection?

@[simp] theorem entries_append (stages stages' : List Stage) :
    entries (stages ++ stages') = entries stages ++ entries stages' := List.filterMap_append

@[simp] theorem inspections_append (stages stages' : List Stage) :
    inspections (stages ++ stages') = inspections stages ++ inspections stages' :=
  List.filterMap_append

@[simp] theorem inspections_inspection_cons (x : Inspection) (stages : List Stage) :
    inspections (.inspection x :: stages) = x :: inspections stages := rfl

@[simp] theorem entries_entry_cons (b : Bean) (path : Path) (stages : List Stage) :
    entries (.entry b path :: stages) = (b, path) :: entries stages := rfl

@[simp] theorem inspections_entry_cons (b : Bean) (path : Path) (stages : List Stage) :
    inspections (.entry b path :: stages) = inspections stages := rfl

@[simp] theorem entries_map_inspection (xs : List Inspection) :
    entries (xs.map .inspection) = [] := by
  induction xs with
  | nil => rfl
  | cons x xs ih => exact ih

@[simp] theorem inspections_map_inspection (xs : List Inspection) :
    inspections (xs.map .inspection) = xs := by
  induction xs with
  | nil => rfl
  | cons x xs ih => exact congrArg (x :: ·) ih

end Stage

/-! ## Errands -/

/-- Something left to do at a bean: to read a cascade property, or to approach a target that it
holds. -/
inductive Errand
  | read (p : Property)
  | approach (p : Property) (element? : Option Element) (value : Value)

/-- The errands that a bean comes with. -/
def Introspection.errands (i : Introspection) : List Errand := i.cascading.map .read

/-- The path to what a property holds. -/
def Path.below (path : Path) (p : Property) (element? : Option Element) : Path :=
  path.descend (Hop.node ⟨p.name, element?⟩)

@[simp] theorem Path.parent?_below (path : Path) (p : Property) (element? : Option Element) :
    (path.below p element?).parent? = some path := Path.parent?_descend ..

@[simp] theorem Path.length_below (path : Path) (p : Property) (element? : Option Element) :
    (path.below p element?).length = path.length + 1 := by
  simp [below, descend, length]

/-- The context of a call on a root bean, at a path and with some beans visited. -/
def Context.during (root : Bean) (groups : List Group) (path : Path) (visited : List Bean) :
    Context :=
  { forRoot root groups with path, visited }

theorem Context.visit_during (root : Bean) (groups : List Group) (path : Path)
    (visited : List Bean) (t : Bean) :
    (during root groups path visited).visit t = during root groups path (visited.insert t) := by
  unfold visit
  by_cases ht : t ∈ visited
  · rw [if_pos (hasVisited_eq_true.2 ht), List.insert_of_mem ht]
  · rw [if_neg (by rw [hasVisited_eq_false.2 ht]; exact Bool.false_ne_true),
      List.insert_of_not_mem ht]
    rfl

namespace Validator

variable (v : Validator) (heap : Heap)

/-- The errands to the targets that a property holds. -/
def approaches (p : Property) (w : Value) : List Errand :=
  (v.held heap w).map fun (element?, u) => .approach p element? u

/-- An errand that comes up at a bean. -/
def Due (i : Introspection) (b : Bean) : Errand → Prop
  | .read p => p ∈ i.cascading
  | .approach p element? u => p ∈ i.cascading ∧ (element?, u) ∈ v.held heap (i.get p heap b)

/-- A bean at a path has another one with an introspection as a target, at the path to it. -/
def Enters (i : Introspection) (b : Bean) (path : Path) (t : Bean) (path' : Path) : Prop :=
  ∃ p element? u j, v.Due heap i b (.approach p element? u) ∧ v.toEnter? u = some (t, j) ∧
    path' = path.below p element?

/-- The values inspected for a property of a bean that holds a value. -/
def propertyInspections (b : Bean) (path : Path) (p : Property) (w : Value) : List Inspection :=
  (v.subjects heap p w).map fun u => ⟨b, p, path.below p none, u⟩

/-- The values inspected when a bean is entered at a path. -/
def ownInspections (i : Introspection) (b : Bean) (path : Path) : List Inspection :=
  i.constrained.flatMap fun p => v.propertyInspections heap b path p (i.get p heap b)

/-- A target of a bean at a path is inspected, as there is nothing to enter in it. -/
def TargetInspected (i : Introspection) (b : Bean) (path : Path) (x : Inspection) : Prop :=
  ∃ p element? u, v.Due heap i b (.approach p element? u) ∧ v.toEnter? u = none ∧
    x = ⟨b, p, path.below p element?, u⟩

/-- An inspection of a bean at a path: of a value of its own, or of a target. -/
def Inspected (i : Introspection) (b : Bean) (path : Path) (x : Inspection) : Prop :=
  x ∈ v.ownInspections heap i b path ∨ v.TargetInspected heap i b path x

/-- What is done when a bean is entered at a path. -/
def arrival (i : Introspection) (b : Bean) (path : Path) : List Stage :=
  .entry b path :: (v.ownInspections heap i b path).map .inspection

/-- The resolver lets a call on a root go into a target at a path. -/
def Admits (root : Bean) (path : Path) (u : Value) (element? : Option Element) : Prop :=
  v.Permits (.during root [] path []) u (.of element?)

/-- A target is passed over: it is a bean that is visited, and there is a guard. -/
def Skips (guarded : Bool) (visited : List Bean) (u : Value) : Prop :=
  guarded = true ∧ ∃ t, u = .bean t ∧ t ∈ visited

variable {v heap}

theorem due_read {i : Introspection} {b : Bean} : ∀ e ∈ i.errands, v.Due heap i b e := by
  intro e he
  obtain ⟨p, hp, rfl⟩ := List.mem_map.1 he
  exact hp

theorem due_approach {i : Introspection} {b : Bean} {p : Property} (hp : p ∈ i.cascading) :
    ∀ e ∈ v.approaches heap p (i.get p heap b), v.Due heap i b e := by
  intro e he
  obtain ⟨⟨element?, u⟩, hu, rfl⟩ := List.mem_map.1 he
  exact ⟨hp, hu⟩

@[simp] theorem entries_arrival (i : Introspection) (b : Bean) (path : Path) :
    Stage.entries (v.arrival heap i b path) = [(b, path)] := by
  simp [arrival]

@[simp] theorem inspections_arrival (i : Introspection) (b : Bean) (path : Path) :
    Stage.inspections (v.arrival heap i b path) = v.ownInspections heap i b path := by
  simp [arrival]

theorem mem_ownInspections {i : Introspection} {b : Bean} {path : Path} {x : Inspection} :
    x ∈ v.ownInspections heap i b path ↔ ∃ p ∈ i.constrained,
      ∃ u ∈ v.subjects heap p (i.get p heap b), x = ⟨b, p, path.below p none, u⟩ := by
  simp only [ownInspections, propertyInspections, List.mem_flatMap, List.mem_map, eq_comm]

theorem of_mem_entries_arrival {I : Bean → Path → Prop} {i : Introspection} {b t : Bean}
    {path path' : Path} {stages : List Stage} (hb : I b path)
    (below : (t, path') ∈ Stage.entries stages → I t path')
    (ht : (t, path') ∈ Stage.entries (v.arrival heap i b path ++ stages)) : I t path' := by
  rw [Stage.entries_append, entries_arrival, List.mem_append, List.mem_singleton] at ht
  obtain ht | ht := ht
  · obtain ⟨rfl, rfl⟩ := Prod.mk.inj ht
    exact hb
  · exact below ht

/-- If what is inspected after an arrival is inspected of the bean that is entered or of one below,
all is inspected of a bean that is entered. -/
theorem inspected_of_arrival {i : Introspection} {b : Bean} {path : Path} {stages : List Stage}
    {x : Inspection} (hi : v.introspection? b.type = some i)
    (below : x ∈ Stage.inspections stages → v.TargetInspected heap i b path x ∨
      ∃ t j path', (t, path') ∈ Stage.entries stages ∧ v.introspection? t.type = some j ∧
        v.Inspected heap j t path' x)
    (hx : x ∈ Stage.inspections (v.arrival heap i b path ++ stages)) :
    ∃ t j path', (t, path') ∈ Stage.entries (v.arrival heap i b path ++ stages) ∧
      v.introspection? t.type = some j ∧ v.Inspected heap j t path' x := by
  rw [Stage.inspections_append, inspections_arrival, List.mem_append] at hx
  rw [Stage.entries_append, entries_arrival]
  have here : (b, path) ∈ [(b, path)] ++ Stage.entries stages :=
    List.mem_append_left _ (List.mem_singleton_self _)
  obtain hx | hx := hx
  · exact ⟨b, i, path, here, hi, .inl hx⟩
  · obtain hx | ⟨t, j, path', ht, hj, hx⟩ := below hx
    · exact ⟨b, i, path, here, hi, .inr hx⟩
    · exact ⟨t, j, path', List.mem_append_right _ ht, hj, hx⟩

theorem Inspected.leaf_and_parent? {i : Introspection} {b : Bean} {path : Path} {x : Inspection}
    (h : v.Inspected heap i b path x) : x.leaf = b ∧ x.path.parent? = some path := by
  obtain h | ⟨p, element?, u, -, -, rfl⟩ := h
  · obtain ⟨p, -, u, -, rfl⟩ := mem_ownInspections.1 h
    exact ⟨rfl, path.parent?_below p none⟩
  · exact ⟨rfl, path.parent?_below p element?⟩

/-- An inspection is of a property of its leaf, at a path that ends with the name of the
property. -/
def Sited (v : Validator) (x : Inspection) : Prop :=
  ∃ i, v.introspection? x.leaf.type = some i ∧ x.property ∈ i.properties ∧
    x.path.last?.map (·.name) = some x.property.name

theorem Inspected.sited {i : Introspection} {b : Bean} {path : Path} {x : Inspection}
    (hi : v.introspection? b.type = some i) (h : v.Inspected heap i b path x) : v.Sited x := by
  obtain h | ⟨p, element?, u, ⟨hp, -⟩, -, rfl⟩ := h
  · obtain ⟨p, hp, u, -, rfl⟩ := mem_ownInspections.1 h
    exact ⟨i, hi, (List.mem_filter.1 hp).1, path.name_last?_descend ⟨p.name, none⟩⟩
  · exact ⟨i, hi, (List.mem_filter.1 hp).1, path.name_last?_descend ⟨p.name, element?⟩⟩

/-- Inspections at one path of a bean are of one property. -/
theorem Sited.property_eq {x y : Inspection} (hx : v.Sited x) (hy : v.Sited y)
    (hleaf : x.leaf = y.leaf) (hpath : x.path = y.path) : x.property = y.property := by
  obtain ⟨i, hi, hpx, hnamex⟩ := hx
  obtain ⟨j, hj, hpy, hnamey⟩ := hy
  rw [hleaf] at hi
  obtain rfl := Option.some.inj (hi.symm.trans hj)
  rw [hpath] at hnamex
  exact Introspection.eq_of_name_eq hpy hpx (Option.some.inj (hnamex.symm.trans hnamey))

/-! ## Tours -/

/-- What a call on a root, with the guard or without it, does on errands at a bean with some beans
visited: the stages in order, and the beans visited at the end unless it is broken off. -/
inductive Tour (v : Validator) (heap : Heap) (guarded : Bool) (root : Bean) :
    Bean → Path → List Errand → List Bean → List Stage → Option (List Bean) → Prop
  | done {b path visited} : Tour v heap guarded root b path [] visited [] (some visited)
  | halt {b path errands visited} : Tour v heap guarded root b path errands visited [] none
  | read {b path i p rest visited stages left?} (hi : v.introspection? b.type = some i)
      (hp : p ∈ i.cascading)
      (h : Tour v heap guarded root b path (v.approaches heap p (i.get p heap b) ++ rest) visited
        stages left?) :
      Tour v heap guarded root b path (.read p :: rest) visited stages left?
  | skip {b path p element? u rest visited stages left?} (skipped : Skips guarded visited u)
      (h : Tour v heap guarded root b path rest visited stages left?) :
      Tour v heap guarded root b path (.approach p element? u :: rest) visited stages left?
  | veto {b path p element? u rest visited stages left?} (fresh : ¬ Skips guarded visited u)
      (vetoed : ¬ v.Admits root (path.below p element?) u element?)
      (h : Tour v heap guarded root b path rest visited stages left?) :
      Tour v heap guarded root b path (.approach p element? u :: rest) visited stages left?
  | look {b path p element? u rest visited stages left?} (fresh : ¬ Skips guarded visited u)
      (admitted : v.Admits root (path.below p element?) u element?) (hu : v.toEnter? u = none)
      (h : Tour v heap guarded root b path rest visited stages left?) :
      Tour v heap guarded root b path (.approach p element? u :: rest) visited
        (.inspection ⟨b, p, path.below p element?, u⟩ :: stages) left?
  | mark {b path p element? u t i rest visited stages left?} (fresh : ¬ Skips guarded visited u)
      (admitted : v.Admits root (path.below p element?) u element?)
      (hu : v.toEnter? u = some (t, i)) (hi : i.isUnconstrained = true)
      (h : Tour v heap guarded root b path rest (visited.insert t) stages left?) :
      Tour v heap guarded root b path (.approach p element? u :: rest) visited stages left?
  | enter {b path p element? u t i rest visited stages visited' stages' left?}
      (fresh : ¬ Skips guarded visited u)
      (admitted : v.Admits root (path.below p element?) u element?)
      (hu : v.toEnter? u = some (t, i)) (hi : i.isUnconstrained = false)
      (h : Tour v heap guarded root t (path.below p element?) i.errands (visited.insert t) stages
        (some visited'))
      (h' : Tour v heap guarded root b path rest visited' stages' left?) :
      Tour v heap guarded root b path (.approach p element? u :: rest) visited
        (v.arrival heap i t (path.below p element?) ++ stages ++ stages') left?
  | within {b path p element? u t i rest visited stages} (fresh : ¬ Skips guarded visited u)
      (admitted : v.Admits root (path.below p element?) u element?)
      (hu : v.toEnter? u = some (t, i)) (hi : i.isUnconstrained = false)
      (h : Tour v heap guarded root t (path.below p element?) i.errands (visited.insert t) stages
        none) :
      Tour v heap guarded root b path (.approach p element? u :: rest) visited
        (v.arrival heap i t (path.below p element?) ++ stages) none

namespace Tour

variable {guarded : Bool} {root b : Bean} {path : Path} {errands errands' : List Errand}
  {visited visited' : List Bean} {stages stages' : List Stage} {left? : Option (List Bean)}

theorem append (h : v.Tour heap guarded root b path errands visited stages (some visited'))
    (h' : v.Tour heap guarded root b path errands' visited' stages' left?) :
    v.Tour heap guarded root b path (errands ++ errands') visited (stages ++ stages') left? := by
  generalize hleft : some visited' = middle? at h
  induction h with
  | done =>
    cases hleft
    exact h'
  | halt | within => cases hleft
  | read hi hp _ ih => exact .read hi hp (by simpa using ih h' hleft)
  | skip skipped _ ih => exact .skip skipped (ih h' hleft)
  | veto fresh vetoed _ ih => exact .veto fresh vetoed (ih h' hleft)
  | look fresh admitted hu _ ih => exact .look fresh admitted hu (ih h' hleft)
  | mark fresh admitted hu hi _ ih => exact .mark fresh admitted hu hi (ih h' hleft)
  | enter fresh admitted hu hi below _ _ ih =>
    rw [List.append_assoc]
    exact .enter fresh admitted hu hi below (ih h' hleft)

theorem append_none (h : v.Tour heap guarded root b path errands visited stages none)
    (errands' : List Errand) :
    v.Tour heap guarded root b path (errands ++ errands') visited stages none := by
  generalize hleft : none = left? at h
  induction h with
  | done => cases hleft
  | halt => exact .halt
  | read hi hp _ ih => exact .read hi hp (by simpa using ih hleft)
  | skip skipped _ ih => exact .skip skipped (ih hleft)
  | veto fresh vetoed _ ih => exact .veto fresh vetoed (ih hleft)
  | look fresh admitted hu _ ih => exact .look fresh admitted hu (ih hleft)
  | mark fresh admitted hu hi _ ih => exact .mark fresh admitted hu hi (ih hleft)
  | enter fresh admitted hu hi below _ _ ih => exact .enter fresh admitted hu hi below (ih hleft)
  | within fresh admitted hu hi below => exact .within fresh admitted hu hi below

theorem broken (h : v.Tour heap guarded root b path errands visited stages left?)
    (errands' : List Errand) :
    v.Tour heap guarded root b path (errands ++ errands') visited stages none := by
  cases left? with
  | none => exact h.append_none errands'
  | some visited' => simpa using h.append .halt

/-- What holds of the targets of the bean at hand, and of the targets of beans that it holds of,
holds of all beans that are entered. -/
theorem of_mem_entries {I : Bean → Path → Prop}
    (h : v.Tour heap guarded root b path errands visited stages left?) {i : Introspection}
    (hi : v.introspection? b.type = some i) (due : ∀ e ∈ errands, v.Due heap i b e)
    (first : ∀ t path', v.Enters heap i b path t path' → I t path')
    (next : ∀ b path i t path', v.introspection? b.type = some i → I b path →
      v.Enters heap i b path t path' → I t path')
    {t : Bean} {path' : Path} (ht : (t, path') ∈ Stage.entries stages) : I t path' := by
  induction h generalizing i with
  | done | halt => cases ht
  | read hj hp _ ih =>
    obtain rfl := Option.some.inj (hi.symm.trans hj)
    exact ih hi (List.forall_mem_append.2 ⟨due_approach hp, (List.forall_mem_cons.1 due).2⟩) first
      ht
  | skip _ _ ih | veto _ _ _ ih | look _ _ _ _ ih | mark _ _ _ _ _ ih =>
    exact ih hi (List.forall_mem_cons.1 due).2 first ht
  | enter _ _ hu _ _ _ ih ih' =>
    obtain ⟨hdue, hrest⟩ := List.forall_mem_cons.1 due
    have hj := (toEnter?_eq_some.1 hu).2
    have hentered := first _ _ ⟨_, _, _, _, hdue, hu, rfl⟩
    rw [Stage.entries_append, List.mem_append] at ht
    obtain ht | ht := ht
    · exact of_mem_entries_arrival hentered
        (ih hj due_read fun t path' => next _ _ _ t path' hj hentered) ht
    · exact ih' hi hrest first ht
  | within _ _ hu _ _ ih =>
    have hj := (toEnter?_eq_some.1 hu).2
    have hentered := first _ _ ⟨_, _, _, _, (List.forall_mem_cons.1 due).1, hu, rfl⟩
    exact of_mem_entries_arrival hentered
      (ih hj due_read fun t path' => next _ _ _ t path' hj hentered) ht

theorem length_lt (h : v.Tour heap guarded root b path errands visited stages left?)
    {i : Introspection} (hi : v.introspection? b.type = some i)
    (due : ∀ e ∈ errands, v.Due heap i b e) {t : Bean} {path' : Path}
    (ht : (t, path') ∈ Stage.entries stages) : path.length < path'.length := by
  refine h.of_mem_entries (I := fun _ path' => path.length < path'.length) hi due ?_ ?_ ht
  · rintro t path' ⟨p, element?, u, j, -, -, rfl⟩
    rw [Path.length_below]
    exact Nat.lt_succ_self _
  · rintro b path' i t path'' - hlt ⟨p, element?, u, j, -, -, rfl⟩
    rw [Path.length_below]
    exact Nat.lt_succ_of_lt hlt

/-- What is inspected is a target of the bean at hand that is not entered, or is inspected of a bean
that is. -/
theorem inspected (h : v.Tour heap guarded root b path errands visited stages left?)
    {i : Introspection} (hi : v.introspection? b.type = some i)
    (due : ∀ e ∈ errands, v.Due heap i b e) {x : Inspection} (hx : x ∈ Stage.inspections stages) :
    v.TargetInspected heap i b path x ∨
      ∃ t j path', (t, path') ∈ Stage.entries stages ∧ v.introspection? t.type = some j ∧
        v.Inspected heap j t path' x := by
  induction h generalizing i with
  | done | halt => cases hx
  | read hj hp _ ih =>
    obtain rfl := Option.some.inj (hi.symm.trans hj)
    exact ih hi (List.forall_mem_append.2 ⟨due_approach hp, (List.forall_mem_cons.1 due).2⟩) hx
  | skip _ _ ih | veto _ _ _ ih | mark _ _ _ _ _ ih =>
    exact ih hi (List.forall_mem_cons.1 due).2 hx
  | look _ _ hu _ ih =>
    rw [Stage.inspections_inspection_cons, List.mem_cons] at hx
    obtain rfl | hx := hx
    · exact .inl ⟨_, _, _, (List.forall_mem_cons.1 due).1, hu, rfl⟩
    · exact ih hi (List.forall_mem_cons.1 due).2 hx
  | enter _ _ hu _ _ _ ih ih' =>
    have hj := (toEnter?_eq_some.1 hu).2
    rw [Stage.inspections_append, List.mem_append] at hx
    rw [Stage.entries_append]
    obtain hx | hx := hx
    · obtain ⟨t, j, path', ht, hx⟩ := inspected_of_arrival hj (ih hj due_read) hx
      exact .inr ⟨t, j, path', List.mem_append_left _ ht, hx⟩
    · obtain hx | ⟨t, j, path', ht, hx⟩ := ih' hi (List.forall_mem_cons.1 due).2 hx
      · exact .inl hx
      · exact .inr ⟨t, j, path', List.mem_append_right _ ht, hx⟩
  | within _ _ hu _ _ ih =>
    have hj := (toEnter?_eq_some.1 hu).2
    exact .inr (inspected_of_arrival hj (ih hj due_read) hx)

end Tour

end Validator

end BeanGraph
