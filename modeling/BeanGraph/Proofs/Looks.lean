import BeanGraph.Proofs.Thorough

/-!
# What is looked at of a bean

A tour with the guard enters no bean that is visited.  So all that it inspects of a bean that it
enters it inspects while it is there.  If it is not broken off these are the values of the bean
itself, and then the targets with nothing to enter in them that the resolver admits: each once, and
in the order of the properties.

* `Tour.entered`: what a tour enters is not visited at its start, and is at its end;
* `Tour.inspectionsOf_self`, `Tour.inspectionsOf_entered`: what is inspected of the bean at hand,
  and of one that is entered;
* `Journey.inspectionsOf`: the same for a tour from the root;
* `filter_looks`: what of this belongs to one property.
-/

namespace BeanGraph

/-- The inspections of a bean, in order. -/
def Stage.inspectionsOf (b : Bean) (stages : List Stage) : List Inspection :=
  (inspections stages).filter (·.leaf = b)

@[simp] theorem Stage.inspectionsOf_append (b : Bean) (stages stages' : List Stage) :
    inspectionsOf b (stages ++ stages') = inspectionsOf b stages ++ inspectionsOf b stages' := by
  rw [inspectionsOf, inspections_append, List.filter_append]
  rfl

/-- The property of a name is the only one of this name. -/
theorem Introspection.filter_name {i : Introspection} {p : Property} (hp : p ∈ i.properties) :
    i.properties.filter (·.name = p.name) = [p] := by
  obtain ⟨before, after, hsplit, hbefore, hafter⟩ := i.exists_split hp
  have none (qs : List Property) (hqs : ∀ q ∈ qs, q.name ≠ p.name) :
      qs.filter (·.name = p.name) = [] :=
    List.filter_eq_nil_iff.2 fun q hq => by simpa using hqs q hq
  rw [hsplit, List.filter_append, none before hbefore, List.filter_cons_of_pos (by simp),
    none after hafter, List.nil_append]

namespace Validator

section Looks

variable (v : Validator) (heap : Heap) (root : Bean)

/-- What a resolver permits is decided by asking it. -/
instance (c : Context) (value : Value) (elementType : ElementType) :
    Decidable (v.Permits c value elementType) :=
  decidable_of_iff ((c.target? value elementType).all fun target =>
    v.resolver.isCascadable target && v.resolver.isReachable target) (by
      cases h : c.target? value elementType <;> simp [Permits, h])

/-- What is admitted is decided by asking the resolver. -/
instance (path : Path) (u : Value) (element? : Option Element) :
    Decidable (v.Admits root path u element?) :=
  inferInstanceAs (Decidable (v.Permits _ _ _))

/-- The look at a target, if there is nothing to enter in it and the resolver admits it. -/
def targetLook (b : Bean) (path : Path) (p : Property) (element? : Option Element) (u : Value) :
    List Inspection :=
  if v.toEnter? u = none ∧ v.Admits root (path.below p element?) u element? then
    [⟨b, p, path.below p element?, u⟩]
  else []

/-- The looks at the targets that a property holds. -/
def targetLooks (b : Bean) (path : Path) (p : Property) (w : Value) : List Inspection :=
  (v.held heap w).flatMap fun (element?, u) => v.targetLook root b path p element? u

/-- The looks that an errand comes to. -/
def errandLooks (i : Introspection) (b : Bean) (path : Path) : Errand → List Inspection
  | .read p => v.targetLooks heap root b path p (i.get p heap b)
  | .approach p element? u => v.targetLook root b path p element? u

/-- The looks at a bean at a path: at its own values, and then at its targets. -/
def looks (i : Introspection) (b : Bean) (path : Path) : List Inspection :=
  v.ownInspections heap i b path ++ i.errands.flatMap (v.errandLooks heap root i b path)

/-- The looks at a property of a bean at a path. -/
def looksAt (i : Introspection) (b : Bean) (path : Path) (p : Property) : List Inspection :=
  (if p.isConstrained then v.propertyInspections heap b path p (i.get p heap b) else []) ++
    if p.cascade then v.targetLooks heap root b path p (i.get p heap b) else []

variable {v heap root}
variable {b t : Bean} {i j : Introspection} {path path' : Path} {errands : List Errand}
  {p : Property} {element? : Option Element} {u w : Value} {visited visited' : List Bean}
  {stages stages' : List Stage} {left? : Option (List Bean)} {x : Inspection}

/-! ## The looks at one property -/

theorem mem_targetLooks (hx : x ∈ v.targetLooks heap root b path p w) : x.property = p := by
  obtain ⟨⟨element?, u⟩, -, hx⟩ := List.mem_flatMap.1 hx
  simp only [targetLook] at hx
  split at hx
  · rw [List.mem_singleton.1 hx]
  · cases hx

theorem filter_flatMap_properties {f : Property → List Inspection} (keep : Property → Bool)
    (hp : p ∈ i.properties) (hf : ∀ q, ∀ x ∈ f q, x.property = q) :
    ((i.properties.filter keep).flatMap f).filter (·.property.name = p.name) =
      if keep p then f p else [] := by
  have whole : ((i.properties.filter keep).flatMap f).filter (·.property.name = p.name) =
      ((i.properties.filter keep).filter (·.name = p.name)).flatMap f :=
    filter_flatMap_of_forall fun q _ x hx => by rw [hf q x hx]
  rw [whole, List.filter_comm, Introspection.filter_name hp, List.filter_singleton]
  cases keep p with
  | true => exact List.flatMap_singleton ..
  | false => rfl

theorem filter_looks (hp : p ∈ i.properties) :
    (v.looks heap root i b path).filter (·.property.name = p.name) =
      v.looksAt heap root i b path p := by
  rw [looks, List.filter_append, Introspection.errands, List.flatMap_map]
  refine congrArg₂ (· ++ ·) ?_ ?_
  · refine filter_flatMap_properties _ hp fun q x hx => ?_
    obtain ⟨u, -, rfl⟩ := List.mem_map.1 hx
    rfl
  · exact filter_flatMap_properties _ hp fun q x hx => mem_targetLooks hx

/-! ## The looks of errands -/

theorem flatMap_approaches (i : Introspection) (p : Property) (w : Value) :
    (v.approaches heap p w).flatMap (v.errandLooks heap root i b path) =
      v.targetLooks heap root b path p w := by
  rw [approaches, List.flatMap_map]
  rfl

theorem targetLook_of_some (hu : v.toEnter? u = some (t, j)) :
    v.targetLook root b path p element? u = [] :=
  if_neg fun h => by rw [hu] at h; cases h.1

theorem targetLook_of_skips (known : ∀ x ∈ visited, (v.introspection? x.type).isSome)
    (skipped : Skips true visited u) : v.targetLook root b path p element? u = [] :=
  if_neg fun h => fresh_of_none known h.1 skipped

/-! ## Entering once -/

theorem Tour.grows (h : v.Tour heap true root b path errands visited stages (some visited')) :
    visited ⊆ visited' := by
  generalize hleft : some visited' = left? at h
  induction h generalizing visited' with
  | done =>
    cases hleft
    exact List.Subset.refl _
  | halt | within => cases hleft
  | read _ _ _ ih | skip _ _ ih | veto _ _ _ ih | look _ _ _ _ ih => exact ih hleft
  | mark _ _ _ _ _ ih => exact fun x hx => ih hleft (List.mem_insert_of_mem hx)
  | enter _ _ _ _ _ _ ih ih' => exact fun x hx => ih' hleft (ih rfl (List.mem_insert_of_mem hx))

theorem not_mem_of_fresh (fresh : ¬ Skips true visited u) (hu : v.toEnter? u = some (t, j)) :
    t ∉ visited :=
  fun ht => fresh ⟨rfl, t, (toEnter?_eq_some.1 hu).1, ht⟩

/-- What a tour enters is not visited at its start, and is at its end. -/
theorem Tour.entered (h : v.Tour heap true root b path errands visited stages (some visited'))
    (ht : (t, path') ∈ Stage.entries stages) : t ∉ visited ∧ t ∈ visited' := by
  generalize hleft : some visited' = left? at h
  induction h generalizing visited' with
  | done | halt => cases ht
  | within => cases hleft
  | read _ _ _ ih | skip _ _ ih | veto _ _ _ ih | look _ _ _ _ ih => exact ih ht hleft
  | mark _ _ _ _ _ ih =>
    obtain ⟨hfresh, hmem⟩ := ih ht hleft
    exact ⟨fun hvisited => hfresh (List.mem_insert_of_mem hvisited), hmem⟩
  | @enter b path p element? u t' j rest visited stages middle stages' left? fresh _ hu _ h h' ih
      ih' =>
    have first : visited.insert t' ⊆ middle := h.grows
    subst hleft
    rw [Stage.entries_append, Stage.entries_append, entries_arrival, List.append_assoc,
      List.singleton_append, List.mem_cons, List.mem_append] at ht
    obtain ht | ht | ht := ht
    · obtain ⟨rfl, -⟩ := Prod.mk.inj ht
      exact ⟨not_mem_of_fresh fresh hu, h'.grows (first List.mem_insert_self)⟩
    · obtain ⟨hfresh, hmem⟩ := ih ht rfl
      exact ⟨fun hvisited => hfresh (List.mem_insert_of_mem hvisited), h'.grows hmem⟩
    · obtain ⟨hfresh, hmem⟩ := ih' ht rfl
      exact ⟨fun hvisited => hfresh (first (List.mem_insert_of_mem hvisited)), hmem⟩

/-! ## The inspections of one bean -/

theorem inspectionsOf_arrival_self (i : Introspection) (b : Bean) (path : Path) :
    Stage.inspectionsOf b (v.arrival heap i b path) = v.ownInspections heap i b path := by
  rw [Stage.inspectionsOf, inspections_arrival, List.filter_eq_self]
  intro x hx
  obtain ⟨p, -, u, -, rfl⟩ := mem_ownInspections.1 hx
  exact decide_eq_true rfl

theorem inspectionsOf_arrival_of_ne (i : Introspection) (path : Path) (h : t ≠ b) :
    Stage.inspectionsOf b (v.arrival heap i t path) = [] := by
  rw [Stage.inspectionsOf, inspections_arrival, List.filter_eq_nil_iff]
  intro x hx
  obtain ⟨p, -, u, -, rfl⟩ := mem_ownInspections.1 hx
  rwa [decide_eq_true_eq]

/-- Of a bean that is neither at hand nor entered, nothing is inspected. -/
theorem Tour.inspectionsOf_eq_nil
    (h : v.Tour heap true root b path errands visited stages left?)
    (hi : v.introspection? b.type = some i) (due : ∀ e ∈ errands, v.Due heap i b e) (hne : t ≠ b)
    (ht : ∀ path', (t, path') ∉ Stage.entries stages) : Stage.inspectionsOf t stages = [] := by
  refine List.filter_eq_nil_iff.2 fun x hx => ?_
  rw [decide_eq_true_eq]
  rintro rfl
  obtain ⟨p, element?, u, -, -, rfl⟩ | ⟨t, j, path', ht', -, hinspected⟩ := h.inspected hi due hx
  · exact hne rfl
  · rw [hinspected.leaf_and_parent?.1] at ht
    exact ht path' ht'

/-- A bean that is visited before a tour is not looked at on the tour, unless it is at hand. -/
theorem Tour.inspectionsOf_of_visited
    (h : v.Tour heap true root b path errands visited stages (some visited'))
    (hi : v.introspection? b.type = some i) (due : ∀ e ∈ errands, v.Due heap i b e) (hne : t ≠ b)
    (ht : t ∈ visited) : Stage.inspectionsOf t stages = [] :=
  h.inspectionsOf_eq_nil hi due hne fun _ hentered => (h.entered hentered).1 ht

/-- Of the bean at hand the targets are inspected, in order. -/
theorem Tour.inspectionsOf_self
    (h : v.Tour heap true root b path errands visited stages (some visited'))
    (hi : v.introspection? b.type = some i) (due : ∀ e ∈ errands, v.Due heap i b e)
    (known : ∀ x ∈ visited, (v.introspection? x.type).isSome) (hb : b ∈ visited) :
    Stage.inspectionsOf b stages = errands.flatMap (v.errandLooks heap root i b path) := by
  generalize hleft : some visited' = left? at h
  induction h generalizing i visited' with
  | done => rfl
  | halt | within => cases hleft
  | read hj hp _ ih =>
    obtain rfl := Option.some.inj (hi.symm.trans hj)
    have hrest := (List.forall_mem_cons.1 due).2
    rw [ih hi (List.forall_mem_append.2 ⟨due_approach hp, hrest⟩) known hb hleft,
      List.flatMap_append, flatMap_approaches, List.flatMap_cons]
    rfl
  | skip skipped _ ih =>
    rw [ih hi (List.forall_mem_cons.1 due).2 known hb hleft, List.flatMap_cons, errandLooks,
      targetLook_of_skips known skipped, List.nil_append]
  | veto _ vetoed _ ih =>
    rw [ih hi (List.forall_mem_cons.1 due).2 known hb hleft, List.flatMap_cons, errandLooks,
      targetLook, if_neg fun h => vetoed h.2, List.nil_append]
  | look _ admitted hu _ ih =>
    rw [List.flatMap_cons, errandLooks, targetLook, if_pos ⟨hu, admitted⟩,
      ← ih hi (List.forall_mem_cons.1 due).2 known hb hleft]
    exact List.filter_cons_of_pos (decide_eq_true rfl)
  | mark _ _ hu _ _ ih =>
    rw [ih hi (List.forall_mem_cons.1 due).2 (known_insert known hu) (List.mem_insert_of_mem hb)
      hleft, List.flatMap_cons, errandLooks, targetLook_of_some hu, List.nil_append]
  | @enter b _ _ _ _ t _ _ visited _ _ _ _ fresh _ hu _ h _ _ ih' =>
    have ht := (toEnter?_eq_some.1 hu).2
    have hne := ne_of_mem_of_not_mem hb (not_mem_of_fresh fresh hu)
    have hb' : b ∈ visited.insert t := List.mem_insert_of_mem hb
    have known' := (h.thorough ht (known_insert known hu)).known (known_insert known hu)
    rw [Stage.inspectionsOf_append, Stage.inspectionsOf_append,
      inspectionsOf_arrival_of_ne _ _ hne.symm, h.inspectionsOf_of_visited ht due_read hne hb',
      ih' hi (List.forall_mem_cons.1 due).2 known' (h.grows hb') hleft, List.flatMap_cons,
      errandLooks, targetLook_of_some hu]
    rfl

/-- A bean that is entered is looked at there, and nowhere else. -/
theorem Tour.inspectionsOf_entered
    (h : v.Tour heap true root b path errands visited stages (some visited'))
    (hi : v.introspection? b.type = some i) (due : ∀ e ∈ errands, v.Due heap i b e)
    (known : ∀ x ∈ visited, (v.introspection? x.type).isSome) (hb : b ∈ visited)
    (ht : (t, path') ∈ Stage.entries stages) (hj : v.introspection? t.type = some j) :
    Stage.inspectionsOf t stages = v.looks heap root j t path' := by
  generalize hleft : some visited' = left? at h
  induction h generalizing i visited' with
  | done | halt => cases ht
  | within => cases hleft
  | read hk hp _ ih =>
    obtain rfl := Option.some.inj (hi.symm.trans hk)
    have hrest := (List.forall_mem_cons.1 due).2
    exact ih hi (List.forall_mem_append.2 ⟨due_approach hp, hrest⟩) known hb ht hleft
  | skip _ _ ih | veto _ _ _ ih => exact ih hi (List.forall_mem_cons.1 due).2 known hb ht hleft
  | @look b _ _ _ _ _ _ _ _ _ _ _ h ih =>
    subst hleft
    have hne := ne_of_mem_of_not_mem hb (h.entered ht).1
    rw [← ih hi (List.forall_mem_cons.1 due).2 known hb ht rfl]
    exact List.filter_cons_of_neg (by rwa [decide_eq_true_eq])
  | mark _ _ hu _ _ ih =>
    exact ih hi (List.forall_mem_cons.1 due).2 (known_insert known hu) (List.mem_insert_of_mem hb)
      ht hleft
  | @enter b path p element? u s k rest visited stages middle stages' left? fresh _ hu _ h h' ih
      ih' =>
    subst hleft
    have hk := (toEnter?_eq_some.1 hu).2
    have hrest := (List.forall_mem_cons.1 due).2
    have known' := known_insert known hu
    have hb' : b ∈ visited.insert s := List.mem_insert_of_mem hb
    have hs : s ∈ visited.insert s := List.mem_insert_self
    have hne := ne_of_mem_of_not_mem hb (not_mem_of_fresh fresh hu)
    rw [Stage.inspectionsOf_append, Stage.inspectionsOf_append]
    rw [Stage.entries_append, Stage.entries_append, entries_arrival, List.append_assoc,
      List.singleton_append, List.mem_cons, List.mem_append] at ht
    obtain ht | ht | ht := ht
    · -- the bean is the one that is entered here
      obtain ⟨rfl, rfl⟩ := Prod.mk.inj ht
      obtain rfl := Option.some.inj (hj.symm.trans hk)
      rw [inspectionsOf_arrival_self, h.inspectionsOf_self hj due_read known' hs,
        h'.inspectionsOf_of_visited hi hrest hne.symm (h.grows hs), List.append_nil]
      rfl
    · have hfresh := (h.entered ht).1
      have hts := ne_of_mem_of_not_mem hs hfresh
      have htb := ne_of_mem_of_not_mem hb' hfresh
      rw [inspectionsOf_arrival_of_ne _ _ hts, ih hk due_read known' hs ht rfl,
        h'.inspectionsOf_of_visited hi hrest htb.symm (h.entered ht).2, List.append_nil]
      rfl
    · have hfresh := (h'.entered ht).1
      have hts := ne_of_mem_of_not_mem (h.grows hs) hfresh
      have below : Stage.inspectionsOf t stages = [] :=
        h.inspectionsOf_eq_nil hk due_read hts.symm fun _ hentered => hfresh (h.entered hentered).2
      rw [inspectionsOf_arrival_of_ne _ _ hts, below,
        ih' hi hrest ((h.thorough hk known').known known') (h.grows hb') ht rfl]
      rfl

/-- What a validation that goes well inspects of a bean that it enters. -/
theorem Journey.inspectionsOf (hi : v.introspection? root.type = some i)
    (h : v.Journey heap true root i root .root [root] stages (some visited))
    (ht : (t, path) ∈ Stage.entries stages) (hj : v.introspection? t.type = some j) :
    Stage.inspectionsOf t stages = v.looks heap root j t path := by
  obtain ⟨below, rfl, htour⟩ := h
  have known : ∀ x ∈ [root], (v.introspection? x.type).isSome := by
    intro x hx
    rw [List.mem_singleton.1 hx, hi]
    rfl
  have hroot : root ∈ [root] := List.mem_singleton_self root
  rw [Stage.inspectionsOf_append]
  rw [Stage.entries_append, entries_arrival, List.mem_append, List.mem_singleton] at ht
  obtain ht | ht := ht
  · obtain ⟨rfl, rfl⟩ := Prod.mk.inj ht
    obtain rfl := Option.some.inj (hi.symm.trans hj)
    rw [inspectionsOf_arrival_self, htour.inspectionsOf_self hi due_read known hroot]
    rfl
  · have hne := ne_of_mem_of_not_mem hroot (htour.entered ht).1
    rw [inspectionsOf_arrival_of_ne _ _ hne,
      htour.inspectionsOf_entered hi due_read known hroot ht hj, List.nil_append]

/-- What a validation that goes well inspects of a property of a bean that it enters. -/
theorem Journey.inspectionsAt (hi : v.introspection? root.type = some i)
    (h : v.Journey heap true root i root .root [root] stages (some visited))
    (ht : (t, path) ∈ Stage.entries stages) (hj : v.introspection? t.type = some j)
    (hp : p ∈ j.properties) :
    (Stage.inspectionsOf t stages).filter (·.property.name = p.name) =
      v.looksAt heap root j t path p := by
  rw [h.inspectionsOf hi ht hj, filter_looks hp]

end Looks

end Validator

end BeanGraph
