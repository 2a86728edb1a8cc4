import BeanGraph.Proofs.Lockstep

/-!
# What a tour leaves out

A tour with the guard that is not broken off leaves out what the resolver vetoes, and nothing else.
It enters the beans that it visits, unless there is nothing to validate in them.  Of a bean that it
enters it inspects all values, and it deals with each target that the resolver admits: by the end
the target is visited, or inspected if there is nothing to enter in it.

* `Tour.thorough`: a tour deals with its errands and with the beans that it enters;
* `Journey.met`, `Journey.exhausted`: the same for a tour from the root.
-/

namespace BeanGraph

namespace Validator

section Thorough

variable (v : Validator) (heap : Heap) (root : Bean)

/-! ## Dealing with targets -/

/-- A bean with an introspection is among those entered, unless there is nothing to validate in
it. -/
def Met (stages : List Stage) (t : Bean) : Prop :=
  ∃ j, v.introspection? t.type = some j ∧
    (j.isUnconstrained = false → ∃ path, (t, path) ∈ Stage.entries stages)

/-- A target of a bean at a path is dealt with: it is visited if there is something to enter in it,
and inspected otherwise. -/
def Attended (b : Bean) (path : Path) (visited : List Bean) (stages : List Stage) (p : Property)
    (element? : Option Element) (u : Value) : Prop :=
  (∀ t j, v.toEnter? u = some (t, j) → t ∈ visited) ∧
    (v.toEnter? u = none → ⟨b, p, path.below p element?, u⟩ ∈ Stage.inspections stages)

/-- An errand is done: the targets that it is about are dealt with, if the resolver admits them. -/
def Done (i : Introspection) (b : Bean) (path : Path) (visited : List Bean)
    (stages : List Stage) : Errand → Prop
  | .approach p element? u => v.Admits root (path.below p element?) u element? →
    v.Attended b path visited stages p element? u
  | .read p => ∀ element? u, (element?, u) ∈ v.held heap (i.get p heap b) →
    v.Admits root (path.below p element?) u element? →
    v.Attended b path visited stages p element? u

/-- The values of a bean at a path are inspected, and its errands are done. -/
structure Exhausted (i : Introspection) (b : Bean) (path : Path) (visited : List Bean)
    (stages : List Stage) : Prop where
  own : v.ownInspections heap i b path ⊆ Stage.inspections stages
  done : ∀ errand ∈ i.errands, v.Done heap root i b path visited stages errand

/-- By the end of a tour its errands are done, the beans that are visited then and were not at the
start have been met, and those entered are exhausted. -/
structure Thorough (i : Introspection) (b : Bean) (path : Path) (errands : List Errand)
    (visited : List Bean) (stages : List Stage) (visited' : List Bean) : Prop where
  grows : visited ⊆ visited'
  met : ∀ t ∈ visited', t ∈ visited ∨ v.Met stages t
  done : ∀ errand ∈ errands, v.Done heap root i b path visited' stages errand
  exhausted : ∀ t path' j, (t, path') ∈ Stage.entries stages → v.introspection? t.type = some j →
    v.Exhausted heap root j t path' visited' stages

variable {v heap root}
variable {b t : Bean} {i j : Introspection} {path : Path} {errands : List Errand} {p : Property}
  {element? : Option Element} {u : Value} {visited visited' visited'' : List Bean}
  {stages stages' : List Stage} {left? : Option (List Bean)}

theorem Met.mono (h : v.Met stages t) (hentries : Stage.entries stages ⊆ Stage.entries stages') :
    v.Met stages' t := by
  obtain ⟨j, hj, hentered⟩ := h
  exact ⟨j, hj, fun hconstrained => (hentered hconstrained).imp fun _ h => hentries h⟩

theorem Attended.mono (h : v.Attended b path visited stages p element? u)
    (hvisited : visited ⊆ visited')
    (hstages : Stage.inspections stages ⊆ Stage.inspections stages') :
    v.Attended b path visited' stages' p element? u :=
  ⟨fun t j hu => hvisited (h.1 t j hu), fun hu => hstages (h.2 hu)⟩

theorem Done.mono {errand : Errand} (h : v.Done heap root i b path visited stages errand)
    (hvisited : visited ⊆ visited')
    (hstages : Stage.inspections stages ⊆ Stage.inspections stages') :
    v.Done heap root i b path visited' stages' errand := by
  cases errand with
  | approach p element? u => exact fun admitted => (h admitted).mono hvisited hstages
  | read p => exact fun element? u hu admitted => (h element? u hu admitted).mono hvisited hstages

theorem Exhausted.mono (h : v.Exhausted heap root i b path visited stages)
    (hvisited : visited ⊆ visited')
    (hstages : Stage.inspections stages ⊆ Stage.inspections stages') :
    v.Exhausted heap root i b path visited' stages' where
  own := List.Subset.trans h.own hstages
  done errand herrand := (h.done errand herrand).mono hvisited hstages

theorem Exhausted.attended (h : v.Exhausted heap root i b path visited stages)
    (due : v.Due heap i b (.approach p element? u))
    (admitted : v.Admits root (path.below p element?) u element?) :
    v.Attended b path visited stages p element? u :=
  h.done (.read p) (List.mem_map_of_mem due.1) element? u due.2 admitted

theorem attended_of_mem (hu : v.toEnter? u = some (t, j)) (ht : t ∈ visited) :
    v.Attended b path visited stages p element? u := by
  constructor
  · intro t' j' ht'
    rw [hu] at ht'
    cases ht'
    exact ht
  · intro hnone
    rw [hu] at hnone
    cases hnone

/-! ## Tours are thorough -/

theorem thorough_done : v.Thorough heap root i b path [] visited [] visited :=
  ⟨List.Subset.refl _, fun _ => .inl, nofun, nofun⟩

theorem Thorough.read
    (h : v.Thorough heap root i b path (v.approaches heap p (i.get p heap b) ++ errands) visited
      stages visited') :
    v.Thorough heap root i b path (.read p :: errands) visited stages visited' where
  grows := h.grows
  met := h.met
  done := by
    obtain ⟨hheld, hrest⟩ := List.forall_mem_append.1 h.done
    refine List.forall_mem_cons.2 ⟨fun element? u hu => ?_, hrest⟩
    exact hheld (.approach p element? u) (List.mem_map.2 ⟨_, hu, rfl⟩)
  exhausted := h.exhausted

/-- A bean that is passed over is visited. -/
theorem Thorough.skip (known : ∀ x ∈ visited, (v.introspection? x.type).isSome)
    (skipped : Skips true visited u)
    (h : v.Thorough heap root i b path errands visited stages visited') :
    v.Thorough heap root i b path (.approach p element? u :: errands) visited stages visited' where
  grows := h.grows
  met := h.met
  done := by
    refine List.forall_mem_cons.2 ⟨fun _ => ?_, h.done⟩
    cases hu : v.toEnter? u with
    | none => exact absurd skipped (fresh_of_none known hu)
    | some entry =>
      obtain ⟨t, j⟩ := entry
      obtain ⟨-, t', ht', hmem⟩ := skipped
      obtain rfl := Value.bean.inj (ht'.symm.trans (toEnter?_eq_some.1 hu).1)
      exact attended_of_mem hu (h.grows hmem)
  exhausted := h.exhausted

theorem Thorough.veto (vetoed : ¬ v.Admits root (path.below p element?) u element?)
    (h : v.Thorough heap root i b path errands visited stages visited') :
    v.Thorough heap root i b path (.approach p element? u :: errands) visited stages visited' :=
  ⟨h.grows, h.met, List.forall_mem_cons.2 ⟨fun admitted => absurd admitted vetoed, h.done⟩,
    h.exhausted⟩

theorem Thorough.look (hu : v.toEnter? u = none)
    (h : v.Thorough heap root i b path errands visited stages visited') :
    v.Thorough heap root i b path (.approach p element? u :: errands) visited
      (.inspection ⟨b, p, path.below p element?, u⟩ :: stages) visited' where
  grows := h.grows
  met := h.met
  done := by
    refine List.forall_mem_cons.2 ⟨fun _ => ⟨fun t j ht => ?_, fun _ => List.mem_cons_self⟩, ?_⟩
    · rw [hu] at ht
      cases ht
    · exact fun errand herrand => (h.done errand herrand).mono (List.Subset.refl _)
        (List.subset_cons_self _ _)
  exhausted t path' j ht hj :=
    (h.exhausted t path' j ht hj).mono (List.Subset.refl _) (List.subset_cons_self _ _)

theorem Thorough.mark (hu : v.toEnter? u = some (t, j)) (hj : j.isUnconstrained = true)
    (h : v.Thorough heap root i b path errands (visited.insert t) stages visited') :
    v.Thorough heap root i b path (.approach p element? u :: errands) visited stages visited' where
  grows _ hx := h.grows (List.mem_insert_of_mem hx)
  met x hx := by
    obtain hx | hx := h.met x hx
    · obtain rfl | hx := List.mem_insert_iff.1 hx
      · exact .inr ⟨j, (toEnter?_eq_some.1 hu).2, by rw [hj]; rintro ⟨⟩⟩
      · exact .inl hx
    · exact .inr hx
  done := List.forall_mem_cons.2
    ⟨fun _ => attended_of_mem hu (h.grows List.mem_insert_self), h.done⟩
  exhausted := h.exhausted

theorem Thorough.enter (hu : v.toEnter? u = some (t, j))
    (h : v.Thorough heap root j t (path.below p element?) j.errands (visited.insert t) stages
      visited')
    (h' : v.Thorough heap root i b path errands visited' stages' visited'') :
    v.Thorough heap root i b path (.approach p element? u :: errands) visited
      (v.arrival heap j t (path.below p element?) ++ stages ++ stages') visited'' := by
  have hj := (toEnter?_eq_some.1 hu).2
  have grows : visited.insert t ⊆ visited'' := List.Subset.trans h.grows h'.grows
  let all := v.arrival heap j t (path.below p element?) ++ stages ++ stages'
  have hown : v.ownInspections heap j t (path.below p element?) ⊆ Stage.inspections all :=
    fun x hx => by simp [all, hx]
  have hfirst : Stage.inspections stages ⊆ Stage.inspections all := fun x hx => by simp [all, hx]
  have hrest : Stage.inspections stages' ⊆ Stage.inspections all := fun x hx => by simp [all, hx]
  have hentries : Stage.entries all =
      (t, path.below p element?) :: (Stage.entries stages ++ Stage.entries stages') := by
    rw [Stage.entries_append, Stage.entries_append, entries_arrival]
    rfl
  refine ⟨fun x hx => grows (List.mem_insert_of_mem hx), fun x hx => ?_, ?_,
    fun x path' k hx hk => ?_⟩
  · obtain hx | hmet := h'.met x hx
    · obtain hx | hmet := h.met x hx
      · obtain rfl | hx := List.mem_insert_iff.1 hx
        · exact .inr ⟨j, hj, fun _ => ⟨_, by rw [hentries]; exact List.mem_cons_self⟩⟩
        · exact .inl hx
      · exact .inr (hmet.mono fun e he => by rw [hentries]; simp [he])
    · exact .inr (hmet.mono fun e he => by rw [hentries]; simp [he])
  · refine List.forall_mem_cons.2 ⟨fun _ => attended_of_mem hu (grows List.mem_insert_self), ?_⟩
    exact fun errand herrand => (h'.done errand herrand).mono (List.Subset.refl _) hrest
  · rw [hentries, List.mem_cons, List.mem_append] at hx
    obtain hx | hx | hx := hx
    · obtain ⟨rfl, rfl⟩ := Prod.mk.inj hx
      obtain rfl := Option.some.inj (hj.symm.trans hk)
      exact ⟨hown, fun errand herrand => (h.done errand herrand).mono h'.grows hfirst⟩
    · exact (h.exhausted x path' k hx hk).mono h'.grows hfirst
    · exact (h'.exhausted x path' k hx hk).mono (List.Subset.refl _) hrest

/-- Visited beans with an introspection are so after a bean is marked. -/
theorem known_insert (known : ∀ x ∈ visited, (v.introspection? x.type).isSome)
    (hu : v.toEnter? u = some (t, j)) :
    ∀ x ∈ visited.insert t, (v.introspection? x.type).isSome := by
  intro x hx
  obtain rfl | hx := List.mem_insert_iff.1 hx
  · rw [(toEnter?_eq_some.1 hu).2]
    rfl
  · exact known x hx

theorem Thorough.known (known : ∀ x ∈ visited, (v.introspection? x.type).isSome)
    (h : v.Thorough heap root i b path errands visited stages visited') :
    ∀ x ∈ visited', (v.introspection? x.type).isSome := by
  intro x hx
  obtain hx | ⟨j, hj, -⟩ := h.met x hx
  · exact known x hx
  · rw [hj]
    rfl

theorem Tour.thorough (h : v.Tour heap true root b path errands visited stages (some visited'))
    (hi : v.introspection? b.type = some i)
    (known : ∀ x ∈ visited, (v.introspection? x.type).isSome) :
    v.Thorough heap root i b path errands visited stages visited' := by
  generalize hleft : some visited' = left? at h
  induction h generalizing i visited' with
  | done =>
    cases hleft
    exact thorough_done
  | halt | within => cases hleft
  | read hj _ _ ih =>
    obtain rfl := Option.some.inj (hi.symm.trans hj)
    exact (ih hi known hleft).read
  | skip skipped _ ih => exact (ih hi known hleft).skip known skipped
  | veto _ vetoed _ ih => exact (ih hi known hleft).veto vetoed
  | look _ _ hu _ ih => exact (ih hi known hleft).look hu
  | mark _ _ hu hunconstrained _ ih =>
    exact (ih hi (known_insert known hu) hleft).mark hu hunconstrained
  | enter _ _ hu _ _ _ ih ih' =>
    have below := ih (toEnter?_eq_some.1 hu).2 (known_insert known hu) rfl
    exact .enter hu below (ih' hi (below.known (known_insert known hu)) hleft)

/-! ## Tours from the root -/

section Journey

variable (hi : v.introspection? root.type = some i)
  (h : v.Journey heap true root i root .root [root] stages (some visited))
include hi h

theorem Journey.thorough : ∃ stages', stages = v.arrival heap i root .root ++ stages' ∧
    v.Thorough heap root i root .root i.errands [root] stages' visited := by
  obtain ⟨stages', rfl, htour⟩ := h
  refine ⟨stages', rfl, htour.thorough hi fun x hx => ?_⟩
  rw [List.mem_singleton.1 hx, hi]
  rfl

theorem Journey.root_mem : root ∈ visited := by
  obtain ⟨_, -, hthorough⟩ := h.thorough hi
  exact hthorough.grows (List.mem_singleton_self root)

theorem Journey.met (ht : t ∈ visited) : v.Met stages t := by
  obtain ⟨stages', rfl, hthorough⟩ := h.thorough hi
  obtain ht | ht := hthorough.met t ht
  · obtain rfl := List.mem_singleton.1 ht
    exact ⟨i, hi, fun _ => ⟨.root, by simp⟩⟩
  · exact ht.mono fun e he => by simp [he]

theorem Journey.exhausted (ht : (t, path) ∈ Stage.entries stages)
    (hj : v.introspection? t.type = some j) : v.Exhausted heap root j t path visited stages := by
  obtain ⟨stages', rfl, hthorough⟩ := h.thorough hi
  have hsub : Stage.inspections stages' ⊆
      Stage.inspections (v.arrival heap i root .root ++ stages') := fun x hx => by simp [hx]
  rw [Stage.entries_append, entries_arrival, List.mem_append, List.mem_singleton] at ht
  obtain ht | ht := ht
  · obtain ⟨rfl, rfl⟩ := Prod.mk.inj ht
    obtain rfl := Option.some.inj (hi.symm.trans hj)
    refine ⟨fun x hx => by simp [hx], fun errand herrand => ?_⟩
    exact (hthorough.done errand herrand).mono (List.Subset.refl _) hsub
  · exact (hthorough.exhausted t path j ht hj).mono (List.Subset.refl _) hsub

end Journey

end Thorough

end Validator

end BeanGraph
