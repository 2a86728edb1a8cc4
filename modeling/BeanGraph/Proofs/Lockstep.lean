import BeanGraph.Proofs.Acyclic
import BeanGraph.Proofs.Reference

/-!
# Two tours in step

Without the guard a bean is entered once for every way that leads to it.  In a graph without cycles
the guard leaves out every entry but the first one, and nothing else: by the time a bean is met
again, all that it leads to has been gone through.

A tour without the guard and one with it go in step here.  A bean is `Finished` when all that is
kept of it has been found and all its targets are visited, and what carries the argument is that the
visited beans below the bean at hand are finished.

* `Tour.absorbed`: going through a finished bean again finds nothing new that is kept;
* `Tour.lockstep`: for a tour without the guard there is one with it that finds what is kept of it.
-/

namespace BeanGraph

namespace Validator

/-- Whether an inspection is made on the first entry into its leaf, of the entries in a list. -/
def Kept (entries : List (Bean × Path)) (x : Inspection) : Bool :=
  entries.lookup x.leaf = x.path.parent?

section Lockstep

variable (v : Validator) (heap : Heap) (root : Bean) (groups : List Group)
variable (entries : List (Bean × Path))

/-! ## Finished beans -/

/-- A set with what inspections find. -/
def noted (vs : ViolationSet) (xs : List Inspection) : ViolationSet :=
  vs.insertAll (v.recorded root groups xs)

/-- All that an inspection finds is in a set. -/
def Found (vs : ViolationSet) (x : Inspection) : Prop :=
  ∀ y ∈ (v.inspect root groups x).found, vs.contains y = true

/-- What is kept of a bean has been found, and the targets that it leads to are visited. -/
structure Finished (visited : List Bean) (vs : ViolationSet) (b : Bean) (i : Introspection) :
    Prop where
  known : v.introspection? b.type = some i
  visited : ∀ p element? u, v.Due heap i b (.approach p element? u) →
    ∀ t j, v.toEnter? u = some (t, j) → t ∈ visited
  found : ∀ path, entries.lookup b = some path →
    ∀ x, v.Inspected heap i b path x → v.Found root groups vs x

variable {v heap root groups entries}
variable {b t : Bean} {i : Introspection} {path : Path} {errands : List Errand} {p : Property}
  {element? : Option Element} {u : Value} {visited visited' : List Bean} {vs ws : ViolationSet}
  {stages stages' stages₀ stages₁ : List Stage} {left? : Option (List Bean)}

theorem Found.mono {x : Inspection} (h : v.Found root groups vs x)
    (hvs : ∀ y, vs.contains y = true → ws.contains y = true) : v.Found root groups ws x :=
  fun y hy => hvs y (h y hy)

theorem Finished.mono (h : v.Finished heap root groups entries visited vs b i)
    (hvisited : visited ⊆ visited') (hvs : ∀ y, vs.contains y = true → ws.contains y = true) :
    v.Finished heap root groups entries visited' ws b i where
  known := h.known
  visited p element? u due t j hu := hvisited (h.visited p element? u due t j hu)
  found path hpath x hx := (h.found path hpath x hx).mono hvs

theorem finished_of_unconstrained (hi : v.introspection? b.type = some i)
    (hunconstrained : i.isUnconstrained = true) :
    v.Finished heap root groups entries visited vs b i := by
  obtain ⟨hconstrained, hcascading⟩ := Bool.and_eq_true_iff.1 hunconstrained
  have noDue {p : Property} {element? : Option Element} {u : Value} :
      ¬ v.Due heap i b (.approach p element? u) := by
    rintro ⟨hp, -⟩
    rw [List.isEmpty_iff.1 hcascading] at hp
    cases hp
  refine ⟨hi, fun p element? u due => absurd due noDue, fun path _ x hx => ?_⟩
  obtain hx | ⟨p, element?, u, due, -⟩ := hx
  · obtain ⟨p, hp, -⟩ := mem_ownInspections.1 hx
    rw [List.isEmpty_iff.1 hconstrained] at hp
    cases hp
  · exact absurd due noDue

theorem contains_noted {y : Violation} {xs : List Inspection} (h : vs.contains y = true) :
    (v.noted root groups vs xs).contains y = true :=
  ViolationSet.contains_insertAll.2 (.inl h)

theorem found_noted {x : Inspection} {xs : List Inspection} (hx : x ∈ xs) :
    v.Found root groups (v.noted root groups vs xs) x := fun y hy =>
  ViolationSet.contains_insertAll.2 (.inr ⟨y, List.mem_flatMap.2 ⟨x, hx, hy⟩, BEq.rfl⟩)

theorem noted_of_found {xs : List Inspection} (h : ∀ x ∈ xs, v.Found root groups vs x) :
    v.noted root groups vs xs = vs := by
  refine ViolationSet.insertAll_of_contains fun y hy => ?_
  obtain ⟨x, hx, hy⟩ := List.mem_flatMap.1 hy
  exact h x hx y hy

theorem noted_append (vs : ViolationSet) (xs ys : List Inspection) :
    v.noted root groups vs (xs ++ ys) = v.noted root groups (v.noted root groups vs xs) ys := by
  rw [noted, recorded_append, ViolationSet.insertAll_append]
  rfl

theorem noted_cons (vs : ViolationSet) (x : Inspection) (xs : List Inspection) :
    v.noted root groups vs (x :: xs) = v.noted root groups (v.noted root groups vs [x]) xs :=
  noted_append vs [x] xs

theorem kept_of_inspected {x : Inspection} (hfirst : entries.lookup b = some path)
    (hx : v.Inspected heap i b path x) : Kept entries x = true := by
  obtain ⟨rfl, hparent⟩ := hx.leaf_and_parent?
  exact decide_eq_true (hfirst.trans hparent.symm)

theorem filter_kept_ownInspections (hfirst : entries.lookup b = some path) :
    (v.ownInspections heap i b path).filter (Kept entries) = v.ownInspections heap i b path :=
  List.filter_eq_self.2 fun _ hx => kept_of_inspected hfirst (.inl hx)

theorem inspections_visit (stages stages' : List Stage) :
    Stage.inspections (v.arrival heap i b path ++ stages ++ stages') =
      v.ownInspections heap i b path ++ Stage.inspections stages ++ Stage.inspections stages' := by
  rw [Stage.inspections_append, Stage.inspections_append, inspections_arrival]

/-! ## Going through finished beans -/

/-- Finished beans, and with them all that they lead to. -/
structure Closed (v : Validator) (heap : Heap) (root : Bean) (groups : List Group)
    (entries : List (Bean × Path)) (visited : List Bean) (vs : ViolationSet) (beans : Bean → Prop) :
    Prop where
  finished : ∀ b, beans b → ∃ i, v.Finished heap root groups entries visited vs b i
  below : ∀ b t, beans b → v.Below heap b t → beans t

/-- Entering a finished bean again finds nothing new that is kept, and enters finished beans
only. -/
theorem Tour.absorbed {guarded : Bool} {beans : Bean → Prop} {marked : List Bean}
    (h : v.Tour heap guarded root b path i.errands marked stages left?)
    (closed : Closed v heap root groups entries visited vs beans)
    (hi : v.introspection? b.type = some i) (hb : beans b) :
    (∀ x ∈ Stage.inspections (v.arrival heap i b path ++ stages), Kept entries x = true →
      v.Found root groups vs x) ∧
    ∀ e ∈ Stage.entries (v.arrival heap i b path ++ stages), beans e.1 := by
  have next : ∀ b path i t path', v.introspection? b.type = some i → beans b →
      v.Enters heap i b path t path' → beans t := by
    rintro b path i t path' hi hb ⟨p, element?, u, j, due, hu, -⟩
    exact closed.below b t hb (below_of_due hi due hu)
  have entered : ∀ e ∈ Stage.entries (v.arrival heap i b path ++ stages), beans e.1 := by
    rintro ⟨t, path'⟩ ht
    refine of_mem_entries_arrival (I := fun t _ => beans t) hb (fun ht => ?_) ht
    exact h.of_mem_entries (I := fun t _ => beans t) hi due_read
      (fun t path' => next b path i t path' hi hb) next ht
  refine ⟨fun x hx hkept => ?_, entered⟩
  obtain ⟨t, j, path', ht, hj, hinspected⟩ :=
    inspected_of_arrival hi (fun hx => h.inspected hi due_read hx) hx
  obtain ⟨j', finished⟩ := closed.finished t (entered _ ht)
  obtain rfl := Option.some.inj (hj.symm.trans finished.known)
  obtain ⟨rfl, hparent⟩ := hinspected.leaf_and_parent?
  have hfirst : entries.lookup x.leaf = x.path.parent? := of_decide_eq_true hkept
  exact finished.found path' (hfirst.trans hparent) x hinspected

/-! ## Two tours in step -/

variable (v heap root groups entries)

/-- A target of a bean at a path is dealt with: it is visited if there is something to enter in it,
and what its inspection finds is in a set otherwise. -/
def ServedTarget (b : Bean) (path : Path) (visited : List Bean) (vs : ViolationSet) (p : Property)
    (element? : Option Element) (u : Value) : Prop :=
  (∀ t j, v.toEnter? u = some (t, j) → t ∈ visited) ∧
    (v.toEnter? u = none → v.Found root groups vs ⟨b, p, path.below p element?, u⟩)

/-- An errand is done: the targets that it is about are dealt with. -/
def Served (i : Introspection) (b : Bean) (path : Path) (visited : List Bean) (vs : ViolationSet) :
    Errand → Prop
  | .approach p element? u => v.ServedTarget root groups b path visited vs p element? u
  | .read p => ∀ element? u, (element?, u) ∈ v.held heap (i.get p heap b) →
    v.ServedTarget root groups b path visited vs p element? u

/-- Where two tours are in step: of the beans visited with the guard, those below the bean at hand
are finished. -/
structure InStep (b : Bean) (seen : List (Bean × Path)) (visited : List Bean) (vs : ViolationSet) :
    Prop where
  known : ∀ x ∈ visited, (v.introspection? x.type).isSome
  entered : ∀ e ∈ seen, e.1 ∈ visited
  finished : ∀ x ∈ visited, Relation.TransGen (v.Below heap) b x →
    ∃ i, v.Finished heap root groups entries visited vs x i

/-- A tour with the guard finds what is kept of a tour without it, and finishes what it visits. -/
structure Follows (i : Introspection) (b : Bean) (path : Path) (errands : List Errand)
    (visited : List Bean) (vs : ViolationSet) (stages₀ stages : List Stage) (visited' : List Bean) :
    Prop where
  tour : v.Tour heap true root b path errands visited stages (some visited')
  found : v.noted root groups vs (Stage.inspections stages) =
    v.noted root groups vs ((Stage.inspections stages₀).filter (Kept entries))
  grows : visited ⊆ visited'
  entered : ∀ e ∈ Stage.entries stages₀, e.1 ∈ visited'
  finished : ∀ x ∈ visited', x ∈ visited ∨ ∃ i, v.Finished heap root groups entries visited'
    (v.noted root groups vs (Stage.inspections stages)) x i
  served : ∀ errand ∈ errands, v.Served heap root groups i b path visited'
    (v.noted root groups vs (Stage.inspections stages)) errand

variable {v heap root groups entries}

theorem servedTarget_of_mem {j : Introspection} (hu : v.toEnter? u = some (t, j))
    (ht : t ∈ visited) : v.ServedTarget root groups b path visited vs p element? u := by
  constructor
  · intro t' j' ht'
    rw [hu] at ht'
    cases ht'
    exact ht
  · intro hnone
    rw [hu] at hnone
    cases hnone

theorem follows_done :
    v.Follows heap root groups entries i b path [] visited vs [] [] visited :=
  ⟨.done, rfl, List.Subset.refl _, nofun, fun _ => .inl, nofun⟩

theorem Follows.read (hi : v.introspection? b.type = some i) (hp : p ∈ i.cascading)
    (h : v.Follows heap root groups entries i b path
      (v.approaches heap p (i.get p heap b) ++ errands) visited vs stages₀ stages visited') :
    v.Follows heap root groups entries i b path (.read p :: errands) visited vs stages₀ stages
      visited' where
  tour := .read hi hp h.tour
  found := h.found
  grows := h.grows
  entered := h.entered
  finished := h.finished
  served := by
    obtain ⟨hheld, hrest⟩ := List.forall_mem_append.1 h.served
    refine List.forall_mem_cons.2 ⟨fun element? u hu => ?_, hrest⟩
    exact hheld (.approach p element? u) (List.mem_map.2 ⟨_, hu, rfl⟩)

theorem Follows.look (fresh : ¬ Skips true visited u)
    (admitted : v.Admits root (path.below p element?) u element?) (hu : v.toEnter? u = none)
    (hkept : Kept entries ⟨b, p, path.below p element?, u⟩ = true)
    (h : v.Follows heap root groups entries i b path errands visited
      (v.noted root groups vs [⟨b, p, path.below p element?, u⟩]) stages₀ stages visited') :
    v.Follows heap root groups entries i b path (.approach p element? u :: errands) visited vs
      (.inspection ⟨b, p, path.below p element?, u⟩ :: stages₀)
      (.inspection ⟨b, p, path.below p element?, u⟩ :: stages) visited' := by
  refine ⟨.look fresh admitted hu h.tour, ?_, h.grows, h.entered, ?_, ?_⟩
  · rw [Stage.inspections_inspection_cons, Stage.inspections_inspection_cons,
      List.filter_cons_of_pos hkept, noted_cons vs _ (Stage.inspections stages),
      noted_cons vs _ ((Stage.inspections stages₀).filter _)]
    exact h.found
  · rw [Stage.inspections_inspection_cons, noted_cons]
    exact h.finished
  · rw [Stage.inspections_inspection_cons, noted_cons]
    refine List.forall_mem_cons.2 ⟨⟨fun t j ht => ?_, fun _ => ?_⟩, h.served⟩
    · rw [hu] at ht
      cases ht
    · exact (found_noted (List.mem_singleton_self _)).mono fun y => contains_noted

/-- A bean that is finished is passed over with the guard, and entered again without it. -/
theorem Follows.skip {j : Introspection} (hu : v.toEnter? u = some (t, j)) (ht : t ∈ visited)
    (found : ∀ x ∈ Stage.inspections stages₁, Kept entries x = true → v.Found root groups vs x)
    (entered : ∀ e ∈ Stage.entries stages₁, e.1 ∈ visited)
    (h : v.Follows heap root groups entries i b path errands visited vs stages₀ stages visited') :
    v.Follows heap root groups entries i b path (.approach p element? u :: errands) visited vs
      (stages₁ ++ stages₀) stages visited' := by
  have skipped : Skips true visited u := ⟨rfl, t, (toEnter?_eq_some.1 hu).1, ht⟩
  refine ⟨.skip skipped h.tour, ?_, h.grows, ?_, h.finished, ?_⟩
  · have nothing :
        v.noted root groups vs ((Stage.inspections stages₁).filter (Kept entries)) = vs :=
      noted_of_found fun x hx => found x (List.mem_filter.1 hx).1 (List.mem_filter.1 hx).2
    rw [Stage.inspections_append, List.filter_append, noted_append, nothing]
    exact h.found
  · rw [Stage.entries_append]
    exact List.forall_mem_append.2 ⟨fun e he => h.grows (entered e he), h.entered⟩
  · exact List.forall_mem_cons.2 ⟨servedTarget_of_mem hu (h.grows ht), h.served⟩

theorem Follows.mark {j : Introspection} (fresh : ¬ Skips true visited u)
    (admitted : v.Admits root (path.below p element?) u element?) (hu : v.toEnter? u = some (t, j))
    (hj : j.isUnconstrained = true)
    (h : v.Follows heap root groups entries i b path errands (visited.insert t) vs stages₀ stages
      visited') :
    v.Follows heap root groups entries i b path (.approach p element? u :: errands) visited vs
      stages₀ stages visited' := by
  refine ⟨.mark fresh admitted hu hj h.tour, h.found, fun x hx => h.grows ?_, h.entered,
    fun x hx => ?_, ?_⟩
  · exact List.mem_insert_of_mem hx
  · obtain hx | hx := h.finished x hx
    · obtain rfl | hx := List.mem_insert_iff.1 hx
      · exact .inr ⟨j, finished_of_unconstrained (toEnter?_eq_some.1 hu).2 hj⟩
      · exact .inl hx
    · exact .inr hx
  · exact List.forall_mem_cons.2 ⟨servedTarget_of_mem hu (h.grows List.mem_insert_self), h.served⟩

/-- A bean whose errands are done on its first entry is finished. -/
theorem Follows.finished_self (hi : v.introspection? b.type = some i)
    (hfirst : entries.lookup b = some path)
    (own : ∀ x ∈ v.ownInspections heap i b path, v.Found root groups vs x)
    (h : v.Follows heap root groups entries i b path i.errands visited vs stages₀ stages visited') :
    v.Finished heap root groups entries visited'
      (v.noted root groups vs (Stage.inspections stages)) b i := by
  have served {p : Property} {element? : Option Element} {u : Value}
      (due : v.Due heap i b (.approach p element? u)) :
      v.ServedTarget root groups b path visited'
        (v.noted root groups vs (Stage.inspections stages)) p element? u :=
    h.served (.read p) (List.mem_map_of_mem due.1) element? u due.2
  refine ⟨hi, fun p element? u due => (served due).1, fun path' hpath' x hx => ?_⟩
  obtain rfl := Option.some.inj (hfirst.symm.trans hpath')
  obtain hx | ⟨p, element?, u, due, hu, rfl⟩ := hx
  · exact (own x hx).mono fun y => contains_noted
  · exact (served due).2 hu

/-- A bean that has not been met before is entered on both tours. -/
theorem Follows.enter {j : Introspection} {visited'' : List Bean} {stages₂ : List Stage}
    (fresh : ¬ Skips true visited u)
    (admitted : v.Admits root (path.below p element?) u element?) (hu : v.toEnter? u = some (t, j))
    (hj : j.isUnconstrained = false) (hfirst : entries.lookup t = some (path.below p element?))
    (h : v.Follows heap root groups entries j t (path.below p element?) j.errands
      (visited.insert t)
      (v.noted root groups vs (v.ownInspections heap j t (path.below p element?)))
      stages₁ stages visited')
    (h' : v.Follows heap root groups entries i b path errands visited'
      (v.noted root groups
        (v.noted root groups vs (v.ownInspections heap j t (path.below p element?)))
        (Stage.inspections stages)) stages₂ stages' visited'') :
    v.Follows heap root groups entries i b path (.approach p element? u :: errands) visited vs
      (v.arrival heap j t (path.below p element?) ++ stages₁ ++ stages₂)
      (v.arrival heap j t (path.below p element?) ++ stages ++ stages') visited'' := by
  have finished_self := h.finished_self (toEnter?_eq_some.1 hu).2 hfirst fun x => found_noted
  have grows : visited.insert t ⊆ visited'' := List.Subset.trans h.grows h'.grows
  refine ⟨.enter fresh admitted hu hj h.tour h'.tour, ?_, fun x hx => ?_, ?_, fun x hx => ?_, ?_⟩
  · rw [inspections_visit, inspections_visit, List.filter_append, List.filter_append,
      filter_kept_ownInspections hfirst]
    simp only [noted_append]
    rw [h'.found, h.found]
  · exact grows (List.mem_insert_of_mem hx)
  · rw [Stage.entries_append, Stage.entries_append, entries_arrival]
    refine List.forall_mem_append.2 ⟨List.forall_mem_append.2 ⟨?_, ?_⟩, h'.entered⟩
    · exact List.forall_mem_singleton.2 (grows List.mem_insert_self)
    · exact fun e he => h'.grows (h.entered e he)
  · rw [inspections_visit, noted_append, noted_append]
    have later {x : Bean} {i : Introspection} {ws : ViolationSet}
        (hx : v.Finished heap root groups entries visited' ws x i) :
        v.Finished heap root groups entries visited''
          (v.noted root groups ws (Stage.inspections stages')) x i :=
      hx.mono h'.grows fun y => contains_noted
    obtain hx | hx := h'.finished x hx
    · obtain hx | ⟨i, hx⟩ := h.finished x hx
      · obtain rfl | hx := List.mem_insert_iff.1 hx
        · exact .inr ⟨j, later finished_self⟩
        · exact .inl hx
      · exact .inr ⟨i, later hx⟩
    · exact .inr hx
  · rw [inspections_visit, noted_append, noted_append]
    exact List.forall_mem_cons.2 ⟨servedTarget_of_mem hu (grows List.mem_insert_self), h'.served⟩

/-! ## Keeping in step -/

/-- At the root, with nothing else visited, tours are in step. -/
theorem InStep.start (hi : v.introspection? root.type = some i)
    (acyclic : ¬ Relation.TransGen (v.Below heap) root root) (path : Path) (vs : ViolationSet) :
    v.InStep heap root groups entries root [(root, path)] [root] vs where
  known x hx := by
    rw [List.mem_singleton.1 hx, hi]
    rfl
  entered := List.forall_mem_singleton.2 (List.mem_singleton_self _)
  finished x hx hbelow := by
    rw [List.mem_singleton.1 hx] at hbelow
    exact absurd hbelow acyclic

theorem InStep.mono {seen : List (Bean × Path)}
    (h : v.InStep heap root groups entries b seen visited vs)
    (hvs : ∀ y, vs.contains y = true → ws.contains y = true) :
    v.InStep heap root groups entries b seen visited ws where
  known := h.known
  entered := h.entered
  finished x hx hbelow := by
    obtain ⟨i, hfinished⟩ := h.finished x hx hbelow
    exact ⟨i, hfinished.mono (List.Subset.refl _) hvs⟩

theorem InStep.again {seen seen' : List (Bean × Path)}
    (h : v.InStep heap root groups entries b seen visited vs) (hseen : ∀ e ∈ seen', e.1 ∈ visited) :
    v.InStep heap root groups entries b (seen ++ seen') visited vs :=
  ⟨h.known, List.forall_mem_append.2 ⟨h.entered, hseen⟩, h.finished⟩

theorem fresh_of_none (known : ∀ x ∈ visited, (v.introspection? x.type).isSome)
    (hu : v.toEnter? u = none) : ¬ Skips true visited u := by
  rintro ⟨-, t, rfl, ht⟩
  obtain ⟨j, hj⟩ := Option.isSome_iff_exists.1 (known t ht)
  rw [toEnter?_eq_some.2 ⟨rfl, hj⟩] at hu
  cases hu

theorem fresh_of_not_mem {j : Introspection} (hu : v.toEnter? u = some (t, j)) (ht : t ∉ visited) :
    ¬ Skips true visited u := by
  rintro ⟨-, t', rfl, ht'⟩
  obtain ⟨h, -⟩ := toEnter?_eq_some.1 hu
  cases h
  exact ht ht'

theorem InStep.closed (stable : v.Stable) {seen : List (Bean × Path)}
    (h : v.InStep heap root groups entries b seen visited vs) :
    Closed v heap root groups entries visited vs
      fun x => x ∈ visited ∧ Relation.TransGen (v.Below heap) b x where
  finished x hx := h.finished x hx.1 hx.2
  below x t hx ht := by
    obtain ⟨i, hfinished⟩ := h.finished x hx.1 hx.2
    obtain ⟨p, element?, j, due, ht'⟩ := due_of_below stable hfinished.known ht
    exact ⟨hfinished.visited p element? _ due t j ht', hx.2.tail ht⟩

theorem InStep.mark {seen : List (Bean × Path)} {j : Introspection}
    (h : v.InStep heap root groups entries b seen visited vs)
    (hj : v.introspection? t.type = some j) (hunconstrained : j.isUnconstrained = true) :
    v.InStep heap root groups entries b seen (visited.insert t) vs where
  known x hx := by
    obtain rfl | hx := List.mem_insert_iff.1 hx
    · rw [hj]
      rfl
    · exact h.known x hx
  entered e he := List.mem_insert_of_mem (h.entered e he)
  finished x hx hbelow := by
    obtain rfl | hx := List.mem_insert_iff.1 hx
    · exact ⟨j, finished_of_unconstrained hj hunconstrained⟩
    · obtain ⟨i, hfinished⟩ := h.finished x hx hbelow
      exact ⟨i, hfinished.mono (fun _ => List.mem_insert_of_mem) fun _ => id⟩

/-- A bean that is entered for the first time is in step, as it does not lead back to itself. -/
theorem InStep.enter {seen : List (Bean × Path)} {j : Introspection} {path : Path}
    (h : v.InStep heap root groups entries b seen visited vs)
    (hj : v.introspection? t.type = some j) (ht : v.Below heap b t)
    (acyclic : ¬ Relation.TransGen (v.Below heap) t t) (xs : List Inspection) :
    v.InStep heap root groups entries t (seen ++ [(t, path)]) (visited.insert t)
      (v.noted root groups vs xs) where
  known x hx := by
    obtain rfl | hx := List.mem_insert_iff.1 hx
    · rw [hj]
      rfl
    · exact h.known x hx
  entered := List.forall_mem_append.2 ⟨fun e he => List.mem_insert_of_mem (h.entered e he),
    List.forall_mem_singleton.2 List.mem_insert_self⟩
  finished x hx hbelow := by
    obtain rfl | hx := List.mem_insert_iff.1 hx
    · exact absurd hbelow acyclic
    · obtain ⟨i, hfinished⟩ := h.finished x hx (.head ht hbelow)
      exact ⟨i, hfinished.mono (fun _ => List.mem_insert_of_mem) fun _ => contains_noted⟩

/-- After a bean has been entered and its errands are done, the tours are in step again. -/
theorem InStep.entered_below {seen : List (Bean × Path)} {j : Introspection} {path : Path}
    (h : v.InStep heap root groups entries b seen visited vs)
    (hj : v.introspection? t.type = some j) (hfirst : entries.lookup t = some path)
    (hsub : v.Follows heap root groups entries j t path j.errands (visited.insert t)
      (v.noted root groups vs (v.ownInspections heap j t path)) stages₀ stages visited') :
    v.InStep heap root groups entries b
      (seen ++ Stage.entries (v.arrival heap j t path ++ stages₀)) visited'
      (v.noted root groups (v.noted root groups vs (v.ownInspections heap j t path))
        (Stage.inspections stages)) where
  known x hx := by
    obtain hx | ⟨i, hfinished⟩ := hsub.finished x hx
    · obtain rfl | hx := List.mem_insert_iff.1 hx
      · rw [hj]
        rfl
      · exact h.known x hx
    · rw [hfinished.known]
      rfl
  entered := by
    rw [Stage.entries_append, entries_arrival]
    refine List.forall_mem_append.2 ⟨fun e he => ?_, List.forall_mem_append.2 ⟨?_, hsub.entered⟩⟩
    · exact hsub.grows (List.mem_insert_of_mem (h.entered e he))
    · exact List.forall_mem_singleton.2 (hsub.grows List.mem_insert_self)
  finished x hx hbelow := by
    obtain hx | hfinished := hsub.finished x hx
    · obtain rfl | hx := List.mem_insert_iff.1 hx
      · exact ⟨j, hsub.finished_self hj hfirst fun x => found_noted⟩
      · obtain ⟨i, hfinished⟩ := h.finished x hx hbelow
        exact ⟨i, hfinished.mono (fun _ hy => hsub.grows (List.mem_insert_of_mem hy))
          fun _ hy => contains_noted (contains_noted hy)⟩
    · exact hfinished

theorem lookup_eq_of_next {seen rest : List (Bean × Path)}
    (hnext : seen ++ (t, path) :: rest <+: entries) (ht : ∀ e ∈ seen, e.1 ≠ t) :
    entries.lookup t = some path := by
  refine hnext.lookup_eq_some (List.lookup_eq_some_iff.2 ⟨seen, rest, rfl, fun e he => ?_⟩)
  exact bne_iff_ne.2 (ht e he).symm

/-- For a tour without the guard there is one with it that finds what is kept, as long as they are
in step. -/
theorem Tour.lockstep (all : v.PermitsAll) (stable : v.Stable) (acyclic : v.Acyclic heap root)
    {marked marked' : List Bean}
    (h : v.Tour heap false root b path errands marked stages₀ (some marked'))
    (hi : v.introspection? b.type = some i) (due : ∀ e ∈ errands, v.Due heap i b e)
    (hb : v.Reach heap root b) (hfirst : entries.lookup b = some path)
    {seen : List (Bean × Path)} (hnext : seen ++ Stage.entries stages₀ <+: entries)
    (instep : v.InStep heap root groups entries b seen visited vs) :
    ∃ stages visited',
      v.Follows heap root groups entries i b path errands visited vs stages₀ stages visited' := by
  generalize hleft : some marked' = left? at h
  -- on the unguarded tour; what the guarded one has visited grows apart from what it marks
  induction h generalizing i seen visited vs marked' with
  | done => exact ⟨_, _, follows_done⟩
  | halt | within => cases hleft
  | skip skipped => exact absurd skipped (not_skips_false _ _)
  | veto _ vetoed => exact absurd (all.admits _ _ _ _) vetoed
  | read hj hp _ ih =>
    obtain rfl := Option.some.inj (hi.symm.trans hj)
    obtain ⟨stages, visited', follows⟩ :=
      ih hi (List.forall_mem_append.2 ⟨due_approach hp, (List.forall_mem_cons.1 due).2⟩) hb hfirst
        hnext instep hleft
    exact ⟨_, _, follows.read hi hp⟩
  | @look b path p element? u _ _ _ _ _ admitted hu _ ih =>
    have hkept : Kept entries ⟨b, p, path.below p element?, u⟩ = true :=
      decide_eq_true (hfirst.trans (path.parent?_below p element?).symm)
    obtain ⟨stages, visited', follows⟩ := ih hi (List.forall_mem_cons.1 due).2 hb hfirst hnext
      (instep.mono fun _ => contains_noted) hleft
    exact ⟨_, _, follows.look (fresh_of_none instep.known hu) admitted hu hkept⟩
  | @mark _ _ _ _ _ t j _ _ _ _ _ admitted hu hunconstrained _ ih =>
    have hrest := (List.forall_mem_cons.1 due).2
    by_cases ht : t ∈ visited
    · obtain ⟨stages, visited', follows⟩ := ih hi hrest hb hfirst hnext instep hleft
      have nothing : ∀ x ∈ Stage.inspections [], Kept entries x = true → v.Found root groups vs x :=
        nofun
      exact ⟨_, _, follows.skip hu ht nothing nofun⟩
    · obtain ⟨stages, visited', follows⟩ := ih hi hrest hb hfirst hnext
        (instep.mark (toEnter?_eq_some.1 hu).2 hunconstrained) hleft
      exact ⟨_, _, follows.mark (fresh_of_not_mem hu ht) admitted hu hunconstrained⟩
  | @enter b path p element? u t j _ _ stages₁ _ stages₂ _ _ admitted hu hconstrained htour _ ih
      ih' =>
    obtain ⟨hdue, hrest⟩ := List.forall_mem_cons.1 due
    have hj := (toEnter?_eq_some.1 hu).2
    have hbelow := below_of_due hi hdue hu
    rw [Stage.entries_append, ← List.append_assoc] at hnext
    by_cases ht : t ∈ visited
    -- a bean met again is below the one at hand, so it is finished and nothing is lost
    · obtain ⟨hfound, hentered⟩ :=
        htour.absorbed (instep.closed stable) hj ⟨ht, .single hbelow⟩
      have again := fun e he => (hentered e he).1
      obtain ⟨stages, visited', follows⟩ :=
        ih' hi hrest hb hfirst hnext (instep.again again) hleft
      exact ⟨_, _, follows.skip hu ht hfound again⟩
    -- otherwise this is its first entry, and as it does not lead back to itself it is in step
    · have hnext₁ : seen ++ (t, path.below p element?) :: Stage.entries stages₁ <+: entries := by
        refine .trans ?_ hnext
        rw [Stage.entries_append, entries_arrival]
        exact List.prefix_append _ _
      have hfirst' := lookup_eq_of_next hnext₁ fun e he h => ht (h ▸ instep.entered e he)
      obtain ⟨stages, visited₁, hsub⟩ := ih hj due_read (hb.of_below hbelow) hfirst'
        (by simpa using hnext₁)
        (instep.enter hj hbelow (acyclic t (hb.of_below hbelow)) _) rfl
      obtain ⟨stages', visited₂, follows⟩ :=
        ih' hi hrest hb hfirst hnext (instep.entered_below hj hfirst' hsub) hleft
      exact ⟨_, _, .enter (fresh_of_not_mem hu ht) admitted hu hconstrained hfirst' hsub follows⟩

end Lockstep

end Validator

end BeanGraph
