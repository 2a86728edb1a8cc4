import BeanGraph.Proofs.Acyclic
import BeanGraph.Proofs.Groups

/-!
# Parallel tours

Two validators that know the same types and ask the same resolver may describe the types in
different ways.  As long as what a bean leads to is described alike, a tour of the one goes past the
same beans by the same ways as a tour of the other.  What they inspect on the way may differ, and a
relation between the two is carried along.

* `Validator.altering`: the validator for which one property is described in another way;
* `Tour.split`: a tour of two lists of errands is a tour of each;
* `Tour.of_agenda`: to approach all that a bean leads to is to do its errands;
* `Parallel`: what the relation has to be kept by, a target at a time and a bean at a time;
* `Parallel.tour`, `Parallel.exists_result`: it is kept by tours, and so by validations;
* `result_eq_of_corresponds`: results that correspond in both directions correspond everywhere.
-/

namespace BeanGraph

/-! ## Altering a property -/

/-- The introspection with the property of a name altered. -/
def Introspection.altering (i : Introspection) (name : String) (alter : Property → Property)
    (keeps : ∀ p, (alter p).name = p.name) : Introspection where
  beanType := i.beanType
  properties := i.properties.map fun p => if p.name = name then alter p else p
  distinct := by
    rw [List.map_map, List.map_congr_left (g := Property.name)]
    · exact i.distinct
    · intro p _
      dsimp only [Function.comp_apply]
      split
      · exact keeps p
      · rfl

/-- The validator for which a property of a type is altered. -/
def Validator.altering (v : Validator) (type : BeanType) (name : String)
    (alter : Property → Property) (keeps : ∀ p, (alter p).name = p.name) : Validator :=
  { v with
    introspection? := fun t =>
      (v.introspection? t).map fun i => if t = type then i.altering name alter keeps else i }

section Altering

variable {v : Validator} {i i' : Introspection} {type t : BeanType} {name : String} {p : Property}
  {alter : Property → Property} {keeps : ∀ p, (alter p).name = p.name}

/-- The property of a name is altered where it stands. -/
theorem Introspection.exists_properties_altering (hp : p ∈ i.properties) :
    ∃ before after : List Property, ∀ alter keeps,
      (i.altering p.name alter keeps).properties = before ++ alter p :: after := by
  obtain ⟨before, after, hsplit, hbefore, hafter⟩ := i.exists_split hp
  refine ⟨before, after, fun alter keeps => ?_⟩
  have others : ∀ qs : List Property, (∀ q ∈ qs, q.name ≠ p.name) →
      qs.map (fun q => if q.name = p.name then alter q else q) = qs := by
    intro qs hqs
    rw [List.map_congr_left fun q hq => if_neg (hqs q hq), List.map_id']
  have haltered : (i.altering p.name alter keeps).properties =
      i.properties.map fun q => if q.name = p.name then alter q else q := rfl
  rw [haltered, hsplit, List.map_append, List.map_cons, others before hbefore,
    others after hafter, if_pos rfl]

/-- The property of a name is the altered one. -/
theorem Introspection.eq_alter (hp : p ∈ i.properties) {q : Property}
    (hq : q ∈ (i.altering p.name alter keeps).properties) (hname : q.name = p.name) :
    q = alter p := by
  obtain ⟨q', hq', rfl⟩ := List.mem_map.1 hq
  have hsame : q'.name = p.name := by
    split at hname
    · assumption
    · exact hname
  rw [if_pos hsame, eq_of_name_eq hp hq' hsame]

namespace Validator

theorem introspection?_altering (hi : v.introspection? type = some i) :
    (v.altering type name alter keeps).introspection? type =
      some (i.altering name alter keeps) := by
  simp [altering, hi]

theorem introspection?_altering_of_ne (h : t ≠ type) :
    (v.altering type name alter keeps).introspection? t = v.introspection? t := by
  simp [altering, h]

theorem known_altering (v : Validator) (type : BeanType) (name : String)
    (alter : Property → Property) (keeps : ∀ p, (alter p).name = p.name) (t : BeanType) :
    ((v.altering type name alter keeps).introspection? t).isSome = (v.introspection? t).isSome := by
  simp [altering]

theorem Stable.altering (stable : v.Stable) (hgetter : ∀ p, (alter p).getter = p.getter) :
    (v.altering type name alter keeps).Stable := by
  intro t j' hj' q' hq'
  obtain ⟨j, hj, rfl⟩ := Option.map_eq_some_iff.1 hj'
  split at hq'
  · obtain ⟨q, hq, rfl⟩ := List.mem_map.1 hq'
    have hsame : (if q.name = name then alter q else q).getter = q.getter := by
      split
      · exact hgetter q
      · rfl
    rw [hsame]
    exact stable t j hj q hq
  · exact stable t j hj q' hq'

end Validator

end Altering

/-- The errand about another property in the place of its own. -/
def Errand.map (f : Property → Property) : Errand → Errand
  | .read p => .read (f p)
  | .approach p element? u => .approach (f p) element? u

theorem Errand.map_id (errands : List Errand) :
    errands.map (Errand.map fun p => p) = errands := by
  rw [List.map_congr_left (g := id), List.map_id]
  intro errand _
  cases errand <;> rfl

namespace Validator

variable {v : Validator} {heap : Heap} {guarded : Bool} {root b t : Bean} {groups : List Group}
  {i : Introspection} {path : Path} {p : Property} {element? : Option Element} {u : Value}
  {errands errands' errands'' : List Errand} {visited visited' visited'' : List Bean}
  {stages stages' : List Stage} {left? : Option (List Bean)}

/-! ## Tours in parts -/

/-- A tour goes through some errands and then others, or is broken off before. -/
def Splits (v : Validator) (heap : Heap) (guarded : Bool) (root b : Bean) (path : Path)
    (errands errands' : List Errand) (visited : List Bean) (stages : List Stage)
    (left? : Option (List Bean)) : Prop :=
  (∃ visited' stages₁ stages₂, stages = stages₁ ++ stages₂ ∧
    v.Tour heap guarded root b path errands visited stages₁ (some visited') ∧
    v.Tour heap guarded root b path errands' visited' stages₂ left?) ∨
  left? = none ∧ v.Tour heap guarded root b path errands visited stages none

theorem splits_nil (h : v.Tour heap guarded root b path errands visited stages left?) :
    v.Splits heap guarded root b path [] errands visited stages left? :=
  .inl ⟨visited, [], stages, rfl, .done, h⟩

theorem Splits.prepend (before : List Stage)
    (h : v.Splits heap guarded root b path errands errands' visited stages left?)
    (first : ∀ {stages left?}, v.Tour heap guarded root b path errands visited stages left? →
      v.Tour heap guarded root b path errands'' visited' (before ++ stages) left?) :
    v.Splits heap guarded root b path errands'' errands' visited' (before ++ stages) left? := by
  obtain ⟨middle, stages₁, stages₂, rfl, h₁, h₂⟩ | ⟨rfl, h⟩ := h
  · exact .inl ⟨middle, before ++ stages₁, stages₂, (List.append_assoc ..).symm, first h₁, h₂⟩
  · exact .inr ⟨rfl, first h⟩

theorem Tour.split
    (h : v.Tour heap guarded root b path (errands ++ errands') visited stages left?) :
    v.Splits heap guarded root b path errands errands' visited stages left? := by
  generalize hall : errands ++ errands' = all at h
  induction h generalizing errands with
  | done =>
    obtain ⟨rfl, rfl⟩ := List.append_eq_nil_iff.1 hall
    exact splits_nil .done
  | halt => exact .inr ⟨rfl, .halt⟩
  | read hi hp h ih =>
    obtain ⟨rfl, rfl⟩ | ⟨rest, rfl, rfl⟩ := List.append_eq_cons_iff.1 hall
    · exact splits_nil (.read hi hp h)
    · exact (ih (List.append_assoc ..)).prepend [] (.read hi hp)
  | skip skipped h ih =>
    obtain ⟨rfl, rfl⟩ | ⟨rest, rfl, rfl⟩ := List.append_eq_cons_iff.1 hall
    · exact splits_nil (.skip skipped h)
    · exact (ih rfl).prepend [] (.skip skipped)
  | veto fresh vetoed h ih =>
    obtain ⟨rfl, rfl⟩ | ⟨rest, rfl, rfl⟩ := List.append_eq_cons_iff.1 hall
    · exact splits_nil (.veto fresh vetoed h)
    · exact (ih rfl).prepend [] (.veto fresh vetoed)
  | look fresh admitted hu h ih =>
    obtain ⟨rfl, rfl⟩ | ⟨rest, rfl, rfl⟩ := List.append_eq_cons_iff.1 hall
    · exact splits_nil (.look fresh admitted hu h)
    · exact (ih rfl).prepend [_] (.look fresh admitted hu)
  | mark fresh admitted hu hi h ih =>
    obtain ⟨rfl, rfl⟩ | ⟨rest, rfl, rfl⟩ := List.append_eq_cons_iff.1 hall
    · exact splits_nil (.mark fresh admitted hu hi h)
    · exact (ih rfl).prepend [] (.mark fresh admitted hu hi)
  | enter fresh admitted hu hi below h _ ih =>
    obtain ⟨rfl, rfl⟩ | ⟨rest, rfl, rfl⟩ := List.append_eq_cons_iff.1 hall
    · exact splits_nil (.enter fresh admitted hu hi below h)
    · exact (ih rfl).prepend _ (.enter fresh admitted hu hi below)
  | within fresh admitted hu hi below =>
    obtain ⟨rfl, rfl⟩ | ⟨rest, rfl, rfl⟩ := List.append_eq_cons_iff.1 hall
    · exact splits_nil (.within fresh admitted hu hi below)
    · exact .inr ⟨rfl, .within fresh admitted hu hi below⟩

/-- The errands at the end of a list can be put in another way. -/
theorem Tour.append_mono
    (h : v.Tour heap guarded root b path (errands ++ errands') visited stages left?)
    (rest : ∀ {visited stages left?},
      v.Tour heap guarded root b path errands' visited stages left? →
      v.Tour heap guarded root b path errands'' visited stages left?) :
    v.Tour heap guarded root b path (errands ++ errands'') visited stages left? := by
  obtain ⟨visited', stages₁, stages₂, rfl, h₁, h₂⟩ | ⟨rfl, hbroken⟩ := h.split
  · exact h₁.append (rest h₂)
  · exact hbroken.append_none errands''

/-! ## The approaches that errands come to -/

/-- The approaches that an errand comes to. -/
def spread (v : Validator) (heap : Heap) (i : Introspection) (b : Bean) : Errand → List Errand
  | .read p => v.approaches heap p (i.get p heap b)
  | .approach p element? u => [.approach p element? u]

/-- The approaches that errands come to. -/
def agenda (v : Validator) (heap : Heap) (i : Introspection) (b : Bean) (errands : List Errand) :
    List Errand :=
  errands.flatMap (v.spread heap i b)

theorem agenda_append (errands errands' : List Errand) :
    v.agenda heap i b (errands ++ errands') =
      v.agenda heap i b errands ++ v.agenda heap i b errands' := List.flatMap_append

theorem agenda_approaches (w : Value) :
    v.agenda heap i b (v.approaches heap p w) = v.approaches heap p w := by
  unfold agenda approaches
  induction v.held heap w with
  | nil => rfl
  | cons target targets ih => exact congrArg (Errand.approach p target.1 target.2 :: ·) ih

theorem agenda_read_cons (p : Property) (errands : List Errand) :
    v.agenda heap i b (.read p :: errands) =
      v.approaches heap p (i.get p heap b) ++ v.agenda heap i b errands := List.flatMap_cons

/-- What the errands of a bean come to, property by property. -/
theorem agenda_errands :
    v.agenda heap i b i.errands =
      i.cascading.flatMap fun p => v.approaches heap p (i.get p heap b) := by
  rw [agenda, Introspection.errands, List.flatMap_map]
  rfl

/-- To approach all that a bean leads to is to do its errands. -/
theorem Tour.of_agenda (hi : v.introspection? b.type = some i)
    (h : v.Tour heap guarded root b path (v.agenda heap i b i.errands) visited stages left?) :
    v.Tour heap guarded root b path i.errands visited stages left? := by
  have reads : ∀ ps : List Property, (∀ p ∈ ps, p ∈ i.cascading) → ∀ {visited stages left?},
      v.Tour heap guarded root b path (v.agenda heap i b (ps.map .read)) visited stages left? →
      v.Tour heap guarded root b path (ps.map .read) visited stages left? := by
    intro ps hps
    induction ps with
    | nil => exact id
    | cons p ps ih =>
      obtain ⟨hp, hps⟩ := List.forall_mem_cons.1 hps
      intro visited stages left? h
      rw [List.map_cons, agenda_read_cons] at h
      exact .read hi hp (h.append_mono (ih hps))
  exact reads i.cascading (fun _ => id) h

/-! ## Entering or marking -/

theorem errands_of_unconstrained (hi : i.isUnconstrained = true) : i.errands = [] := by
  rw [Introspection.errands, List.isEmpty_iff.1 (Bool.and_eq_true_iff.1 hi).2]
  rfl

theorem ownInspections_of_unconstrained (hi : i.isUnconstrained = true) :
    v.ownInspections heap i b path = [] := by
  rw [ownInspections, List.isEmpty_iff.1 (Bool.and_eq_true_iff.1 hi).1]
  rfl

theorem Tour.of_nil (h : v.Tour heap guarded root b path [] visited stages left?) :
    stages = [] ∧ ∀ visited', left? = some visited' → visited' = visited := by
  cases h with
  | done => exact ⟨rfl, by rintro _ ⟨⟩; rfl⟩
  | halt => exact ⟨rfl, nofun⟩

section Entering

variable (fresh : ¬ Skips guarded visited u)
  (admitted : v.Admits root (path.below p element?) u element?)
  (hu : v.toEnter? u = some (t, i))
include fresh admitted hu

/-- A bean that is admitted is marked or entered; in either case this much is inspected. -/
theorem Tour.entering
    (h : v.Tour heap guarded root t (path.below p element?) i.errands (visited.insert t) stages
      (some visited'))
    (h' : v.Tour heap guarded root b path errands visited' stages' left?) :
    ∃ stages'', v.Tour heap guarded root b path (.approach p element? u :: errands) visited stages''
        left? ∧
      Stage.inspections stages'' = v.ownInspections heap i t (path.below p element?) ++
        Stage.inspections stages ++ Stage.inspections stages' := by
  cases hi : i.isUnconstrained with
  | false =>
    refine ⟨_, .enter fresh admitted hu hi h h', ?_⟩
    rw [Stage.inspections_append, Stage.inspections_append, inspections_arrival]
  | true =>
    rw [errands_of_unconstrained hi] at h
    obtain ⟨rfl, hvisited⟩ := h.of_nil
    obtain rfl := hvisited _ rfl
    refine ⟨stages', .mark fresh admitted hu hi h', ?_⟩
    rw [ownInspections_of_unconstrained hi]
    rfl

theorem Tour.entering_none (errands : List Errand)
    (h : v.Tour heap guarded root t (path.below p element?) i.errands (visited.insert t) stages
      none) :
    ∃ stages'', v.Tour heap guarded root b path (.approach p element? u :: errands) visited stages''
        none ∧
      Stage.inspections stages'' = v.ownInspections heap i t (path.below p element?) ++
        Stage.inspections stages := by
  cases hi : i.isUnconstrained with
  | false =>
    refine ⟨_, .within fresh admitted hu hi h, ?_⟩
    rw [Stage.inspections_append, inspections_arrival]
  | true =>
    rw [errands_of_unconstrained hi] at h
    obtain ⟨rfl, -⟩ := h.of_nil
    refine ⟨[], .halt, ?_⟩
    rw [ownInspections_of_unconstrained hi]
    rfl

end Entering

/-! ## Two validators -/

theorem exists_of_known {v' : Validator} {type : BeanType}
    (known : ∀ type, (v'.introspection? type).isSome = (v.introspection? type).isSome)
    (hi : v.introspection? type = some i) : ∃ i', v'.introspection? type = some i' := by
  have hknown := known type
  rwa [hi, Option.isSome_some, Option.isSome_iff_exists] at hknown

/-- Two validators go past the same beans, as far as beans are concerned that something holds of:
the properties of a bean are translated for the other one.  What they inspect is related if this is
kept by looking at a target, and by entering a bean: whatever the approaches to all it leads to come
to, its errands come to something that is related with what is inspected of the bean itself. -/
structure Parallel (v v' : Validator) (heap : Heap) (guarded : Bool) (root : Bean)
    (holds : Bean → Prop) (translate : Bean → Property → Property)
    (related : List Inspection → List Inspection → Prop) : Prop where
  resolver : v'.resolver = v.resolver
  known : ∀ type, (v'.introspection? type).isSome = (v.introspection? type).isSome
  name : ∀ b p, (translate b p).name = p.name
  below : ∀ b t, holds b → v.Below heap b t → holds t
  nil : related [] []
  append : ∀ xs ys xs' ys', related xs ys → related xs' ys' → related (xs ++ xs') (ys ++ ys')
  target : ∀ b i, v.introspection? b.type = some i → ∀ (path : Path) p element? u,
    v.Due heap i b (.approach p element? u) →
    related [⟨b, p, path.below p element?, u⟩] [⟨b, translate b p, path.below p element?, u⟩]
  enter : ∀ b i i', holds b → v.introspection? b.type = some i →
    v'.introspection? b.type = some i' → ∀ path visited stages left?,
    v'.Tour heap guarded root b path
      ((v.agenda heap i b i.errands).map (Errand.map (translate b))) visited stages left? →
    ∃ stages', v'.Tour heap guarded root b path i'.errands visited stages' left? ∧
      ∀ xs, related xs (Stage.inspections stages) →
        related (v.ownInspections heap i b path ++ xs)
          (v'.ownInspections heap i' b path ++ Stage.inspections stages')

section Parallel

variable {v' : Validator} {holds : Bean → Prop} {translate : Bean → Property → Property}
  {related : List Inspection → List Inspection → Prop}
  (parallel : Parallel v v' heap guarded root holds translate related)
include parallel

theorem Parallel.below_eq (path : Path) (b : Bean) (p : Property) (element? : Option Element) :
    path.below (translate b p) element? = path.below p element? := by
  rw [Path.below, Path.below, parallel.name]

theorem Parallel.admits_iff (path : Path) (b : Bean) (p : Property) (u : Value)
    (element? : Option Element) :
    v'.Admits root (path.below (translate b p) element?) u element? ↔
      v.Admits root (path.below p element?) u element? := by
  rw [parallel.below_eq, Admits, Admits, Permits, Permits, parallel.resolver]

theorem Parallel.toEnter?_eq_none (hu : v.toEnter? u = none) : v'.toEnter? u = none := by
  cases u with
  | bean b =>
    have hknown := parallel.known b.type
    simp only [toEnter?, Value.bean?, Option.bind_some, Option.map_eq_none_iff] at hu ⊢
    rwa [hu, Option.isSome_none, Option.isSome_eq_false_iff, Option.isNone_iff_eq_none] at hknown
  | _ => rfl

theorem Parallel.exists_toEnter? (hu : v.toEnter? u = some (t, i)) :
    ∃ i', v'.introspection? t.type = some i' ∧ v'.toEnter? u = some (t, i') := by
  obtain ⟨rfl, hi⟩ := toEnter?_eq_some.1 hu
  obtain ⟨i', hi'⟩ := exists_of_known parallel.known hi
  exact ⟨i', hi', toEnter?_eq_some.2 ⟨rfl, hi'⟩⟩

/-- A tour of the one validator goes along with a tour of the other one that is related. -/
theorem Parallel.tour (h : v.Tour heap guarded root b path errands visited stages left?)
    (hi : v.introspection? b.type = some i) (due : ∀ e ∈ errands, v.Due heap i b e)
    (hb : holds b) :
    ∃ stages', v'.Tour heap guarded root b path
        ((v.agenda heap i b errands).map (Errand.map (translate b))) visited stages' left? ∧
      related (Stage.inspections stages) (Stage.inspections stages') := by
  induction h generalizing i with
  | done => exact ⟨[], .done, parallel.nil⟩
  | halt => exact ⟨[], .halt, parallel.nil⟩
  | read hj hp _ ih =>
    obtain rfl := Option.some.inj (hi.symm.trans hj)
    have hrest := (List.forall_mem_cons.1 due).2
    have expanded := ih hi (List.forall_mem_append.2 ⟨due_approach hp, hrest⟩) hb
    rwa [agenda_append, agenda_approaches] at expanded
  | skip skipped _ ih =>
    obtain ⟨stages', htour, hrelated⟩ := ih hi (List.forall_mem_cons.1 due).2 hb
    exact ⟨stages', .skip skipped htour, hrelated⟩
  | veto fresh vetoed _ ih =>
    obtain ⟨stages', htour, hrelated⟩ := ih hi (List.forall_mem_cons.1 due).2 hb
    exact ⟨stages', .veto fresh (fun h => vetoed ((parallel.admits_iff ..).1 h)) htour, hrelated⟩
  | @look b path p element? u rest visited stages left? fresh admitted hu _ ih =>
    obtain ⟨hdue, hrest⟩ := List.forall_mem_cons.1 due
    obtain ⟨stages', htour, hrelated⟩ := ih hi hrest hb
    refine ⟨_, .look fresh ((parallel.admits_iff ..).2 admitted) (parallel.toEnter?_eq_none hu)
      htour, ?_⟩
    rw [parallel.below_eq]
    exact parallel.append _ _ _ _ (parallel.target b i hi path p element? u hdue) hrelated
  | @mark b path p element? u t j rest visited stages left? fresh admitted hu hunconstrained _ ih =>
    obtain ⟨hdue, hrest⟩ := List.forall_mem_cons.1 due
    obtain ⟨stages', htour, hrelated⟩ := ih hi hrest hb
    obtain ⟨j', hj', hu'⟩ := parallel.exists_toEnter? hu
    -- there is nothing to approach, but the other validator may have something to inspect
    have nothing : v'.Tour heap guarded root t (path.below p element?)
        ((v.agenda heap j t j.errands).map (Errand.map (translate t))) (visited.insert t) []
        (some (visited.insert t)) := by
      rw [errands_of_unconstrained hunconstrained]
      exact .done
    obtain ⟨stages₁, htour₁, henter⟩ := parallel.enter t j j'
      (parallel.below b t hb (below_of_due hi hdue hu)) (toEnter?_eq_some.1 hu).2 hj' _ _ _ _
      nothing
    have hown := henter [] parallel.nil
    rw [ownInspections_of_unconstrained hunconstrained, List.append_nil] at hown
    obtain ⟨stages'', htour'', hinspections⟩ := Tour.entering fresh
      ((parallel.admits_iff path b ..).2 admitted) hu' (by rwa [parallel.below_eq]) htour
    refine ⟨stages'', htour'', ?_⟩
    rw [hinspections, parallel.below_eq]
    exact parallel.append _ _ _ _ hown hrelated
  | @enter b path p element? u t j rest visited stages visited' stages' left? fresh admitted hu _ _
      _ ih ih' =>
    obtain ⟨hdue, hrest⟩ := List.forall_mem_cons.1 due
    have hj := (toEnter?_eq_some.1 hu).2
    have ht := parallel.below b t hb (below_of_due hi hdue hu)
    obtain ⟨below, htour, hrelated⟩ := ih hj due_read ht
    obtain ⟨after, htour', hrelated'⟩ := ih' hi hrest hb
    obtain ⟨j', hj', hu'⟩ := parallel.exists_toEnter? hu
    obtain ⟨stages₁, htour₁, henter⟩ := parallel.enter t j j' ht hj hj' _ _ _ _ htour
    obtain ⟨stages'', htour'', hinspections⟩ := Tour.entering fresh
      ((parallel.admits_iff path b ..).2 admitted) hu' (by rwa [parallel.below_eq]) htour'
    refine ⟨stages'', htour'', ?_⟩
    rw [hinspections, parallel.below_eq, Stage.inspections_append, Stage.inspections_append,
      inspections_arrival]
    exact parallel.append _ _ _ _ (henter _ hrelated) hrelated'
  | @within b path p element? u t j rest visited stages fresh admitted hu _ _ ih =>
    have hj := (toEnter?_eq_some.1 hu).2
    have ht := parallel.below b t hb (below_of_due hi (List.forall_mem_cons.1 due).1 hu)
    obtain ⟨below, htour, hrelated⟩ := ih hj due_read ht
    obtain ⟨j', hj', hu'⟩ := parallel.exists_toEnter? hu
    obtain ⟨stages₁, htour₁, henter⟩ := parallel.enter t j j' ht hj hj' _ _ _ _ htour
    obtain ⟨stages'', htour'', hinspections⟩ := Tour.entering_none fresh
      ((parallel.admits_iff path b ..).2 admitted) hu' _ (by rwa [parallel.below_eq])
    refine ⟨stages'', htour'', ?_⟩
    rw [hinspections, parallel.below_eq, Stage.inspections_append, inspections_arrival]
    exact henter _ hrelated

/-- A journey of the one validator goes along with a journey of the other one. -/
theorem Parallel.journey {i' : Introspection} (hi : v.introspection? root.type = some i)
    (hi' : v'.introspection? root.type = some i') (hroot : holds root)
    (h : v.Journey heap guarded root i root .root [root] stages left?) :
    ∃ stages', v'.Journey heap guarded root i' root .root [root] stages' left? ∧
      related (Stage.inspections stages) (Stage.inspections stages') := by
  obtain ⟨below, rfl, htour⟩ := h
  obtain ⟨below', htour', hrelated⟩ := parallel.tour htour hi due_read hroot
  obtain ⟨stages', htour'', henter⟩ := parallel.enter root i i' hroot hi hi' _ _ _ _ htour'
  refine ⟨_, ⟨stages', rfl, htour''⟩, ?_⟩
  rw [Stage.inspections_append, Stage.inspections_append, inspections_arrival, inspections_arrival]
  exact henter _ hrelated

end Parallel

/-! ## Validations -/

/-- What inspections come to: the first failure, or what is found, each once. -/
def outcome (v : Validator) (root : Bean) (groups : List Group) (xs : List Inspection) :
    Except Failure ViolationSet :=
  (Verdict.all (xs.map (v.inspect root groups))).map (ViolationSet.insertAll .empty)

section Outcome

variable (plain : v.Plain) (stable : v.Stable) (hi : v.introspection? root.type = some i)
  {copies : Nat} {result : Except Failure ViolationSet}
include plain stable hi

/-- The result of a validation is what comes of a journey, also if there is nothing to validate. -/
theorem exists_journey_of_result
    (h : (v.validate heap (.bean root) groups copies).map (·.result) = some result) :
    ∃ stages left?, v.Journey heap true root i root .root [root] stages left? ∧
      v.Decided root groups stages left? ∧
      result = v.outcome root groups (Stage.inspections stages) := by
  rw [← validateGuarded_true] at h
  obtain ⟨report, hreport, rfl⟩ := Option.map_eq_some_iff.1 h
  cases hobject : v.toVisit? (.bean root) with
  | none =>
    have hunconstrained := isUnconstrained_of_nothing hobject hi
    have htour : v.Tour heap true root root .root i.errands [root] [] (some [root]) := by
      rw [errands_of_unconstrained hunconstrained]
      exact .done
    obtain ⟨r, events, -, hok, hall⟩ := @validateGuarded_of_nothing v heap _ hobject
    refine ⟨_, _, ⟨[], rfl, htour⟩, nofun, ?_⟩
    rw [hall, Option.some.injEq] at hreport
    obtain rfl := hreport
    rw [Stage.inspections_append, inspections_arrival,
      ownInspections_of_unconstrained hunconstrained]
    exact hok (by rw [toEnter?_eq_some.2 ⟨rfl, hi⟩]; rfl)
  | some start =>
    obtain ⟨root', i'⟩ := start
    obtain ⟨⟨⟩, hi', -⟩ := toVisit?_eq_some.1 hobject
    obtain rfl := Option.some.inj (hi.symm.trans hi')
    obtain ⟨stages, left?, hjourney, decided, tells⟩ :=
      journey_of_validateGuarded plain stable hobject hreport
    exact ⟨stages, left?, hjourney, decided, tells.result⟩

theorem result_of_journey
    (h : v.Journey heap true root i root .root [root] stages left?)
    (decided : v.Decided root groups stages left?) (copies : Nat) :
    (v.validate heap (.bean root) groups copies).map (·.result) =
      some (v.outcome root groups (Stage.inspections stages)) := by
  rw [← validateGuarded_true]
  cases hobject : v.toVisit? (.bean root) with
  | none =>
    have hunconstrained := isUnconstrained_of_nothing hobject hi
    obtain ⟨stages', rfl, htour⟩ := h
    rw [errands_of_unconstrained hunconstrained] at htour
    obtain ⟨rfl, -⟩ := htour.of_nil
    obtain ⟨r, events, -, hok, hall⟩ := @validateGuarded_of_nothing v heap _ hobject
    rw [hall, Option.map_some, hok (by rw [toEnter?_eq_some.2 ⟨rfl, hi⟩]; rfl), List.append_nil,
      inspections_arrival, ownInspections_of_unconstrained hunconstrained]
    rfl
  | some start =>
    obtain ⟨root', i'⟩ := start
    obtain ⟨⟨⟩, hi', -⟩ := toVisit?_eq_some.1 hobject
    obtain rfl := Option.some.inj (hi.symm.trans hi')
    obtain ⟨report, hreport, tells⟩ := validateGuarded_of_journey plain stable hobject h decided
      copies
    rw [hreport, Option.map_some, tells.result]
    rfl

end Outcome

/-- The results of two validators on parallel tours come of inspections that are related, if a
failure of the one's inspections goes along with a failure of the other's. -/
theorem Parallel.exists_result {v' : Validator} {holds : Bean → Prop}
    {translate : Bean → Property → Property}
    {related : List Inspection → List Inspection → Prop}
    (parallel : Parallel v v' heap true root holds translate related) (hroot : holds root)
    (plain : v.Plain) (stable : v.Stable) (plain' : v'.Plain) (stable' : v'.Stable)
    (hi : v.introspection? root.type = some i)
    (fails : ∀ xs ys e, related xs ys →
      Verdict.all (xs.map (v.inspect root groups)) = .error e →
      ∃ e', Verdict.all (ys.map (v'.inspect root groups)) = .error e')
    {copies copies' : Nat} {result : Except Failure ViolationSet}
    (h : (v.validate heap (.bean root) groups copies).map (·.result) = some result) :
    ∃ xs ys, related xs ys ∧ result = v.outcome root groups xs ∧
      (v'.validate heap (.bean root) groups copies').map (·.result) =
        some (v'.outcome root groups ys) := by
  obtain ⟨stages, left?, hjourney, decided, rfl⟩ := exists_journey_of_result plain stable hi h
  obtain ⟨i', hi', -⟩ := parallel.exists_toEnter? (toEnter?_eq_some.2 ⟨rfl, hi⟩)
  obtain ⟨stages', hjourney', hrelated⟩ := parallel.journey hi hi' hroot hjourney
  refine ⟨_, _, hrelated, rfl, result_of_journey plain' stable' hi' hjourney' (fun hleft => ?_) _⟩
  obtain ⟨e, he⟩ := decided hleft
  exact fails _ _ e hrelated he

/-- Where there is no bean to enter, validators that know the same types fail alike. -/
theorem exists_error_of_unknown {v' : Validator} {object : Value}
    (known : ∀ type, (v'.introspection? type).isSome = (v.introspection? type).isSome)
    (h : v.toEnter? object = none) (groups : List Group) (copies copies' : Nat) :
    ∃ e, (v.validate heap object groups copies).map (·.result) = some (.error e) ∧
      (v'.validate heap object groups copies').map (·.result) = some (.error e) := by
  cases object with
  | bean b =>
    have hi : v.introspection? b.type = none := by simpa [toEnter?, Value.bean?] using h
    have hi' : v'.introspection? b.type = none := by
      have hknown := known b.type
      rw [hi] at hknown
      simpa using hknown
    exact ⟨_, by simp only [validate, Validator.root, hi, Option.map_some]; rfl,
      by simp only [validate, Validator.root, hi', Option.map_some]⟩
  | _ => exact ⟨_, rfl, rfl⟩

/-- The results of validations of two validators that know the same types correspond if those of
each bean to enter do, in both directions. -/
theorem result_eq_of_corresponds {v' : Validator} {object : Value} {copies copies' : Nat}
    {f : Except Failure ViolationSet → Except Failure ViolationSet}
    (known : ∀ type, (v'.introspection? type).isSome = (v.introspection? type).isSome)
    (fails : ∀ e, f (.error e) = .error e)
    (there : ∀ root i, object = .bean root → v.introspection? root.type = some i →
      ∀ result, (v.validate heap (.bean root) groups copies).map (·.result) = some result →
        ∃ result', f result' = result ∧
          (v'.validate heap (.bean root) groups copies').map (·.result) = some result')
    (back : ∀ root i, object = .bean root → v'.introspection? root.type = some i →
      ∀ result, (v'.validate heap (.bean root) groups copies').map (·.result) = some result →
        ∃ result', (v.validate heap (.bean root) groups copies).map (·.result) = some result') :
    (v.validate heap object groups copies).map (·.result) =
      (v'.validate heap object groups copies').map fun report => f report.result := by
  have hmap : ((v'.validate heap object groups copies').map fun report => f report.result) =
      ((v'.validate heap object groups copies').map (·.result)).map f := by
    rw [Option.map_map]
    rfl
  rw [hmap]
  cases henter : v.toEnter? object with
  | none =>
    obtain ⟨e, hv, hv'⟩ := exists_error_of_unknown known henter groups copies copies'
    rw [hv, hv', Option.map_some, fails]
  | some start =>
    obtain ⟨root, i⟩ := start
    obtain ⟨rfl, hi⟩ := toEnter?_eq_some.1 henter
    obtain ⟨i', hi'⟩ := exists_of_known known hi
    cases hv : (v.validate heap (.bean root) groups copies).map (·.result) with
    | some result =>
      obtain ⟨result', rfl, hv'⟩ := there root i rfl hi result hv
      rw [hv', Option.map_some]
    | none =>
      cases hv' : (v'.validate heap (.bean root) groups copies').map (·.result) with
      | none => rfl
      | some result =>
        obtain ⟨result', hresult'⟩ := back root i' rfl hi' result hv'
        rw [hv] at hresult'
        cases hresult'

end Validator

end BeanGraph
