import BeanGraph.Proofs.CascadeMark
import BeanGraph.Proofs.Looks
import BeanGraph.Proofs.Occasions
import BeanGraph.Proofs.Parallel

/-!
# Bare values and the cascade mark

A value is bare if it is null, or neither a container nor a wrapper nor a bean to enter.  A property
with a bare value leads nowhere, so the cascade mark makes little difference to it: the value is its
own target, and a validation that goes well looks at it a second time, unless it is null or the
resolver does not admit it.

* `Bare.propertyInspections`, `Bare.targetLooks`: the two looks at a bare value;
* `exists_agenda_marking`, `exists_own_marking`: the mark changes what a bean comes to in one place;
* `reach_of_marked`: it brings no bean within reach;
* `looksAt_marking`, `exists_looks`: how often the value is looked at.
-/

namespace BeanGraph

namespace Validator

variable {v : Validator} {heap : Heap} {root b : Bean} {groups : List Group} {i : Introspection}
  {type : BeanType} {p : Property} {path : Path} {w : Value}

/-! ## Bare values -/

/-- A value that neither holds other values nor wraps any, and is no bean to enter. -/
structure Bare (v : Validator) (w : Value) : Prop where
  inert : ∀ tag, w.runtimeType? = some tag →
    v.extractors.cascade.find? tag = none ∧ v.extractors.unwrap.find? tag = none
  toEnter? : v.toEnter? w = none

/-- The look at a property when its bean is entered. -/
def lookAt (b : Bean) (path : Path) (p : Property) (w : Value) : Inspection :=
  ⟨b, p, path.below p none, w⟩

theorem Bare.propertyInspections (bare : v.Bare w) (b : Bean) (path : Path) (p : Property) :
    v.propertyInspections heap b path p w = [lookAt b path p w] := by
  have hunwrap : v.unwrapFor? p w = none := by
    unfold unwrapFor?
    split
    · rfl
    · cases htag : w.runtimeType? with
      | none => rfl
      | some tag => exact (bare.inert tag htag).2
  rw [Validator.propertyInspections, subjects, hunwrap]
  rfl

/-- A bare value is its own target, unless it is null. -/
theorem Bare.held (bare : v.Bare w) : v.held heap w = if w = .null then [] else [(none, w)] := by
  rw [Validator.held]
  cases htag : w.runtimeType? with
  | none => exact (if_pos (Value.runtimeType?_eq_none.1 htag)).symm
  | some tag =>
    have hnull : w ≠ .null := by
      rintro rfl
      cases htag
    dsimp only
    rw [(bare.inert tag htag).1, if_neg hnull]

theorem Bare.approaches (bare : v.Bare w) (p : Property) :
    v.approaches heap p w = if w = .null then [] else [.approach p none w] := by
  rw [Validator.approaches, bare.held]
  split <;> rfl

theorem Bare.targetLooks (bare : v.Bare w) (b : Bean) (path : Path) (p : Property) :
    v.targetLooks heap root b path p w =
      if w ≠ .null ∧ v.Admits root (path.below p none) w none then [lookAt b path p w] else [] := by
  rw [Validator.targetLooks, bare.held]
  by_cases hnull : w = .null
  · rw [if_pos hnull, if_neg fun h => h.1 hnull, List.flatMap_nil]
  · rw [if_neg hnull, List.flatMap_singleton]
    simp only [targetLook, bare.toEnter?, true_and, hnull, not_false_eq_true, ne_eq]
    rfl

/-! ## The property with the mark and without it -/

/-- The mark is set or taken away where the property stands. -/
theorem exists_properties_marking (hp : p ∈ i.properties) : ∃ before after : List Property,
    ∀ cascade, (i.marking p.name cascade).properties = before ++ { p with cascade } :: after := by
  obtain ⟨before, after, hproperties⟩ := Introspection.exists_properties_altering hp
  exact ⟨before, after, fun cascade => hproperties (fun q => { q with cascade }) fun _ => rfl⟩

/-- With the mark the property adds its targets to what a bean leads to. -/
theorem exists_agenda_marking (v : Validator) (heap : Heap) (b : Bean) (hp : p ∈ i.properties) :
    ∃ before after,
      v.agenda heap (i.marking p.name true) b (i.marking p.name true).errands =
        before ++ v.approaches heap { p with cascade := true } (i.get p heap b) ++ after ∧
      v.agenda heap (i.marking p.name false) b (i.marking p.name false).errands =
        before ++ after := by
  obtain ⟨before, after, hproperties⟩ := exists_properties_marking hp
  refine ⟨(before.filter (·.cascade)).flatMap fun q => v.approaches heap q (i.get q heap b),
    (after.filter (·.cascade)).flatMap fun q => v.approaches heap q (i.get q heap b), ?_, ?_⟩
  · rw [agenda_errands, Introspection.cascading, hproperties, List.filter_append,
      List.filter_cons_of_pos rfl, List.flatMap_append, List.flatMap_cons, ← List.append_assoc]
    rfl
  · rw [agenda_errands, Introspection.cascading, hproperties, List.filter_append,
      List.filter_cons_of_neg Bool.false_ne_true, List.flatMap_append]
    rfl

/-- The look at the property is the same with the mark and without it. -/
theorem exists_own_marking (v : Validator) (hp : p ∈ i.properties)
    (bare : v.Bare (i.get p heap b)) (path : Path) :
    ∃ before after, ∀ cascade, v.ownInspections heap (i.marking p.name cascade) b path =
      before ++ (if p.isConstrained then [lookAt b path { p with cascade } (i.get p heap b)]
        else []) ++ after := by
  obtain ⟨before, after, hproperties⟩ := exists_properties_marking hp
  refine ⟨(before.filter (·.isConstrained)).flatMap fun q =>
      v.propertyInspections heap b path q (i.get q heap b),
    (after.filter (·.isConstrained)).flatMap fun q =>
      v.propertyInspections heap b path q (i.get q heap b), fun cascade => ?_⟩
  rw [ownInspections, Introspection.constrained, hproperties, List.filter_append,
    List.flatMap_append, List.append_assoc]
  refine congrArg₂ (· ++ ·) rfl ?_
  cases hconstrained : p.isConstrained with
  | true =>
    have hmarked : Property.isConstrained { p with cascade } = true := hconstrained
    rw [List.filter_cons_of_pos hmarked, List.flatMap_cons, if_pos rfl]
    exact congrArg (· ++ _) (bare.propertyInspections b path _)
  | false =>
    have hmarked : ¬ Property.isConstrained { p with cascade } = true := by
      rw [Bool.not_eq_true]
      exact hconstrained
    rw [List.filter_cons_of_neg hmarked, if_neg Bool.false_ne_true]
    rfl

/-! ## The validator with the mark and without it -/

theorem Bare.marking (bare : v.Bare w) (type : BeanType) (name : String) (cascade : Bool) :
    (v.marking type name cascade).Bare w := by
  refine ⟨bare.inert, ?_⟩
  have hw := bare.toEnter?
  cases w with
  | bean t =>
    simp only [Validator.toEnter?, Value.bean?, Option.bind_some, Option.map_eq_none_iff] at hw
    simp [Validator.marking, Validator.toEnter?, Value.bean?, hw]
  | _ => rfl

theorem introspection?_marking_of_ne {t : BeanType} (h : t ≠ type) (name : String)
    (cascade : Bool) : (v.marking type name cascade).introspection? t = v.introspection? t := by
  simp [Validator.marking, h]

theorem Stable.marking (stable : v.Stable) (type : BeanType) (name : String) (cascade : Bool) :
    (v.marking type name cascade).Stable := by
  have altered : (v.altering type name (fun p => { p with cascade }) fun _ => rfl).Stable :=
    stable.altering fun _ => rfl
  exact altered

theorem known_marking (v : Validator) (type : BeanType) (name : String) (cascade cascade' : Bool)
    (t : BeanType) :
    ((v.marking type name cascade').introspection? t).isSome =
      ((v.marking type name cascade).introspection? t).isSome := by
  simp [Validator.marking]

section Marking

variable (hi : v.introspection? type = some i) (hp : p ∈ i.properties)
  (bare : ∀ b, (v.marking type p.name false).Reach heap root b → b.type = type →
    v.Bare (i.get p heap b))
include hi hp bare

/-- What is below a bean within reach is so without the mark. -/
theorem below_of_marked (stable : v.Stable) {t : Bean}
    (hb : (v.marking type p.name false).Reach heap root b)
    (ht : (v.marking type p.name true).Below heap b t) :
    (v.marking type p.name false).Below heap b t := by
  obtain ⟨-, -, ⟨j₁, hj₁, -⟩, -⟩ := id ht
  obtain ⟨q, element?, k, ⟨hq, hheld⟩, hk⟩ :=
    due_of_below (stable.marking type p.name true) hj₁ ht
  obtain ⟨hq, hcascade⟩ := List.mem_filter.1 hq
  obtain ⟨k', hk'⟩ := exists_of_known (v.known_marking type p.name true false)
    (toEnter?_eq_some.1 hk).2
  have due {j₀ : Introspection}
      (hj₀ : (v.marking type p.name false).introspection? b.type = some j₀)
      (hq : q ∈ j₀.properties) (hget : j₀.get q heap b = j₁.get q heap b) :
      (v.marking type p.name false).Below heap b t :=
    below_of_due hj₀ ⟨List.mem_filter.2 ⟨hq, hcascade⟩, hget ▸ hheld⟩
      (toEnter?_eq_some.2 ⟨rfl, hk'⟩)
  by_cases htype : b.type = type
  · subst htype
    obtain rfl := Option.some.inj ((introspection?_marking hi p.name true).symm.trans hj₁)
    obtain ⟨before, after, hproperties⟩ := exists_properties_marking hp
    have hunmarked := introspection?_marking hi p.name false
    rw [hproperties, List.mem_append, List.mem_cons] at hq
    obtain hq | rfl | hq := hq
    · exact due hunmarked (by rw [hproperties]; exact List.mem_append_left _ hq) rfl
    · -- the property itself holds no bean to enter
      have hw := (bare b hb rfl).marking b.type p.name true
      have happroach : Errand.approach { p with cascade := true } element? (.bean t) ∈
          v.approaches heap { p with cascade := true } (i.get p heap b) := List.mem_map_of_mem hheld
      rw [(bare b hb rfl).approaches] at happroach
      split at happroach
      · cases happroach
      · injection List.mem_singleton.1 happroach with _ _ hvalue
        rw [hvalue] at hk
        cases hw.toEnter?.symm.trans hk
    · have hq := List.mem_append_right before (List.mem_cons_of_mem { p with cascade := false } hq)
      exact due hunmarked (by rwa [hproperties]) rfl
  · rw [introspection?_marking_of_ne htype] at hj₁
    exact due ((introspection?_marking_of_ne htype _ _).trans hj₁) hq rfl

/-- What is within reach with the mark is so without it. -/
theorem reach_of_marked (stable : v.Stable) (cascade : Bool)
    (h : (v.marking type p.name cascade).Reach heap root b) :
    (v.marking type p.name false).Reach heap root b := by
  cases cascade with
  | false => exact h
  | true =>
    induction h with
    | root => exact .root
    | step _ hw hcascade ht hknown ih =>
      exact ih.of_below (below_of_marked hi hp bare stable ih ⟨_, _, hw, hcascade, ht, hknown⟩)

end Marking

/-! ## How often the value is looked at -/

/-- How often a validation from a root looks at a bare value of a property of a bean at a path:
twice, if the property has the mark, and the value is not null, and the resolver admits it. -/
def lookCount (v : Validator) (root : Bean) (path : Path) (p : Property) (w : Value)
    (cascade : Bool) : Nat :=
  if cascade = true ∧ w ≠ .null ∧ v.Admits root (path.below p none) w none then 2 else 1

theorem looksAt_marking (hconstrained : p.isConstrained = true) (bare : v.Bare (i.get p heap b))
    (path : Path) (cascade : Bool) :
    (v.marking type p.name cascade).looksAt heap root (i.marking p.name cascade) b path
        { p with cascade } =
      List.replicate (v.lookCount root path p (i.get p heap b) cascade)
        (lookAt b path { p with cascade } (i.get p heap b)) := by
  have hw := bare.marking type p.name cascade
  have hmarked : Property.isConstrained { p with cascade } = true := hconstrained
  have hown : (v.marking type p.name cascade).propertyInspections heap b path { p with cascade }
      (i.get p heap b) = [lookAt b path { p with cascade } (i.get p heap b)] :=
    hw.propertyInspections b path { p with cascade }
  have htargets : (v.marking type p.name cascade).targetLooks heap root b path { p with cascade }
      (i.get p heap b) =
        if i.get p heap b ≠ .null ∧ v.Admits root (path.below p none) (i.get p heap b) none then
          [lookAt b path { p with cascade } (i.get p heap b)]
        else [] := hw.targetLooks b path { p with cascade }
  rw [looksAt, if_pos hmarked, lookCount]
  refine (congrArg₂ (· ++ ·) hown (if_congr Iff.rfl htargets rfl)).trans ?_
  cases cascade with
  | false =>
    rw [if_neg Bool.false_ne_true, if_neg fun h => Bool.false_ne_true h.1]
    rfl
  | true =>
    rw [if_pos rfl]
    by_cases hagain : i.get p heap b ≠ .null ∧
        v.Admits root (path.below p none) (i.get p heap b) none
    · rw [if_pos hagain, if_pos ⟨rfl, hagain⟩]
      rfl
    · rw [if_neg hagain, if_neg fun h => hagain h.2]
      rfl

/-- A validation that goes well looks at the value of the property so often, in each bean that it
enters, and calls the routines each time. -/
theorem exists_looks (hi : v.introspection? type = some i) (hp : p ∈ i.properties)
    (bare : ∀ b, (v.marking type p.name false).Reach heap root b → b.type = type →
      v.Bare (i.get p heap b))
    (stable : v.Stable) (plain : v.Plain) (hconstrained : p.isConstrained = true) (cascade : Bool)
    {copies : Nat} {report : Report}
    (h : (v.marking type p.name cascade).validate heap (.bean root) groups copies = some report)
    {vs : ViolationSet} (hvs : report.result = .ok vs) (hb : (b, path) ∈ report.entries)
    (htype : b.type = type) :
    ∃ stages, (v.marking type p.name cascade).Retraces heap root groups stages report ∧
      (Stage.inspectionsOf b stages).filter (·.property.name = p.name) =
        List.replicate (v.lookCount root path p (i.get p heap b) cascade)
          (lookAt b path { p with cascade } (i.get p heap b)) := by
  cases hobject : (v.marking type p.name cascade).toVisit? (.bean root) with
  | none =>
    obtain ⟨report', h', hnotes, -⟩ := validate_of_nothing hobject groups copies
    obtain rfl := Option.some.inj (h.symm.trans h')
    obtain ⟨e, he, hentry⟩ := List.mem_filterMap.1 hb
    have hnote := hnotes e (Array.mem_toList_iff.1 he)
    cases e with
    | entered => exact hnote.elim
    | _ => cases hentry
  | some start =>
    obtain ⟨root', j⟩ := start
    obtain ⟨⟨⟩, -⟩ := toVisit?_eq_some.1 hobject
    have plain' : (v.marking type p.name cascade).Plain := plain
    obtain ⟨stages, hretraces⟩ :=
      exists_retraces plain' (stable.marking type p.name cascade) hobject h hvs
    obtain ⟨k, hk, hjourney⟩ := hretraces.journey
    rw [hretraces.entries] at hb
    have hreach := reach_of_marked hi hp bare stable cascade (hjourney.reach hk hb)
    subst htype
    refine ⟨stages, hretraces, ?_⟩
    rw [← looksAt_marking hconstrained (bare b hreach rfl)]
    exact hjourney.inspectionsAt hk hb (introspection?_marking hi p.name cascade)
      (Introspection.mem_marking hp cascade)

end Validator

end BeanGraph
