import BeanGraph.Introspection.Builder
import BeanGraph.Table
import Mathlib.Data.List.Induction

/-!
# What a script describes

A draft holds the finished declarations apart from the one that the next steps belong to.  Taken
together they are the declarations of the script so far, put in place one after the other; so a
built introspection has each declared name once, where it was declared first, with what it was
declared as last.

* `properties_build`: a built introspection puts the declarations of its script in place in turn;
* `names_foldl_put`, `find?_foldl_put`: the names that this gives, and the property of each;
* `build_replays`: the properties in terms of the script.
-/

namespace BeanGraph.Introspection

/-! ## Declarations -/

namespace Step

/-- The name that a step declares, if it is a declaration. -/
def name? : Step → Option String
  | .property name _ _ => some name
  | _ => none

/-- The constraint that a step gives to the declaration before it. -/
def constraint? : Step → Option Constraint
  | .constraint c => some c
  | _ => none

/-- Whether a step marks the declaration before it. -/
def isCascade : Step → Bool
  | .cascade => true
  | _ => false

end Step

/-- The names that a script declares, in turn. -/
def declared (steps : List Step) : List String := steps.filterMap Step.name?

/-- The steps up to the next declaration. -/
def own (steps : List Step) : List Step := steps.takeWhile (·.name?.isNone)

/-- What a property is after the steps that belong to it. -/
def extended (p : Property) (steps : List Step) : Property :=
  { p with
    constraints := p.constraints ++ (own steps).filterMap Step.constraint?
    cascade := p.cascade || (own steps).any Step.isCascade }

/-- The property that a declaration describes, given the steps after it. -/
def described (name : String) (declaredType : TypeTag) (getter : Getter) (after : List Step) :
    Property :=
  { name, declaredType, getter
    constraints := (own after).filterMap Step.constraint?
    cascade := (own after).any Step.isCascade }

/-- What the declarations of a script describe, in turn. -/
def declarations : List Step → List Property
  | [] => []
  | .property name declaredType getter :: rest =>
    described name declaredType getter rest :: declarations rest
  | _ :: rest => declarations rest

theorem map_name_declarations (steps : List Step) :
    (declarations steps).map (·.name) = declared steps := by
  induction steps with
  | nil => rfl
  | cons step rest ih =>
    cases step with
    | property name declaredType getter => exact congrArg (name :: ·) ih
    | constraint c => exact ih
    | cascade => exact ih

/-- Steps without a declaration describe nothing. -/
theorem declarations_append_of_idle {idle : List Step} (h : ∀ step ∈ idle, step.name? = none)
    (steps : List Step) : declarations (idle ++ steps) = declarations steps := by
  induction idle with
  | nil => rfl
  | cons step rest ih =>
    obtain ⟨hstep, hrest⟩ := List.forall_mem_cons.1 h
    cases step with
    | property name declaredType getter => cases hstep
    | constraint c => exact ih hrest
    | cascade => exact ih hrest

theorem extended_nil (p : Property) : extended p [] = p := by
  simp [extended, own]

theorem extended_property (p : Property) (name : String) (declaredType : TypeTag) (getter : Getter)
    (rest : List Step) : extended p (.property name declaredType getter :: rest) = p := by
  simp [extended, own, Step.name?]

theorem extended_constraint (p : Property) (c : Constraint) (rest : List Step) :
    extended p (.constraint c :: rest) =
      extended { p with constraints := p.constraints ++ [c] } rest := by
  simp [extended, own, Step.name?, Step.constraint?, Step.isCascade]

theorem extended_cascade (p : Property) (rest : List Step) :
    extended p (.cascade :: rest) = extended { p with cascade := true } rest := by
  have hown : own (.cascade :: rest) = .cascade :: own rest := rfl
  have hconstraint : Step.cascade.constraint? = none := rfl
  simp [extended, hown, hconstraint, Step.isCascade]

/-! ## Putting declarations in place -/

namespace Draft

variable {name : String}

/-- Puts properties in place one after the other. -/
def putAll (ps qs : List Property) : List Property := qs.foldl (fun ps q => put q ps) ps

theorem finished_finish (d : Draft) : d.finish.finished = putAll d.finished d.current.toList := by
  unfold finish
  cases d.current <;> rfl

/-- Taking the steps of a script is to put in place the current property, once the steps that
belong to it have been taken, and then what the script declares. -/
theorem finished_foldl_take (d : Draft) (steps : List Step) :
    (steps.foldl take d).finish.finished =
      putAll d.finished ((d.current.map (extended · steps)).toList ++ declarations steps) := by
  induction steps generalizing d with
  | nil =>
    have hid : (extended · []) = (id : Property → Property) := funext extended_nil
    rw [List.foldl_nil, finished_finish, hid, Option.map_id, declarations, List.append_nil, id]
  | cons step rest ih =>
    rw [List.foldl_cons, ih]
    cases step with
    | property name declaredType getter =>
      -- the current property has got all its steps, and a new one takes its place
      have hid : (extended · (.property name declaredType getter :: rest)) =
          (id : Property → Property) :=
        funext fun p => extended_property p name declaredType getter rest
      have hnew : extended { name, declaredType, getter } rest =
          described name declaredType getter rest := by
        simp [extended, described]
      simp only [take, finished_finish, hid, Option.map_id, Option.map_some, hnew, declarations,
        Option.toList_some, List.singleton_append, putAll, List.foldl_append, id]
    | constraint c =>
      simp only [take, declarations, Option.map_map, Function.comp_def, extended_constraint]
    | cascade =>
      simp only [take, declarations, Option.map_map, Function.comp_def, extended_cascade]

theorem names_put (p : Property) (ps : List Property) :
    (put p ps).map (·.name) =
      if p.name ∈ ps.map (·.name) then ps.map (·.name) else ps.map (·.name) ++ [p.name] := by
  induction ps with
  | nil => simp [put]
  | cons q rest ih =>
    unfold put
    by_cases h : q.name = p.name
    · simp [h]
    · have hne : p.name ≠ q.name := fun e => h e.symm
      rw [if_neg h, List.map_cons, ih]
      by_cases hmem : p.name ∈ rest.map (·.name)
      · rw [if_pos hmem, List.map_cons, if_pos (List.mem_cons_of_mem _ hmem)]
      · rw [if_neg hmem, List.map_cons, if_neg (by simpa [hne] using hmem), List.cons_append]

/-- A property put in place is found by its name, and the others as before. -/
theorem find?_put (p : Property) (ps : List Property) :
    (put p ps).find? (·.name = name) =
      if p.name = name then some p else ps.find? (·.name = name) := by
  induction ps with
  | nil => by_cases hname : p.name = name <;> simp [put, hname]
  | cons q rest ih =>
    unfold put
    by_cases h : q.name = p.name
    · rw [if_pos h]
      by_cases hname : p.name = name
      · simp [hname]
      · have hq : q.name ≠ name := fun e => hname (h ▸ e)
        simp [hname, hq]
    · rw [if_neg h]
      by_cases hq : q.name = name
      · have hname : p.name ≠ name := fun e => h (hq.trans e.symm)
        simp [hname, hq]
      · simp [hq, ih]

/-- Each name is there once, where it was first put. -/
theorem names_putAll (qs : List Property) :
    (putAll [] qs).map (·.name) = (qs.map (·.name)).eraseDups := by
  induction qs using List.reverseRecOn with
  | nil => rfl
  | append_singleton qs q ih =>
    have hput : putAll [] (qs ++ [q]) = put q (putAll [] qs) := by
      simp [putAll]
    rw [hput, names_put, ih, List.map_append, List.map_singleton, eraseDups_concat]
    simp only [List.mem_eraseDups, List.contains_iff_mem]

/-- The last property put under a name is found by it. -/
theorem find?_putAll (ps qs : List Property) :
    (putAll ps qs).find? (·.name = name) =
      (qs.reverse.find? (·.name = name)).or (ps.find? (·.name = name)) := by
  induction qs generalizing ps with
  | nil => rfl
  | cons q qs ih =>
    have hput : putAll ps (q :: qs) = putAll (put q ps) qs := rfl
    rw [hput, ih, find?_put, List.reverse_cons, List.find?_append, Option.or_assoc]
    by_cases h : q.name = name <;> simp [h]

end Draft

/-! ## Built introspections -/

/-- A built introspection puts what its script declares in place. -/
theorem properties_build (type : BeanType) (steps : List Step) :
    (build type steps).properties = Draft.putAll [] (declarations steps) :=
  Draft.finished_foldl_take {} steps

theorem eq_of_properties_eq {i j : Introspection} (htype : i.beanType = j.beanType)
    (h : i.properties = j.properties) : i = j := by
  cases i
  cases j
  cases htype
  cases h
  rfl

theorem find?_declarations_eq_none {name : String} {steps : List Step} :
    (declarations steps).reverse.find? (·.name = name) = none ↔ name ∉ declared steps := by
  rw [← map_name_declarations, List.find?_eq_none]
  simp

/-- The declarations of a script end with those of any rest of it. -/
theorem exists_declarations_append (before rest : List Step) :
    ∃ ps, declarations (before ++ rest) = ps ++ declarations rest := by
  induction before with
  | nil => exact ⟨[], rfl⟩
  | cons step before ih =>
    obtain ⟨ps, h⟩ := ih
    cases step with
    | property name declaredType getter =>
      exact ⟨described name declaredType getter (before ++ rest) :: ps, congrArg (_ :: ·) h⟩
    | constraint c => exact ⟨ps, h⟩
    | cascade => exact ⟨ps, h⟩

/-- A name that is declared is declared a last time. -/
theorem exists_last_declaration {name : String} {steps : List Step} (h : name ∈ declared steps) :
    ∃ before declaredType getter after,
      steps = before ++ .property name declaredType getter :: after ∧ name ∉ declared after := by
  induction steps with
  | nil => cases h
  | cons step rest ih =>
    by_cases hrest : name ∈ declared rest
    · obtain ⟨before, declaredType, getter, after, rfl, hafter⟩ := ih hrest
      exact ⟨step :: before, declaredType, getter, after, rfl, hafter⟩
    · cases step with
      | property declaredName declaredType getter =>
        obtain rfl | hmem := List.mem_cons.1 h
        · exact ⟨[], declaredType, getter, rest, rfl, hrest⟩
        · exact absurd hmem hrest
      | constraint c => exact absurd h hrest
      | cascade => exact absurd h hrest

/-- Of the declarations of a name the last one counts. -/
theorem property?_build_of_last {name : String} {declaredType : TypeTag} {getter : Getter}
    {after : List Step} (h : name ∉ declared after) (type : BeanType) (before : List Step) :
    (build type (before ++ .property name declaredType getter :: after)).property? name =
      some (described name declaredType getter after) := by
  obtain ⟨ps, hps⟩ :=
    exists_declarations_append before (.property name declaredType getter :: after)
  have hnone := find?_declarations_eq_none.2 h
  have hname : (described name declaredType getter after).name = name := rfl
  rw [property?, properties_build, Draft.find?_putAll, hps, declarations, List.reverse_append,
    List.reverse_cons, List.find?_append, List.find?_append, hnone,
    List.find?_cons_of_pos (by simp [hname])]
  rfl

theorem property?_build_eq_none {name : String} {steps : List Step} (h : name ∉ declared steps)
    (type : BeanType) : (build type steps).property? name = none := by
  rw [property?, properties_build, Draft.find?_putAll, find?_declarations_eq_none.2 h]
  rfl

theorem property?_build_eq_some_iff {type : BeanType} {steps : List Step} {name : String}
    {p : Property} :
    (build type steps).property? name = some p ↔
      ∃ before declaredType getter after,
        steps = before ++ .property name declaredType getter :: after ∧ name ∉ declared after ∧
          p = described name declaredType getter after := by
  constructor
  · intro h
    have hmem : name ∈ declared steps := Decidable.byContradiction fun hnot => by
      rw [property?_build_eq_none hnot] at h
      cases h
    obtain ⟨before, declaredType, getter, after, rfl, hafter⟩ := exists_last_declaration hmem
    rw [property?_build_of_last hafter] at h
    exact ⟨before, declaredType, getter, after, rfl, hafter, (Option.some.inj h).symm⟩
  · rintro ⟨before, declaredType, getter, after, rfl, hafter, rfl⟩
    exact property?_build_of_last hafter type before

theorem property?_eq_some_iff {i : Introspection} {name : String} {p : Property} :
    i.property? name = some p ↔ p ∈ i.properties ∧ p.name = name := by
  refine ⟨mem_of_property?, ?_⟩
  rintro ⟨hp, rfl⟩
  exact property?_eq_some hp

theorem isUnconstrained_iff {i : Introspection} :
    i.isUnconstrained = true ↔ ∀ p ∈ i.properties, p.constraints = [] ∧ p.cascade = false := by
  simp only [isUnconstrained, constrained, cascading, Bool.and_eq_true, List.isEmpty_iff,
    List.filter_eq_nil_iff, ← forall_and, Property.isConstrained, Bool.not_eq_true,
    Bool.not_eq_false']

/-- A built introspection replays its script.  It has each declared name once, in the order of the
first declarations.  A property is what the last declaration of its name says, with the constraints
and the mark given between that declaration and the next one.  Steps before the first declaration
change nothing, and the views of the introspection are those of this list of properties. -/
theorem build_replays (type : BeanType) (steps : List Step) :
    (build type steps).beanType = type ∧
    (build type steps).properties.map (·.name) = (declared steps).eraseDups ∧
    (∀ name p, (build type steps).property? name = some p ↔
      ∃ before declaredType getter after,
        steps = before ++ .property name declaredType getter :: after ∧ name ∉ declared after ∧
          p = { name, declaredType, getter
                constraints := (own after).filterMap Step.constraint?
                cascade := (own after).any Step.isCascade }) ∧
    (∀ idle : List Step, (∀ step ∈ idle, step.name? = none) →
      build type (idle ++ steps) = build type steps) ∧
    (∀ name p, (build type steps).property? name = some p ↔
      p ∈ (build type steps).properties ∧ p.name = name) ∧
    (build type steps).constrained =
      (build type steps).properties.filter (fun p => p.constraints ≠ []) ∧
    (build type steps).cascading = (build type steps).properties.filter (·.cascade) ∧
    ((build type steps).isUnconstrained = true ↔
      ∀ p ∈ (build type steps).properties, p.constraints = [] ∧ p.cascade = false) := by
  refine ⟨rfl, ?_, fun _ _ => property?_build_eq_some_iff, fun idle h => ?_,
    fun _ _ => property?_eq_some_iff, ?_, rfl, isUnconstrained_iff⟩
  · rw [properties_build, Draft.names_putAll, map_name_declarations]
  · refine eq_of_properties_eq rfl ?_
    rw [properties_build, properties_build, declarations_append_of_idle h]
  · refine List.filter_congr fun p _ => ?_
    rw [Bool.eq_iff_iff]
    simp [Property.isConstrained]

/-- A name that is declared again keeps its place and takes what it is declared as last. -/
example :
    (build ⟨"Order", "model::Order"⟩
      [.cascade, .property "code" .str (.field "code"), .constraint (.ofKind .notBlank),
        .property "lines" .list (.field "lines"), .cascade,
        .property "code" .int (.field "number"), .constraint (.min 1), .constraint (.max 9)]
      ).properties.map (fun p => (p.name, p.declaredType, p.constraints.length, p.cascade)) =
      [("code", .int, 2, false), ("lines", .list, 0, true)] := rfl

end BeanGraph.Introspection
