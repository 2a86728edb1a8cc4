import BeanGraph.Proofs.FirstEntry
import BeanGraph.Proofs.Parallel
import BeanGraph.Proofs.SingleProperty

/-!
# One more constraint

To declare one more constraint on a property adds its own violations to what a validation finds and
changes nothing else, though it may change much on the way: a type with nothing to validate is
entered now, a kind of constraint comes up that did not, and whatever a cascade property holds is
checked once more.

* `filter_askings`: of the routines that are asked, those for the other declarations are the same;
* `filter_found`: so is what an inspection finds for them;
* `parallel_declaring`, `parallel_undeclaring`: the validations go past the same beans;
* `declaring_only_adds`: what this comes to for their results.
-/

namespace BeanGraph

/-! ## Declaring a constraint -/

/-- The property with one more constraint, declared last. -/
def Property.declaring (p : Property) (c : Constraint) : Property :=
  { p with constraints := p.constraints ++ [c] }

/-- The property without the constraint declared last. -/
def Property.undeclaring (p : Property) : Property :=
  { p with constraints := p.constraints.dropLast }

/-- The validator for which a property of a type has one more constraint. -/
def Validator.declaring (v : Validator) (type : BeanType) (name : String) (c : Constraint) :
    Validator :=
  v.altering type name (·.declaring c) fun _ => rfl

/-- Whether a violation is of a declaration of a property of a type. -/
def Violation.isOf (x : Violation) (type : BeanType) (name : String) (declaration : Nat) : Bool :=
  x.leaf?.map (·.type) == some type && x.path.last?.map (·.name) == some name &&
    x.declaration == declaration

/-- The violations of a set that are not of a declaration of a property of a type. -/
def ViolationSet.without (vs : ViolationSet) (type : BeanType) (name : String)
    (declaration : Nat) : ViolationSet :=
  ⟨vs.items.filter fun x => !x.isOf type name declaration⟩

/-! ## What is asked for the other declarations -/

namespace Property

variable (p : Property) (c : Constraint) (groups : List Group)

theorem declarations_declaring :
    (p.declaring c).declarations = p.declarations ++ [(p.constraints.length, c)] := by
  simp [declarations, declaring, List.zipIdx_append]

theorem undeclaring_declaring : (p.declaring c).undeclaring = p := by
  simp [undeclaring, declaring]

theorem fst_lt_of_mem_declarations {p : Property} {d : Nat × Constraint}
    (h : d ∈ p.declarations) : d.1 < p.constraints.length := by
  obtain ⟨⟨c, n⟩, hmem, rfl⟩ := List.mem_map.1 h
  exact (List.getElem?_eq_some_iff.1 (List.mem_zipIdx_iff_getElem?.1 hmem)).1

/-- The kinds that come up are the same, or there is one more that did not come up before. -/
theorem kinds_declaring : (p.declaring c).kinds groups = p.kinds groups ∨
    (p.declaring c).kinds groups = p.kinds groups ++ [c.kind] ∧ c.kind ∉ p.kinds groups := by
  have happlicable : (p.declaring c).applicable groups = p.applicable groups ++
      [(p.constraints.length, c)].filter fun d => d.2.appliesTo groups := by
    rw [applicable, declarations_declaring, List.filter_append]
    rfl
  by_cases happlies : c.appliesTo groups = true
  · have hkinds : (p.declaring c).kinds groups = if (p.kinds groups).contains c.kind then
        p.kinds groups else p.kinds groups ++ [c.kind] := by
      rw [kinds, happlicable, List.foldl_append]
      simp [happlies, kinds]
    rw [hkinds]
    split
    · exact .inl rfl
    · rename_i hkind
      exact .inr ⟨rfl, by simpa using hkind⟩
  · have hnone : (p.declaring c).applicable groups = p.applicable groups := by
      simp [happlicable, happlies]
    exact .inl (by rw [kinds, hnone, kinds])

/-- Of the applicable declarations of a kind those before the last one are the same. -/
theorem filter_ofKind_declaring (kind : ConstraintKind) :
    ((p.declaring c).ofKind kind groups).filter (fun d => d.1 ≠ p.constraints.length) =
      p.ofKind kind groups := by
  have before : ∀ d ∈ p.declarations, decide (d.1 ≠ p.constraints.length) = true := fun d hd =>
    decide_eq_true (fst_lt_of_mem_declarations hd).ne
  have after : [(p.constraints.length, c)].filter (fun d => d.1 ≠ p.constraints.length) = [] := by
    simp
  rw [ofKind, List.filter_comm, declarations_declaring, List.filter_append,
    List.filter_eq_self.2 before, after, List.append_nil, ofKind]

end Property

namespace Validator

variable {v : Validator} {heap : Heap} {root b : Bean} {groups : List Group} {i i' : Introspection}
  {type : BeanType} {name : String} {p : Property} {c : Constraint} {path : Path} {u w : Value}

theorem asked_of_fresh {kind : ConstraintKind} (fresh : kind ∉ p.kinds groups) (u : Value) :
    v.asked groups p u kind = [] := by
  have hnone : p.ofKind kind groups = [] := by
    refine List.eq_nil_iff_forall_not_mem.2 fun d hd => fresh ?_
    obtain ⟨happlicable, hkind⟩ := Property.mem_ofKind.1 hd
    exact Property.mem_kinds.2 ⟨d, happlicable, hkind⟩
  rw [asked, hnone]
  split <;> rfl

theorem filter_asked (p : Property) (c : Constraint) (u : Value) (kind : ConstraintKind) :
    (v.asked groups (p.declaring c) u kind).filter
        (fun asking => asking.2.1 ≠ p.constraints.length) = v.asked groups p u kind := by
  have htype : (p.declaring c).declaredType = p.declaredType := rfl
  unfold asked
  rw [htype]
  cases v.routines.find? kind (u.runtimeType?.getD p.declaredType) with
  | none => rfl
  | some routine =>
    dsimp only
    rw [← p.filter_ofKind_declaring c groups kind, List.filter_map]
    rfl

/-- Of the routines that are asked, those for the declarations before the last one are the same. -/
theorem filter_askings (p : Property) (c : Constraint) (u : Value) :
    (v.askings groups (p.declaring c) u).filter (fun asking => asking.2.1 ≠ p.constraints.length) =
      v.askings groups p u := by
  rw [askings_eq, List.filter_flatMap, List.flatMap_congr fun kind _ => filter_asked p c u kind,
    askings_eq]
  obtain hkinds | ⟨hkinds, fresh⟩ := p.kinds_declaring c groups
  · rw [hkinds]
  · rw [hkinds, List.flatMap_append, List.flatMap_singleton, asked_of_fresh fresh, List.append_nil]

/-! ## What is found for the other declarations -/

/-- A violation is of the declaration that it has been found for. -/
theorem isOf_of_iff {x : Inspection} (hname : x.path.last?.map (·.name) = some x.property.name)
    {d n : Nat} :
    (Violation.of (.during root groups x.path []) (some x.leaf) d c x.value).isOf type name n =
      true ↔ x.leaf.type = type ∧ x.property.name = name ∧ d = n := by
  simp [Violation.isOf, Violation.of, Context.during, hname, and_assoc]

/-- What an inspection finds is found for the routines that are asked. -/
theorem found_inspect (dependable : v.Dependable) (x : Inspection) :
    (v.inspect root groups x).found = (v.askings groups x.property x.value).flatMap
      fun (routine, d, c) =>
        (routine.verdict (.during root groups x.path []) (some x.leaf) d c x.value).found := by
  have hok : ∃ found, v.inspect root groups x = .ok found := dependable.inspect_eq_ok x
  obtain ⟨found, hfound⟩ := hok
  rw [hfound, (Verdict.all_eq_ok_iff.1 hfound).2, List.flatMap_map]
  rfl

/-- A property of a type is altered in a way, and no other one is. -/
def alteredAt (type : BeanType) (name : String) (alter : Property → Property) (b : Bean)
    (p : Property) : Property :=
  if b.type = type ∧ p.name = name then alter p else p

theorem name_alteredAt (type : BeanType) (name : String) (alter : Property → Property)
    (keeps : ∀ p, (alter p).name = p.name) (b : Bean) (p : Property) :
    (alteredAt type name alter b p).name = p.name := by
  unfold alteredAt
  split
  · exact keeps p
  · rfl

/-- Of what an inspection finds, what is not of the constraint declared last has been found without
it. -/
theorem filter_found (dependable : v.Dependable) (hi : v.introspection? type = some i)
    (hp : p ∈ i.properties) (hj : v.introspection? b.type = some i') {q : Property}
    (hq : q ∈ i'.properties) (hname : path.last?.map (·.name) = some q.name) :
    (v.inspect root groups
        ⟨b, alteredAt type p.name (·.declaring c) b q, path, u⟩).found.filter
          (fun y => !y.isOf type p.name p.constraints.length) =
      (v.inspect root groups ⟨b, q, path, u⟩).found := by
  by_cases hsame : b.type = type ∧ q.name = p.name
  · obtain ⟨rfl, hqp⟩ := hsame
    obtain rfl := Option.some.inj (hi.symm.trans hj)
    obtain rfl := Introspection.eq_of_name_eq hp hq hqp
    have haltered : alteredAt b.type q.name (·.declaring c) b q = q.declaring c :=
      if_pos ⟨rfl, rfl⟩
    rw [haltered, found_inspect dependable, found_inspect dependable ⟨b, q, path, u⟩,
      ← filter_askings q c u]
    refine filter_flatMap_of_forall fun (routine, d, c') _ y hy => ?_
    obtain rfl := Routine.eq_of_mem_verdict hy
    have hof := @isOf_of_iff root groups b.type q.name c' ⟨b, q, path, u⟩ hname d
      q.constraints.length
    rw [Bool.eq_iff_iff, Bool.not_eq_true', Bool.eq_false_iff, Ne, hof, decide_eq_true_iff]
    simp
  · have hnone : alteredAt type p.name (·.declaring c) b q = q := if_neg hsame
    rw [hnone]
    apply List.filter_eq_self.2
    intro y hy
    obtain ⟨d, c', -, rfl⟩ := mem_found hy
    rw [Bool.not_eq_true', Bool.eq_false_iff]
    intro hof
    obtain ⟨htype, hqp, -⟩ := (isOf_of_iff hname).1 hof
    exact hsame ⟨htype, hqp⟩

/-! ## What a bean leads to -/

/-- An introspection describes the properties of another one, with other constraints. -/
structure Altered (f : Property → Property) (i i' : Introspection) : Prop where
  beanType : i'.beanType = i.beanType
  properties : i'.properties = i.properties.map f
  only : ∀ p, ∃ constraints, f p = { p with constraints }

section Altered

variable {f : Property → Property} (altered : Altered f i i')
include altered

theorem Altered.get (p : Property) : i'.get (f p) heap b = i.get p heap b := by
  obtain ⟨constraints, hp⟩ := altered.only p
  rw [hp, Introspection.get, Introspection.get, Introspection.read, Introspection.read,
    altered.beanType]

theorem Altered.approaches (p : Property) :
    v.approaches heap (f p) (i'.get (f p) heap b) =
      (v.approaches heap p (i.get p heap b)).map (Errand.map f) := by
  rw [altered.get, Validator.approaches, Validator.approaches, List.map_map]
  rfl

theorem Altered.cascading : i'.cascading = i.cascading.map f := by
  have hcascade (p : Property) : (f p).cascade = p.cascade := by
    obtain ⟨constraints, hp⟩ := altered.only p
    rw [hp]
  rw [Introspection.cascading, altered.properties, List.filter_map]
  exact congrArg (List.map f) (List.filter_congr fun p _ => hcascade p)

theorem Altered.agenda :
    v.agenda heap i' b i'.errands = (v.agenda heap i b i.errands).map (Errand.map f) := by
  rw [agenda_errands, agenda_errands, altered.cascading, List.flatMap_map, List.map_flatMap]
  exact List.flatMap_congr fun p _ => altered.approaches p

theorem Altered.propertyInspections (p : Property) :
    v.propertyInspections heap b path (f p) (i'.get (f p) heap b) =
      (v.propertyInspections heap b path p (i.get p heap b)).map
        fun x => { x with property := f x.property } := by
  have hsubjects : v.subjects heap (f p) (i.get p heap b) = v.subjects heap p (i.get p heap b) := by
    obtain ⟨constraints, hp⟩ := altered.only p
    rw [hp]
    rfl
  have hbelow : path.below (f p) none = path.below p none := by
    obtain ⟨constraints, hp⟩ := altered.only p
    rw [hp]
    rfl
  rw [altered.get, Validator.propertyInspections, Validator.propertyInspections, hsubjects, hbelow,
    List.map_map]
  rfl

end Altered

theorem exists_constraints_alteredAt {alter : Property → Property}
    (only : ∀ p, ∃ constraints, alter p = { p with constraints }) (b : Bean) (p : Property) :
    ∃ constraints, alteredAt type name alter b p = { p with constraints } := by
  unfold alteredAt
  split
  · exact only p
  · exact ⟨p.constraints, rfl⟩

theorem altered_declaring (hi : v.introspection? b.type = some i)
    (hi' : (v.declaring type name c).introspection? b.type = some i') :
    Altered (alteredAt type name (·.declaring c) b) i i' := by
  have only (p : Property) : ∃ constraints,
      alteredAt type name (·.declaring c) b p = { p with constraints } :=
    exists_constraints_alteredAt (fun _ => ⟨_, rfl⟩) b p
  by_cases htype : b.type = type
  · subst htype
    obtain rfl := Option.some.inj ((introspection?_altering hi).symm.trans hi')
    refine ⟨rfl, List.map_congr_left fun p _ => ?_, only⟩
    simp [alteredAt]
  · obtain rfl := Option.some.inj
      (hi.symm.trans ((introspection?_altering_of_ne htype).symm.trans hi'))
    have hsame : alteredAt type name (·.declaring c) b = id :=
      funext fun p => if_neg fun h => htype h.1
    exact ⟨rfl, by rw [hsame, List.map_id], only⟩

theorem alteredAt_undeclaring_declaring (b : Bean) (p : Property) :
    alteredAt type name (·.undeclaring) b (alteredAt type name (·.declaring c) b p) = p := by
  unfold alteredAt
  by_cases h : b.type = type ∧ p.name = name
  · have hname : (p.declaring c).name = name := h.2
    rw [if_pos h, if_pos ⟨h.1, hname⟩]
    exact p.undeclaring_declaring c
  · rw [if_neg h, if_neg h]

theorem altered_undeclaring (hi : v.introspection? b.type = some i)
    (hi' : (v.declaring type name c).introspection? b.type = some i') :
    Altered (alteredAt type name (·.undeclaring) b) i' i := by
  have altered := altered_declaring hi hi'
  have hback : alteredAt type name (·.undeclaring) b ∘ alteredAt type name (·.declaring c) b = id :=
    funext fun p => alteredAt_undeclaring_declaring b p
  refine ⟨altered.beanType.symm, ?_, exists_constraints_alteredAt (fun _ => ⟨_, rfl⟩) b⟩
  rw [altered.properties, List.map_map, hback, List.map_id]

/-! ## Validations -/

/-- What is found when a bean is entered, property by property: an unconstrained one adds
nothing. -/
theorem recorded_ownInspections :
    v.recorded root groups (v.ownInspections heap i b path) =
      i.properties.flatMap fun p =>
        v.recorded root groups (v.propertyInspections heap b path p (i.get p heap b)) := by
  have hconstrained : ∀ p ∈ i.properties,
      ∀ y ∈ v.recorded root groups (v.propertyInspections heap b path p (i.get p heap b)),
        true = p.isConstrained := by
    intro p _ y hy
    cases hp : p.isConstrained with
    | true => rfl
    | false =>
      rw [recorded_of_unconstrained hp] at hy
      cases hy
  have hkept := filter_flatMap_of_forall hconstrained
  rw [List.filter_true] at hkept
  rw [hkept, recorded, ownInspections, List.flatMap_assoc]
  rfl

section Declaring

variable (dependable : v.Dependable) (hi : v.introspection? type = some i) (hp : p ∈ i.properties)
include dependable hi hp

/-- Of what is found when a bean is entered, what is not of the constraint declared last has been
found without it. -/
theorem filter_recorded_ownInspections {j j' : Introspection}
    (hj : v.introspection? b.type = some j)
    (altered : Altered (alteredAt type p.name (·.declaring c) b) j j') :
    (v.recorded root groups (v.ownInspections heap j' b path)).filter
        (fun y => !y.isOf type p.name p.constraints.length) =
      v.recorded root groups (v.ownInspections heap j b path) := by
  rw [recorded_ownInspections, recorded_ownInspections, altered.properties, List.flatMap_map,
    List.filter_flatMap]
  refine List.flatMap_congr fun q hq => ?_
  rw [altered.propertyInspections, recorded, List.flatMap_map, List.filter_flatMap, recorded]
  refine List.flatMap_congr fun x hx => ?_
  obtain ⟨u, -, rfl⟩ := List.mem_map.1 hx
  exact filter_found dependable hi hp hj hq (path.name_last?_descend ⟨q.name, none⟩)

theorem parallel_declaring (root : Bean) (groups : List Group) :
    Parallel v (v.declaring type p.name c) heap true root (fun _ => True)
      (alteredAt type p.name (·.declaring c)) fun xs ys =>
        (v.recorded root groups ys).filter (fun y => !y.isOf type p.name p.constraints.length) =
          v.recorded root groups xs where
  resolver := rfl
  known := v.known_altering type p.name _ _
  name := name_alteredAt _ _ _ fun _ => rfl
  below _ _ _ _ := trivial
  nil := rfl
  append xs ys xs' ys' h h' := by rw [recorded_append, recorded_append, List.filter_append, h, h']
  target b j hj path q element? u due := by
    rw [recorded, List.flatMap_singleton, recorded, List.flatMap_singleton]
    exact filter_found dependable hi hp hj (List.mem_filter.1 due.1).1
      (path.name_last?_descend ⟨q.name, element?⟩)
  enter b j j' _ hj hj' path visited stages left? h := by
    have altered := altered_declaring hj hj'
    have htour : (v.declaring type p.name c).Tour heap true root b path j'.errands visited stages
        left? := by
      refine .of_agenda hj' ?_
      rwa [altered.agenda]
    refine ⟨stages, htour, fun xs hxs => ?_⟩
    rw [recorded_append, recorded_append, List.filter_append, hxs]
    exact congrArg (· ++ _) (filter_recorded_ownInspections dependable hi hp hj altered)

theorem parallel_undeclaring (root : Bean) (groups : List Group) :
    Parallel (v.declaring type p.name c) v heap true root (fun _ => True)
      (alteredAt type p.name (·.undeclaring)) fun xs ys =>
        (v.recorded root groups xs).filter (fun y => !y.isOf type p.name p.constraints.length) =
          v.recorded root groups ys where
  resolver := rfl
  known t := (v.known_altering type p.name _ _ t).symm
  name := name_alteredAt _ _ _ fun _ => rfl
  below _ _ _ _ := trivial
  nil := rfl
  append xs ys xs' ys' h h' := by rw [recorded_append, recorded_append, List.filter_append, h, h']
  target b j' hj' path q' element? u due := by
    obtain ⟨j, hj, -⟩ := Option.map_eq_some_iff.1 hj'
    have hq' := (List.mem_filter.1 due.1).1
    rw [(altered_declaring hj hj').properties] at hq'
    obtain ⟨q, hq, rfl⟩ := List.mem_map.1 hq'
    have hsame := name_alteredAt type p.name (·.declaring c) (fun _ => rfl) b q
    have hname : (path.below (alteredAt type p.name (·.declaring c) b q) element?).last?.map
        (·.name) = some q.name :=
      (path.name_last?_descend ⟨_, element?⟩).trans (congrArg some hsame)
    rw [recorded, List.flatMap_singleton, recorded, List.flatMap_singleton,
      alteredAt_undeclaring_declaring]
    exact filter_found dependable hi hp hj hq hname
  enter b j' j _ hj' hj path visited stages left? h := by
    have htour : v.Tour heap true root b path j.errands visited stages left? := by
      refine .of_agenda hj ?_
      rwa [(altered_undeclaring hj hj').agenda]
    refine ⟨stages, htour, fun xs hxs => ?_⟩
    rw [recorded_append, recorded_append, List.filter_append, hxs]
    exact congrArg (· ++ _)
      (filter_recorded_ownInspections dependable hi hp hj (altered_declaring hj hj'))

end Declaring

/-- Less what is of the constraint declared last, the violations found come to those found without
it. -/
theorem outcome_without (dependable : v.Dependable) {declaration : Nat} {xs ys : List Inspection}
    (h : (v.recorded root groups ys).filter (fun y => !y.isOf type name declaration) =
      v.recorded root groups xs) :
    ((v.declaring type name c).outcome root groups ys).map (·.without type name declaration) =
      v.outcome root groups xs := by
  have alike : ∀ x y : Violation, (x == y) = true →
      (!x.isOf type name declaration) = !y.isOf type name declaration := by
    intro x y hxy
    obtain ⟨hleaf, hpath, -, hdeclaration⟩ := Violation.agrees_of_beq hxy
    rw [Violation.isOf, Violation.isOf, hleaf, hpath, hdeclaration]
  have hnew : (v.declaring type name c).outcome root groups ys =
      .ok (.insertAll .empty (v.recorded root groups ys)) :=
    congrArg (Except.map _) (dependable.all_inspect ys)
  rw [hnew, outcome, dependable.all_inspect, ← h]
  exact congrArg (fun items => Except.ok (ViolationSet.mk items))
    (ViolationSet.filter_insertAll alike .empty _)

/-- To declare one more constraint on a property changes what a validation finds by the violations
of that declaration alone: less these, the result is the one without it.  The getters are to be
stable, and the routines neither fail nor look at the context. -/
theorem declaring_only_adds (v : Validator) (heap : Heap) (stable : v.Stable)
    (dependable : v.Dependable) {type : BeanType} {i : Introspection}
    (hi : v.introspection? type = some i) {p : Property} (hp : p ∈ i.properties) (c : Constraint)
    (object : Value) (groups : List Group) (copies copies' : Nat) :
    (v.validate heap object groups copies).map (·.result) =
        ((v.declaring type p.name c).validate heap object groups copies').map (fun report =>
          report.result.map (·.without type p.name p.constraints.length)) ∧
      ∀ report vs, (v.declaring type p.name c).validate heap object groups copies' = some report →
        report.result = .ok vs → ∀ x ∈ vs.items,
          x.isOf type p.name p.constraints.length = true → x.constraint = c := by
  have stable' : (v.declaring type p.name c).Stable := stable.altering fun _ => rfl
  have dependable' : (v.declaring type p.name c).Dependable := dependable
  have hok {root : Bean} {groups : List Group} {e : Failure} (xs : List Inspection) :
      Verdict.all (xs.map (v.inspect root groups)) ≠ .error e := by
    rw [dependable.all_inspect]
    exact nofun
  constructor
  · apply result_eq_of_corresponds
    · exact v.known_altering type p.name _ _
    · intro e
      rfl
    · rintro root j rfl hj result h
      obtain ⟨xs, ys, hrelated, rfl, hnew⟩ :=
        (parallel_declaring dependable hi hp root groups).exists_result trivial dependable.plain
          stable dependable'.plain stable' hj (fun xs _ _ _ he => absurd he (hok xs)) h
      exact ⟨_, outcome_without dependable hrelated, hnew⟩
    · rintro root j' rfl hj' result h
      obtain ⟨xs, ys, -, -, hold⟩ :=
        (parallel_undeclaring dependable hi hp root groups).exists_result trivial
          dependable'.plain stable' dependable.plain stable hj'
          (fun xs _ _ _ he => absurd he (hok xs)) h
      exact ⟨_, hold⟩
  · intro report vs hreport hvs x hx hof
    obtain ⟨root, j, rfl, hj⟩ := object_of_validate hreport hvs
    have hresult : ((v.declaring type p.name c).validate heap (.bean root) groups copies').map
        (·.result) = some (.ok vs) := by rw [hreport, Option.map_some, hvs]
    obtain ⟨stages, left?, hjourney, -, houtcome⟩ :=
      exists_journey_of_result dependable'.plain stable' hj hresult
    rw [outcome, dependable'.all_inspect] at houtcome
    obtain rfl := Except.ok.inj houtcome
    obtain ⟨y, hy, hxy⟩ := List.mem_flatMap.1 ((ViolationSet.mem_insertAll hx).resolve_left nofun)
    obtain ⟨j', hj', hproperty, hname⟩ := hjourney.sited hj hy
    obtain ⟨d, c', hc', rfl⟩ := mem_found hxy
    obtain ⟨rfl, hpname, rfl⟩ := (isOf_of_iff hname).1 hof
    obtain rfl := Option.some.inj ((introspection?_altering hi).symm.trans hj')
    have haltered : y.property = p.declaring c := Introspection.eq_alter hp hproperty hpname
    rw [haltered, Property.declaring, List.getElem?_concat_length] at hc'
    exact (Option.some.inj hc').symm

end Validator

/-! ## A second constraint in the ring -/

namespace Ring

theorem dependable : validator.Dependable := by
  intro kind tag routine h
  refine ⟨plain kind tag routine h, ?_⟩
  rw [routine_eq_notNull h]
  exact Routine.total_ofPredicate _ _

/-- The name must not be null, once more. -/
def again : Validator := validator.declaring type "name" (.ofKind .notNull)

/-- With the second constraint the third bean is reported for either one. -/
theorem validate_again :
    (again.validate heap (.bean first) [] 0).map (·.result) =
      some (.ok ⟨[missing, { missing with declaration := 1 }]⟩) := by
  obtain ⟨report, vs, hreport, hvs, hitems⟩ :
      ∃ report vs, again.validateGuarded heap true (.bean first) [] 0 = some report ∧
        report.result = .ok vs ∧ vs.items = [missing, { missing with declaration := 1 }] :=
    Validator.validateGuarded_of_within 4 rfl (by cbv)
  rw [← Validator.validateGuarded_true, hreport, Option.map_some, hvs, ← hitems]

end Ring

namespace Validator

theorem ring_with_second_constraint :
    (Ring.again.validate Ring.heap (.bean Ring.first) [] 0).map (·.result) =
        some (.ok ⟨[Ring.missing, { Ring.missing with declaration := 1 }]⟩) ∧
      (Ring.validator.validate Ring.heap (.bean Ring.first) [] 0).map (·.result) =
        some (.ok ⟨[Ring.missing]⟩) := by
  have hi : Ring.validator.introspection? Ring.type = some Ring.introspection := rfl
  have hp : Ring.name ∈ Ring.introspection.properties := List.mem_cons_self
  obtain ⟨hless, -⟩ := declaring_only_adds Ring.validator Ring.heap Ring.stable Ring.dependable hi
    hp (.ofKind .notNull) (.bean Ring.first) [] 0 0
  have hagain := Ring.validate_again
  refine ⟨hagain, ?_⟩
  obtain ⟨report, hreport, hresult⟩ := Option.map_eq_some_iff.1 hagain
  have hnew : (Ring.validator.declaring Ring.type Ring.name.name (.ofKind .notNull)).validate
      Ring.heap (.bean Ring.first) [] 0 = some report := hreport
  rw [hless, hnew, Option.map_some, hresult]
  rfl

end Validator

end BeanGraph
