import BeanGraph.Proofs.Completion
import BeanGraph.Proofs.Nodes
import BeanGraph.Proofs.NullValue
import BeanGraph.Proofs.Settling
import BeanGraph.Proofs.Touring

/-!
# Null elements

A null in the container of a cascade property is checked against the constraints of the property.
Null has no type of its own, so their routines are those for the declared type of the property,
which is the type of the container and not of its elements.  A constraint that rejects null rejects
a null element if it has a routine for that type, and else it is passed over.

* `held_null_iff`: the nulls that the containers hold;
* `Activated.value_null`: in a validation that goes well each of them is checked;
* `null_element_rejected_iff`: which constraints reject it;
* `null_name_not_blank`: a null among names that are not to be blank.
-/

namespace BeanGraph

open Call
open ConstraintKind (nullRejecting)

/-- A container holds a null, at a place. -/
inductive Value.HoldsNull : Value → Element → Prop
  | item {items j} (h : items[j]? = some .null) : HoldsNull (.list items) (.indexed j)
  | member {items} (h : .null ∈ items) : HoldsNull (.set items) .iterable
  | entry {entries key} (h : (key, .null) ∈ entries) : HoldsNull (.map entries) (.keyed key)
  | wrapped : HoldsNull (.optional (some .null)) .single

/-- A kind that rejects null has a built-in routine for a declared type. -/
def ConstraintKind.RejectsNull (kind : ConstraintKind) (declaredType : TypeTag) : Prop :=
  kind = .notNull ∨ kind = .notEmpty ∧ declaredType ∈ RoutineRegistry.sized ∨
    kind = .notBlank ∧ declaredType = .str

theorem RoutineRegistry.isSome_find?_nullRejecting {engine : Pattern.Engine} {kind : ConstraintKind}
    (h : kind ∈ nullRejecting) (declaredType : TypeTag) :
    ((builtIn engine).find? kind declaredType).isSome = true ↔ kind.RejectsNull declaredType := by
  simp only [nullRejecting, List.mem_cons, List.not_mem_nil, or_false] at h
  rcases h with rfl | rfl | rfl
  · exact iff_of_true (by cases declaredType <;> rfl) (.inl rfl)
  · have hlimited : (ConstraintKind.notEmpty, sized) ∈ limited := by simp [limited]
    rw [isSome_find?_builtIn hlimited]
    simp [ConstraintKind.RejectsNull, ConstraintKind.notNull, ConstraintKind.notEmpty,
      ConstraintKind.notBlank]
  · have hlimited : (ConstraintKind.notBlank, [TypeTag.str]) ∈ limited := by simp [limited]
    rw [isSome_find?_builtIn hlimited]
    simp [ConstraintKind.RejectsNull, ConstraintKind.notNull, ConstraintKind.notEmpty,
      ConstraintKind.notBlank]

/-- Paths that are the same have last nodes of the same name, for an element or for none. -/
theorem Path.last_hop_of_eq {hops hops' : List Hop} {hop hop' : Hop}
    (h : Path.along (hops ++ [hop]) = Path.along (hops' ++ [hop'])) :
    hop.name = hop'.name ∧ hop.element?.isSome = hop'.element?.isSome := by
  have hlast := congrArg (fun path : Path => path.nodes.getLast?) h
  simp only [nodes_along_append_singleton, List.getLast?_concat, Option.some.injEq] at hlast
  have hname := congrArg PathNode.name hlast
  have helement := congrArg PathNode.isElement hlast
  change hop.node.name = hop'.node.name at hname
  change hop.node.isElement = hop'.node.isElement at helement
  rw [hop.name_node, hop'.name_node] at hname
  rw [hop.isElement_node, hop'.isElement_node] at helement
  exact ⟨hname, helement⟩

namespace Validator

variable {v : Validator} {heap : Heap} {w : Value} {e : Element}

/-- The nulls among the cascade targets in a value are those that a container holds. -/
theorem held_null_iff (hextractors : v.extractors = .default) :
    (some e, .null) ∈ v.held heap w ↔ w.HoldsNull e := by
  have extracted (es : List Extracted) : (some e, Value.null) ∈
      es.map (fun x => (some x.element, x.value)) ↔ ⟨e, .null⟩ ∈ es := by
    simp only [List.mem_map, Prod.mk.injEq, Option.some.injEq]
    constructor
    · rintro ⟨⟨_, _⟩, hx, rfl, rfl⟩
      exact hx
    · intro hx
      exact ⟨_, hx, rfl, rfl⟩
  unfold held
  rw [hextractors]
  cases w with
  | list items =>
    refine (extracted (Extractor.list heap _)).trans ?_
    simp only [Extractor.list, List.mem_map, Extracted.mk.injEq]
    constructor
    · rintro ⟨⟨_, j⟩, hj, rfl, rfl⟩
      exact .item (List.mk_mem_zipIdx_iff_getElem?.1 hj)
    · intro h
      cases h with
      | item h => exact ⟨_, List.mk_mem_zipIdx_iff_getElem?.2 h, rfl, rfl⟩
  | set items =>
    refine (extracted (Extractor.set heap _)).trans ?_
    simp only [Extractor.set, List.mem_map, Extracted.mk.injEq]
    constructor
    · rintro ⟨_, h, rfl, rfl⟩
      exact .member h
    · intro h
      cases h with
      | member h => exact ⟨_, h, rfl, rfl⟩
  | map entries =>
    refine (extracted (Extractor.map heap _)).trans ?_
    simp only [Extractor.map, List.mem_map, Extracted.mk.injEq]
    constructor
    · rintro ⟨⟨key, _⟩, h, rfl, rfl⟩
      exact .entry h
    · intro h
      cases h with
      | entry h => exact ⟨(_, .null), h, rfl, rfl⟩
  | optional inner? =>
    refine (extracted (Extractor.optional heap _)).trans ?_
    cases inner? with
    | none => exact iff_of_false List.not_mem_nil (by rintro ⟨⟩)
    | some u =>
      simp only [Extractor.optional, List.mem_singleton, Extracted.mk.injEq]
      constructor
      · rintro ⟨rfl, rfl⟩
        exact .wrapped
      · intro h
        cases h with
        | wrapped => exact ⟨rfl, rfl⟩
  | null => exact iff_of_false List.not_mem_nil (by rintro ⟨⟩)
  | bool | int | float | str | bytes | bean =>
    refine iff_of_false (fun h => ?_) (by rintro ⟨⟩)
    cases List.mem_singleton.1 h

variable {run : Run} {hops : List Hop} {i : Introspection} {b : Bean} {p : Property}
  {s t : Progress} {vs : ViolationSet}

/-! ## Null elements are checked -/

/-- A visit that succeeds goes into every element that its cascade properties hold. -/
theorem ComesTo.exists_element (hcomes : v.ComesTo heap i b s p w t)
    (hs : Walk.Succeeds (v.visit heap i b) s vs) {u : Value}
    (he : (some e, u) ∈ v.held heap w) :
    ∃ t', v.Calls heap (.visit i b) s [] (.element b p ⟨e, u⟩) t' := by
  obtain ⟨tag, extractor, htag, hextractor, he⟩ := (v.mem_held_some heap).1 he
  obtain ⟨earlier, later, hsplit⟩ := List.append_of_mem he
  have hcascade := hcomes.succeeds hs
  rw [cascade, htag] at hcascade
  dsimp only at hcascade
  rw [hextractor] at hcascade
  dsimp only at hcascade
  rw [Extractor.feed_eq_forM, hsplit] at hcascade
  obtain ⟨t', hearlier⟩ := hcascade.exists_before
  exact ⟨t', .element hcomes (by rw [htag]; exact hextractor) hsplit hearlier⟩

/-- There is nothing to enter in a null element, so it is checked if the resolver permits it. -/
theorem Activated.value_null (permits : v.PermitsAll)
    (h : v.Activated heap run hops (.element b p ⟨e, .null⟩) s) :
    ∃ t, v.Activated heap run (hops ++ [⟨p.name, some e⟩]) (.value (some b) p .null) t := by
  obtain ⟨allowed, t, hpermits, -, hallowed⟩ :=
    permits_ends (v := v) .null .typeUse (s.hop ⟨p.name, some e⟩)
  obtain rfl : allowed = true := hallowed.2 fun target _ => permits target
  have target := h.call (.elementTarget rfl hpermits)
  have value := target.call (.targetValue (t := t) rfl)
  rw [List.append_nil] at value
  exact ⟨t, value⟩

/-! ## Which of them are rejected -/

/-- A violation is one that a constraint of a bean's property finds in a null element. -/
structure OfNullElement (b : Bean) (path : Path) (declaration : Nat) (c : Constraint)
    (x : Violation) : Prop where
  leaf : x.leaf? = some b
  path : x.path = path
  value : x.value = .null
  declaration : x.declaration = declaration
  constraint : (x.constraint == c) = true

/-- A violation at an element is found there in the element. -/
theorem Finding.at_element {root : Bean} {groups : List Group} {x : Violation}
    (h : Finding v heap root groups x) (hi : v.introspection? b.type = some i)
    (hp : p ∈ i.properties) (hleaf : x.leaf? = some b)
    (hpath : x.path = .along (hops ++ [⟨p.name, some e⟩])) :
    ∃ routine, v.Applies groups p x.value routine x.declaration x.constraint := by
  cases h with
  | value located hu hc rejected =>
    cases located with
    | value way path hw =>
      cases (Path.last_hop_of_eq (path.symm.trans hpath)).2
  | @target _ q _ _ routine _ _ _ located hu hc rejected =>
    cases located with
    | target way path hw hq hheld =>
      cases hleaf
      have hname := (Path.last_hop_of_eq (path.symm.trans hpath)).1
      obtain rfl := Introspection.eq_of_name_eq hp (hw.mem_properties hi) hname
      exact ⟨routine, hc⟩

/-- In a validation that goes well, of a graph that the resolver permits all of, every cascade
property of every bean that is visited is read, and of the constraints that reject null a null in
the container that it holds violates those whose kind has a built-in routine for the declared type
of the property, at the path of the element, and no others. -/
theorem null_element_rejected_iff {engine : Pattern.Engine}
    (hroutines : v.routines = .builtIn engine)
    (hextractors : v.extractors = .default) (permits : v.PermitsAll) {object : Value}
    {groups : List Group} {copies : Nat} {report : Report}
    (h : v.validate heap object groups copies = some report) (hvs : report.result = .ok vs)
    (reached : v.Activated heap (.validate object groups copies) hops (.visit i b) s)
    (hp : p ∈ i.cascading) :
    ∃ w t, v.ComesTo heap i b s p w t ∧ ∀ e, w.HoldsNull e →
      ∀ declaration c, (declaration, c) ∈ p.applicable groups → c.kind ∈ nullRejecting →
        ((∃ x ∈ vs.items,
            OfNullElement b (.along (hops ++ [⟨p.name, some e⟩])) declaration c x) ↔
          c.kind.RejectsNull p.declaredType) := by
  have hreport : v.report? heap (.validate object groups copies) = some report := h
  have hsucceeds := reached.succeeds hreport hvs
  obtain ⟨w, t, hcomes⟩ := exists_comesTo hsucceeds hp
  refine ⟨w, t, hcomes, fun e he declaration c hc hkind => ?_⟩
  rw [← RoutineRegistry.isSome_find?_nullRejecting hkind]
  constructor
  · rintro ⟨x, hx, hleaf, hpath, hvalue, rfl, hconstraint⟩
    obtain ⟨root, -, hfinding⟩ := finding_of_validate h hvs hx
    have hmem := (List.mem_filter.1 hp).1
    obtain ⟨routine, hmem', hroutine⟩ :=
      hfinding.at_element reached.begins.sound hmem hleaf hpath
    rw [hroutines, hvalue, (Constraint.beq_iff.1 hconstraint).1] at hroutine
    exact Option.isSome_iff_exists.2 ⟨routine, hroutine⟩
  · intro hsome
    obtain ⟨routine, hroutine⟩ := Option.isSome_iff_exists.1 hsome
    obtain ⟨u, helement⟩ := hcomes.exists_element hsucceeds ((held_null_iff hextractors).2 he)
    have element := reached.call helement
    rw [List.append_nil] at element
    obtain ⟨y, value⟩ := element.value_null permits
    have rejected : routine.check .null c y.context = .ok false := by
      rw [RoutineRegistry.check_null_of_builtIn hroutine, RoutineRegistry.nullAnswer, if_pos hkind]
    have hcontains := value.reported hreport hvs ⟨hc, by rw [hroutines]; exact hroutine⟩ rejected
    obtain ⟨x, hx, heq⟩ := ViolationSet.contains_iff.1 hcontains
    obtain ⟨hleaf, hpath, hvalue, hdeclaration⟩ := Violation.agrees_of_beq heq
    refine ⟨x, hx, hleaf.symm, hpath.symm.trans value.begins.path, hvalue.symm,
      hdeclaration.symm, ?_⟩
    obtain ⟨d, hd, rfl⟩ := Violation.beq_iff.1 heq
    exact BEq.symm hd

end Validator

/-! ## A null among names -/

namespace Names

/-- The type of orders. -/
def type : BeanType := ⟨"Order", "model::Order"⟩

/-- Names none of which is to be missing or blank. -/
def names : Property where
  name := "names"
  declaredType := .list
  getter := .field "names"
  constraints := [.ofKind .notNull, .ofKind .notBlank]
  cascade := true

/-- An order has names. -/
def introspection : Introspection := ⟨type, [names], by decide⟩

/-- Asks the built-in routines. -/
def validator : Validator where
  introspection? t := if t = type then some introspection else none

/-- An order. -/
def order : Bean := { label := "order", type }

/-- The one name of the order is null. -/
def heap : Heap := ⟨[(order, [("names", .list [.null])])]⟩

/-- The path of the name. -/
def path : Path := .along [⟨"names", some (.indexed 0)⟩]

/-- The only name is missing. -/
def missing : Violation :=
  .of { Context.forRoot order [] with path } (some order) 0 (.ofKind .notNull) .null

/-- A validation of the order finds this and no more. -/
theorem validate_order : ∃ report, validator.validate heap (.bean order) [] 0 = some report ∧
    report.result = .ok ⟨[missing]⟩ := by
  have hrun : ((validator.visitWithin heap 2 introspection order (.start order [] 0)).map
      fun done => (Report.of done).result) = some (.ok ⟨[missing]⟩) := by
    cbv
  obtain ⟨done, hdone, hresult⟩ := Option.map_eq_some_iff.1 hrun
  exact ⟨_, Validator.validate_of_within rfl hdone, hresult⟩

theorem visit_order :
    validator.Activated heap (.validate (.bean order) [] 0) [] (.visit introspection order)
      (.start order [] 0) :=
  .first (.visit rfl)

end Names

namespace Validator

open Names (names introspection validator order heap path missing)

/-- Of the constraints on the names the null violates the one that asks for a value. -/
theorem null_name_rejected : ∃ report vs w t,
    validator.validate heap (.bean order) [] 0 = some report ∧ report.result = .ok vs ∧
      validator.ComesTo heap introspection order (.start order [] 0) names w t ∧
      w.HoldsNull (.indexed 0) ∧
      ∃ x ∈ vs.items, OfNullElement order path 0 (.ofKind .notNull) x := by
  obtain ⟨report, hreport, hresult⟩ := Names.validate_order
  obtain ⟨w, t, hcomes, hrejected⟩ := null_element_rejected_iff (v := validator) rfl rfl
    (fun _ => ⟨rfl, rfl⟩) hreport hresult Names.visit_order (p := names) List.mem_cons_self
  have hw : w = .list [.null] := by
    cases hcomes with
    | intro hp hbefore hread =>
      cases hread
      rfl
  subst hw
  refine ⟨report, _, _, t, hreport, hresult, hcomes, .item rfl, ?_⟩
  have applies : (0, .ofKind .notNull) ∈ names.applicable [] := Property.mem_applicable.2 ⟨rfl, rfl⟩
  exact (hrejected _ (.item rfl) _ _ applies (by decide)).2 (.inl rfl)

/-- It does not violate the one that asks for a name that is not blank. -/
theorem null_name_not_blank :
    (1, .ofKind .notBlank) ∈ names.applicable [] ∧ (.list [.null] : Value).HoldsNull (.indexed 0) ∧
      ∃ report vs, validator.validate heap (.bean order) [] 0 = some report ∧
        report.result = .ok vs ∧
        ¬∃ x ∈ vs.items, OfNullElement order path 1 (.ofKind .notBlank) x := by
  obtain ⟨report, hreport, hresult⟩ := Names.validate_order
  refine ⟨Property.mem_applicable.2 ⟨rfl, rfl⟩, .item rfl, report, _, hreport, hresult, ?_⟩
  rintro ⟨x, hx, h⟩
  obtain rfl := List.mem_singleton.1 hx
  cases h.declaration

end Validator

end BeanGraph
