import BeanGraph.Proofs.Findings

/-!
# What the path of a violation says

With stable getters a path can be followed in the graph: from the root each node denotes the next
bean, and the last one denotes the value found wrong, or what wraps it.

* `Route.denotes`: the nodes of a way denote the beans on it;
* `traced_of_validate`: the path of every violation leads from the root to its value.
-/

namespace BeanGraph.Validator

variable (v : Validator) (heap : Heap)

/-- A node denotes a value from a bean: the property that it names holds the value, or holds a
container with the value as the element in the place of the node. -/
def Denotes (b : Bean) (n : PathNode) (u : Value) : Prop :=
  ∃ i p, v.introspection? b.type = some i ∧ i.property? n.name = some p ∧
    match n.kind with
    | .property => u = i.get p heap b
    | .element place => ∃ tag extractor e, (i.get p heap b).runtimeType? = some tag ∧
      v.extractors.cascade.find? tag = some extractor ∧ e ∈ extractor heap (i.get p heap b) ∧
      e.element.place = place ∧ e.value = u

/-- A node of a property that does not cascade denotes a wrapper of a value from a bean. -/
def DenotesWrapper (b : Bean) (n : PathNode) (u : Value) : Prop :=
  ∃ i p tag unwrap, v.introspection? b.type = some i ∧ i.property? n.name = some p ∧
    n.kind = .property ∧ p.cascade = false ∧ (i.get p heap b).runtimeType? = some tag ∧
    v.extractors.unwrap.find? tag = some unwrap ∧
    ∃ e ∈ unwrap heap (i.get p heap b), e.value = u

/-- A path leads from a root through beans, none of them twice, to a value that a leaf bean holds or
wraps. -/
structure Traced (root leaf : Bean) (beans : List Bean) (path : Path) (u : Value) : Prop where
  length : beans.length = path.length
  starts : beans.head? = some root
  ends : beans.getLast? = some leaf
  nodup : beans.Nodup
  steps : ∀ j b n t, beans[j]? = some b → path.nodes[j]? = some n → beans[j + 1]? = some t →
    v.Denotes heap b n (.bean t)
  value : ∃ n, path.last? = some n ∧ (v.Denotes heap leaf n u ∨ v.DenotesWrapper heap leaf n u)

variable {v heap} {root b : Bean} {p : Property} {w u : Value} {hops : List Hop} {beans : List Bean}

/-! ## What nodes denote -/

theorem denotes_of_held (stable : v.Stable) {hop : Hop} (hw : v.Reads heap b p w)
    (hname : hop.name = p.name) (hu : (hop.element?, u) ∈ v.held heap w) (inIterable : Bool) :
    v.Denotes heap b (hop.node.within inIterable) u := by
  obtain ⟨i, hi, hp, rfl⟩ := hw.eq_get stable
  have hproperty := Introspection.property?_eq_some hp
  rw [← hname] at hproperty
  obtain ⟨name, element?⟩ := hop
  cases element? with
  | none => exact ⟨i, p, hi, hproperty, eq_of_mem_held_none v heap hu⟩
  | some e =>
    obtain ⟨tag, extractor, htag, hextractor, he⟩ := (mem_held_some v heap).1 hu
    exact ⟨i, p, hi, hproperty, tag, extractor, _, htag, hextractor, he, rfl, rfl⟩

/-- The constraints of a property are checked on what its node denotes, or on what that wraps. -/
theorem denotes_of_subject (stable : v.Stable) (hw : v.Reads heap b p w)
    (hu : u ∈ v.subjects heap p w) (inIterable : Bool) :
    v.Denotes heap b ((Hop.node ⟨p.name, none⟩).within inIterable) u ∨
      v.DenotesWrapper heap b ((Hop.node ⟨p.name, none⟩).within inIterable) u := by
  obtain ⟨i, hi, hp, rfl⟩ := hw.eq_get stable
  have hproperty := Introspection.property?_eq_some hp
  unfold subjects at hu
  split at hu
  · rename_i unwrap hunwrap
    unfold unwrapFor? at hunwrap
    split at hunwrap
    · cases hunwrap
    · rename_i hcascade
      obtain ⟨tag, htag, hunwrap⟩ := Option.bind_eq_some_iff.1 hunwrap
      obtain ⟨e, he, hvalue⟩ := List.mem_map.1 hu
      exact .inr ⟨i, p, tag, unwrap, hi, hproperty, rfl, by simpa using hcascade, htag, hunwrap,
        e, he, hvalue⟩
  · exact .inl ⟨i, p, hi, hproperty, List.mem_singleton.1 hu⟩

/-! ## Following a path -/

/-- Each node of a way denotes the next bean from the one before it. -/
theorem Route.denotes (stable : v.Stable) (h : v.Route heap root hops beans) {j : Nat} {b t : Bean}
    {n : PathNode} (hb : beans[j]? = some b) (hn : (Path.along hops).nodes[j]? = some n)
    (ht : beans[j + 1]? = some t) : v.Denotes heap b n (.bean t) := by
  have hj : j < hops.length := by
    have hlength := h.length_beans
    have hj := (List.getElem?_eq_some_iff.1 ht).1
    omega
  have hhop : hops[j]? = some hops[j] := List.getElem?_eq_getElem hj
  rw [Path.getElem?_nodes_along hhop, Option.some.injEq] at hn
  obtain ⟨p, w, hw, -, hname, hu⟩ := h.holds hhop hb ht
  rw [← hn]
  exact denotes_of_held stable hw hname hu _

/-- The path of a way and one more hop is traced if the last node denotes the value. -/
theorem traced_of_onWay (stable : v.Stable) {groups : List Group} {c : Context} {hop : Hop}
    (way : OnWay v heap root groups hops (beans ++ [b]) c)
    (hvalue : ∀ inIterable, v.Denotes heap b (hop.node.within inIterable) u ∨
      v.DenotesWrapper heap b (hop.node.within inIterable) u) :
    v.Traced heap root b (beans ++ [b]) (Path.along (hops ++ [hop])) u where
  length := by
    rw [way.route.length_beans, Path.length, Path.length_along, List.length_append]
    rfl
  starts := way.route.head_beans
  ends := List.getLast?_concat ..
  nodup := way.nodup
  steps j a n t ha hn ht := by
    have hj : j + 1 < (beans ++ [b]).length := (List.getElem?_eq_some_iff.1 ht).1
    rw [way.route.length_beans] at hj
    rw [Path.nodes_along_append_singleton, List.getElem?_append_left (by simp; omega)] at hn
    exact way.route.denotes stable ha hn ht
  value := by
    refine ⟨_, ?_, hvalue (hops.any Hop.isIterable)⟩
    rw [Path.last?, Path.nodes_along_append_singleton]
    exact List.getLast?_concat ..

/-- With stable getters, every violation that a validation reports has the root it started from, and
a path that leads from this root to the value found wrong, by beans of which the last one is its
leaf. -/
theorem traced_of_validate (v : Validator) (heap : Heap) (stable : v.Stable) {object : Value}
    {groups : List Group} {copies : Nat} {report : Report} {vs : ViolationSet} {x : Violation}
    (h : v.validate heap object groups copies = some report) (hvs : report.result = .ok vs)
    (hx : x ∈ vs.items) :
    ∃ root leaf beans, object = .bean root ∧ x.root? = some root ∧ x.leaf? = some leaf ∧
      v.Traced heap root leaf beans x.path x.value := by
  obtain ⟨root, hobject, hfinding⟩ := finding_of_validate h hvs hx
  cases hfinding with
  | @value b p w u routine declaration c context located hu _ _ =>
    cases located with
    | @value hops beans _ _ _ _ way path hw =>
      refine ⟨root, b, beans ++ [b], hobject, way.root, rfl, ?_⟩
      show v.Traced heap root b (beans ++ [b]) context.path u
      rw [path]
      exact traced_of_onWay stable way fun inIterable => denotes_of_subject stable hw hu inIterable
  | @target b p element? u routine declaration c context located _ _ _ =>
    cases located with
    | @target hops beans _ _ _ w _ _ way path hw _ hheld =>
      refine ⟨root, b, beans ++ [b], hobject, way.root, rfl, ?_⟩
      show v.Traced heap root b (beans ++ [b]) context.path u
      rw [path]
      exact traced_of_onWay stable way fun inIterable =>
        .inl (denotes_of_held stable hw rfl hheld inIterable)

theorem traced_ring :
    ∃ beans,
      Ring.validator.Traced Ring.heap Ring.first Ring.third beans Ring.missing.path .null := by
  obtain ⟨report, vs, h, hvs, hitems⟩ := Ring.validate_first
  have hmem : Ring.missing ∈ vs.items := hitems ▸ List.mem_cons_self
  obtain ⟨root, leaf, beans, hroot, -, hleaf, htraced⟩ :=
    traced_of_validate Ring.validator Ring.heap Ring.stable h hvs hmem
  cases hroot
  cases hleaf
  exact ⟨beans, htraced⟩

end BeanGraph.Validator
