import BeanGraph.Proofs.Entering
import BeanGraph.Proofs.Findings
import Mathlib.Data.List.Pairwise

/-!
# Where the violations of a bean are reported

A bean is entered at one path only, and all that is found wrong with its properties is reported one
node below this path.

* `Passage.logged`: a passage records violations one node below an entry of their leaf;
* `path_eq_of_entered`: a validation enters a bean at one path;
* `one_location_of_validate`: so the violations of one leaf have one parent path, and those of the
  root have a path of one node.
-/

namespace BeanGraph

open Call

theorem Path.length_of_parent?_root {path : Path} (h : path.parent? = some .root) :
    path.length = 1 := by
  obtain ⟨nodes⟩ := path
  cases nodes with
  | nil => cases h
  | cons n rest =>
    have hrest : (n :: rest).dropLast = [] := congrArg Path.nodes (Option.some.inj h)
    have hlength := congrArg List.length hrest
    rw [List.length_dropLast, List.length_cons, Nat.add_sub_cancel] at hlength
    exact congrArg (· + 1) hlength

namespace Validator

variable {v : Validator} {heap : Heap} {place : Place} {s t : Progress} {r : Except Failure Unit}
  {b : Bean} {hop : Hop}

/-! ## Entries above a place -/

/-- A call is at a bean that it has entered at the path in force, or one node below this path. -/
def Place.Anchored (s : Progress) : Place → Prop
  | .bean b => .entered b s.context.path ∈ s.events
  | .value leaf? _ _ =>
    ∃ b path, leaf? = some b ∧ s.context.path.parent? = some path ∧ .entered b path ∈ s.events
  | .target b _ _ _ => ∃ path, s.context.path.parent? = some path ∧ .entered b path ∈ s.events

/-- Every violation lies one node below the path of an entry of its leaf. -/
def Logged (s : Progress) : Prop :=
  ∀ x ∈ s.violations.items, ∃ b path, x.leaf? = some b ∧ x.path.parent? = some path ∧
    .entered b path ∈ s.events

theorem Place.Anchored.mono (h : place.Anchored s) (hpath : t.context.path = s.context.path)
    (hevents : ∀ e ∈ s.events, e ∈ t.events) : place.Anchored t := by
  cases place with
  | bean b =>
    show Event.entered b t.context.path ∈ t.events
    rw [hpath]
    exact hevents _ h
  | value leaf? p w =>
    obtain ⟨b, path, hleaf, hparent, hmem⟩ := h
    exact ⟨b, path, hleaf, hpath ▸ hparent, hevents _ hmem⟩
  | target b p element? u =>
    obtain ⟨path, hparent, hmem⟩ := h
    exact ⟨path, hpath ▸ hparent, hevents _ hmem⟩

theorem parent?_hop (hs : s.context.pending = none) (hop : Hop) :
    (s.hop hop).context.path.parent? = some s.context.path := by
  rw [Progress.context_hop hs]
  exact Path.parent?_descend ..

theorem Logged.mono (h : Logged s) (hviolations : t.violations = s.violations)
    (hevents : ∀ e ∈ s.events, e ∈ t.events) : Logged t := by
  intro x hx
  rw [hviolations] at hx
  obtain ⟨b, path, hleaf, hparent, hmem⟩ := h x hx
  exact ⟨b, path, hleaf, hparent, hevents _ hmem⟩

/-! ## What a passage records -/

theorem Logged.judge {leaf? : Option Bean} {routine : Routine} {declaration : Nat} {c : Constraint}
    {u : Value} (h : Logged s)
    (hplace : ∃ b path, leaf? = some b ∧ s.context.path.parent? = some path ∧
      .entered b path ∈ s.events) : Logged (judge leaf? routine declaration c u s).2 := by
  intro x hx
  rcases mem_violations_judge hx with hx | ⟨-, rfl⟩
  · obtain ⟨b, path, hleaf, hparent, hmem⟩ := h x hx
    exact ⟨b, path, hleaf, hparent, mem_events_judge hmem⟩
  · obtain ⟨b, path, hleaf, hparent, hmem⟩ := hplace
    exact ⟨b, path, hleaf, hparent, mem_events_judge hmem⟩

/-- What a passage records lies one node below an entry of its leaf. -/
theorem Passage.logged (h : v.Passage heap place s r t) (hs : s.context.pending = none)
    (hplace : place.Anchored s) (hlogged : Logged s) : Logged t := by
  induction h with
  | rest => exact hlogged
  | next h _ ih ih' =>
    have hframed := h.framed hs
    have hpath : _ = _ := congrArg Context.path hframed.context
    exact ih' (hframed.pending hs) (hplace.mono hpath fun _ => h.mem_events) (ih hs hplace hlogged)
  | read | mark => exact hlogged.mono rfl fun _ => id
  | note | ask => exact hlogged.mono rfl fun _ => Array.mem_push_of_mem _
  | @value b p w s _ _ _ _ ih =>
    exact ih (by rw [Progress.context_hop hs]) ⟨b, _, rfl, parent?_hop hs _, hplace⟩ hlogged
  | @target b p element? w u s _ _ _ _ _ _ ih =>
    exact ih (by rw [Progress.context_hop hs]) ⟨_, parent?_hop hs _, hplace⟩ hlogged
  | judge => exact hlogged.judge hplace
  | judgeTarget =>
    obtain ⟨path, hparent, hmem⟩ := hplace
    exact hlogged.judge ⟨_, path, rfl, hparent, hmem⟩
  | @enter b p element? u x i s _ _ _ _ _ _ ih =>
    refine ih ((Framed.visit s x).pending hs) ?_ (hlogged.mono rfl fun _ => Array.mem_push_of_mem _)
    exact Array.mem_push_self

/-! ## Validations -/

/-- If no bean is entered twice, a bean is entered at one path. -/
theorem path_eq_of_entered {events : List Event} (h : (events.filterMap Event.entered?).Nodup)
    {path path' : Path} (hb : .entered b path ∈ events) (hb' : .entered b path' ∈ events) :
    path = path' := by
  let Apart (e e' : Event) : Prop :=
    ∀ b, e.entered? = some b → ∀ b', e'.entered? = some b' → b ≠ b'
  have apart : events.Pairwise Apart := List.pairwise_filterMap.1 h
  have symm : Std.Symm Apart := ⟨fun _ _ h b hb b' hb' e => h b' hb' b hb e.symm⟩
  by_contra hne
  have hne : Event.entered b path ≠ .entered b path' := fun e => hne (Event.entered.inj e).2
  exact apart.forall hb hb' hne b rfl b rfl rfl

/-- In the result of a validation, violations with the same leaf bean have the same path once the
last node is dropped, and the violations of the root have a path of one node. -/
theorem one_location_of_validate (v : Validator) (heap : Heap) {object : Value}
    {groups : List Group} {copies : Nat} {report : Report} {vs : ViolationSet}
    (h : v.validate heap object groups copies = some report) (hvs : report.result = .ok vs) :
    (∀ x ∈ vs.items, ∀ y ∈ vs.items, x.leaf? = y.leaf? →
      ∃ parent, x.path.parent? = some parent ∧ y.path.parent? = some parent) ∧
    ∀ x ∈ vs.items, x.leaf?.map Value.bean = some object → x.path.length = 1 := by
  have once := (entered_of_validate h).1
  rcases passage_of_validate h with ⟨-, -, hnone⟩ | ⟨root, i, r, t, hsome, rfl, hpassage⟩
  · rw [hnone vs hvs]
    exact ⟨nofun, nofun⟩
  · obtain rfl := violations_of_result hvs
    have start : .entered root .root ∈ ((Progress.start root groups copies).enter root).events :=
      Array.mem_push_self
    have logged := hpassage.logged rfl start nofun
    have one {b : Bean} {path path' : Path} (hb : .entered b path ∈ t.events)
        (hb' : .entered b path' ∈ t.events) : path = path' :=
      path_eq_of_entered once (Array.mem_toList_iff.2 hb) (Array.mem_toList_iff.2 hb')
    refine ⟨fun x hx y hy hxy => ?_, fun x hx hleaf => ?_⟩
    · obtain ⟨b, path, hb, hparent, hmem⟩ := logged x hx
      obtain ⟨b', path', hb', hparent', hmem'⟩ := logged y hy
      obtain rfl : b = b' := Option.some.inj (hb.symm.trans (hxy.trans hb'))
      obtain rfl := one hmem hmem'
      exact ⟨path, hparent, hparent'⟩
    · obtain ⟨b, path, hb, hparent, hmem⟩ := logged x hx
      obtain ⟨rfl, -⟩ := toVisit?_eq_some.1 hsome
      rw [hb] at hleaf
      obtain rfl : b = root := by simpa using hleaf
      obtain rfl := one hmem (hpassage.mem_events start)
      exact Path.length_of_parent?_root hparent

theorem ring_one_location :
    ∃ report vs, Ring.validator.validate Ring.heap (.bean Ring.first) [] 0 = some report ∧
      report.result = .ok vs ∧ vs.items = [Ring.missing] ∧
      (∀ x ∈ vs.items, ∀ y ∈ vs.items, x.leaf? = y.leaf? →
        ∃ parent, x.path.parent? = some parent ∧ y.path.parent? = some parent) ∧
      ∀ x ∈ vs.items, x.leaf?.map Value.bean = some (.bean Ring.first) → x.path.length = 1 := by
  obtain ⟨report, vs, h, hvs, hitems⟩ := Ring.validate_first
  exact ⟨report, vs, h, hvs, hitems, one_location_of_validate Ring.validator Ring.heap h hvs⟩

end Validator

end BeanGraph
