import BeanGraph.Proofs.Findings

/-!
# How the elements of wrappers are written

A path that comes up in a call is the path of hops that the graph has.  The node for the value of a
wrapper has the bare name of its property, unless an earlier hop of the path is to one of several
elements: then the node is in an iterable like all those below this hop, and has empty brackets.

* `text_of_single`: the text of such a node;
* `wrapper_text_of_validate`: what follows for the paths of a validation;
* `ring_wrapper_text`: a wrapper below an element of a list.
-/

namespace BeanGraph

open Call

/-- The path at which a bean is entered, or a resolver or a routine is asked. -/
def Event.path? : Event → Option Path
  | .entered _ path => some path
  | .asked _ _ context _ => some context.path
  | .called call => some call.context.path
  | _ => none

theorem Event.IsNote.path? {e : Event} (h : e.IsNote) : e.path? = none := by
  cases e with
  | lookedUp | logged => rfl
  | entered | asked | called => exact False.elim h

/-- A path comes up in a call: something is done there, or found wrong. -/
def Report.Mentions (report : Report) (path : Path) : Prop :=
  (∃ e ∈ report.events, e.path? = some path) ∨
    ∃ vs, report.result = .ok vs ∧ ∃ x ∈ vs.items, x.path = path

/-- The node for the value of a wrapper has the name of its property alone, or with empty brackets
if a hop before it is to one of several elements. -/
theorem text_of_single (name : String) (inIterable : Bool) :
    ((Hop.node ⟨name, some .single⟩).within inIterable).text =
      name ++ if inIterable then "[]" else "" := by
  cases inIterable <;> rfl

theorem text_of_single_eq_name_iff (name : String) (inIterable : Bool) :
    ((Hop.node ⟨name, some .single⟩).within inIterable).text = name ↔ inIterable = false := by
  rw [text_of_single]
  cases inIterable <;> simp

namespace Validator

variable {v : Validator} {heap : Heap} {root : Bean} {groups : List Group} {place : Place}
  {s t : Progress} {r : Except Failure Unit} {e : Event} {path : Path}

/-! ## Paths that come up -/

theorem path_of_mem_events_judge {leaf? : Option Bean} {routine : Routine} {declaration : Nat}
    {c : Constraint} {u : Value} (he : e ∈ (judge leaf? routine declaration c u s).2.events)
    (hpath : e.path? = some path) : e ∈ s.events ∨ path = s.context.path := by
  rcases eq_called_of_mem_events_judge he with he | rfl | hnote
  · exact .inl he
  · exact .inr (Option.some.inj hpath).symm
  · rw [hnote.path?] at hpath
    cases hpath

/-- The paths at which a passage does something are paths of hops from the root. -/
theorem Passage.trail (h : v.Passage heap place s r t)
    (located : Located v heap root groups place s.context) (he : e ∈ t.events)
    (hpath : e.path? = some path) :
    e ∈ s.events ∨ ∃ hops, v.Trail heap root hops ∧ path = Path.along hops := by
  induction h with
  | rest | read | mark => exact .inl he
  | next h _ ih ih' =>
    rcases ih' (located.passage h) he with he | htrail
    · exact ih located he
    · exact .inr htrail
  | note hnote =>
    rcases Array.mem_push.1 he with he | rfl
    · exact .inl he
    · rw [hnote.path?] at hpath
      cases hpath
  | value hw _ ih => exact ih (located.below_value hw) he
  | target hw hp hu _ ih => exact ih (located.below_target hw hp hu) he
  | ask =>
    rcases Array.mem_push.1 he with he | rfl
    · exact .inl he
    · obtain rfl := Option.some.inj hpath
      exact .inr located.trail
  | judge | judgeTarget =>
    rcases path_of_mem_events_judge he hpath with he | rfl
    · exact .inl he
    · exact .inr located.trail
  | @enter b p element? u x i s _ _ hu fresh _ _ ih =>
    obtain ⟨rfl, -⟩ := toEnter?_eq_some.1 hu
    have entered := located.enter fresh
    rcases ih entered he with he | htrail
    · rcases Array.mem_push.1 he with he | rfl
      · exact .inl he
      · obtain rfl := Option.some.inj hpath
        exact .inr entered.trail
    · exact .inr htrail

theorem Finding.trail {x : Violation} (h : Finding v heap root groups x) :
    ∃ hops, v.Trail heap root hops ∧ x.path = Path.along hops := by
  cases h with
  | value located _ _ _ | target located _ _ _ => exact located.trail

/-- A path that comes up in a validation is a path of hops from its root. -/
theorem trail_of_mentions {object : Value} {copies : Nat} {report : Report}
    (h : v.validate heap object groups copies = some report) (hpath : report.Mentions path) :
    ∃ root hops, object = .bean root ∧ v.Trail heap root hops ∧ path = Path.along hops := by
  rcases hpath with ⟨e, he, hpath⟩ | ⟨vs, hvs, x, hx, rfl⟩
  · rcases passage_of_validate h with ⟨-, hnotes, -⟩ | ⟨root, i, r, t, hsome, rfl, hpassage⟩
    · rw [(hnotes e he).path?] at hpath
      cases hpath
    · refine ⟨root, ?_⟩
      rcases hpassage.trail located_start he hpath with he | ⟨hops, htrail, hpath⟩
      · rcases Array.mem_push.1 he with he | rfl
        · obtain rfl : e = .lookedUp root.type := by simpa [Progress.start] using he
          cases hpath
        · obtain rfl := Option.some.inj hpath
          exact ⟨[], (toVisit?_eq_some.1 hsome).1, .bean .start, rfl⟩
      · exact ⟨hops, (toVisit?_eq_some.1 hsome).1, htrail, hpath⟩
  · obtain ⟨root, hobject, hfinding⟩ := finding_of_validate h hvs hx
    obtain ⟨hops, htrail, hpath⟩ := hfinding.trail
    exact ⟨root, hops, hobject, htrail, hpath⟩

/-! ## Wrappers -/

/-- A path that comes up in a validation is the path of hops from the root.  Whichever hops it is
the path of, the node for the value of a wrapper has the bare name of its property exactly if no hop
before it is to one of several elements, and empty brackets after the name otherwise. -/
theorem wrapper_text_of_validate (v : Validator) (heap : Heap) {object : Value}
    {groups : List Group} {copies : Nat} {report : Report} {path : Path}
    (h : v.validate heap object groups copies = some report) (hpath : report.Mentions path) :
    (∃ root hops, object = .bean root ∧ v.Trail heap root hops ∧ path = Path.along hops) ∧
    ∀ hops, path = Path.along hops → ∀ (j : Nat) (name : String),
      hops[j]? = some ⟨name, some .single⟩ →
        ∃ n, path.nodes[j]? = some n ∧
          (n.text = name ↔ ∀ earlier ∈ hops.take j, earlier.isIterable = false) ∧
          (n.text = name ∨ n.text = name ++ "[]") := by
  refine ⟨trail_of_mentions h hpath, ?_⟩
  rintro hops rfl j name hj
  refine ⟨_, Path.getElem?_nodes_along hj, ?_, ?_⟩
  · rw [text_of_single_eq_name_iff, List.any_eq_false]
    simp
  · rw [text_of_single]
    split
    · exact .inr rfl
    · exact .inl (String.append_empty ..)

/-- In the ring a validation reports the name of a gift below an item. -/
theorem mentions_missing :
    ∃ report, Ring.validator.validate Ring.heap (.bean Ring.first) [] 0 = some report ∧
      report.Mentions Ring.missing.path := by
  obtain ⟨report, vs, h, hvs, hitems⟩ := Ring.validate_first
  exact ⟨report, h, .inr ⟨vs, hvs, Ring.missing, hitems ▸ List.mem_cons_self, rfl⟩⟩

theorem wrapper_text_of_ring :
    ∃ n, Ring.missing.path.nodes[1]? = some n ∧
      (n.text = "gift" ↔ ∀ earlier ∈ Ring.hops.take 1, earlier.isIterable = false) ∧
      (n.text = "gift" ∨ n.text = "gift" ++ "[]") := by
  obtain ⟨report, h, hmentions⟩ := mentions_missing
  exact (wrapper_text_of_validate Ring.validator Ring.heap h hmentions).2 Ring.hops rfl 1 "gift" rfl

/-- In the ring the gift of an item of a bean is written with brackets. -/
theorem ring_wrapper_text :
    ∃ report path n, Ring.validator.validate Ring.heap (.bean Ring.first) [] 0 = some report ∧
      report.Mentions path ∧ Ring.validator.Trail Ring.heap Ring.first Ring.hops ∧
      path = .along Ring.hops ∧ Ring.hops[1]? = some ⟨"gift", some .single⟩ ∧
      path.nodes[1]? = some n ∧ n.text ≠ "gift" ∧ path.text = "items[0].gift[].name" := by
  obtain ⟨report, h, hmentions⟩ := mentions_missing
  exact ⟨report, _, _, h, hmentions, Ring.trail_hops, rfl, rfl, rfl, by decide, by decide⟩

end Validator

end BeanGraph
