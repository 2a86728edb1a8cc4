import BeanGraph.Pattern.Engine

/-!
# What engines promise

A `Manual` is what the documentation of an engine speaks of: how texts are read as patterns, what
patterns mean, which parts of a text they match, and which are within the limits of the engine.
Nothing is said of how the engine goes about it.

`Engine.Follows` says that an engine keeps to a manual, and has the manual say of groups, of the
tests for the start and the end, and of parts in a row what the framed pattern relies on.
-/

namespace BeanGraph.Pattern

/-- What the documentation of an engine speaks of. -/
structure Manual where
  /-- Patterns as they are written. -/
  Tree : Type
  /-- Patterns with their flags and the names in them resolved. -/
  Expr : Type
  /-- How a text is written as a pattern, if it is. -/
  parse? : String → Option Tree
  /-- The meaning of what is written, if the names in it are known. -/
  meaning? : Tree → Option Expr
  /-- The text is within the limits for nesting and size. -/
  Fits : String → Prop
  /-- A pattern matches the part of a text from one position to another. -/
  Spans : Expr → String → Nat → Nat → Prop
  /-- The test for the start of the text. -/
  start : Expr
  /-- The test for the end of the text. -/
  finish : Expr
  /-- A pattern in a group. -/
  group : Expr → Expr
  /-- Patterns one after the other. -/
  row : List Expr → Expr

namespace Manual

variable (m : Manual)

/-- The meaning of a text, if it is a pattern by itself. -/
def pattern? (p : String) : Option m.Expr := (m.parse? p).bind m.meaning?

/-- A text ends in a comment: it is written as a pattern still when a parenthesis comes after it
that closes nothing. -/
def EndsInComment (p : String) : Prop := (m.parse? (p ++ ")")).isSome = true

/-- A text is written as a pattern, and what comes after it is no part of a comment. -/
def Complete (p : String) : Prop := (m.parse? p).isSome = true ∧ ¬ m.EndsInComment p

/-- A text closes a group that it has not opened: a parenthesis comes after a part that is complete
without it. -/
def ClosesUnopened (p : String) : Prop := ∃ q r, p = q ++ ")" ++ r ∧ m.Complete q

/-- The meaning of a pattern in its frame. -/
def frame (e : m.Expr) : m.Expr := m.row [m.start, m.group e, m.finish]

end Manual

/-- An engine keeps to a manual. -/
structure Engine.Follows (engine : Engine) (m : Manual) : Prop where
  /-- A text is compiled if it is a pattern within the limits, and otherwise an error. -/
  compile_iff (p : String) :
    (∃ c, engine.compile p = .ok c) ↔ (m.pattern? p).isSome = true ∧ m.Fits p
  /-- A pattern is found in a text if it matches some part of it. -/
  isMatch_iff {p : String} {c : engine.Compiled} {e : m.Expr} (hc : engine.compile p = .ok c)
    (he : m.pattern? p = some e) (s : String) :
    engine.isMatch c s = true ↔ ∃ i j, m.Spans e s i j
  /-- The test for the start holds before the first character. -/
  spans_start {s : String} {i j : Nat} : m.Spans m.start s i j ↔ i = 0 ∧ j = 0
  /-- The test for the end holds after the last character. -/
  spans_finish {s : String} {i j : Nat} : m.Spans m.finish s i j ↔ i = s.length ∧ j = s.length
  /-- A group matches what is in it. -/
  spans_group {e : m.Expr} {s : String} {i j : Nat} : m.Spans (m.group e) s i j ↔ m.Spans e s i j
  /-- Patterns in a row match one after the other. -/
  spans_row_cons {e : m.Expr} {es : List m.Expr} {s : String} {i k : Nat} :
    m.Spans (m.row (e :: es)) s i k ↔ ∃ j, m.Spans e s i j ∧ m.Spans (m.row es) s j k
  /-- An empty row matches the empty text anywhere. -/
  spans_row_nil {s : String} {i j : Nat} : m.Spans (m.row []) s i j ↔ i = j ∧ j ≤ s.length
  /-- A complete text can stand in a group, where it is read as it is by itself: the group has flags
  and alternatives of its own. -/
  parse?_group {p : String} {t : m.Tree} (ht : m.parse? p = some t) (hp : ¬ m.EndsInComment p) :
    ∃ u, m.parse? ("(?:" ++ p ++ ")") = some u ∧ m.meaning? u = (m.meaning? t).map m.group
  /-- What stands beside a group is matched before and after it: `^` is the test for the start, and
  `$` the test for the end. -/
  parse?_row {p : String} {u : m.Tree} (hp : m.Complete p)
    (hu : m.parse? ("(?:" ++ p ++ ")") = some u) :
    ∃ w, m.parse? ("^" ++ ("(?:" ++ p ++ ")") ++ "$") = some w ∧
      m.meaning? w = (m.meaning? u).map fun e => m.row [m.start, e, m.finish]
  /-- A group that is opened is closed, and what is in it is a pattern. -/
  closed {x : String} (hx : (m.parse? ("^(?:" ++ x)).isSome = true) :
    ∃ q r, x = q ++ ")" ++ r ∧ m.Complete q
  /-- A parenthesis that closes no group keeps a text from being a pattern. -/
  unopened {q : String} (hq : m.Complete q) (r : String) : m.parse? (q ++ ")" ++ r) = none

namespace Engine.Follows

variable {engine : Engine} {m : Manual} {p : String}

/-- In its frame a complete text is read as it is by itself, between the two tests. -/
theorem parse?_framed (h : engine.Follows m) {t : m.Tree} (ht : m.parse? p = some t)
    (hp : ¬ m.EndsInComment p) :
    ∃ u, m.parse? (framed p) = some u ∧ m.meaning? u = (m.meaning? t).map m.frame := by
  obtain ⟨u, hu, hgroup⟩ := h.parse?_group ht hp
  obtain ⟨w, hw, hrow⟩ := h.parse?_row ⟨Option.isSome_iff_exists.2 ⟨t, ht⟩, hp⟩ hu
  refine ⟨w, framed_eq p ▸ hw, ?_⟩
  rw [hrow, hgroup, Option.map_map]
  rfl

theorem parse?_of_closesUnopened (h : engine.Follows m) (hp : m.ClosesUnopened p) :
    m.parse? p = none := by
  obtain ⟨q, r, rfl, hq⟩ := hp
  exact h.unopened hq r

/-- The parenthesis of a frame, or one before it, is the one that a part of the text stops at. -/
theorem eq_or_of_append_eq {q r : String} (h : p ++ ")$" = q ++ ")" ++ r) :
    p = q ∨ ∃ r', p = q ++ ")" ++ r' := by
  have hlist : p.toList ++ [')', '$'] = q.toList ++ ')' :: r.toList := by
    simpa using congrArg String.toList h
  obtain ⟨as, hq, has⟩ | ⟨as, hp, has⟩ := List.append_eq_append_iff.1 hlist
  · match as with
    | [] => exact .inl (String.toList_injective (by simpa using hq.symm))
    | [c] => simp at has
    | c :: d :: as => simp at has
  · match as with
    | [] => exact .inl (String.toList_injective (by simpa using hp))
    | c :: as =>
      obtain rfl : ')' = c := (List.cons.inj has).1
      exact .inr ⟨String.ofList as, String.toList_injective (by simpa using hp)⟩

/-- In its frame a text that closes no group but those it has opened is a pattern if it is one by
itself and does not end in a comment. -/
theorem parse?_framed_isSome_iff (h : engine.Follows m) (hp : ¬ m.ClosesUnopened p) :
    (m.parse? (framed p)).isSome = true ↔ m.Complete p := by
  constructor
  · intro hframed
    have hopened : framed p = "^(?:" ++ (p ++ ")$") := String.append_assoc
    obtain ⟨q, r, heq, hq⟩ := h.closed (hopened ▸ hframed)
    obtain rfl | ⟨r', rfl⟩ := eq_or_of_append_eq heq
    · exact hq
    · exact absurd ⟨q, r', rfl, hq⟩ hp
  · rintro ⟨hparse, hcomment⟩
    obtain ⟨t, ht⟩ := Option.isSome_iff_exists.1 hparse
    obtain ⟨u, hu, -⟩ := h.parse?_framed ht hcomment
    exact Option.isSome_iff_exists.2 ⟨u, hu⟩

/-- The meaning of a framed text is the framed meaning of the text, if it has one and does not end
in a comment. -/
theorem pattern?_framed (h : engine.Follows m) (hp : ¬ m.ClosesUnopened p) {e : m.Expr} :
    m.pattern? (framed p) = some e ↔
      ∃ e', m.pattern? p = some e' ∧ ¬ m.EndsInComment p ∧ e = m.frame e' := by
  constructor
  · intro hframed
    obtain ⟨u, hu, hmeaning⟩ := Option.bind_eq_some_iff.1 hframed
    obtain ⟨hparse, hcomment⟩ :=
      (h.parse?_framed_isSome_iff hp).1 (Option.isSome_iff_exists.2 ⟨u, hu⟩)
    obtain ⟨t, ht⟩ := Option.isSome_iff_exists.1 hparse
    obtain ⟨u', hu', hmap⟩ := h.parse?_framed ht hcomment
    obtain rfl := Option.some.inj (hu.symm.trans hu')
    obtain ⟨e', he', rfl⟩ := Option.map_eq_some_iff.1 (hmap.symm.trans hmeaning)
    exact ⟨e', Option.bind_eq_some_iff.2 ⟨t, ht, he'⟩, hcomment, rfl⟩
  · rintro ⟨e', he', hcomment, rfl⟩
    obtain ⟨t, ht, hmeaning⟩ := Option.bind_eq_some_iff.1 he'
    obtain ⟨u, hu, hmap⟩ := h.parse?_framed ht hcomment
    refine Option.bind_eq_some_iff.2 ⟨u, hu, ?_⟩
    rw [hmap, hmeaning, Option.map_some]

/-- A framed pattern matches a text as a whole or not at all. -/
theorem spans_frame (h : engine.Follows m) {e : m.Expr} {s : String} {i j : Nat} :
    m.Spans (m.frame e) s i j ↔ i = 0 ∧ j = s.length ∧ m.Spans e s 0 s.length := by
  unfold Manual.frame
  simp only [h.spans_row_cons, h.spans_row_nil, h.spans_start, h.spans_group, h.spans_finish]
  constructor
  · rintro ⟨_, ⟨rfl, rfl⟩, _, he, _, ⟨rfl, rfl⟩, rfl, -⟩
    exact ⟨rfl, rfl, he⟩
  · rintro ⟨rfl, rfl, he⟩
    exact ⟨0, ⟨rfl, rfl⟩, _, he, _, ⟨rfl, rfl⟩, rfl, Nat.le_refl _⟩

end Engine.Follows

end BeanGraph.Pattern
