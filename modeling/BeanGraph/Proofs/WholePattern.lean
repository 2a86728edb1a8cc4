import BeanGraph.Proofs.Following
import BeanGraph.Routine.Pattern

/-!
# Whole texts against patterns

A pattern is meant to match whole texts.  It is compiled in a frame, `^(?:` before its text and `)$`
after it, and kept for later checks.

* `PatternCache.sound_after`: what earlier checks have kept is what would be compiled again;
* `PatternCache.check_eq_pattern`: the checks of the program answer as those that keep patterns;
* `PatternCache.check_str_after`: with an engine that keeps to its manual, when a check finds that
  the pattern matches the whole text, and when it fails.

A text that closes a group it has not opened is no pattern, but it can be one in its frame: it is
then not held to the whole text.
-/

namespace BeanGraph.PatternCache

open Pattern

variable {engine : Engine} {cache : PatternCache engine}

/-! ## Checks one after the other -/

/-- Every pattern that is kept is what the frame of its text is compiled to. -/
def Sound (cache : PatternCache engine) : Prop :=
  ∀ regexp e, cache.lookup regexp = some e → engine.compile (framed regexp) = .ok e

/-- The patterns kept after checks, nothing being kept before the first. -/
def after (engine : Engine) (checks : List (Value × Constraint)) : PatternCache engine :=
  checks.foldl (fun cache q => (cache.check q.1 q.2).2) []

theorem Sound.compiled_fst (h : cache.Sound) (regexp : String) :
    (cache.compiled regexp).1 = engine.compile (framed regexp) := by
  unfold compiled
  split
  · exact (h _ _ ‹_›).symm
  · split <;> simp [*]

theorem Sound.compiled (h : cache.Sound) (regexp : String) : Sound (cache.compiled regexp).2 := by
  unfold PatternCache.compiled
  split
  · exact h
  · split
    · rename_i e he
      intro text e' hlookup
      rw [List.lookup_cons] at hlookup
      split at hlookup
      · rename_i htext
        cases hlookup
        rw [eq_of_beq htext, he]
      · exact h _ _ hlookup
    · exact h

/-- A check keeps the framed patterns of their texts only. -/
theorem Sound.check (h : cache.Sound) (v : Value) (c : Constraint) :
    Sound (cache.check v c).2 := by
  unfold PatternCache.check
  split
  · split
    · rename_i regexp _
      have hkept := h.compiled regexp
      split <;> rename_i heq <;> rwa [heq] at hkept
    · exact h
  · exact h

theorem sound_after (engine : Engine) (checks : List (Value × Constraint)) :
    Sound (after engine checks) := by
  have hrun : ∀ cache : PatternCache engine, cache.Sound →
      Sound (checks.foldl (fun cache q => (cache.check q.1 q.2).2) cache) := by
    induction checks with
    | nil => exact fun _ h => h
    | cons q checks ih => exact fun cache h => ih _ (h.check q.1 q.2)
  exact hrun [] nofun

/-- A text is searched for the framed pattern of the constraint, whatever is kept. -/
theorem Sound.check_str (h : cache.Sound) {c : Constraint} {p : String}
    (hc : c.attribute? "regexp" = some (.string p)) (s : String) :
    (cache.check (.str s) c).1 =
      match engine.compile (framed p) with
      | .ok e => .ok (engine.isMatch e s)
      | .error text => .error (.invalidAttribute c.kind "regexp" (.notPattern text)) := by
  have hp : c.required Constraint.string? "regexp" = .ok p := by
    simp [Constraint.required, Constraint.string?, Constraint.read, hc, Json.string?]
  unfold PatternCache.check
  rw [hp, ← h.compiled_fst p]
  dsimp only
  generalize cache.compiled p = q
  obtain ⟨e, cache⟩ := q
  cases e <;> rfl

/-- A check keeps no answer from being that of the routine, which starts with nothing kept. -/
theorem check_eq_pattern (checks : List (Value × Constraint)) (v : Value) (c : Constraint)
    (x : Context) :
    ((after engine checks).check v c).1 = (Routine.pattern engine).check v c x := by
  have hcompiled (p : String) :
      ((after engine checks).compiled p).1 = (compiled ([] : PatternCache engine) p).1 :=
    ((sound_after engine checks).compiled_fst p).trans ((sound_after engine []).compiled_fst p).symm
  unfold Routine.pattern PatternCache.check
  cases v with
  | str s =>
    dsimp only
    cases c.required Constraint.string? "regexp" with
    | error e => rfl
    | ok p =>
      have hp := hcompiled p
      dsimp only
      generalize (after engine checks).compiled p = q at hp
      generalize compiled ([] : PatternCache engine) p = q' at hp
      obtain ⟨e, _⟩ := q
      obtain ⟨e', _⟩ := q'
      cases hp
      cases e <;> rfl
  | _ => rfl

/-! ## Whole texts -/

/-- A check fails since the engine does not compile the pattern in its frame; what the engine says
is told. -/
def Refused (engine : Engine) (c : Constraint) (p : String)
    (answer : Except ConstraintError Bool) : Prop :=
  ∃ text, engine.compile (framed p) = .error text ∧
    answer = .error (.invalidAttribute c.kind "regexp" (.notPattern text))

theorem Sound.refused (h : cache.Sound) {c : Constraint} {p : String}
    (hc : c.attribute? "regexp" = some (.string p)) (s : String)
    (hp : ∀ e, engine.compile (framed p) ≠ .ok e) :
    Refused engine c p (cache.check (.str s) c).1 := by
  rw [h.check_str hc s]
  cases hcompile : engine.compile (framed p) with
  | ok e => exact absurd hcompile (hp e)
  | error text => exact ⟨text, hcompile, rfl⟩

/-- After any checks, with an engine that keeps to its manual, a check of a text against `p` is
right if `p` is a pattern by itself that does not end in a comment and that is within the limits in
its frame: it answers whether `p` matches the whole text.  It fails if `p` is a pattern without one
of these, and if `p` is no pattern by itself and does not close a group that it has not opened. -/
theorem check_str_after {m : Manual} (h : engine.Follows m) (checks : List (Value × Constraint))
    {c : Constraint} {p : String} (hc : c.attribute? "regexp" = some (.string p)) (s : String) :
    (∀ e, m.pattern? p = some e → ¬ m.EndsInComment p → m.Fits (framed p) →
        ∃ matched, ((after engine checks).check (.str s) c).1 = .ok matched ∧
          (matched = true ↔ m.Spans e s 0 s.length)) ∧
      ((m.pattern? p).isSome = true → m.EndsInComment p ∨ ¬ m.Fits (framed p) →
        Refused engine c p ((after engine checks).check (.str s) c).1) ∧
      (m.pattern? p = none → ¬ m.ClosesUnopened p →
        Refused engine c p ((after engine checks).check (.str s) c).1) := by
  have hsound := sound_after engine checks
  have hopen {e : m.Expr} (he : m.pattern? p = some e) : ¬ m.ClosesUnopened p := fun hp => by
    rw [Manual.pattern?, h.parse?_of_closesUnopened hp] at he
    cases he
  refine ⟨fun e he hcomment hfits => ?_, fun he hbad => ?_, fun hnone hp => ?_⟩
  · have hframed := (h.pattern?_framed (hopen he)).2 ⟨e, he, hcomment, rfl⟩
    obtain ⟨f, hf⟩ := (h.compile_iff _).2 ⟨Option.isSome_iff_exists.2 ⟨_, hframed⟩, hfits⟩
    refine ⟨engine.isMatch f s, by rw [hsound.check_str hc s, hf], ?_⟩
    rw [h.isMatch_iff hf hframed]
    simp only [h.spans_frame]
    exact ⟨fun ⟨_, _, _, _, hspans⟩ => hspans, fun hspans => ⟨0, _, rfl, rfl, hspans⟩⟩
  · obtain ⟨e, he⟩ := Option.isSome_iff_exists.1 he
    refine hsound.refused hc s fun f hf => ?_
    obtain ⟨hsome, hfits⟩ := (h.compile_iff _).1 ⟨f, hf⟩
    obtain ⟨_, hframed⟩ := Option.isSome_iff_exists.1 hsome
    obtain ⟨_, -, hcomment, -⟩ := (h.pattern?_framed (hopen he)).1 hframed
    exact hbad.elim hcomment (absurd hfits)
  · refine hsound.refused hc s fun f hf => ?_
    obtain ⟨hsome, -⟩ := (h.compile_iff _).1 ⟨f, hf⟩
    obtain ⟨_, hframed⟩ := Option.isSome_iff_exists.1 hsome
    obtain ⟨_, he, -⟩ := (h.pattern?_framed hp).1 hframed
    cases hnone.symm.trans he

/-! ### Two patterns -/

namespace CatOrDog

/-- The tree of `cat|dog`. -/
def tree : Tree :=
  let word (cs : List Char) : Tree := .concatenation (cs.map fun c => .literal ⟨c, false⟩)
  .alternation [word ['c', 'a', 't'], word ['d', 'o', 'g']]

/-- The meaning of `cat|dog`. -/
def meaning : Expr :=
  let word (cs : List Char) : Expr :=
    cs.foldr (fun c e => .cat (.set (.point c.toNat)) e) .empty
  .alt (word ['c', 'a', 't']) (word ['d', 'o', 'g'])

theorem parse?_eq : Tree.parse? "cat|dog" = some tree := by rfl

theorem pattern?_eq : manual.pattern? "cat|dog" = some meaning :=
  Option.bind_eq_some_iff.2 ⟨tree, parse?_eq, by rfl⟩

theorem not_endsInComment : ¬ manual.EndsInComment "cat|dog" := by
  change ¬ (Tree.parse? ("cat|dog" ++ ")")).isSome = true
  decide +kernel

theorem fits_framed : manual.Fits (framed "cat|dog") := by
  intro t e ht he
  cases (parse?_framed parse?_eq not_endsInComment).symm.trans ht
  have hmeaning : tree.framed.expr? = some (manual.frame meaning) := by
    rw [Tree.expr?_framed]
    rfl
  cases hmeaning.symm.trans he
  exact ⟨by decide +kernel, by decide +kernel⟩

end CatOrDog

/-- Alternatives are held to the whole text, also when the pattern was kept before. -/
theorem catalog_checked :
    Pattern.engine.Follows manual ∧
      (Constraint.pattern "cat|dog").attribute? "regexp" = some (.string "cat|dog") ∧
      manual.pattern? "cat|dog" = some CatOrDog.meaning ∧
      ¬ manual.EndsInComment "cat|dog" ∧ manual.Fits (framed "cat|dog") ∧
      ∃ matched, ((after Pattern.engine [(.str "dog", .pattern "cat|dog")]).check (.str "catalog")
          (.pattern "cat|dog")).1 = .ok matched ∧
        (matched = true ↔ manual.Spans CatOrDog.meaning "catalog" 0 "catalog".length) :=
  ⟨engine_follows, rfl, CatOrDog.pattern?_eq, CatOrDog.not_endsInComment, CatOrDog.fits_framed,
    (check_str_after engine_follows _ rfl "catalog").1 _ CatOrDog.pattern?_eq
      CatOrDog.not_endsInComment CatOrDog.fits_framed⟩

/-- A text that is no pattern, since it closes a group that it has not opened, is taken for one in
its frame, and then accepts a text that only begins with an `a`. -/
theorem unopened_group_accepted :
    manual.pattern? "a)|(?:b" = none ∧
      (check ([] : PatternCache Pattern.engine) (.str "axyz") (.pattern "a)|(?:b")).1 =
        .ok true := by
  constructor
  · have hparse : Tree.parse? "a)|(?:b" = none := Option.isNone_iff_eq_none.1 (by decide +kernel)
    change (Tree.parse? "a)|(?:b").bind Tree.expr? = none
    rw [hparse, Option.bind_none]
  · have h : (check ([] : PatternCache Pattern.engine) (.str "axyz")
        (.pattern "a)|(?:b")).1.toOption = some true := by
      decide +kernel
    generalize (check ([] : PatternCache Pattern.engine) (.str "axyz")
      (.pattern "a)|(?:b")).1 = answer at h
    cases answer with
    | error e => cases h
    | ok b =>
      cases h
      rfl

end BeanGraph.PatternCache
