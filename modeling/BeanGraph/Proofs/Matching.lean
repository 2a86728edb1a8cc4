import BeanGraph.Pattern.Matching

/-!
# Sets of positions and matches

The matcher is right: where a track says that a match from a set of positions can end, matches from
one of them end, and nowhere else.  A repetition is a number of matches one after the other.  The
matcher counts those beyond the least number only up to the length of the text, for a match that
does not move can be left out, and every other one comes nearer to the end.

* `Tracks`: a function on sets of positions computes where a relation leads;
* `Steps.shorten`: to come from one position to another takes no more steps than their distance;
* `spans_repetition_iff`: a repetition as a number of matches;
* `tracks_on`: the track of a pattern computes where its matches end.
-/

namespace BeanGraph.Pattern

/-! ## Sets -/

theorem testBit_positions (p : Nat → Bool) (n j : Nat) :
    (positions p n).testBit j = true ↔ j < n ∧ p j = true := by
  induction n with
  | zero => simp [positions]
  | succ n ih =>
    unfold positions
    split
    · rename_i hn
      rw [Nat.testBit_or, Bool.or_eq_true, ih, Nat.one_shiftLeft, Nat.testBit_two_pow,
        decide_eq_true_iff]
      constructor
      · rintro (⟨hj, hp⟩ | rfl)
        · exact ⟨by omega, hp⟩
        · exact ⟨by omega, hn⟩
      · rintro ⟨hj, hp⟩
        obtain hlt | rfl := Nat.lt_or_eq_of_le (Nat.le_of_lt_succ hj)
        · exact .inl ⟨hlt, hp⟩
        · exact .inr rfl
    · rename_i hn
      rw [ih]
      constructor
      · rintro ⟨hj, hp⟩
        exact ⟨by omega, hp⟩
      · rintro ⟨hj, hp⟩
        obtain hlt | rfl := Nat.lt_or_eq_of_le (Nat.le_of_lt_succ hj)
        · exact ⟨hlt, hp⟩
        · exact absurd hp hn

/-- No position of the set is beyond the end of a text of so many characters. -/
def Within (size set : Nat) : Prop := ∀ i, set.testBit i = true → i ≤ size

/-- A function on sets of positions computes the positions that a relation leads to from those of
the set. -/
def Tracks (size : Nat) (step : Nat → Nat) (r : Nat → Nat → Prop) : Prop :=
  ∀ set, Within size set → Within size (step set) ∧
    ∀ j, (step set).testBit j = true ↔ ∃ i, set.testBit i = true ∧ r i j

/-! ## Steps -/

/-- A relation leads from one number to another in so many steps. -/
inductive Steps (r : Nat → Nat → Prop) : Nat → Nat → Nat → Prop
  | rest {i} : Steps r 0 i i
  | step {n i j k} (h : r i j) (hs : Steps r n j k) : Steps r (n + 1) i k

variable {r : Nat → Nat → Prop} {size n i j : Nat} {step : Nat → Nat} {set : Nat}

theorem steps_zero_iff : Steps r 0 i j ↔ i = j :=
  ⟨fun h => by cases h; rfl, fun h => h ▸ .rest⟩

theorem steps_succ_iff {k : Nat} : Steps r (n + 1) i k ↔ ∃ j, r i j ∧ Steps r n j k :=
  ⟨fun h => by cases h with | step h hs => exact ⟨_, h, hs⟩, fun ⟨_, h, hs⟩ => .step h hs⟩

theorem steps_add_iff {m k : Nat} :
    Steps r (m + n) i k ↔ ∃ j, Steps r m i j ∧ Steps r n j k := by
  induction m generalizing i with
  | zero => simp only [Nat.zero_add, steps_zero_iff, exists_eq_left']
  | succ m ih =>
    rw [Nat.succ_add, steps_succ_iff]
    simp only [ih, steps_succ_iff]
    constructor
    · rintro ⟨l, h, j, hs, hs'⟩
      exact ⟨j, ⟨l, h, hs⟩, hs'⟩
    · rintro ⟨j, ⟨l, h, hs⟩, hs'⟩
      exact ⟨l, h, j, hs, hs'⟩

/-- Steps that go forward or stay need be no more than the distance. -/
theorem Steps.shorten (hr : ∀ i j, r i j → i ≤ j) (h : Steps r n i j) :
    i ≤ j ∧ ∃ m ≤ j - i, Steps r m i j := by
  induction h with
  | rest => exact ⟨Nat.le_refl _, 0, Nat.zero_le _, .rest⟩
  | @step n i j k h _ ih =>
    have hij := hr i j h
    obtain ⟨hjk, m, hm, hs⟩ := ih
    refine ⟨Nat.le_trans hij hjk, ?_⟩
    obtain rfl | hlt := Nat.eq_or_lt_of_le hij
    · exact ⟨m, hm, hs⟩
    · exact ⟨m + 1, by omega, .step h hs⟩

theorem Steps.bounded (hr : ∀ i j, r i j → i ≤ size → j ≤ size) (h : Steps r n i j)
    (hi : i ≤ size) : j ≤ size := by
  induction h with
  | rest => exact hi
  | step h _ ih => exact ih (hr _ _ h hi)

/-- A set that is closed under a relation is not left. -/
theorem Steps.mem_of_closed (hclosed : ∀ i j, set.testBit i = true → r i j → set.testBit j = true)
    (h : Steps r n i j) (hi : set.testBit i = true) : set.testBit j = true := by
  induction h with
  | rest => exact hi
  | step h _ ih => exact ih (hclosed _ _ hi h)

theorem tracks_grow (h : Tracks size step r) (rounds : Nat) :
    Tracks size (grow step rounds) fun i j => ∃ m ≤ rounds, Steps r m i j := by
  induction rounds with
  | zero =>
    refine fun set hset => ⟨hset, fun j => ?_⟩
    simp [grow, steps_zero_iff]
  | succ rounds ih =>
    intro set hset
    obtain ⟨hwithin, hstep⟩ := h set hset
    unfold grow
    dsimp only
    split
    · rename_i hlarger
      refine ⟨hset, fun j => ⟨fun hj => ⟨j, hj, 0, Nat.zero_le _, .rest⟩, ?_⟩⟩
      rintro ⟨i, hi, m, -, hs⟩
      refine hs.mem_of_closed (fun i j hi hr => ?_) hi
      rw [← hlarger, Nat.testBit_or, (hstep j).2 ⟨i, hi, hr⟩, Bool.or_true]
    · have hmem (i : Nat) : (set ||| step set).testBit i = true ↔
          set.testBit i = true ∨ ∃ k, set.testBit k = true ∧ r k i := by
        rw [Nat.testBit_or, Bool.or_eq_true, hstep]
      have hlarger : Within size (set ||| step set) := fun i hi => by
        rw [Nat.testBit_or, Bool.or_eq_true] at hi
        exact hi.elim (hset i) (hwithin i)
      obtain ⟨hwithin', hgrow⟩ := ih _ hlarger
      refine ⟨hwithin', fun j => (hgrow j).trans ⟨?_, ?_⟩⟩
      · rintro ⟨i, hi, m, hm, hs⟩
        rcases (hmem i).1 hi with hi | ⟨k, hk, hr⟩
        · exact ⟨i, hi, m, by omega, hs⟩
        · exact ⟨k, hk, m + 1, by omega, .step hr hs⟩
      · rintro ⟨i, hi, m, hm, hs⟩
        cases hs with
        | rest => exact ⟨j, (hmem j).2 (.inl hi), 0, Nat.zero_le _, .rest⟩
        | @step m _ k _ hr hs => exact ⟨k, (hmem k).2 (.inr ⟨i, hi, hr⟩), m, by omega, hs⟩

theorem tracks_advance (h : Tracks size step r) (rounds : Nat) :
    Tracks size (advance step rounds) (Steps r rounds) := by
  induction rounds with
  | zero =>
    refine fun set hset => ⟨hset, fun j => ?_⟩
    simp [advance, steps_zero_iff]
  | succ rounds ih =>
    intro set hset
    unfold advance
    split
    · rename_i hempty
      subst hempty
      refine ⟨hset, fun j => iff_of_false ?_ ?_⟩
      · simp
      · rintro ⟨i, hi, -⟩
        simp at hi
    · obtain ⟨hwithin, hstep⟩ := h set hset
      obtain ⟨hwithin', hadvance⟩ := ih _ hwithin
      refine ⟨hwithin', fun j => (hadvance j).trans ?_⟩
      simp only [hstep, steps_succ_iff]
      constructor
      · rintro ⟨k, ⟨i, hi, hr⟩, hs⟩
        exact ⟨i, hi, k, hr, hs⟩
      · rintro ⟨i, hi, k, hr, hs⟩
        exact ⟨k, ⟨i, hi, hr⟩, hs⟩

/-- One computation after another leads where the one relation leads after the other. -/
theorem Tracks.comp {step' : Nat → Nat} {r' : Nat → Nat → Prop} (h : Tracks size step r)
    (h' : Tracks size step' r') :
    Tracks size (fun set => step' (step set)) fun i k => ∃ j, r i j ∧ r' j k := by
  intro set hset
  obtain ⟨hwithin, hstep⟩ := h set hset
  obtain ⟨hwithin', hstep'⟩ := h' _ hwithin
  refine ⟨hwithin', fun k => (hstep' k).trans ?_⟩
  simp only [hstep]
  constructor
  · rintro ⟨j, ⟨i, hi, hr⟩, hr'⟩
    exact ⟨i, hi, j, hr, hr'⟩
  · rintro ⟨i, hi, j, hr, hr'⟩
    exact ⟨j, ⟨i, hi, hr⟩, hr'⟩

theorem Tracks.congr {r' : Nat → Nat → Prop} (h : Tracks size step r)
    (hr : ∀ i j, i ≤ size → (r i j ↔ r' i j)) : Tracks size step r' := by
  intro set hset
  obtain ⟨hwithin, hstep⟩ := h set hset
  refine ⟨hwithin, fun j => (hstep j).trans (exists_congr fun i => ?_)⟩
  exact and_congr_right fun hi => hr i j (hset i hi)

/-! ## Matches -/

variable {text : List Char} {e a b : Expr} {least : Nat} {most : Option Nat}

theorem Spans.le (h : Spans text e i j) : i ≤ j := by
  induction h with
  | empty | look | stop => exact Nat.le_refl _
  | set => exact Nat.le_succ _
  | cat _ _ ih ih' | again _ _ ih ih' => exact Nat.le_trans ih ih'
  | altLeft _ ih | altRight _ ih | capture _ ih => exact ih

theorem Spans.bounded (h : Spans text e i j) (hi : i ≤ text.length) : j ≤ text.length := by
  induction h with
  | empty | look | stop => exact hi
  | set hc => exact (List.getElem?_eq_some_iff.1 hc).1
  | cat _ _ ih ih' | again _ _ ih ih' => exact ih' (ih hi)
  | altLeft _ ih | altRight _ ih | capture _ ih => exact ih hi

/-- A repetition is a number of matches one after the other, within the bounds. -/
theorem spans_repetition_iff : Spans text (.repetition least most e) i j ↔
    ∃ n, least ≤ n ∧ (∀ m, most = some m → n ≤ m) ∧ Steps (Spans text e) n i j := by
  constructor
  · generalize hrepetition : Expr.repetition least most e = repetition
    intro h
    induction h generalizing least most with
    | stop =>
      cases hrepetition
      exact ⟨0, Nat.le_refl _, fun _ _ => Nat.zero_le _, .rest⟩
    | @again least' most' _ _ _ _ h _ _ ih =>
      cases hrepetition
      obtain ⟨n, hleast, hmost, hs⟩ := ih rfl
      refine ⟨n + 1, by omega, fun m hm => ?_, .step h hs⟩
      obtain ⟨m', rfl, rfl⟩ := Option.map_eq_some_iff.1 hm
      exact Nat.succ_le_succ (hmost m' rfl)
    | _ => cases hrepetition
  · rintro ⟨n, hleast, hmost, hs⟩
    induction hs generalizing least most with
    | rest =>
      obtain rfl := Nat.le_zero.1 hleast
      exact .stop
    | @step n i j k h _ ih =>
      have hrest : Spans text (.repetition (least - 1) (most.map (· - 1)) e) j k := by
        refine ih (by omega) fun m hm => ?_
        obtain ⟨m', rfl, rfl⟩ := Option.map_eq_some_iff.1 hm
        have := hmost m' rfl
        omega
      have hsucc : (most.map (· - 1)).map (· + 1) = most := by
        cases most with
        | none => rfl
        | some m =>
          have := hmost m rfl
          simp only [Option.map_some, Option.some.injEq]
          omega
      rw [← hsucc]
      exact .again h hrest

theorem spans_cat_iff {k : Nat} :
    Spans text (.cat a b) i k ↔ ∃ j, Spans text a i j ∧ Spans text b j k :=
  ⟨fun h => by cases h with | cat ha hb => exact ⟨_, ha, hb⟩, fun ⟨_, ha, hb⟩ => .cat ha hb⟩

theorem spans_alt_iff : Spans text (.alt a b) i j ↔ Spans text a i j ∨ Spans text b i j := by
  constructor
  · intro h
    cases h with
    | altLeft h => exact .inl h
    | altRight h => exact .inr h
  · exact fun h => h.elim .altLeft .altRight

theorem spans_capture_iff : Spans text (.capture e) i j ↔ Spans text e i j :=
  ⟨fun h => by cases h; assumption, .capture⟩

theorem spans_look_iff {l : Look} : Spans text (.look l) i j ↔
    l.holds (before text i) text[i]? = true ∧ i = j :=
  ⟨fun h => by cases h with | look h => exact ⟨h, rfl⟩, fun ⟨h, hij⟩ => hij ▸ .look h⟩

theorem spans_set_iff {s : CharSet} : Spans text (.set s) i j ↔
    (∃ c, text[i]? = some c ∧ s.contains c.toNat = true) ∧ i + 1 = j :=
  ⟨fun h => by cases h with | set hc hs => exact ⟨⟨_, hc, hs⟩, rfl⟩,
    fun ⟨⟨_, hc, hs⟩, hij⟩ => hij ▸ .set hc hs⟩

/-! ## The matcher -/

theorem tracks_step (text : List Char) (s : CharSet) :
    Tracks text.length (((Expr.set s).on text.toArray).ends text.length) (Spans text (.set s)) := by
  intro set hset
  have hmem (j : Nat) : (((Expr.set s).on text.toArray).ends text.length set).testBit j = true ↔
      ∃ i, set.testBit i = true ∧ Spans text (.set s) i j := by
    rw [Expr.on, Track.ends, Nat.testBit_shiftLeft, Bool.and_eq_true, Nat.testBit_and,
      Bool.and_eq_true, testBit_positions]
    simp only [spans_set_iff, List.getElem?_toArray, Option.any_eq_true, decide_eq_true_iff]
    constructor
    · rintro ⟨hj, hi, -, c, hc, hs⟩
      exact ⟨j - 1, hi, ⟨c, hc, hs⟩, Nat.sub_add_cancel hj⟩
    · rintro ⟨i, hi, ⟨c, hc, hs⟩, rfl⟩
      have hlt : i < text.length := (List.getElem?_eq_some_iff.1 hc).1
      rw [Nat.add_sub_cancel]
      exact ⟨Nat.succ_pos i, hi, hlt, c, hc, hs⟩
  refine ⟨fun j hj => ?_, hmem⟩
  obtain ⟨i, hi, h⟩ := (hmem j).1 hj
  exact h.bounded (hset i hi)

theorem tracks_test (text : List Char) (l : Look) :
    Tracks text.length (((Expr.look l).on text.toArray).ends text.length)
      (Spans text (.look l)) := by
  intro set hset
  have hmem (j : Nat) : (((Expr.look l).on text.toArray).ends text.length set).testBit j = true ↔
      ∃ i, set.testBit i = true ∧ Spans text (.look l) i j := by
    rw [Expr.on, Track.ends, Nat.testBit_and, Bool.and_eq_true, testBit_positions]
    simp only [spans_look_iff, List.getElem?_toArray, before]
    constructor
    · rintro ⟨hj, -, hl⟩
      exact ⟨j, hj, hl, rfl⟩
    · rintro ⟨i, hi, hl, rfl⟩
      exact ⟨hi, Nat.lt_succ_of_le (hset i hi), hl⟩
  refine ⟨fun j hj => ?_, hmem⟩
  obtain ⟨i, hi, h⟩ := (hmem j).1 hj
  exact h.bounded (hset i hi)

/-- The track of a pattern on a text computes where its matches end. -/
theorem tracks_on (text : List Char) (e : Expr) :
    Tracks text.length ((e.on text.toArray).ends text.length) (Spans text e) := by
  induction e with
  | empty =>
    refine fun set hset => ⟨hset, fun j => ⟨fun hj => ⟨j, hj, .empty⟩, ?_⟩⟩
    rintro ⟨i, hi, h⟩
    cases h
    exact hi
  | set s => exact tracks_step text s
  | look l => exact tracks_test text l
  | cat a b iha ihb => exact (iha.comp ihb).congr fun i j _ => spans_cat_iff.symm
  | alt a b iha ihb =>
    intro set hset
    obtain ⟨hwithin, ha⟩ := iha set hset
    obtain ⟨hwithin', hb⟩ := ihb set hset
    have hmem (j : Nat) : (((Expr.alt a b).on text.toArray).ends text.length set).testBit j = true ↔
        ((a.on text.toArray).ends text.length set).testBit j = true ∨
          ((b.on text.toArray).ends text.length set).testBit j = true := by
      rw [Expr.on, Track.ends, Nat.testBit_or, Bool.or_eq_true]
    refine ⟨fun j hj => ((hmem j).1 hj).elim (hwithin j) (hwithin' j), fun j => ?_⟩
    simp only [hmem, ha, hb, spans_alt_iff, and_or_left, exists_or]
  | repetition least most e ih =>
    have hgrown (rounds : Nat) := (tracks_advance ih least).comp (tracks_grow ih rounds)
    cases most with
    | none =>
      refine (hgrown (text.length + 1)).congr fun i j hi => ?_
      rw [spans_repetition_iff]
      constructor
      · rintro ⟨k, hs, m, -, hs'⟩
        exact ⟨least + m, Nat.le_add_right _ _, nofun, steps_add_iff.2 ⟨k, hs, hs'⟩⟩
      · rintro ⟨n, hleast, -, hs⟩
        obtain ⟨m, rfl⟩ := Nat.exists_eq_add_of_le hleast
        have hj := hs.bounded (fun _ _ h => h.bounded) hi
        obtain ⟨k, hs, hs'⟩ := steps_add_iff.1 hs
        obtain ⟨-, m', hm', hs'⟩ := hs'.shorten fun _ _ => Spans.le
        exact ⟨k, hs, m', by omega, hs'⟩
    | some most =>
      by_cases hcrossed : most < least
      · -- no number is within bounds that cross
        have hends (set : Nat) : ((Expr.repetition least (some most) e).on text.toArray).ends
            text.length set = 0 := by rw [Expr.on, Track.ends, if_pos hcrossed]
        refine fun set _ => ⟨fun i hi => ?_, fun j => iff_of_false ?_ ?_⟩
        · simp [hends] at hi
        · simp [hends]
        · rintro ⟨i, -, h⟩
          obtain ⟨n, hleast, hmost, -⟩ := spans_repetition_iff.1 h
          have := hmost most rfl
          omega
      · have hends : ((Expr.repetition least (some most) e).on text.toArray).ends text.length =
            fun set => grow ((e.on text.toArray).ends text.length) (most - least)
              (advance ((e.on text.toArray).ends text.length) least set) := by
          funext set
          rw [Expr.on, Track.ends, if_neg hcrossed]
        rw [hends]
        refine (hgrown (most - least)).congr fun i j _ => ?_
        simp only [spans_repetition_iff, Option.some.injEq, forall_eq']
        constructor
        · rintro ⟨k, hs, m, hm, hs'⟩
          exact ⟨least + m, Nat.le_add_right _ _, by omega, steps_add_iff.2 ⟨k, hs, hs'⟩⟩
        · rintro ⟨n, hleast, hmost, hs⟩
          obtain ⟨m, rfl⟩ := Nat.exists_eq_add_of_le hleast
          obtain ⟨k, hs, hs'⟩ := steps_add_iff.1 hs
          exact ⟨k, hs, m, by omega, hs'⟩
  | capture e ih => exact ih.congr fun i j _ => spans_capture_iff.symm

/-- A pattern is found in a text if it matches from some position. -/
theorem foundIn_iff (e : Expr) (s : String) :
    e.foundIn s = true ↔ ∃ i ≤ s.toList.length, ∃ j, Spans s.toList e i j := by
  have hset (i : Nat) : (Nat.pow 2 (s.toList.length + 1) - 1).testBit i = true ↔
      i ≤ s.toList.length := by
    rw [Nat.pow_eq, Nat.testBit_two_pow_sub_one, decide_eq_true_iff, Nat.lt_succ_iff]
  obtain ⟨-, hends⟩ := tracks_on s.toList e _ fun i hi => (hset i).1 hi
  simp only [hset] at hends
  unfold Expr.foundIn
  dsimp only
  rw [bne_iff_ne, List.size_toArray]
  constructor
  · intro hne
    obtain ⟨j, hj⟩ := Nat.exists_testBit_of_ne_zero hne
    obtain ⟨i, hi, h⟩ := (hends j).1 hj
    exact ⟨i, hi, j, h⟩
  · rintro ⟨i, hi, j, h⟩ hzero
    have hj := (hends j).2 ⟨i, hi, h⟩
    rw [hzero, Nat.zero_testBit] at hj
    cases hj

end BeanGraph.Pattern
