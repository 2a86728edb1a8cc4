import BeanGraph.Proofs.Reading

/-!
# A pattern's text and a parenthesis after it

Reading a text with a closing parenthesis and more after it goes like reading the text alone,
whatever comes after the parenthesis: what is found alone is found again with the end still to come,
and where nothing is found alone, a reading with the end eats into it.  The one exception is a text
that ends in a comment of verbose mode, which the parenthesis then belongs to.
-/

namespace BeanGraph.Pattern

/-- An end of a text: a parenthesis and what comes after it. -/
def closing (t : List Char) : List Char := ')' :: t

variable {α β : Type} {m n : Nat} {x y : Option (α × List Char)} {cs r t : List Char}
  {verbose : Bool} {fuel fuel' : Nat}

@[simp] theorem length_closing : (closing t).length = t.length + 1 := rfl

/-- Fuel for a text with an end is fuel for the text alone. -/
theorem length_lt_closing (cs t : List Char) : cs.length < (cs ++ closing t).length + 1 := by
  rw [List.length_append]
  omega

/-- `x` is read off a text and `y` off the text with an end: what `x` finds, `y` finds too and
leaves the end; where `x` finds nothing, `y` leaves at most `n` characters more than what comes
after the parenthesis. -/
structure Keeps (t : List Char) (n : Nat) (x y : Option (α × List Char)) : Prop where
  found : ∀ a r, x = some (a, r) → y = some (a, r ++ closing t)
  missed : x = none → ∀ a r, y = some (a, r) → r.length ≤ t.length + n

theorem Keeps.of_none (hy : ∀ a r, y = .some (a, r) → r.length ≤ t.length + n) :
    Keeps t n .none y :=
  ⟨fun _ _ h => (Option.some_ne_none _ h.symm).elim, fun _ => hy⟩

/-- Nothing is found alone, and little enough is left where something is found with the end. -/
theorem Keeps.of_end (a : α) (h : r.length ≤ t.length + n) : Keeps t n .none (.some (a, r)) :=
  .of_none fun _ _ hy => by cases hy; exact h

theorem Keeps.some (a : α) (r : List Char) :
    Keeps t n (some (a, r)) (some (a, r ++ closing t)) :=
  ⟨fun _ _ h => by cases h; rfl, nofun⟩

theorem Keeps.mono (h : Keeps t m x y) (hmn : m ≤ n) : Keeps t n x y :=
  ⟨h.found, fun hx a r hy => Nat.le_trans (h.missed hx a r hy) (Nat.add_le_add_left hmn _)⟩

theorem Keeps.none : Keeps t n (α := α) none none :=
  .of_none fun _ _ h => (Option.some_ne_none _ h.symm).elim

/-- A reading followed by another; the second must eat into the end where the first leaves it. -/
theorem Keeps.bind {g g' : α × List Char → Option (β × List Char)} (h : Keeps t m x y)
    (hg : ∀ a r, x = .some (a, r) → Keeps t n (g (a, r)) (g' (a, r ++ closing t)))
    (hg' : ∀ a r b r', r.length ≤ t.length + m → g' (a, r) = .some (b, r') →
      r'.length ≤ t.length + n) :
    Keeps t n (x.bind g) (y.bind g') := by
  cases hx : x with
  | none =>
    refine .of_none fun b r' hy => ?_
    obtain ⟨⟨a, r⟩, hy, hb⟩ := Option.bind_eq_some_iff.1 hy
    exact hg' a r b r' (h.missed hx a r hy) hb
  | some p =>
    obtain ⟨a, r⟩ := p
    rw [h.found a r hx]
    exact hg a r hx

/-- What is found may be made into something else, or refused. -/
theorem Keeps.filter {g : α × List Char → Option (β × List Char)} {f : α → Option β}
    (h : Keeps t n x y) (hg : ∀ a r, g (a, r) = (f a).map fun b => (b, r)) :
    Keeps t n (x.bind g) (y.bind g) := by
  refine h.bind (fun a r _ => ?_) fun a r b r' hr hb => ?_
  · rw [hg, hg]
    cases f a with
    | none => exact .none
    | some b => exact .some b r
  · rw [hg] at hb
    obtain ⟨b, -, hb⟩ := Option.map_eq_some_iff.1 hb
    exact (Prod.mk.inj hb).2 ▸ hr

theorem Keeps.map {f : α × List Char → β × List Char} (h : Keeps t n x y)
    (hf : ∀ a r, f (a, r) = ((f (a, [])).1, r)) : Keeps t n (x.map f) (y.map f) := by
  rw [Option.map_eq_bind, Option.map_eq_bind]
  refine h.filter (f := fun a => Option.some (f (a, [])).1) fun a r => ?_
  rw [Function.comp_apply, hf a r, Option.map_some]

/-- `x` takes a whole text, which ends in a comment, and `y` goes on in that comment with the
parenthesis and what comes after it: it eats into the end, and takes it all if the comment is not
ended there. -/
def Swallowed (x : Option (α × List Char)) (y : List Char → Option (α × List Char)) : Prop :=
  ∃ a, x = some (a, []) ∧
    ∀ t, (∀ b r, y t = some (b, r) → r <:+ t) ∧ ('\n' ∉ t → y t = some (a, []))

/-- `x` is read off a text and `y` off the text with any end, which is kept or swallowed. -/
def Reaches (x : Option (α × List Char)) (y : List Char → Option (α × List Char)) : Prop :=
  (∀ t, Keeps t 0 x (y t)) ∨ Swallowed x y

/-- The text does not begin with another character than its first. -/
theorem head_ne {c d : Char} (hc : c ≠ d) (cs rest : List Char) : c :: cs = d :: rest → False :=
  fun h => hc (List.cons.inj h).1

/-- What a text does not begin with, it does not begin with before the end either. -/
theorem head_ne_closing {c d : Char} (h : ∀ rest, c :: cs = d :: rest → False)
    (rest : List Char) (heq : c :: (cs ++ closing t) = d :: rest) : False :=
  h cs (by rw [(List.cons.inj heq).1])

/-- A text that does not begin with `before` does not do so with the end either. -/
theorem not_append_of_closing (cs before : List Char) (hb : ')' ∉ before)
    (h : ∀ rest, cs = before ++ rest → False) :
    ∀ rest, cs ++ closing t = before ++ rest → False := by
  intro rest heq
  obtain ⟨a, rfl, ha⟩ | ⟨r, hr, -⟩ := List.append_eq_append_iff.1 heq
  · cases a with
    | nil => exact h [] (by simp)
    | cons c a =>
      cases (List.cons.inj ha).1
      simp at hb
  · exact h r hr

/-! ## Verbose mode -/

theorem skipIgnored_closing (inComment : Bool) (cs : List Char) :
    (∀ t, skipIgnored inComment (cs ++ closing t) = skipIgnored inComment cs ++ closing t) ∨
      skipIgnored inComment cs = [] ∧
        ∀ t, skipIgnored inComment (cs ++ closing t) = skipIgnored true t := by
  induction cs generalizing inComment with
  | nil =>
    cases inComment
    · exact .inl fun _ => rfl
    · exact .inr ⟨rfl, fun _ => rfl⟩
  | cons c cs ih =>
    simp only [List.cons_append, skipIgnored]
    split
    · exact ih _
    · split
      · exact ih _
      · split
        · exact ih _
        · exact .inl fun _ => rfl

/-- Only a comment goes on into the end. -/
theorem skip_closing (verbose : Bool) (cs : List Char) :
    (∀ t, skip verbose (cs ++ closing t) = skip verbose cs ++ closing t) ∨
      skip verbose cs = [] ∧ ∀ t, skip verbose (cs ++ closing t) = skipIgnored true t := by
  cases verbose
  · exact .inl fun _ => rfl
  · exact skipIgnored_closing false cs

/-- A comment that is not ended goes on to the end of the text. -/
theorem skipIgnored_eq_nil (h : '\n' ∉ t) : skipIgnored true t = [] := by
  induction t with
  | nil => rfl
  | cons c t ih =>
    obtain ⟨hc, ht⟩ := not_or.1 (mt List.mem_cons.2 h)
    have hne : (c != '\n') = true := bne_iff_ne.2 (Ne.symm hc)
    rw [skipIgnored, if_pos rfl, hne]
    exact ih ht

theorem skipIgnored_skipIgnored (inComment : Bool) (cs : List Char) :
    skipIgnored false (skipIgnored inComment cs) = skipIgnored inComment cs := by
  induction cs generalizing inComment with
  | nil => rfl
  | cons c cs ih =>
    rw [skipIgnored]
    split
    · exact ih _
    · split
      · exact ih _
      · split
        · exact ih _
        · simp [skipIgnored, *]

/-- What is skipped is not skipped again. -/
theorem skip_skip (verbose : Bool) (cs : List Char) :
    skip verbose (skip verbose cs) = skip verbose cs := by
  cases verbose
  · rfl
  · exact skipIgnored_skipIgnored false cs

/-- A text with more to come has more to come with the end too. -/
theorem more?_closing (h : more? verbose cs = some r) :
    more? verbose (cs ++ closing t) = some (r ++ closing t) := by
  obtain ⟨hskip, hne⟩ := more?_eq_some.1 h
  refine more?_eq_some.2 ⟨?_, by simp [hne]⟩
  obtain hc | ⟨hc, -⟩ := skip_closing verbose cs
  · rw [hc, hskip]
  · exact absurd (hskip.symm.trans hc) hne

/-- Where nothing more comes, what comes with the end is the end or eats into it. -/
theorem more?_closing_eq (h : more? verbose cs = none)
    (hr : more? verbose (cs ++ closing t) = some r) :
    r = closing t ∨ r <:+ t ∧ more? verbose r = some r := by
  obtain ⟨hskip, hne⟩ := more?_eq_some.1 hr
  obtain hc | ⟨-, hc⟩ := skip_closing verbose cs
  · rw [hc, more?_eq_none.1 h, List.nil_append] at hskip
    exact .inl hskip.symm
  · refine .inr ⟨?_, more?_eq_some.2 ⟨?_, hne⟩⟩
    · rw [← hskip, hc]
      exact skipIgnored_suffix true t
    · rw [← hskip, skip_skip]

@[simp] theorem more?_end (verbose : Bool) : more? verbose (closing t) = some (closing t) := by
  cases verbose <;> rfl

/-- A reading of what follows, which may not be at the end of the text. -/
theorem keeps_more {g g' : List Char → Option (β × List Char)}
    (hg : ∀ c r, (c :: r).length ≤ cs.length →
      Keeps t n (g (c :: r)) (g' (c :: (r ++ closing t))))
    (hend : ∀ b r, g' (closing t) = some (b, r) → r.length ≤ t.length + n)
    (hsuf : ∀ ds b r, (more? verbose ds).bind g' = some (b, r) → r <:+ ds) :
    Keeps t n ((more? verbose cs).bind g) ((more? verbose (cs ++ closing t)).bind g') := by
  cases hx : more? verbose cs with
  | none =>
    refine .of_none fun b r' hy => ?_
    obtain ⟨r, hr, hb⟩ := Option.bind_eq_some_iff.1 hy
    obtain rfl | ⟨hsuf', hr⟩ := more?_closing_eq hx hr
    · exact hend b r' hb
    · have hread : (more? verbose r).bind g' = some (b, r') := by rw [hr, Option.bind_some, hb]
      exact Nat.le_add_right_of_le ((hsuf r b r' hread).trans hsuf').length_le
  | some ds =>
    obtain ⟨c, r, rfl⟩ := List.exists_cons_of_ne_nil (more?_eq_some.1 hx).2
    rw [more?_closing hx]
    exact hg c r (more?_suffix hx).length_le

/-- As `keeps_more`, where what is read takes something off its text. -/
theorem keeps_more_of_rest {g g' : List Char → Option (β × List Char)}
    (hg : ∀ c r, (c :: r).length ≤ cs.length →
      Keeps t 0 (g (c :: r)) (g' (c :: (r ++ closing t))))
    (hrest : ∀ ds b r, (more? verbose ds).bind g' = some (b, r) → Rest r ds) :
    Keeps t 0 ((more? verbose cs).bind g) ((more? verbose (cs ++ closing t)).bind g') := by
  refine keeps_more hg (fun b r h => ?_) fun ds b r h => (hrest ds b r h).suffix
  have hread : (more? verbose (closing t)).bind g' = some (b, r) := by rw [more?_end, ← h]; rfl
  exact Nat.le_of_lt_succ (hrest _ b r hread).2

/-- As `keeps_more`, where what is read may begin with the end. -/
theorem keeps_more_of_suffix {g g' : List Char → Option (β × List Char)}
    (hg : ∀ c r, (c :: r).length ≤ cs.length →
      Keeps t 1 (g (c :: r)) (g' (c :: (r ++ closing t))))
    (hsuf : ∀ ds b r, (more? verbose ds).bind g' = some (b, r) → r <:+ ds) :
    Keeps t 1 ((more? verbose cs).bind g) ((more? verbose (cs ++ closing t)).bind g') := by
  refine keeps_more hg (fun b r h => ?_) hsuf
  have hread : (more? verbose (closing t)).bind g' = some (b, r) := by rw [more?_end, ← h]; rfl
  exact (hsuf _ b r hread).length_le

/-! ## Numbers -/

theorem dropWhile_closing {p : Char → Bool} (hp : p ')' = false) (cs : List Char) :
    (cs ++ closing t).dropWhile p = cs.dropWhile p ++ closing t := by
  induction cs with
  | nil => simp [closing, hp]
  | cons c cs ih =>
    cases hc : p c
    · simp [hc]
    · simp [hc, ih]

theorem dropBlanks_closing (cs : List Char) :
    (cs ++ closing t).dropWhile Text.isBlank = cs.dropWhile Text.isBlank ++ closing t :=
  dropWhile_closing (by decide) cs

@[simp] theorem digits_nil (verbose : Bool) (fuel : Nat) : digits verbose fuel [] = ([], []) := by
  cases fuel <;> rfl

/-- Where there is some fuel for each end, one step can be taken off. -/
theorem exists_succ {fuel' : List Char → Nat} (h : ∀ t, 0 < fuel' t) :
    ∃ k : List Char → Nat, fuel' = fun t => k t + 1 :=
  ⟨fun t => fuel' t - 1, funext fun t => (Nat.sub_add_cancel (h t)).symm⟩

/-- Digits are read up to the end, or the text ends in a comment after them. -/
theorem digits_closing (verbose : Bool) (cs : List Char) (fuel' : List Char → Nat)
    (hfuel : cs.length < fuel) (hfuel' : ∀ t, cs.length < fuel' t) :
    (∀ t, digits verbose (fuel' t) (cs ++ closing t) =
        ((digits verbose fuel cs).1, (digits verbose fuel cs).2 ++ closing t)) ∨
      (digits verbose fuel cs).2 = [] ∧
        ∀ t, (digits verbose (fuel' t) (cs ++ closing t)).2 <:+ t ∧
          ('\n' ∉ t → digits verbose (fuel' t) (cs ++ closing t) = digits verbose fuel cs) := by
  induction fuel generalizing cs fuel' with
  | zero => omega
  | succ fuel ih =>
    obtain ⟨fuel', rfl⟩ := exists_succ fun t => Nat.zero_lt_of_lt (hfuel' t)
    cases cs with
    | nil => exact .inl fun _ => rfl
    | cons c cs =>
      simp only [List.cons_append, digits]
      split
      · have hlen := (skip_suffix verbose cs).length_le
        rw [List.length_cons] at hfuel
        obtain hskip | ⟨hnil, hskip⟩ := skip_closing verbose cs
        · simp only [hskip]
          have hk (t) : (skip verbose cs).length < fuel' t :=
            Nat.lt_of_le_of_lt hlen (Nat.lt_of_succ_lt_succ (hfuel' t))
          refine (ih (skip verbose cs) fuel' (by omega) hk).imp (fun hd t => ?_) fun ⟨hd, hd'⟩ => ?_
          · rw [hd t]
          · exact ⟨hd, fun t => ⟨(hd' t).1, fun ht => by rw [(hd' t).2 ht]⟩⟩
        · simp only [hskip, hnil, digits_nil]
          refine .inr ⟨trivial, fun t => ⟨?_, fun ht => by rw [skipIgnored_eq_nil ht, digits_nil]⟩⟩
          exact (digits_suffix verbose _ _).trans (skipIgnored_suffix true t)
      · exact .inl fun _ => rfl

/-- The count that digits are, with what is left after it. -/
def countOf? (verbose : Bool) (p : List Char × List Char) : Option (Nat × List Char) :=
  let n := p.1.foldl (fun n d => 10 * n + (d.toNat - '0'.toNat)) 0
  if p.1.isEmpty ∨ UInt32.size ≤ n then none
  else some (n, skip verbose (p.2.dropWhile Text.isBlank))

theorem count?_eq (verbose : Bool) (cs : List Char) :
    count? verbose cs =
      countOf? verbose (digits verbose ((cs.dropWhile Text.isBlank).length + 1)
        (cs.dropWhile Text.isBlank)) :=
  rfl

theorem countOf?_suffix {p : List Char × List Char} {k : Nat}
    (h : countOf? verbose p = some (k, r)) : r <:+ p.2 := by
  unfold countOf? at h
  dsimp only at h
  split at h
  · cases h
  · cases h
    exact (skip_suffix verbose _).trans (List.dropWhile_suffix _)

theorem count?_closing (cs : List Char) :
    Reaches (count? verbose cs) fun t => count? verbose (cs ++ closing t) := by
  simp only [count?_eq, dropBlanks_closing]
  generalize cs.dropWhile Text.isBlank = ds
  have hk (t) : ds.length < (ds ++ closing t).length + 1 := length_lt_closing ds t
  obtain hd | ⟨hd, hd'⟩ := digits_closing verbose ds _ (Nat.lt_succ_self _) hk
  · simp only [hd]
    generalize digits verbose (ds.length + 1) ds = p
    dsimp only [countOf?]
    split
    · exact .inl fun _ => .none
    · simp only [dropBlanks_closing]
      obtain hs | ⟨hs, hs'⟩ := skip_closing verbose (p.2.dropWhile Text.isBlank)
      · simp only [hs]
        exact .inl fun _ => .some _ _
      · refine .inr ⟨_, by rw [hs], fun t => ⟨fun b r h => ?_, fun ht => ?_⟩⟩
        · cases h
          rw [hs' t]
          exact skipIgnored_suffix true t
        · dsimp only
          rw [hs' t, skipIgnored_eq_nil ht]
  · have hsuf (t b r)
        (h : countOf? verbose (digits verbose ((ds ++ closing t).length + 1) (ds ++ closing t)) =
          some (b, r)) : r <:+ t :=
      (countOf?_suffix h).trans (hd' t).1
    cases hx : countOf? verbose (digits verbose (ds.length + 1) ds) with
    | none => exact .inl fun t => .of_none fun b r h => (hsuf t b r h).length_le
    | some p =>
      obtain ⟨k, r⟩ := p
      obtain rfl : r = [] := List.suffix_nil.1 (hd ▸ countOf?_suffix hx)
      refine .inr ⟨k, rfl, fun t => ⟨hsuf t, fun ht => ?_⟩⟩
      exact (congrArg _ ((hd' t).2 ht)).trans hx

theorem hexDigits?_closing {wanted k : Nat} (cs : List Char) :
    Keeps t 0 (hexDigits? verbose wanted k cs)
      (hexDigits? verbose wanted k (cs ++ closing t)) := by
  induction wanted generalizing k cs with
  | zero => exact .some _ _
  | succ wanted ih =>
    simp only [hexDigits?, Option.bind_eq_bind]
    refine keeps_more (fun c r _ => ?_) (fun _ _ h => by cases h) fun ds b r h =>
      hexDigits?_suffix (show hexDigits? verbose (wanted + 1) k ds = some (b, r) from h)
    dsimp only
    cases hexValue? c with
    | none => exact .none
    | some d => exact ih _

/-! ## Escapes -/

theorem bracedHex?_closing {k? : Option Nat} (hfuel : cs.length < fuel)
    (hfuel' : cs.length < fuel') :
    Keeps t 0 (bracedHex? verbose fuel k? cs) (bracedHex? verbose fuel' k? (cs ++ closing t)) := by
  induction fuel generalizing fuel' k? cs with
  | zero => omega
  | succ fuel ih =>
    obtain ⟨fuel', rfl⟩ : ∃ k, fuel' = k + 1 := ⟨fuel' - 1, by omega⟩
    simp only [bracedHex?, Option.bind_eq_bind]
    refine keeps_more_of_rest (fun c r hlen => ?_) fun ds b r h =>
      bracedHex?_rest (show bracedHex? verbose (fuel' + 1) k? ds = some (b, r) from h)
    rw [List.length_cons] at hlen
    by_cases hc : c = '\x7d'
    · subst hc
      cases k? with
      | none => exact .none
      | some k => exact .some _ _
    · simp only
      cases hexValue? c with
      | none => exact .none
      | some d => exact ih (by omega) (by omega)

theorem codeEscape?_closing {width : Nat} :
    Keeps t 0 (codeEscape? verbose (width + 1) cs)
      (codeEscape? verbose (width + 1) (cs ++ closing t)) := by
  have hlit : ∀ (byte : Bool) k (r : List Char),
      ((charOfCode? k).bind fun c => some ((⟨c, byte⟩ : Literal), r)) =
        ((charOfCode? k).map fun c => ⟨c, byte⟩).map fun l => (l, r) := by
    intro byte k r
    cases charOfCode? k <;> rfl
  simp only [codeEscape?, Option.bind_eq_bind]
  refine keeps_more (fun c r _ => ?_) (fun b r h => ?_) fun ds b r h =>
    codeEscape?_suffix (show codeEscape? verbose (width + 1) ds = some (b, r) from h)
  · by_cases hc : c = '\x7b'
    · subst hc
      exact (bracedHex?_closing (by omega) (length_lt_closing r t)).filter (hlit _)
    · have h₁ := head_ne hc r
      have h₂ := head_ne hc (r ++ closing t)
      simp only
      exact (hexDigits?_closing (c :: r)).filter (hlit _)
  · have hnone : hexDigits? verbose (width + 1) 0 (closing t) = none := by
      rw [hexDigits?, more?_end]
      rfl
    change (hexDigits? verbose (width + 1) 0 (closing t)).bind _ = some (b, r) at h
    rw [hnone] at h
    cases h

theorem bracedName?_closing (cs : List Char) (fuel' : Nat) (hfuel : cs.length < fuel)
    (hfuel' : cs.length < fuel') :
    Keeps t 0 (bracedName? verbose fuel cs) (bracedName? verbose fuel' (cs ++ closing t)) := by
  induction fuel generalizing cs fuel' with
  | zero => omega
  | succ fuel ih =>
    obtain ⟨fuel', rfl⟩ : ∃ k, fuel' = k + 1 := ⟨fuel' - 1, by omega⟩
    simp only [bracedName?, Option.bind_eq_bind]
    refine keeps_more_of_rest (fun c r hlen => ?_) fun ds b r h =>
      bracedName?_rest (show bracedName? verbose (fuel' + 1) ds = some (b, r) from h)
    rw [List.length_cons] at hlen
    by_cases hc : c = '\x7d'
    · subst hc
      exact .some _ _
    · simp only
      exact (ih r fuel' (by omega) (by omega)).filter
        (f := fun name => some (c :: name)) fun _ _ => rfl

theorem propertyEscape?_closing (cs : List Char) :
    Keeps t 0 (propertyEscape? verbose cs) (propertyEscape? verbose (cs ++ closing t)) := by
  simp only [propertyEscape?, Option.bind_eq_bind]
  refine keeps_more (fun c r _ => ?_) (fun b r h => ?_) fun ds b r => propertyEscape?_suffix
  · by_cases hc : c = '\x7b'
    · subst hc
      exact (bracedName?_closing r _ (by omega) (length_lt_closing r t)).filter
        (f := fun name => some (queryOfName name)) fun _ _ => rfl
    · by_cases hc' : c = '\\'
      · subst hc'
        exact .none
      · simp only
        exact .some _ _
  · change some _ = some (b, r) at h
    cases h
    exact Nat.le_refl _

theorem boundaryName?_closing (cs : List Char) (fuel' : Nat) (hfuel : cs.length < fuel)
    (hfuel' : cs.length < fuel') :
    Keeps t 0 (boundaryName? verbose fuel cs) (boundaryName? verbose fuel' (cs ++ closing t)) := by
  induction fuel generalizing cs fuel' with
  | zero => omega
  | succ fuel ih =>
    obtain ⟨fuel', rfl⟩ : ∃ k, fuel' = k + 1 := ⟨fuel' - 1, by omega⟩
    cases cs with
    | nil => exact .none
    | cons c cs =>
      rw [List.length_cons] at hfuel hfuel'
      simp only [List.cons_append, boundaryName?, Option.bind_eq_bind]
      split
      · exact .some _ _
      · split
        · have hlen := (skip_suffix verbose cs).length_le
          obtain hskip | ⟨hnil, hskip⟩ := skip_closing verbose cs
          · rw [hskip]
            exact (ih _ fuel' (by omega) (by omega)).filter
              (f := fun name => some (c :: name)) fun _ _ => rfl
          · have hnone : boundaryName? verbose fuel [] = none := by cases fuel <;> rfl
            rw [hskip, hnil, hnone]
            refine .of_none fun b r h => ?_
            obtain ⟨⟨name, r'⟩, hname, h⟩ := Option.bind_eq_some_iff.1 h
            cases h
            exact ((boundaryName?_suffix hname).trans (skipIgnored_suffix true t)).length_le
        · exact .none

/-- At an opening brace that nothing follows the reading of the text alone fails; the reading with
the end finds `a` and leaves the brace to be a repetition. -/
def Dangling (t : List Char) (verbose : Bool) (a : α) (x y : Option (α × List Char)) : Prop :=
  x = none ∧ ∃ r, skip verbose r = [] ∧ y = some (a, '\x7b' :: (r ++ closing t))

theorem Dangling.map {a : α} {f : α × List Char → β × List Char} {b : β}
    (h : Dangling t verbose a x y) (hf : ∀ r, f (a, r) = (b, r)) :
    Dangling t verbose b (x.map f) (y.map f) := by
  obtain ⟨rfl, r, hr, rfl⟩ := h
  exact ⟨rfl, r, hr, by rw [Option.map_some, hf]⟩

/-- The word boundary of a name. -/
def boundaryOfName? : String → Option Assertion
  | "start" => some .wordStart
  | "end" => some .wordEnd
  | "start-half" => some .wordStartHalf
  | "end-half" => some .wordEndHalf
  | _ => none

/-- The special word boundary that letters name, with what is left after it. -/
theorem boundaryOfName?_eq (p : List Char × List Char) :
    (match String.ofList p.1 with
      | "start" => some (Assertion.wordStart, p.2)
      | "end" => some (.wordEnd, p.2)
      | "start-half" => some (.wordStartHalf, p.2)
      | "end-half" => some (.wordEndHalf, p.2)
      | _ => none) = (boundaryOfName? (String.ofList p.1)).map fun a => (a, p.2) := by
  unfold boundaryOfName?
  generalize String.ofList p.1 = s
  split <;> simp only [Option.map_some, Option.map_none]

theorem boundary?_closing (cs : List Char) :
    Keeps t 0 (boundary? verbose cs) (boundary? verbose (cs ++ closing t)) ∨
      Dangling t verbose .wordBoundary (boundary? verbose cs)
        (boundary? verbose (cs ++ closing t)) := by
  cases cs with
  | nil => exact .inl (.some _ [])
  | cons c cs =>
    by_cases hc : c = '\x7b'
    · subst hc
      simp only [List.cons_append, boundary?, Option.bind_eq_bind]
      cases hx : more? verbose cs with
      | none =>
        cases hy : more? verbose (cs ++ closing t) with
        | none => exact .inl .none
        | some ds =>
          rw [Option.bind_none, Option.bind_some]
          obtain rfl | ⟨hsuf, -⟩ := more?_closing_eq hx hy
          · exact .inr ⟨rfl, cs, more?_eq_none.1 hx, rfl⟩
          · split
            · split
              · refine .inl (.of_none fun a r h => ?_)
                obtain ⟨⟨name, r'⟩, hname, h⟩ := Option.bind_eq_some_iff.1 h
                obtain ⟨_, -, h⟩ :=
                  Option.map_eq_some_iff.1 ((boundaryOfName?_eq (name, r')).symm.trans h)
                cases h
                exact ((boundaryName?_suffix hname).trans hsuf).length_le
              · exact .inr ⟨rfl, cs, more?_eq_none.1 hx, rfl⟩
            · exact .inl .none
      | some ds =>
        obtain ⟨c, r, rfl⟩ := List.exists_cons_of_ne_nil (more?_eq_some.1 hx).2
        rw [more?_closing hx]
        simp only [Option.bind_some, List.cons_append]
        refine .inl ?_
        split
        · exact (boundaryName?_closing (c :: r) _ (Nat.lt_succ_self _)
            (Nat.succ_lt_succ (length_lt_closing r t))).filter
              (f := fun name => boundaryOfName? (String.ofList name)) fun name r =>
                boundaryOfName?_eq (name, r)
        · exact .some _ (_ :: _)
    · have h₁ := head_ne hc cs
      have h₂ := head_ne hc (cs ++ closing t)
      simp only [List.cons_append, boundary?]
      exact .inl (.some _ (_ :: _))

theorem escape?_closing (cs : List Char) :
    Keeps t 0 (escape? verbose cs) (escape? verbose (cs ++ closing t)) ∨
      Dangling t verbose (.assertion .wordBoundary) (escape? verbose cs)
        (escape? verbose (cs ++ closing t)) := by
  cases cs with
  | nil => exact .inl (.of_end (plain ')') (Nat.le_refl _))
  | cons c cs =>
    simp only [List.cons_append, escape?]
    split
    · exact .inl (.some _ _)
    · split
      all_goals first
        | exact .inl (.some _ _)
        | exact .inl (codeEscape?_closing.map fun _ _ => rfl)
        | exact .inl ((propertyEscape?_closing _).map fun _ _ => rfl)
        | exact (boundary?_closing _).imp (fun h => h.map fun _ _ => rfl)
            fun h => h.map fun _ => rfl
        | exact .inl .none

/-! ## Classes -/

/-- A text that is taken up to its end is taken on after the parenthesis. -/
theorem dropWhile_append_closing {p : Char → Bool} (hp : p ')' = true) (cs : List Char) :
    (cs ++ closing t).dropWhile p =
      if cs.dropWhile p = [] then t.dropWhile p else cs.dropWhile p ++ closing t := by
  induction cs with
  | nil => simp [closing, hp]
  | cons c cs ih =>
    cases hc : p c
    · simp [hc]
    · simp [hc, ih]

theorem takeWhile_append_closing {p : Char → Bool} (hp : p ')' = true) (cs : List Char) :
    (cs ++ closing t).takeWhile p =
      if cs.dropWhile p = [] then cs ++ ')' :: t.takeWhile p else cs.takeWhile p := by
  induction cs with
  | nil => simp [closing, hp]
  | cons c cs ih =>
    cases hc : p c
    · simp [hc]
    · simp only [List.cons_append, List.takeWhile_cons, List.dropWhile_cons, hc, if_true, ih]
      split <;> rfl

/-- No class has a name with a parenthesis in it. -/
theorem NamedClass.ofName?_eq_none {name : List Char} (h : ')' ∈ name) :
    ofName? (String.ofList name) = none := by
  generalize hs : String.ofList name = s
  obtain rfl : name = s.toList := by rw [← hs, String.toList_ofList]
  unfold ofName?
  split
  case h_15 => rfl
  all_goals exact absurd h (by decide)

/-- A class with a name between colons, at the name. -/
def namedFrom? (negated : Bool) (cs : List Char) : Option (ClassTree × List Char) :=
  (NamedClass.ofName? (String.ofList (cs.takeWhile (· ≠ ':')))).bind fun cls =>
    match cs.dropWhile (· ≠ ':') with
    | ':' :: ']' :: rest => some (.named negated cls, rest)
    | _ => none

theorem namedFrom?_closing (negated : Bool) (cs : List Char) :
    namedFrom? negated (cs ++ closing t) =
      (namedFrom? negated cs).map fun (item, r) => (item, r ++ closing t) := by
  unfold namedFrom?
  rw [dropWhile_append_closing (by decide), takeWhile_append_closing (by decide)]
  by_cases hnil : cs.dropWhile (· ≠ ':') = []
  · rw [if_pos hnil, if_pos hnil, NamedClass.ofName?_eq_none (by simp), hnil]
    simp only [Option.bind_none, Option.bind_fun_none, Option.map_none]
  · rw [if_neg hnil, if_neg hnil]
    obtain ⟨c, r, hr⟩ := List.exists_cons_of_ne_nil hnil
    rw [hr]
    cases NamedClass.ofName? (String.ofList (cs.takeWhile (· ≠ ':'))) with
    | none => rfl
    | some cls =>
      rw [Option.bind_some, Option.bind_some]
      split
      · rename_i rest heq
        cases r with
        | nil => simp [closing] at heq
        | cons d r =>
          obtain ⟨rfl, rfl, rfl⟩ : c = ':' ∧ d = ']' ∧ r ++ closing t = rest := by simpa using heq
          rfl
      · rename_i hne
        split
        · rename_i rest heq
          exact absurd (congrArg (· ++ closing t) heq) (hne (rest ++ closing t))
        · rfl

/-- The name of a class, which the end is no part of, is read off the text. -/
theorem namedClass?_closing (cs : List Char) :
    namedClass? (cs ++ closing t) =
      (namedClass? cs).map fun (item, r) => (item, r ++ closing t) := by
  match cs with
  | [] => rfl
  | [c] =>
    have h₁ : ∀ rest, [c] = '[' :: ':' :: rest → False := nofun
    have h₂ : ∀ rest, c :: closing t = '[' :: ':' :: rest → False := by simp [closing]
    simp only [List.cons_append, List.nil_append, namedClass?, Option.map_none]
  | c :: d :: cs =>
    by_cases hcd : c = '[' ∧ d = ':'
    · obtain ⟨rfl, rfl⟩ := hcd
      cases cs with
      | nil => exact namedFrom?_closing false []
      | cons e cs =>
        by_cases he : e = '^'
        · subst he
          exact namedFrom?_closing true cs
        · have h₁ := head_ne he cs
          have h₂ := head_ne he (cs ++ closing t)
          have hcaret := namedFrom?_closing (t := t) false (e :: cs)
          simp only [namedFrom?] at hcaret
          simp only [List.cons_append, namedClass?]
          exact hcaret
    · have hne : ∀ cs rest, c :: d :: cs = '[' :: ':' :: rest → False := fun cs rest h => by
        injection h with hc h
        injection h with hd
        exact hcd ⟨hc, hd⟩
      have h₁ := hne cs
      have h₂ := hne (cs ++ closing t)
      simp only [List.cons_append, namedClass?, Option.map_none]

theorem classSign?_closing (verbose : Bool) (cs : List Char) :
    Keeps t 0 (classSign? verbose cs) (classSign? verbose (cs ++ closing t)) ∨
      Dangling t verbose (.assertion .wordBoundary) (classSign? verbose cs)
        (classSign? verbose (cs ++ closing t)) := by
  cases cs with
  | nil => exact .inl (.of_end (plain ')') (Nat.le_refl _))
  | cons c cs =>
    by_cases hc : c = '\\'
    · subst hc
      exact escape?_closing cs
    · simp only [List.cons_append, classSign?]
      exact .inl (.some _ _)

/-- What a class looks ahead to in verbose mode. -/
def lookAhead (cs : List Char) : List Char :=
  match cs.dropWhile Text.isBlank with
  | '#' :: more => more.dropWhile Text.isBlank
  | more => more

theorem lookAhead_closing (cs : List Char) :
    lookAhead (cs ++ closing t) = lookAhead cs ++ closing t := by
  unfold lookAhead
  rw [dropBlanks_closing]
  cases cs.dropWhile Text.isBlank with
  | nil => rfl
  | cons c cs =>
    by_cases hc : c = '#'
    · subst hc
      exact dropBlanks_closing cs
    · have h₁ := head_ne hc cs
      have h₂ := head_ne hc (cs ++ closing t)
      simp only [List.cons_append]

theorem head?_closing {d : Char} (hd : d ≠ ')') (cs : List Char) :
    (cs ++ closing t).head? = some d ↔ cs.head? = some d := by
  cases cs with
  | nil => simpa [closing] using hd.symm
  | cons c cs => rfl

/-- The end of the frame is no sign that a class looks ahead for. -/
theorem peek?_closing {d : Char} (hd : d = ']' ∨ d = '-') (c : Char) (cs : List Char) :
    peek? verbose (c :: (cs ++ closing t)) = some d ↔ peek? verbose (c :: cs) = some d := by
  have hend : d ≠ ')' := by rintro rfl; simp at hd
  cases verbose with
  | false => exact head?_closing hend cs
  | true =>
    change (lookAhead (cs ++ closing t)).head?.or (cs ++ closing t).head? = some d ↔
      (lookAhead cs).head?.or cs.head? = some d
    rw [lookAhead_closing]
    by_cases h : cs.head? = some d
    · obtain ⟨cs, rfl⟩ := List.head?_eq_some_iff.1 h
      have hahead : lookAhead (d :: cs) = d :: cs := by
        obtain rfl | rfl := hd <;> rfl
      rw [hahead]
      exact Iff.rfl
    · have h' : (cs ++ closing t).head? ≠ some d := mt (head?_closing hend cs).1 h
      rw [Option.or_eq_some_iff, Option.or_eq_some_iff, head?_closing hend]
      simp only [h, h', and_false, or_false]

/-- The range between two signs that stand for characters. -/
def rangeOf? (low high : Escaped) : Option ClassTree := do
  let low ← low.literal?
  let high ← high.literal?
  if low.char ≤ high.char then some (.range low high) else none

theorem rangeOf?_assertion (low : Escaped) (a : Assertion) :
    rangeOf? low (.assertion a) = none := by
  cases low.literal? <;> simp [rangeOf?, Escaped.literal?]

theorem rangeFrom?_closing (low : Escaped) (cs : List Char) :
    Keeps t 1 (rangeFrom? verbose low cs) (rangeFrom? verbose low (cs ++ closing t)) := by
  have hrange : ∀ (high : Escaped) (r : List Char),
      (low.literal?.bind fun low => high.literal?.bind fun high =>
        if low.char ≤ high.char then some (ClassTree.range low high, r) else none) =
          (rangeOf? low high).map fun item => (item, r) := by
    intro high r
    cases hl : low.literal? <;> cases hh : high.literal? <;>
      simp [rangeOf?, hl, hh, apply_ite (Option.map _)]
  simp only [rangeFrom?, Option.bind_eq_bind, hrange]
  refine keeps_more_of_suffix (fun c r _ => ?_) fun ds b r h => ?_
  · have hitem : ((c :: (r ++ closing t)).head? ≠ some '-' ∨
          peek? verbose (c :: (r ++ closing t)) = some ']' ∨
          peek? verbose (c :: (r ++ closing t)) = some '-') ↔
        (c :: r).head? ≠ some '-' ∨ peek? verbose (c :: r) = some ']' ∨
          peek? verbose (c :: r) = some '-' := by
      rw [peek?_closing (.inl rfl), peek?_closing (.inr rfl), List.head?_cons, List.head?_cons]
    by_cases h : (c :: r).head? ≠ some '-' ∨ peek? verbose (c :: r) = some ']' ∨
        peek? verbose (c :: r) = some '-'
    · rw [if_pos h, if_pos (hitem.2 h)]
      cases low.classItem? with
      | none => exact .none
      | some item => exact .some item (c :: r)
    · rw [if_neg h, if_neg (mt hitem.1 h)]
      refine keeps_more_of_suffix (fun c r _ => ?_) fun ds b r h => ?_
      · obtain hkeeps | ⟨hx, r', -, hy⟩ := classSign?_closing (t := t) verbose (c :: r)
        · exact (hkeeps.filter fun high r => rfl).mono (by omega)
        · rw [hx, List.cons_append.symm, hy, Option.bind_some, rangeOf?_assertion]
          exact .none
      · obtain ⟨es, hmore, h⟩ := Option.bind_eq_some_iff.1 h
        obtain ⟨⟨high, r'⟩, hhigh, h⟩ := Option.bind_eq_some_iff.1 h
        obtain ⟨_, -, h⟩ := Option.map_eq_some_iff.1 h
        cases h
        exact (classSign?_rest hhigh).suffix.trans (more?_suffix hmore)
  · refine rangeFrom?_suffix (show rangeFrom? verbose low ds = some (b, r) from ?_)
    simpa only [rangeFrom?, Option.bind_eq_bind, hrange] using h

theorem rangeFrom?_assertion (a : Assertion) (cs : List Char) :
    rangeFrom? verbose (.assertion a) cs = none := by
  simp only [rangeFrom?, Option.bind_eq_bind]
  cases more? verbose cs with
  | none => rfl
  | some r =>
    rw [Option.bind_some]
    split
    · rfl
    · cases more? verbose (r.drop 1) with
      | none => rfl
      | some r =>
        rw [Option.bind_some]
        cases classSign? verbose r <;> rfl

theorem classRange?_closing (cs : List Char) :
    Keeps t 1 (classRange? verbose cs) (classRange? verbose (cs ++ closing t)) := by
  rw [classRange?_eq, classRange?_eq]
  obtain hkeeps | ⟨hx, r, -, hy⟩ := classSign?_closing (t := t) verbose cs
  · refine hkeeps.bind (fun low r _ => rangeFrom?_closing low r) fun low r item r' hr h => ?_
    exact Nat.le_succ_of_le (Nat.le_trans (rangeFrom?_suffix h).length_le hr)
  · rw [hx, hy, Option.bind_some, rangeFrom?_assertion]
    exact .none

theorem openingLiterals?_closing (items : List ClassTree) (cs : List Char) (fuel' : Nat)
    (hfuel : cs.length < fuel) (hfuel' : cs.length < fuel') :
    Keeps t 1 (openingLiterals? verbose fuel items cs)
      (openingLiterals? verbose fuel' items (cs ++ closing t)) := by
  induction fuel generalizing items cs fuel' with
  | zero => omega
  | succ fuel ih =>
    obtain ⟨fuel', rfl⟩ : ∃ k, fuel' = k + 1 := ⟨fuel' - 1, by omega⟩
    cases cs with
    | nil => exact .some items []
    | cons c cs =>
      rw [List.length_cons] at hfuel hfuel'
      by_cases hc : c = '-'
      · subst hc
        simp only [List.cons_append, openingLiterals?, Option.bind_eq_bind]
        refine keeps_more_of_suffix (fun c r hlen => ?_) fun ds b r h => ?_
        · exact ih _ (c :: r) fuel' (by omega) (by omega)
        · obtain ⟨es, hmore, h⟩ := Option.bind_eq_some_iff.1 h
          exact (openingLiterals?_suffix h).trans (more?_suffix hmore)
      · by_cases hc' : c = ']'
        · subst hc'
          simp only [List.cons_append, openingLiterals?, Option.bind_eq_bind]
          split
          · refine keeps_more_of_suffix (fun c r _ => .some _ (c :: r)) fun ds b r h => ?_
            obtain ⟨es, hmore, h⟩ := Option.bind_eq_some_iff.1 h
            cases h
            exact more?_suffix hmore
          · exact .some items (_ :: cs)
        · have h₁ := head_ne hc cs
          have h₂ := head_ne hc (cs ++ closing t)
          have h₃ := head_ne hc' cs
          have h₄ := head_ne hc' (cs ++ closing t)
          simp only [List.cons_append, openingLiterals?]
          exact .some items (c :: cs)

theorem caret?_closing (cs : List Char) :
    Keeps t 1 (caret? verbose cs) (caret? verbose (cs ++ closing t)) := by
  cases cs with
  | nil => exact .some false []
  | cons c cs =>
    by_cases hc : c = '^'
    · subst hc
      simp only [List.cons_append, caret?, Option.map_eq_bind]
      refine keeps_more_of_suffix (fun c r _ => .some true (c :: r)) fun ds b r h => ?_
      obtain ⟨es, hmore, h⟩ := Option.bind_eq_some_iff.1 h
      cases h
      exact more?_suffix hmore
    · have h₁ := head_ne hc cs
      have h₂ := head_ne hc (cs ++ closing t)
      simp only [List.cons_append, caret?]
      exact .some false (c :: cs)

theorem classStep_closing (c : Char) (cs : List Char) :
    classStep (c :: (cs ++ closing t)) =
      ((classStep (c :: cs)).1, (classStep (c :: cs)).2 ++ closing t) := by
  have htwo (d : Char) (hd : ')' ∉ [d, d]) :=
    not_append_of_closing (t := t) (c :: cs) [d, d] hd
  generalize hstep : classStep (c :: cs) = step
  unfold classStep at hstep
  split at hstep
  case h_6 h₁ h₂ h₃ h₄ h₅ =>
    rw [← hstep]
    exact classStep.eq_6 _ (head_ne_closing h₁) (htwo _ (by decide) h₂) (htwo _ (by decide) h₃)
      (htwo _ (by decide) h₄) (head_ne_closing h₅)
  all_goals
    rename_i heq
    cases heq
    rw [← hstep]
    rfl

/-- With so much fuel, the class and the body of a class that are read off a text are read off it
with the end too. -/
structure ClassKept (t : List Char) (verbose : Bool) (fuel : Nat) : Prop where
  bracketed : ∀ cs fuel', 2 * cs.length + 2 ≤ fuel → 2 * cs.length + 2 ≤ fuel' →
    Keeps t 0 (bracketed? verbose fuel cs) (bracketed? verbose fuel' (cs ++ closing t))
  body : ∀ pending items cs fuel', 2 * cs.length + 1 ≤ fuel → 2 * cs.length + 1 ≤ fuel' →
    Keeps t 0 (classBody? verbose fuel pending items cs)
      (classBody? verbose fuel' pending items (cs ++ closing t))

/-- A body that begins in the end eats into what comes after it. -/
theorem classBody?_short {pending : PendingOp} {items : List ClassTree} {b : ClassTree}
    (h : classBody? verbose fuel pending items cs = some (b, r)) (hcs : cs.length ≤ t.length + 1) :
    r.length ≤ t.length + 0 :=
  Nat.le_of_lt_succ (Nat.lt_of_lt_of_le (classBody?_rest h).2 hcs)

namespace ClassKept

theorem opened (h : ClassKept t verbose fuel) (negated : Bool) (cs : List Char) (fuel' : Nat)
    (hfuel : 2 * cs.length + 1 ≤ fuel) (hfuel' : 2 * cs.length + 1 ≤ fuel') :
    Keeps t 0 (opened? verbose fuel negated cs)
      (opened? verbose fuel' negated (cs ++ closing t)) := by
  refine (openingLiterals?_closing [] cs _ (by omega) (length_lt_closing cs t)).bind
    (fun items rest hrest => ?_) fun items rest b r' hr' hb => ?_
  · have hrest := (openingLiterals?_suffix hrest).length_le
    exact (h.body none items rest fuel' (by omega) (by omega)).map fun _ _ => rfl
  · obtain ⟨⟨inner, r'⟩, hbody, hb⟩ := Option.map_eq_some_iff.1 hb
    cases hb
    exact classBody?_short hbody hr'

theorem bracketed_succ (h : ClassKept t verbose fuel) (cs : List Char) (fuel' : Nat)
    (hfuel : 2 * cs.length + 1 ≤ fuel) (hfuel' : 2 * cs.length + 1 ≤ fuel') :
    Keeps t 0 (bracketed? verbose (fuel + 1) cs)
      (bracketed? verbose (fuel' + 1) (cs ++ closing t)) := by
  rw [bracketed?_succ, bracketed?_succ]
  refine keeps_more_of_rest (fun c r hlen => ?_) fun ds b r hb =>
    bracketed?_rest ((bracketed?_succ verbose fuel' ds).trans hb)
  refine (caret?_closing (c :: r)).bind (fun negated es hes => ?_)
    fun negated es b r' hes hb => ?_
  · have hes := (caret?_suffix hes).length_le
    exact h.opened negated es fuel' (by omega) (by omega)
  · exact Nat.le_of_lt_succ (Nat.lt_of_lt_of_le (opened?_rest hb).2 hes)

/-- What is read after a step is read with the end too. -/
theorem follow (h : ClassKept t verbose fuel) {step : ClassStep} (hstep : classStep cs = (step, r))
    (pending : PendingOp) (items : List ClassTree) (hfuel : 2 * cs.length ≤ fuel)
    (hfuel' : 2 * cs.length ≤ fuel') :
    Keeps t 0 (step.follow? verbose fuel pending items r)
      (step.follow? verbose fuel' pending items (r ++ closing t)) := by
  cases step with
  | close => exact .some _ _
  | operator kind =>
    have hrest := (classStep_rest hstep nofun).2
    exact h.body _ _ r fuel' (by omega) (by omega)
  | bracket =>
    cases classStep_bracket hstep
    rw [List.length_cons] at hfuel hfuel'
    have hnamed := namedClass?_closing (t := t) ('[' :: r)
    rw [List.cons_append] at hnamed
    simp only [ClassStep.follow?, hnamed]
    cases hx : namedClass? ('[' :: r) with
    | none =>
      refine (h.bracketed r fuel' (by omega) (by omega)).bind (fun b r' hr' => ?_)
        fun b r' d r'' hr' hd => classBody?_short hd (Nat.le_succ_of_le hr')
      have hrest := (bracketed?_rest hr').2
      exact h.body _ _ r' fuel' (by omega) (by omega)
    | some p =>
      obtain ⟨item, r'⟩ := p
      have hrest := (namedClass?_rest hx).2
      rw [List.length_cons] at hrest
      exact h.body _ _ r' fuel' (by omega) (by omega)
  | item =>
    cases classStep_item hstep
    refine (classRange?_closing cs).bind (fun item r hr => ?_)
      fun item r d r' hr hd => classBody?_short hd hr
    have hrest := (classRange?_rest hr).2
    exact h.body _ _ r fuel' (by omega) (by omega)

theorem body_succ (h : ClassKept t verbose fuel) (pending : PendingOp) (items : List ClassTree)
    (cs : List Char) (fuel' : Nat) (hfuel : 2 * cs.length ≤ fuel)
    (hfuel' : 2 * cs.length ≤ fuel') :
    Keeps t 0 (classBody? verbose (fuel + 1) pending items cs)
      (classBody? verbose (fuel' + 1) pending items (cs ++ closing t)) := by
  rw [classBody?_succ, classBody?_succ]
  refine keeps_more_of_rest (fun c r hlen => ?_) fun ds b r hb =>
    classBody?_rest ((classBody?_succ verbose fuel' pending items ds).trans hb)
  rw [classStep_closing]
  have hstep : classStep (c :: r) = ((classStep (c :: r)).1, (classStep (c :: r)).2) := rfl
  exact h.follow hstep pending items (by omega) (by omega)

end ClassKept

/-- Classes are read off a text with the end as they are read off the text alone. -/
theorem classKept (t : List Char) (verbose : Bool) (fuel : Nat) : ClassKept t verbose fuel := by
  induction fuel with
  | zero => exact ⟨fun _ _ h => by omega, fun _ _ _ _ h => by omega⟩
  | succ fuel ih =>
    constructor
    · intro cs fuel' hfuel hfuel'
      obtain ⟨fuel', rfl⟩ : ∃ k, fuel' = k + 1 := ⟨fuel' - 1, by omega⟩
      exact ih.bracketed_succ cs fuel' (by omega) (by omega)
    · intro pending items cs fuel' hfuel hfuel'
      obtain ⟨fuel', rfl⟩ : ∃ k, fuel' = k + 1 := ⟨fuel' - 1, by omega⟩
      exact ih.body_succ pending items cs fuel' (by omega) (by omega)

end BeanGraph.Pattern
