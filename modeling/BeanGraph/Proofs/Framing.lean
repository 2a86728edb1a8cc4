import BeanGraph.Proofs.Appending

/-!
# Groups, repetitions and branches with a parenthesis after them

What `Keeps` says of classes and escapes is carried on to moves (`move?_closing`) and from them, by
induction on the fuel, to whole branches (`branches?_closing`): branches that are read off a text
are read off it with any end too, which is left, unless a comment goes on into it.
-/

namespace BeanGraph.Pattern

variable {α β : Type} {n : Nat} {x y : Option (α × List Char)} {cs r t : List Char}
  {verbose : Bool} {fuel fuel' : Nat}

/-! ## Groups -/

theorem flags?_closing (negated : Bool) (done : FlagChanges) (cs : List Char) :
    Keeps t 0 (flags? negated done cs) (flags? negated done (cs ++ closing t)) := by
  induction cs generalizing negated done with
  | nil => exact .of_end (done.reverse, ')') (Nat.le_refl _)
  | cons c cs ih =>
    simp only [List.cons_append, flags?]
    split
    · exact .some _ _
    · split
      · cases cs with
        | nil =>
          have hstop : negated = true ∨ ')' = ':' ∨ ')' = ')' := .inr (.inr rfl)
          change Keeps t 0 none
            (if negated ∨ ')' = ':' ∨ ')' = ')' then none else flags? true done (closing t))
          rw [if_pos hstop]
          exact .none
        | cons d cs =>
          dsimp only [List.cons_append]
          split
          · exact .none
          · exact ih _ _
      · split
        · split
          · exact .none
          · exact ih _ _
        · exact .none

/-- The name of a group that characters up to a closing bracket are. -/
def nameOf? (name rest : List Char) : Option (List Char × List Char) :=
  match name, rest with
  | first :: others, '>' :: rest =>
    if isNameChar true first && others.all (isNameChar false) then some (name, rest) else none
  | _, _ => none

theorem groupName?_eq (cs : List Char) :
    groupName? cs = nameOf? (cs.takeWhile (· ≠ '>')) (cs.dropWhile (· ≠ '>')) :=
  rfl

theorem nameOf?_suffix {name rest b : List Char} (h : nameOf? name rest = some (b, r)) :
    r <:+ rest := by
  unfold nameOf? at h
  split at h
  · split at h
    · cases h
      exact List.suffix_cons _ _
    · cases h
  · cases h

theorem nameOf?_nil (name : List Char) : nameOf? name [] = none := by
  cases name <;> rfl

theorem groupName?_closing (cs : List Char) :
    Keeps t n (groupName? cs) (groupName? (cs ++ closing t)) := by
  rw [groupName?_eq, groupName?_eq, dropWhile_append_closing (by decide),
    takeWhile_append_closing (by decide)]
  by_cases hnil : cs.dropWhile (· ≠ '>') = []
  · rw [if_pos hnil, if_pos hnil, hnil]
    refine ⟨fun b r h => ?_, fun _ b r h => ?_⟩
    · exact absurd (nameOf?_nil _) (by rw [h]; nofun)
    · have hsuf := (nameOf?_suffix h).trans (List.dropWhile_suffix _)
      exact Nat.le_add_right_of_le hsuf.length_le
  · rw [if_neg hnil, if_neg hnil]
    obtain ⟨c, r, hr⟩ := List.exists_cons_of_ne_nil hnil
    have hc := List.head?_dropWhile_not (· ≠ '>') cs
    rw [hr] at hc ⊢
    obtain rfl : c = '>' := by simpa using hc
    cases cs.takeWhile (· ≠ '>') with
    | nil => exact .none
    | cons first others =>
      simp only [nameOf?, List.cons_append]
      split
      · exact .some _ _
      · exact .none

theorem opening?_skip (cs : List Char) :
    opening? verbose (skip verbose cs) = opening? verbose cs := by
  unfold opening?
  rw [skip_skip]

theorem opening?_closing (verbose : Bool) (cs : List Char) :
    Reaches (opening? verbose cs) fun t => opening? verbose (cs ++ closing t) := by
  obtain hskip | ⟨hnil, hskip⟩ := skip_closing verbose cs
  · refine .inl fun t => ?_
    dsimp only
    unfold opening?
    rw [hskip]
    generalize skip verbose cs = ds
    split
    · exact (groupName?_closing _).map fun _ _ => rfl
    · exact (groupName?_closing _).map fun _ _ => rfl
    · rename_i rest hnamed hangle
      have h₁ : ∀ r, rest ++ closing t = 'P' :: '<' :: r → False :=
        not_append_of_closing rest ['P', '<'] (by decide) hnamed
      have h₂ : ∀ r, rest ++ closing t = '<' :: r → False :=
        not_append_of_closing rest ['<'] (by decide) hangle
      simp only [List.cons_append, Option.bind_eq_bind]
      refine (flags?_closing false [] rest).filter (f := fun p =>
        if p.2 = ':' then some (Opening.flagged p.1)
        else if p.1.isEmpty then none else some (Opening.switch p.1)) fun p r => ?_
      dsimp only
      split
      · rfl
      · split <;> rfl
    · rename_i hnamed hangle hflags
      have h₁ : ∀ r, ds ++ closing t = '?' :: 'P' :: '<' :: r → False :=
        not_append_of_closing ds ['?', 'P', '<'] (by decide) hnamed
      have h₂ : ∀ r, ds ++ closing t = '?' :: '<' :: r → False :=
        not_append_of_closing ds ['?', '<'] (by decide) hangle
      have h₃ : ∀ r, ds ++ closing t = '?' :: r → False :=
        not_append_of_closing ds ['?'] (by decide) hflags
      simp only
      exact .some _ _
  · refine .inr ⟨.capture, by rw [opening?, hnil], fun t => ⟨fun b r h => ?_, fun ht => ?_⟩⟩
    · dsimp only at h
      rw [← opening?_skip, hskip] at h
      exact (opening?_suffix h).trans (skipIgnored_suffix true t)
    · dsimp only
      rw [opening?, hskip, skipIgnored_eq_nil ht]

/-! ## Repetitions -/

/-- A reading that may take the whole text, followed by one that wants more of it. -/
theorem Reaches.bind {y : List Char → Option (α × List Char)}
    {g : α × List Char → Option (β × List Char)} (h : Reaches x y)
    (hg : ∀ a r t, Keeps t 0 (g (a, r)) (g (a, r ++ closing t))) (hnil : ∀ a, g (a, []) = none)
    (hsuf : ∀ a r b r', g (a, r) = some (b, r') → r' <:+ r) (t : List Char) :
    Keeps t 0 (x.bind g) ((y t).bind g) := by
  obtain h | ⟨a, rfl, h⟩ := h
  · exact (h t).bind (fun a r _ => hg a r t) fun a r b r' hr hb =>
      Nat.le_trans (hsuf a r b r' hb).length_le hr
  · rw [Option.bind_some, hnil]
    refine .of_none fun b r' hb => ?_
    obtain ⟨⟨a, r⟩, hy, hb⟩ := Option.bind_eq_some_iff.1 hb
    exact ((hsuf a r b r' hb).trans ((h t).1 a r hy)).length_le

theorem mostFrom?_closing (least most : Nat) (cs : List Char) :
    Keeps t 0 (mostFrom? least most cs) (mostFrom? least most (cs ++ closing t)) := by
  cases cs with
  | nil => exact .none
  | cons c cs =>
    by_cases hc : c = '\x7d'
    · subst hc
      simp only [List.cons_append, mostFrom?]
      split
      · exact .some _ _
      · exact .none
    · have h₁ := head_ne hc cs
      have h₂ := head_ne hc (cs ++ closing t)
      simp only [List.cons_append, mostFrom?]
      exact .none

/-- What comes after the comma of two counts. -/
def mostOf? (verbose : Bool) (least : Nat) : List Char → Option ((Nat × Option Nat) × List Char)
  | '\x7d' :: rest => some ((least, none), rest)
  | rest => (count? verbose rest).bind fun p => mostFrom? least p.1 p.2

theorem mostOf?_suffix {least : Nat} {b : Nat × Option Nat}
    (h : mostOf? verbose least cs = some (b, r)) : r <:+ cs := by
  unfold mostOf? at h
  split at h
  · cases h
    exact List.suffix_cons _ _
  · obtain ⟨⟨most, rest⟩, hmost, h⟩ := Option.bind_eq_some_iff.1 h
    exact (mostFrom?_suffix h).trans (count?_suffix hmost)

/-- The end is no count. -/
theorem mostOf?_end (verbose : Bool) (least : Nat) (t : List Char) :
    mostOf? verbose least (closing t) = none :=
  rfl

theorem mostOf?_closing (least : Nat) (c : Char) (cs : List Char) :
    Keeps t 0 (mostOf? verbose least (c :: cs))
      (mostOf? verbose least (c :: (cs ++ closing t))) := by
  by_cases hc : c = '\x7d'
  · subst hc
    exact .some _ _
  · have h₁ := head_ne hc cs
    have h₂ := head_ne hc (cs ++ closing t)
    simp only [mostOf?]
    exact (count?_closing (c :: cs)).bind (fun most r t => mostFrom?_closing least most r)
      (fun _ => rfl) (fun most r b r' => mostFrom?_suffix) t

theorem countsFrom?_closing (least : Nat) (cs : List Char) :
    Keeps t 0 (countsFrom? verbose least cs) (countsFrom? verbose least (cs ++ closing t)) := by
  cases cs with
  | nil => exact .none
  | cons c cs =>
    by_cases hc : c = ','
    · subst hc
      change Keeps t 0 ((more? verbose cs).bind (mostOf? verbose least))
        ((more? verbose (cs ++ closing t)).bind (mostOf? verbose least))
      refine keeps_more (fun c r _ => mostOf?_closing least c r) (fun b r h => ?_)
        fun ds b r h => ?_
      · cases (mostOf?_end verbose least t).symm.trans h
      · obtain ⟨es, hmore, h⟩ := Option.bind_eq_some_iff.1 h
        exact (mostOf?_suffix h).trans (more?_suffix hmore)
    · by_cases hc' : c = '\x7d'
      · subst hc'
        exact .some _ _
      · have h₁ := head_ne hc cs
        have h₂ := head_ne hc (cs ++ closing t)
        have h₃ := head_ne hc' cs
        have h₄ := head_ne hc' (cs ++ closing t)
        simp only [List.cons_append, countsFrom?]
        exact .none

theorem counts?_closing (verbose : Bool) (cs : List Char) :
    Keeps t 0 (counts? verbose cs) (counts? verbose (cs ++ closing t)) := by
  rw [counts?_eq, counts?_eq]
  refine keeps_more_of_rest (fun c r _ => ?_) fun ds b r h =>
    counts?_rest ((counts?_eq verbose ds).trans h)
  exact (count?_closing (c :: r)).bind (fun least r t => countsFrom?_closing least r)
    (fun _ => rfl) (fun least r b r' h => (countsFrom?_rest h).suffix) t

theorem skipLazy_closing (cs : List Char) :
    skipLazy (cs ++ closing t) = skipLazy cs ++ closing t := by
  cases cs with
  | nil => rfl
  | cons c cs =>
    by_cases hc : c = '?'
    · subst hc
      rfl
    · have h₁ := head_ne hc cs
      have h₂ := head_ne hc (cs ++ closing t)
      simp only [List.cons_append, skipLazy]

/-- The part of a pattern that an escape is. -/
def Escaped.tree : Escaped → Tree
  | .literal l => .literal l
  | .letter negated cls => .letter negated cls
  | .property negated query => .property negated query
  | .assertion a => .assertion a

theorem sign?_escape (cs : List Char) :
    sign? verbose ('\\' :: cs) = (escape? verbose cs).map fun p => (p.1.tree, p.2) := by
  simp only [sign?]
  cases escape? verbose cs <;> rfl

theorem sign?_closing (cs : List Char) :
    Keeps t 0 (sign? verbose cs) (sign? verbose (cs ++ closing t)) ∨
      Dangling t verbose (.assertion .wordBoundary) (sign? verbose cs)
        (sign? verbose (cs ++ closing t)) := by
  cases cs with
  | nil => exact .inl (.of_end (Tree.literal ⟨')', false⟩) (Nat.le_refl _))
  | cons c cs =>
    by_cases hc : c = '\\'
    · subst hc
      rw [List.cons_append, sign?_escape, sign?_escape]
      exact (escape?_closing cs).imp (fun h => h.map fun _ _ => rfl) fun h => h.map fun _ => rfl
    · simp only [List.cons_append, sign?]
      refine .inl ?_
      split
      case h_2 heq => exact absurd (List.cons.inj heq).1 hc
      case h_1 heq => cases heq
      case h_6 =>
        rename_i heq
        cases heq
        simp only
        exact .some _ _
      all_goals
        rename_i heq
        cases heq
        exact .some _ _

/-! ## Moves -/

theorem move?_closing (verbose : Bool) (names : List (List Char)) (branches parts : List Tree)
    (cs : List Char) :
    (∀ t, Keeps t 0 (move? verbose names branches parts cs)
          (move? verbose names branches parts (cs ++ closing t)) ∨
        Dangling t verbose (.next verbose branches (.assertion .wordBoundary :: parts))
          (move? verbose names branches parts cs)
          (move? verbose names branches parts (cs ++ closing t))) ∨
      Swallowed (move? verbose names branches parts cs)
        fun t => move? verbose names branches parts (cs ++ closing t) := by
  cases cs with
  | nil => exact .inl fun t => .inl (.some _ [])
  | cons c cs =>
    generalize hx : move? verbose names branches parts (c :: cs) = x
    unfold move? at hx
    split at hx
    case h_1 heq => cases heq
    case h_2 heq | h_3 heq =>
      cases heq
      cases hx
      exact .inl fun t => .inl (.some _ _)
    case h_4 heq =>
      cases heq
      subst hx
      refine .inl fun t => .inl (((classKept t verbose _).bracketed cs _ (Nat.le_refl _) ?_).map
        fun _ _ => rfl)
      rw [List.append_eq, List.length_append]
      omega
    case h_5 heq | h_6 heq | h_7 heq =>
      cases heq
      subst hx
      simp only [List.cons_append, move?, skipLazy_closing]
      cases repeatNewest? _ _ parts with
      | none => exact .inl fun t => .inl .none
      | some parts => exact .inl fun t => .inl (.some _ _)
    case h_8 heq =>
      cases heq
      subst hx
      simp only [List.cons_append, move?]
      have hcounts (t) := counts?_closing (t := t) verbose cs
      cases hx : counts? verbose cs with
      | none =>
        refine .inl fun t => .inl (.of_none fun m r h => ?_)
        obtain ⟨⟨b, r'⟩, hb, h⟩ := Option.bind_eq_some_iff.1 h
        obtain ⟨_, -, h⟩ := Option.map_eq_some_iff.1 h
        cases h
        exact Nat.le_trans ((skipLazy_suffix _).trans (skip_suffix _ _)).length_le
          ((hcounts t).missed hx _ _ hb)
      | some p =>
        simp only [(hcounts _).found p.1 p.2 hx, Option.bind_some]
        cases repeatNewest? p.1.1 p.1.2 parts with
        | none => exact .inl fun t => .inl .none
        | some parts =>
          simp only [Option.map_some]
          obtain hskip | ⟨hnil, hskip⟩ := skip_closing verbose p.2
          · simp only [hskip, skipLazy_closing]
            exact .inl fun t => .inl (.some _ _)
          · simp only [hskip, hnil]
            refine .inr ⟨_, rfl, fun t => ⟨fun b r h => ?_, fun ht => ?_⟩⟩
            · cases h
              exact (skipLazy_suffix _).trans (skipIgnored_suffix true t)
            · dsimp only
              rw [skipIgnored_eq_nil ht]
              rfl
    case h_9 heq =>
      cases heq
      subst hx
      simp only [List.cons_append, move?]
      obtain hkeeps | ⟨o, hx, hy⟩ := opening?_closing verbose cs
      · exact .inl fun t => .inl ((hkeeps t).filter fun _ _ => rfl)
      · have hsuf (t) (m : Move) (r : List Char)
            (h : ((opening? verbose (cs ++ closing t)).bind fun p =>
              (p.1.move? verbose names branches parts).map fun m => (m, p.2)) = some (m, r)) :
            r <:+ t := by
          obtain ⟨⟨o, r'⟩, ho, h⟩ := Option.bind_eq_some_iff.1 h
          obtain ⟨_, -, h⟩ := Option.map_eq_some_iff.1 h
          cases h
          exact (hy t).1 o _ ho
        simp only [hx, Option.bind_some]
        cases hm : o.move? verbose names branches parts with
        | none => exact .inl fun t => .inl (.of_none fun m r h => (hsuf t m r h).length_le)
        | some m =>
          refine .inr ⟨m, rfl, fun t => ⟨hsuf t, fun ht => ?_⟩⟩
          have ho : opening? verbose (cs ++ closing t) = some (o, []) := (hy t).2 ht
          dsimp only
          rw [ho, Option.bind_some, hm]
          rfl
    case h_10 h₁ h₂ h₃ h₄ h₅ h₆ h₇ h₈ h₉ =>
      subst hx
      refine .inl fun t => ?_
      rw [List.cons_append, move?.eq_10 _ _ _ _ (c :: (cs ++ closing t)) (List.cons_ne_nil _ _)
        (head_ne_closing h₂) (head_ne_closing h₃) (head_ne_closing h₄) (head_ne_closing h₅)
        (head_ne_closing h₆) (head_ne_closing h₇) (head_ne_closing h₈) (head_ne_closing h₉)]
      exact (sign?_closing (c :: cs)).imp (fun h => h.map fun _ _ => rfl)
        fun h => h.map fun _ => rfl

/-! ## Branches -/

theorem branches?_nil (fuel : Nat) (verbose : Bool) (names : List (List Char))
    (branches parts : List Tree) :
    branches? (fuel + 1) verbose names branches parts [] =
      some ((names, Tree.ofBranches (Tree.ofParts parts.reverse :: branches).reverse), []) := by
  rw [branches?_succ]
  cases verbose <;> rfl

/-- A group is not closed by the end of the text. -/
theorem group?_nil (fuel : Nat) (verbose : Bool) (names : List (List Char)) (captures : Bool)
    (changes : FlagChanges) (branches parts : List Tree) :
    group? fuel verbose names captures changes branches parts [] = none := by
  match fuel with
  | 0 => rw [group?]
  | 1 =>
    rw [group?, branches?]
    rfl
  | fuel + 2 =>
    rw [group?, branches?_nil]
    rfl

theorem Move.follow?_suffix {names : List (List Char)} {branches parts : List Tree} {m : Move}
    {b : Named} (h : m.follow? fuel verbose names branches parts cs = some (b, r)) : r <:+ cs := by
  cases m with
  | close =>
    cases h
    exact List.suffix_refl _
  | next => exact branches?_suffix h
  | enter => exact group?_suffix h

/-- At the end of a text a move needs no more fuel than there is. -/
theorem Move.follow?_nil (m : Move) (verbose : Bool) (names : List (List Char))
    (branches parts : List Tree) :
    (∀ k, m.follow? (k + 1) verbose names branches parts [] = none) ∨
      ∃ b, ∀ k, m.follow? (k + 1) verbose names branches parts [] = some (b, []) := by
  cases m with
  | close => exact .inr ⟨_, fun _ => rfl⟩
  | next => exact .inr ⟨_, fun k => branches?_nil k _ _ _ _⟩
  | enter => exact .inl fun k => group?_nil (k + 1) _ _ _ _ _ _

/-- What is skipped before branches is no part of what they leave. -/
theorem branches?_suffix_skip {names : List (List Char)} {branches parts : List Tree} {b : Named}
    (h : branches? fuel verbose names branches parts cs = some (b, r)) :
    r <:+ skip verbose cs := by
  cases fuel with
  | zero =>
    rw [branches?] at h
    cases h
  | succ fuel =>
    rw [branches?_succ] at h
    obtain ⟨⟨m, rest⟩, hmove, h⟩ := Option.bind_eq_some_iff.1 h
    exact (Move.follow?_suffix h).trans (move?_suffix hmove)

/-- An opening brace that nothing but an end follows is no repetition, or one that eats into the
end. -/
theorem branches?_dangling {names : List (List Char)} {branches parts : List Tree} {b : Named}
    {u : List Char} (hu : skip verbose u = [])
    (h : branches? fuel verbose names branches parts ('\x7b' :: (u ++ closing t)) = some (b, r)) :
    r.length ≤ t.length := by
  cases fuel with
  | zero =>
    rw [branches?] at h
    cases h
  | succ fuel =>
    have hskip : skip verbose ('\x7b' :: (u ++ closing t)) = '\x7b' :: (u ++ closing t) := by
      cases verbose <;> rfl
    rw [branches?_succ, hskip] at h
    obtain ⟨⟨m, rest⟩, hmove, h⟩ := Option.bind_eq_some_iff.1 h
    obtain ⟨⟨counts, rest'⟩, hcounts, hmove⟩ := Option.bind_eq_some_iff.1 hmove
    obtain ⟨_, -, hmove⟩ := Option.map_eq_some_iff.1 hmove
    cases hmove
    have hnone : counts? verbose u = none := by
      rw [counts?_eq, more?_eq_none.2 hu, Option.bind_none]
    refine Nat.le_trans ?_ ((counts?_closing verbose u).missed hnone _ _ hcounts)
    exact ((Move.follow?_suffix h).trans ((skipLazy_suffix _).trans (skip_suffix _ _))).length_le

/-- With so much fuel, the branches that are read off a text are read off it with any end too, and
likewise a group with what follows it. -/
structure BranchesKept (fuel : Nat) : Prop where
  branches : ∀ verbose names branches parts cs (fuel' : List Char → Nat),
    2 * cs.length + 1 ≤ fuel → (∀ t, 2 * cs.length + 1 ≤ fuel' t) →
      Reaches (branches? fuel verbose names branches parts cs)
        fun t => branches? (fuel' t) verbose names branches parts (cs ++ closing t)
  group : ∀ verbose names captures changes branches parts cs (fuel' : List Char → Nat),
    2 * cs.length + 2 ≤ fuel → (∀ t, 2 * cs.length + 2 ≤ fuel' t) →
      Reaches (group? fuel verbose names captures changes branches parts cs)
        fun t => group? (fuel' t) verbose names captures changes branches parts (cs ++ closing t)

namespace BranchesKept

variable {names : List (List Char)} {branches parts : List Tree} {fuel' : List Char → Nat}

/-- What is read after a move is read with the end too. -/
theorem follow (h : BranchesKept fuel) {m : Move}
    (hm : move? verbose names branches parts cs = some (m, r)) (hfuel : 2 * cs.length ≤ fuel)
    (hfuel' : ∀ t, 2 * cs.length ≤ fuel' t) :
    Reaches (m.follow? fuel verbose names branches parts r)
      fun t => m.follow? (fuel' t) verbose names branches parts (r ++ closing t) := by
  obtain ⟨rfl, -⟩ | ⟨hclose, -, hlen⟩ := move?_rest hm
  · exact .inl fun t => .some _ _
  · cases m with
    | close => exact absurd rfl hclose
    | next =>
      exact h.branches _ _ _ _ r fuel' (by omega) fun t => Nat.le_trans (by omega) (hfuel' t)
    | enter =>
      exact h.group _ _ _ _ _ _ r fuel' (by omega) fun t => Nat.le_trans (by omega) (hfuel' t)

theorem branches_succ (h : BranchesKept fuel) (verbose : Bool) (names : List (List Char))
    (branches parts : List Tree) (cs : List Char) (hfuel : 2 * cs.length ≤ fuel)
    (hfuel' : ∀ t, 2 * cs.length ≤ fuel' t) :
    Reaches (branches? (fuel + 1) verbose names branches parts cs)
      fun t => branches? (fuel' t + 1) verbose names branches parts (cs ++ closing t) := by
  obtain hskip | ⟨hnil, hskip⟩ := skip_closing verbose cs
  · simp only [branches?_succ, hskip]
    have hlen := (skip_suffix verbose cs).length_le
    have hlen' (t) : 2 * (skip verbose cs).length ≤ fuel' t :=
      Nat.le_trans (Nat.mul_le_mul_left 2 hlen) (hfuel' t)
    generalize skip verbose cs = ds at hlen hlen'
    obtain hmoves | ⟨m, hx, hy⟩ := move?_closing verbose names branches parts ds
    · cases hx : move? verbose names branches parts ds with
      | none =>
        refine .inl fun t => .of_none fun b r' hb => ?_
        obtain ⟨⟨m, r⟩, hm, hb⟩ := Option.bind_eq_some_iff.1 hb
        obtain hkeeps | ⟨-, u, hu, hy⟩ := hmoves t
        · exact Nat.le_trans (Move.follow?_suffix hb).length_le (hkeeps.missed hx m r hm)
        · cases hy.symm.trans hm
          exact branches?_dangling hu hb
      | some p =>
        obtain ⟨m, r⟩ := p
        have hfound (t) : move? verbose names branches parts (ds ++ closing t) =
            some (m, r ++ closing t) := by
          obtain hkeeps | ⟨hnone, -⟩ := hmoves t
          · exact hkeeps.found m r hx
          · cases hx.symm.trans hnone
        simp only [hfound, Option.bind_some]
        exact h.follow hx (by omega) hlen'
    · have hpos : 0 < ds.length := by
        cases ds with
        | nil => exact absurd ((hy []).1 .close (closing []) rfl) (by decide)
        | cons => exact Nat.succ_pos _
      obtain ⟨fuel, rfl⟩ : ∃ k, fuel = k + 1 := ⟨fuel - 1, by omega⟩
      have hsuf (t b r) (hb : ((move? verbose names branches parts (ds ++ closing t)).bind
          fun p => p.1.follow? (fuel' t) verbose names branches parts p.2) = some (b, r)) :
          r <:+ t := by
        obtain ⟨⟨m, r'⟩, hm, hb⟩ := Option.bind_eq_some_iff.1 hb
        exact (Move.follow?_suffix hb).trans ((hy t).1 m r' hm)
      rw [hx, Option.bind_some]
      obtain hnone | ⟨b, hb⟩ := m.follow?_nil verbose names branches parts
      · rw [hnone]
        exact .inl fun t => .of_none fun b r hb => (hsuf t b r hb).length_le
      · refine .inr ⟨b, hb fuel, fun t => ⟨hsuf t, fun ht => ?_⟩⟩
        obtain ⟨k, hk⟩ : ∃ k, fuel' t = k + 1 := ⟨fuel' t - 1, by have := hlen' t; omega⟩
        have hm : move? verbose names branches parts (ds ++ closing t) = some (m, []) :=
          (hy t).2 ht
        dsimp only
        rw [hm, hk]
        exact hb k
  · have hnil' : skip verbose [] = [] := by cases verbose <;> rfl
    have hread (k) : branches? (k + 1) verbose names branches parts cs =
        branches? (k + 1) verbose names branches parts [] := by
      rw [branches?_succ, branches?_succ, hnil, hnil']
    rw [hread, branches?_nil]
    refine .inr ⟨_, rfl, fun t => ⟨fun b r hb => ?_, fun ht => ?_⟩⟩
    · exact (branches?_suffix_skip hb).trans (hskip t ▸ skipIgnored_suffix true t)
    · dsimp only
      rw [branches?_succ, hskip, skipIgnored_eq_nil ht]
      rfl

/-- The parenthesis that closes a group is in the text or the first of the end. -/
theorem afterGroup (h : BranchesKept fuel) (captures : Bool) (changes : FlagChanges)
    (branches parts : List Tree) (b : Named) (hfuel : 2 * cs.length ≤ fuel)
    (hfuel' : ∀ t, 2 * cs.length ≤ fuel' t) :
    Reaches (afterGroup? fuel verbose captures changes branches parts b cs) fun t =>
      afterGroup? (fuel' t) verbose captures changes branches parts b (cs ++ closing t) := by
  cases cs with
  | nil => exact .inl fun t => .of_none fun d r hd => Nat.le_of_lt_succ (afterGroup?_rest hd).2
  | cons c cs =>
    by_cases hc : c = ')'
    · subst hc
      have hlen : 2 * cs.length + 1 ≤ 2 * (')' :: cs).length := by
        rw [List.length_cons]
        omega
      exact h.branches _ _ _ _ cs fuel' (Nat.le_trans hlen hfuel) fun t =>
        Nat.le_trans hlen (hfuel' t)
    · have hnone (k : Nat) (ds : List Char) :
          afterGroup? k verbose captures changes branches parts b (c :: ds) = none :=
        afterGroup?.eq_2 k verbose captures changes branches parts b (c :: ds) (head_ne hc ds)
      simp only [List.cons_append, hnone]
      exact .inl fun t => .none

theorem group_succ (h : BranchesKept fuel) (verbose : Bool) (names : List (List Char))
    (captures : Bool) (changes : FlagChanges) (branches parts : List Tree) (cs : List Char)
    (hfuel : 2 * cs.length + 1 ≤ fuel) (hfuel' : ∀ t, 2 * cs.length + 1 ≤ fuel' t) :
    Reaches (group? (fuel + 1) verbose names captures changes branches parts cs) fun t =>
      group? (fuel' t + 1) verbose names captures changes branches parts (cs ++ closing t) := by
  simp only [group?_succ]
  have hinner := h.branches ((changes.state? .verbose).getD verbose) names [] [] cs fuel' hfuel
    hfuel'
  generalize (changes.state? .verbose).getD verbose = inside at hinner
  obtain hkeeps | ⟨b, hx, hy⟩ := hinner
  · cases hx : branches? fuel inside names [] [] cs with
    | none =>
      refine .inl fun t => .of_none fun b r' hb => ?_
      obtain ⟨p, hp, hb⟩ := Option.bind_eq_some_iff.1 hb
      exact Nat.le_trans (afterGroup?_rest hb).suffix.length_le ((hkeeps t).missed hx p.1 p.2 hp)
    | some p =>
      obtain ⟨b, r⟩ := p
      simp only [(hkeeps _).found b r hx, Option.bind_some]
      exact h.afterGroup captures changes branches parts b
        (Nat.le_trans (Nat.mul_le_mul_left 2 (branches?_suffix hx).length_le) (by omega))
        fun t => Nat.le_trans (Nat.mul_le_mul_left 2 (branches?_suffix hx).length_le)
          (Nat.le_of_succ_le (hfuel' t))
  · -- the group is not closed, and what is read on from the comment eats into the end
    rw [hx]
    refine .inl fun t => .of_none fun d r' hb => ?_
    obtain ⟨p, hp, hb⟩ := Option.bind_eq_some_iff.1 hb
    exact ((afterGroup?_rest hb).suffix.trans ((hy t).1 p.1 p.2 hp)).length_le

end BranchesKept

/-- Branches and groups are read off a text with an end as they are read off the text alone. -/
theorem branchesKept (fuel : Nat) : BranchesKept fuel := by
  induction fuel with
  | zero => exact ⟨fun _ _ _ _ _ _ h => by omega, fun _ _ _ _ _ _ _ _ h => by omega⟩
  | succ fuel ih =>
    constructor
    · intro verbose names branches parts cs fuel' hfuel hfuel'
      obtain ⟨fuel', rfl⟩ := exists_succ fun t => Nat.zero_lt_of_lt (hfuel' t)
      exact ih.branches_succ verbose names branches parts cs (by omega)
        fun t => Nat.le_of_succ_le_succ (hfuel' t)
    · intro verbose names captures changes branches parts cs fuel' hfuel hfuel'
      obtain ⟨fuel', rfl⟩ := exists_succ fun t => Nat.zero_lt_of_lt (hfuel' t)
      exact ih.group_succ verbose names captures changes branches parts cs (by omega)
        fun t => Nat.le_of_succ_le_succ (hfuel' t)

/-- More fuel finds what was found. -/
theorem branches_mono (fuel : Nat) :
    (∀ verbose names branches parts cs b,
        branches? fuel verbose names branches parts cs = some b →
          branches? (fuel + 1) verbose names branches parts cs = some b) ∧
      ∀ verbose names captures changes branches parts cs b,
        group? fuel verbose names captures changes branches parts cs = some b →
          group? (fuel + 1) verbose names captures changes branches parts cs = some b := by
  induction fuel with
  | zero =>
    constructor
    · intro _ _ _ _ _ _ h
      simp only [branches?] at h
      cases h
    · intro _ _ _ _ _ _ _ _ h
      simp only [group?] at h
      cases h
  | succ fuel ih =>
    obtain ⟨ihBranches, ihGroup⟩ := ih
    constructor
    · intro verbose names branches parts cs b h
      rw [branches?_succ] at h ⊢
      obtain ⟨⟨m, rest⟩, hmove, h⟩ := Option.bind_eq_some_iff.1 h
      rw [hmove]
      cases m with
      | close => exact h
      | next => exact ihBranches _ _ _ _ _ _ h
      | enter => exact ihGroup _ _ _ _ _ _ _ _ h
    · intro verbose names captures changes branches parts cs b h
      rw [group?_succ] at h ⊢
      obtain ⟨p, hinner, h⟩ := Option.bind_eq_some_iff.1 h
      obtain ⟨rest, hrest, h⟩ := afterGroup?_eq_some.1 h
      rw [ihBranches _ _ _ _ _ _ hinner, Option.bind_some]
      exact afterGroup?_eq_some.2 ⟨rest, hrest, ihBranches _ _ _ _ _ _ h⟩

theorem branches?_of_le {names : List (List Char)} {branches parts : List Tree}
    {b : Named × List Char} (hle : fuel ≤ fuel')
    (h : branches? fuel verbose names branches parts cs = some b) :
    branches? fuel' verbose names branches parts cs = some b := by
  obtain ⟨k, rfl⟩ := Nat.exists_eq_add_of_le hle
  clear hle
  induction k with
  | zero => exact h
  | succ k ih => exact (branches_mono (fuel + k)).1 _ _ _ _ _ _ ih

/-- However much fuel there is, what is found is the same. -/
theorem branches?_unique {names : List (List Char)} {branches parts : List Tree}
    {b b' : Named × List Char} (h : branches? fuel verbose names branches parts cs = some b)
    (h' : branches? fuel' verbose names branches parts cs = some b') : b = b' :=
  Option.some.inj <| (branches?_of_le (Nat.le_add_right fuel fuel') h).symm.trans
    (branches?_of_le (Nat.le_add_left fuel' fuel) h')

end BeanGraph.Pattern
