import BeanGraph.Pattern.Manual
import BeanGraph.Proofs.Framing
import BeanGraph.Proofs.Matching

/-!
# The engine keeps to its manual

The `manual` of the engine of these modules says what its reader, its measures and the relation
`Spans` say.  That the engine keeps to it (`engine_follows`) takes three facts:

* `foundIn_iff`: the matcher finds a pattern where it spans some part of a text;
* `parse?_group`, `parse?_framed`: in a group or a frame a text is read as it is by itself;
* `exists_complete`, `parse?_unopened`: a parenthesis ends the branches of a group or, where no
  group is open, the reading of the text.

The last two come from `branchesKept`: what is read off a text is read off it with an end too.
-/

namespace BeanGraph.Pattern

/-- What is said of the engine: how it reads texts and what patterns mean. -/
def manual : Manual where
  Tree := Tree
  Expr := Expr
  parse? := Tree.parse?
  meaning? := Tree.expr?
  Fits p := ∀ t e, Tree.parse? p = some t → t.expr? = some e →
    t.depth ≤ nestLimit ∧ e.fits = true
  Spans e s i j := i ≤ s.length ∧ Spans s.toList e i j
  start := .look .startText
  finish := .look .endText
  group e := e
  row es := es.foldr .cat .empty

variable {p q : String} {cs r t : List Char} {fuel : Nat}

/-! ## Reading whole texts -/

/-- A text is read as branches up to its end. -/
theorem parse?_eq_some {tree : Tree} :
    Tree.parse? p = some tree ↔
      ∃ names, branches? (2 * p.toList.length + 2) false [] [] [] p.toList =
        some ((names, tree), []) := by
  unfold Tree.parse?
  constructor
  · intro h
    split at h
    · rename_i names tree' hread
      cases h
      exact ⟨names, hread⟩
    · cases h
  · rintro ⟨names, hread⟩
    rw [hread]

/-- A text is no pattern if reading it stops before its end. -/
theorem parse?_eq_none {b : Named} {c : Char}
    (h : branches? fuel false [] [] [] p.toList = some (b, c :: r)) : Tree.parse? p = none := by
  refine Option.eq_none_iff_forall_ne_some.2 fun tree htree => ?_
  obtain ⟨names, hread⟩ := parse?_eq_some.1 htree
  cases branches?_unique h hread

theorem toList_parenthesis (q r : String) :
    (q ++ ")" ++ r).toList = q.toList ++ closing r.toList := by
  simp [closing]

theorem toList_closed (q : String) : (q ++ ")").toList = q.toList ++ closing [] := by
  simp [closing]

/-- A text that is complete is read up to any end. -/
theorem read_of_complete {tree : Tree} (h : Tree.parse? q = some tree)
    (hcomment : ¬ manual.EndsInComment q) (t : List Char)
    (hfuel : 2 * q.toList.length + 4 ≤ fuel) :
    ∃ names, branches? fuel false [] [] [] (q.toList ++ closing t) =
      some ((names, tree), closing t) := by
  obtain ⟨names, hread⟩ := parse?_eq_some.1 h
  obtain hkeeps | ⟨b, hx, hy⟩ := (branchesKept (2 * q.toList.length + 2)).branches false [] [] []
    q.toList (fun _ => 2 * q.toList.length + 4) (Nat.le_succ _) fun _ => by omega
  · exact ⟨names, branches?_of_le hfuel ((hkeeps t).found _ _ hread)⟩
  · -- the parenthesis is swallowed by the comment that the text ends in
    cases hread.symm.trans hx
    refine absurd (Option.isSome_iff_exists.2 ⟨tree, parse?_eq_some.2 ⟨names, ?_⟩⟩) hcomment
    rw [toList_closed, List.length_append]
    exact (hy []).2 List.not_mem_nil

/-- What is read up to an end is complete without it. -/
theorem complete_of_read {b : Named} (hfuel : 2 * q.toList.length + 1 ≤ fuel)
    (h : branches? fuel false [] [] [] (q.toList ++ closing t) = some (b, closing t)) :
    manual.Complete q := by
  obtain hkeeps | ⟨_, -, hy⟩ := (branchesKept (2 * q.toList.length + 2)).branches false [] [] []
    q.toList (fun _ => fuel) (Nat.le_succ _) fun _ => hfuel
  · cases hx : branches? (2 * q.toList.length + 2) false [] [] [] q.toList with
    | none => exact absurd ((hkeeps t).missed hx _ _ h) (Nat.not_succ_le_self _)
    | some d =>
      obtain ⟨b', r⟩ := d
      obtain ⟨rfl, rfl⟩ : b = b' ∧ r = [] := by simpa using h.symm.trans ((hkeeps t).found _ _ hx)
      have hstops : branches? fuel false [] [] [] (q ++ ")").toList = some (b, [')']) := by
        rw [toList_closed]
        exact (hkeeps []).found _ _ hx
      refine ⟨Option.isSome_iff_exists.2 ⟨b.2, parse?_eq_some.2 ⟨b.1, hx⟩⟩, ?_⟩
      have hnone : manual.parse? (q ++ ")") = none := parse?_eq_none hstops
      rw [Manual.EndsInComment, hnone]
      exact Bool.false_ne_true
  · exact absurd ((hy t).1 _ _ h).length_le (Nat.not_succ_le_self _)

/-! ## Groups and frames -/

/-- The tree of a pattern in its frame. -/
def Tree.framed (t : Tree) : Tree :=
  .concatenation [.assertion .startLine, .group false [] t, .assertion .endLine]

theorem Tree.expr?_group (t : Tree) : (Tree.group false [] t).expr? = t.expr? := by
  have hopen : Flags.changeAll {} [] = {} := rfl
  simp only [Tree.expr?, Tree.meaning?, hopen]
  cases t.meaning? {} <;> rfl

theorem Tree.expr?_framed (t : Tree) :
    t.framed.expr? = t.expr?.map fun e => manual.row [manual.start, e, manual.finish] := by
  rw [← t.expr?_group]
  simp only [Tree.framed, Tree.expr?, Tree.meaning?, Tree.meaningOfParts?, Option.bind_eq_bind,
    Option.bind_some]
  cases t.meaning? (Flags.changeAll {} []) <;> rfl

/-- A text after the opening of a group is read by reading it up to the end of the group. -/
theorem branches?_opened (fuel : Nat) (parts : List Tree) (cs : List Char) :
    branches? (fuel + 2) false [] [] parts ('(' :: '?' :: ':' :: cs) =
      (branches? fuel false [] [] [] cs).bind fun p =>
        afterGroup? fuel false false [] [] parts p.1 p.2 := by
  rw [branches?_succ]
  change group? (fuel + 1) false [] false [] [] parts cs = _
  rw [group?_succ]
  rfl

/-- The sign before the group of a frame is read as the test for the start. -/
theorem branches?_caret (fuel : Nat) (cs : List Char) :
    branches? (fuel + 1) false [] [] [] ('^' :: cs) =
      branches? fuel false [] [] [.assertion .startLine] cs := by
  rw [branches?_succ]
  rfl

/-- The sign after the group of a frame ends the frame. -/
theorem branches?_dollar (fuel : Nat) (names : List (List Char)) (t : Tree) :
    branches? (fuel + 2) false names [] [.group false [] t, .assertion .startLine] ['$'] =
      some ((names, t.framed), []) := by
  rw [branches?_succ]
  exact branches?_nil fuel false names []
    [.assertion .endLine, .group false [] t, .assertion .startLine]

/-- A complete text can stand in a group. -/
theorem parse?_group {tree : Tree} (h : Tree.parse? p = some tree)
    (hcomment : ¬ manual.EndsInComment p) :
    Tree.parse? ("(?:" ++ p ++ ")") = some (.group false [] tree) := by
  have hlist : ("(?:" ++ p ++ ")").toList = '(' :: '?' :: ':' :: (p.toList ++ closing []) := by
    simp [closing]
  obtain ⟨names, hread⟩ := read_of_complete h hcomment []
    (show 2 * p.toList.length + 4 ≤ 2 * p.toList.length + 8 by omega)
  refine parse?_eq_some.2 ⟨names, ?_⟩
  have hlen : 2 * ("(?:" ++ p ++ ")").toList.length + 2 = 2 * p.toList.length + 8 + 2 := by
    rw [hlist, List.length_cons, List.length_cons, List.length_cons, List.length_append]
    simp only [closing, List.length_singleton]
    omega
  rw [hlen, hlist, branches?_opened, hread]
  exact afterGroup?_eq_some.2 ⟨[], rfl, branches?_nil _ false names [] [.group false [] tree]⟩

/-- A complete text can stand in a frame. -/
theorem parse?_framed {tree : Tree} (h : Tree.parse? p = some tree)
    (hcomment : ¬ manual.EndsInComment p) : Tree.parse? (framed p) = some tree.framed := by
  have hlist : (framed p).toList = '^' :: '(' :: '?' :: ':' :: (p.toList ++ closing ['$']) := by
    simp [framed, closing]
  obtain ⟨names, hread⟩ := read_of_complete h hcomment ['$']
    (show 2 * p.toList.length + 4 ≤ 2 * p.toList.length + 11 by omega)
  refine parse?_eq_some.2 ⟨names, ?_⟩
  have hlen : 2 * (framed p).toList.length + 2 = 2 * p.toList.length + 11 + 2 + 1 := by
    rw [hlist]
    simp
    omega
  rw [hlen, hlist, branches?_caret, branches?_opened, hread]
  exact branches?_dollar _ names tree

/-- A group that is opened ends at a parenthesis after a complete text. -/
theorem exists_complete {x : String} (h : (Tree.parse? ("^(?:" ++ x)).isSome = true) :
    ∃ q r, x = q ++ ")" ++ r ∧ manual.Complete q := by
  obtain ⟨tree, htree⟩ := Option.isSome_iff_exists.1 h
  obtain ⟨names, hread⟩ := parse?_eq_some.1 htree
  have hlist : ("^(?:" ++ x).toList = '^' :: '(' :: '?' :: ':' :: x.toList := by simp
  rw [hlist] at hread
  change branches? (2 * x.toList.length + 7 + 2 + 1) false [] [] [] _ = _ at hread
  rw [branches?_caret, branches?_opened] at hread
  obtain ⟨⟨b, _⟩, hinner, hread⟩ := Option.bind_eq_some_iff.1 hread
  obtain ⟨rest, rfl, -⟩ := afterGroup?_eq_some.1 hread
  obtain ⟨cs, hcs⟩ := branches?_suffix hinner
  have hx : x = String.ofList cs ++ ")" ++ String.ofList rest :=
    String.toList_injective (by simp [← hcs])
  rw [← hcs, ← String.toList_ofList (l := cs)] at hinner
  refine ⟨_, _, hx, complete_of_read ?_ hinner⟩
  rw [String.toList_ofList, List.length_append]
  omega

/-- A parenthesis after a complete text is where its reading stops. -/
theorem parse?_unopened (h : manual.Complete q) (r : String) :
    Tree.parse? (q ++ ")" ++ r) = none := by
  obtain ⟨tree, htree⟩ := Option.isSome_iff_exists.1 h.1
  obtain ⟨names, hread⟩ := read_of_complete htree h.2 r.toList (Nat.le_refl _)
  rw [← toList_parenthesis] at hread
  exact parse?_eq_none hread

/-! ## The laws -/

/-- What is compiled for a text is its meaning, if it has one within the limits. -/
theorem compile_eq_ok {e : Expr} :
    engine.compile p = .ok e ↔ manual.pattern? p = some e ∧ manual.Fits p := by
  have hcompile : engine.compile p = .ok e ↔ compile? p = some e := by
    unfold engine
    dsimp only
    cases compile? p <;> simp
  rw [hcompile]
  simp only [compile?, Tree.read?, Option.bind_eq_bind, Option.bind_eq_some_iff,
    Option.filter_eq_some_iff, decide_eq_true_eq]
  constructor
  · rintro ⟨tree, ⟨htree, hdepth⟩, e', he, h⟩
    split at h
    · cases h
      refine ⟨Option.bind_eq_some_iff.2 ⟨tree, htree, he⟩, fun tree' e' htree' he' => ?_⟩
      cases htree.symm.trans htree'
      cases he.symm.trans he'
      exact ⟨hdepth, ‹_›⟩
    · cases h
  · rintro ⟨hpattern, hfits⟩
    obtain ⟨tree, htree, he⟩ := Option.bind_eq_some_iff.1 hpattern
    obtain ⟨hdepth, hsize⟩ := hfits tree e htree he
    exact ⟨tree, ⟨htree, hdepth⟩, e, he, if_pos hsize⟩

variable {s : String} {i j k : Nat}

theorem spans_start : manual.Spans manual.start s i j ↔ i = 0 ∧ j = 0 := by
  change i ≤ s.length ∧ Spans s.toList (.look .startText) i j ↔ _
  rw [spans_look_iff, Look.holds, Option.isNone_iff_eq_none]
  constructor
  · rintro ⟨hi, hbefore, rfl⟩
    rw [← String.length_toList] at hi
    obtain rfl : i = 0 := by
      unfold before at hbefore
      split at hbefore
      · assumption
      · rw [List.getElem?_eq_none_iff] at hbefore
        omega
    exact ⟨rfl, rfl⟩
  · rintro ⟨rfl, rfl⟩
    exact ⟨Nat.zero_le _, rfl, rfl⟩

theorem spans_finish : manual.Spans manual.finish s i j ↔ i = s.length ∧ j = s.length := by
  change i ≤ s.length ∧ Spans s.toList (.look .endText) i j ↔ _
  rw [spans_look_iff, Look.holds, Option.isNone_iff_eq_none, List.getElem?_eq_none_iff,
    String.length_toList]
  omega

theorem spans_row_cons {e : Expr} {es : List Expr} :
    manual.Spans (manual.row (e :: es)) s i k ↔
      ∃ j, manual.Spans e s i j ∧ manual.Spans (manual.row es) s j k := by
  constructor
  · rintro ⟨hi, h⟩
    obtain ⟨j, he, hes⟩ := spans_cat_iff.1 h
    exact ⟨j, ⟨hi, he⟩, String.length_toList ▸ he.bounded (String.length_toList ▸ hi), hes⟩
  · rintro ⟨j, ⟨hi, he⟩, -, hes⟩
    exact ⟨hi, spans_cat_iff.2 ⟨j, he, hes⟩⟩

theorem spans_row_nil : manual.Spans (manual.row []) s i j ↔ i = j ∧ j ≤ s.length := by
  constructor
  · rintro ⟨hi, h⟩
    cases h
    exact ⟨rfl, hi⟩
  · rintro ⟨rfl, hi⟩
    exact ⟨hi, .empty⟩

/-- The engine does what is said of it. -/
theorem engine_follows : engine.Follows manual where
  compile_iff p := by
    rw [Option.isSome_iff_exists, ← exists_and_right]
    exact exists_congr fun e => compile_eq_ok
  isMatch_iff {p} {c} {e} hc he s := by
    cases (compile_eq_ok.1 hc).1.symm.trans he
    refine (foundIn_iff c s).trans ?_
    rw [String.length_toList]
    exact ⟨fun ⟨i, hi, j, h⟩ => ⟨i, j, hi, h⟩, fun ⟨i, j, hi, h⟩ => ⟨i, hi, j, h⟩⟩
  spans_start := spans_start
  spans_finish := spans_finish
  spans_group := Iff.rfl
  spans_row_cons := spans_row_cons
  spans_row_nil := spans_row_nil
  parse?_group {p t} ht hp := by
    refine ⟨_, parse?_group ht hp, (Tree.expr?_group t).trans ?_⟩
    exact (Option.map_id' (x := Tree.expr? t)).symm
  parse?_row {p u} hp hu := by
    obtain ⟨t, ht⟩ := Option.isSome_iff_exists.1 hp.1
    cases (parse?_group ht hp.2).symm.trans hu
    refine ⟨t.framed, framed_eq p ▸ parse?_framed ht hp.2, ?_⟩
    exact (Tree.expr?_framed t).trans (by rw [← Tree.expr?_group t]; rfl)
  closed := exists_complete
  unopened := parse?_unopened

end BeanGraph.Pattern
