import BeanGraph.Pattern.Reader

/-!
# What is left of a pattern's text

The reading functions take their text from the front: what they leave of it is an end of it.
-/

namespace BeanGraph.Pattern

/-- An end of a text that lacks something at its front. -/
def Rest (r cs : List Char) : Prop := r <:+ cs ∧ r.length < cs.length

variable {r cs ds : List Char} {c : Char}

theorem rest_cons (h : r <:+ cs) : Rest r (c :: cs) := by
  have hle := h.length_le
  exact ⟨h.trans (List.suffix_cons c cs), by rw [List.length_cons]; omega⟩

theorem Rest.suffix (h : Rest r cs) : r <:+ cs := h.1

theorem Rest.trans_suffix (h : Rest r cs) (h' : cs <:+ ds) : Rest r ds :=
  ⟨h.1.trans h', Nat.lt_of_lt_of_le h.2 h'.length_le⟩

theorem Rest.of_suffix (h : r <:+ cs) (h' : Rest cs ds) : Rest r ds :=
  ⟨h.trans h'.1, Nat.lt_of_le_of_lt h.length_le h'.2⟩

/-! ## Verbose mode -/

theorem skipIgnored_suffix (inComment : Bool) (cs : List Char) :
    skipIgnored inComment cs <:+ cs := by
  induction cs generalizing inComment with
  | nil => exact List.suffix_refl _
  | cons c cs ih =>
    unfold skipIgnored
    split
    · exact (ih _).trans (List.suffix_cons c cs)
    · split
      · exact (ih _).trans (List.suffix_cons c cs)
      · split
        · exact (ih _).trans (List.suffix_cons c cs)
        · exact List.suffix_refl _

theorem skip_suffix (verbose : Bool) (cs : List Char) : skip verbose cs <:+ cs := by
  unfold skip
  split
  · exact skipIgnored_suffix false cs
  · exact List.suffix_refl _

theorem more?_eq_some {verbose : Bool} :
    more? verbose cs = some r ↔ skip verbose cs = r ∧ r ≠ [] := by
  unfold more?
  split
  · rename_i h
    simp [h, eq_comm]
  · rename_i hne
    rw [Option.some.injEq]
    exact ⟨fun h => ⟨h, h ▸ hne⟩, fun h => h.1⟩

theorem more?_eq_none {verbose : Bool} : more? verbose cs = none ↔ skip verbose cs = [] := by
  unfold more?
  split
  · simp [‹skip verbose cs = []›]
  · rename_i hne
    exact ⟨nofun, fun h => absurd h hne⟩

theorem more?_suffix {verbose : Bool} (h : more? verbose cs = some r) : r <:+ cs :=
  (more?_eq_some.1 h).1 ▸ skip_suffix verbose cs

/-! ## Numbers and escapes -/

variable {verbose : Bool} {fuel : Nat}

theorem digits_suffix (verbose : Bool) (fuel : Nat) (cs : List Char) :
    (digits verbose fuel cs).2 <:+ cs := by
  induction fuel generalizing cs with
  | zero => exact List.suffix_refl _
  | succ fuel ih =>
    cases cs with
    | nil => exact List.suffix_refl _
    | cons c cs =>
      unfold digits
      split
      · exact ((ih _).trans (skip_suffix verbose cs)).trans (List.suffix_cons c cs)
      · exact List.suffix_refl _

theorem count?_suffix {n : Nat} (h : count? verbose cs = some (n, r)) : r <:+ cs := by
  unfold count? at h
  dsimp only at h
  split at h
  · cases h
  · cases h
    exact (skip_suffix verbose _).trans ((List.dropWhile_suffix _).trans
      ((digits_suffix verbose _ _).trans (List.dropWhile_suffix _)))

theorem hexDigits?_suffix {wanted n m : Nat} (h : hexDigits? verbose wanted n cs = some (m, r)) :
    r <:+ cs := by
  induction wanted generalizing n cs with
  | zero =>
    cases h
    exact List.suffix_refl _
  | succ wanted ih =>
    simp only [hexDigits?, Option.bind_eq_bind, Option.bind_eq_some_iff] at h
    obtain ⟨ds, hmore, h⟩ := h
    split at h
    · obtain ⟨d, -, h⟩ := Option.bind_eq_some_iff.1 h
      exact ((ih h).trans (List.suffix_cons _ _)).trans (more?_suffix hmore)
    · cases h

theorem bracedHex?_rest {n? : Option Nat} {m : Nat}
    (h : bracedHex? verbose fuel n? cs = some (m, r)) : Rest r cs := by
  induction fuel generalizing n? cs with
  | zero => cases h
  | succ fuel ih =>
    simp only [bracedHex?, Option.bind_eq_bind, Option.bind_eq_some_iff] at h
    obtain ⟨ds, hmore, h⟩ := h
    refine Rest.trans_suffix ?_ (more?_suffix hmore)
    split at h
    · simp only [Option.bind_eq_some_iff, Option.some.injEq, Prod.mk.injEq] at h
      obtain ⟨_, -, -, rfl⟩ := h
      exact rest_cons (List.suffix_refl _)
    · obtain ⟨d, -, h⟩ := Option.bind_eq_some_iff.1 h
      exact rest_cons (ih h).suffix
    · cases h

theorem codeEscape?_suffix {width : Nat} {l : Literal}
    (h : codeEscape? verbose width cs = some (l, r)) : r <:+ cs := by
  simp only [codeEscape?, Option.bind_eq_bind, Option.bind_eq_some_iff] at h
  obtain ⟨ds, hmore, h⟩ := h
  refine List.IsSuffix.trans ?_ (more?_suffix hmore)
  split at h
  · simp only [Option.bind_eq_some_iff, Option.some.injEq, Prod.mk.injEq] at h
    obtain ⟨⟨m, r⟩, hm, _, -, -, rfl⟩ := h
    exact (rest_cons (bracedHex?_rest hm).suffix).suffix
  · simp only [Option.bind_eq_some_iff, Option.some.injEq, Prod.mk.injEq] at h
    obtain ⟨⟨m, r⟩, hm, _, -, -, rfl⟩ := h
    exact hexDigits?_suffix hm

theorem bracedName?_rest {name : List Char} (h : bracedName? verbose fuel cs = some (name, r)) :
    Rest r cs := by
  induction fuel generalizing name cs with
  | zero => cases h
  | succ fuel ih =>
    simp only [bracedName?, Option.bind_eq_bind, Option.bind_eq_some_iff] at h
    obtain ⟨ds, hmore, h⟩ := h
    refine Rest.trans_suffix ?_ (more?_suffix hmore)
    split at h
    · cases h
      exact rest_cons (List.suffix_refl _)
    · simp only [Option.bind_eq_some_iff, Option.some.injEq, Prod.mk.injEq] at h
      obtain ⟨⟨_, r⟩, h, -, rfl⟩ := h
      exact rest_cons (ih h).suffix
    · cases h

theorem propertyEscape?_suffix {q : Bool × PropertyQuery}
    (h : propertyEscape? verbose cs = some (q, r)) : r <:+ cs := by
  simp only [propertyEscape?, Option.bind_eq_bind, Option.bind_eq_some_iff] at h
  obtain ⟨ds, hmore, h⟩ := h
  refine List.IsSuffix.trans ?_ (more?_suffix hmore)
  split at h
  · simp only [Option.bind_eq_some_iff, Option.some.injEq, Prod.mk.injEq] at h
    obtain ⟨⟨_, r⟩, h, -, rfl⟩ := h
    exact (rest_cons (bracedName?_rest h).suffix).suffix
  · cases h
  · cases h
    exact List.suffix_cons _ _
  · cases h

theorem boundaryName?_suffix {name : List Char}
    (h : boundaryName? verbose fuel cs = some (name, r)) : r <:+ cs := by
  induction fuel generalizing name cs with
  | zero => cases h
  | succ fuel ih =>
    cases cs with
    | nil => cases h
    | cons c cs =>
      simp only [boundaryName?, Option.bind_eq_bind] at h
      split at h
      · cases h
        exact List.suffix_cons _ _
      · split at h
        · simp only [Option.bind_eq_some_iff, Option.some.injEq, Prod.mk.injEq] at h
          obtain ⟨⟨_, r⟩, h, -, rfl⟩ := h
          exact ((ih h).trans (skip_suffix verbose cs)).trans (List.suffix_cons c cs)
        · cases h

theorem boundary?_suffix {a : Assertion} (h : boundary? verbose cs = some (a, r)) : r <:+ cs := by
  unfold boundary? at h
  split at h
  · simp only [Option.bind_eq_bind, Option.bind_eq_some_iff] at h
    obtain ⟨ds, hmore, h⟩ := h
    split at h
    · split at h
      · simp only [Option.bind_eq_some_iff] at h
        obtain ⟨⟨name, r'⟩, hname, h⟩ := h
        have hr : r = r' := by
          dsimp only at h
          split at h <;> cases h <;> rfl
        rw [hr]
        exact ((boundaryName?_suffix hname).trans (more?_suffix hmore)).trans (List.suffix_cons _ _)
      · cases h
        exact List.suffix_refl _
    · cases h
  · cases h
    exact List.suffix_refl _

/-- A reader that renames what another finds leaves the same rest. -/
theorem suffix_of_map {α β : Type} {f : α × List Char → β × List Char} {b : β}
    {x : Option (α × List Char)} (h : x.map f = some (b, r)) (hf : ∀ p, (f p).2 = p.2)
    (hx : ∀ a r, x = some (a, r) → r <:+ cs) : r <:+ cs := by
  obtain ⟨⟨a, r'⟩, hx', h⟩ := Option.map_eq_some_iff.1 h
  have hr : r = r' := by simpa only [h] using hf (a, r')
  exact hr ▸ hx a _ hx'

theorem escape?_rest {e : Escaped} (h : escape? verbose cs = some (e, r)) : Rest r cs := by
  cases cs with
  | nil => cases h
  | cons c cs =>
    refine rest_cons ?_
    simp only [escape?] at h
    split at h
    · cases h
      exact List.suffix_refl _
    · split at h
      all_goals first
        | exact suffix_of_map h (fun _ => rfl) fun _ _ => codeEscape?_suffix
        | exact suffix_of_map h (fun _ => rfl) fun _ _ => propertyEscape?_suffix
        | exact suffix_of_map h (fun _ => rfl) fun _ _ => boundary?_suffix
        | (cases h; exact List.suffix_refl _)
        | cases h

/-! ## Classes -/

theorem namedClass?_rest {item : ClassTree} (h : namedClass? cs = some (item, r)) : Rest r cs := by
  unfold namedClass? at h
  split at h
  · rename_i rest
    refine rest_cons (List.IsSuffix.trans ?_ (List.suffix_cons _ _))
    simp only [Option.bind_eq_bind, Option.bind_eq_some_iff] at h
    obtain ⟨cls, -, h⟩ := h
    split at h
    · rename_i hdrop
      cases h
      refine ((List.suffix_cons _ _).trans (List.suffix_cons _ _)).trans
        (hdrop ▸ (List.dropWhile_suffix _).trans ?_)
      split
      · exact List.suffix_cons _ _
      · exact List.suffix_refl _
    · cases h
  · cases h

theorem classSign?_rest {e : Escaped} (h : classSign? verbose cs = some (e, r)) : Rest r cs := by
  unfold classSign? at h
  split at h
  · cases h
  · exact rest_cons (escape?_rest h).suffix
  · cases h
    exact rest_cons (List.suffix_refl _)

/-- A class item or a range after its first sign. -/
def rangeFrom? (verbose : Bool) (low : Escaped) (cs : List Char) :
    Option (ClassTree × List Char) := do
  let rest ← more? verbose cs
  let next := peek? verbose rest
  if rest.head? ≠ some '-' ∨ next = some ']' ∨ next = some '-' then
    some (← low.classItem?, rest)
  else
    let (high, rest) ← classSign? verbose (← more? verbose (rest.drop 1))
    let low ← low.literal?
    let high ← high.literal?
    if low.char ≤ high.char then some (.range low high, rest) else none

theorem classRange?_eq (verbose : Bool) (cs : List Char) :
    classRange? verbose cs = (classSign? verbose cs).bind fun p => rangeFrom? verbose p.1 p.2 :=
  rfl

theorem rangeFrom?_suffix {low : Escaped} {item : ClassTree}
    (h : rangeFrom? verbose low cs = some (item, r)) : r <:+ cs := by
  simp only [rangeFrom?, Option.bind_eq_bind, Option.bind_eq_some_iff] at h
  obtain ⟨ds, hmore, h⟩ := h
  refine List.IsSuffix.trans ?_ (more?_suffix hmore)
  split at h
  · simp only [Option.bind_eq_some_iff, Option.some.injEq, Prod.mk.injEq] at h
    obtain ⟨_, -, -, rfl⟩ := h
    exact List.suffix_refl _
  · simp only [Option.bind_eq_some_iff] at h
    obtain ⟨ds', hmore', ⟨high, rest'⟩, hhigh, _, -, _, -, h⟩ := h
    split at h
    · cases h
      exact ((classSign?_rest hhigh).suffix.trans (more?_suffix hmore')).trans
        (List.drop_suffix _ _)
    · cases h

theorem classRange?_rest {item : ClassTree} (h : classRange? verbose cs = some (item, r)) :
    Rest r cs := by
  rw [classRange?_eq] at h
  obtain ⟨⟨low, rest⟩, hlow, h⟩ := Option.bind_eq_some_iff.1 h
  exact Rest.of_suffix (rangeFrom?_suffix h) (classSign?_rest hlow)

theorem openingLiterals?_suffix {items items' : List ClassTree}
    (h : openingLiterals? verbose fuel items cs = some (items', r)) : r <:+ cs := by
  induction fuel generalizing items cs with
  | zero => cases h
  | succ fuel ih =>
    unfold openingLiterals? at h
    split at h
    · obtain ⟨ds, hmore, h⟩ := Option.bind_eq_some_iff.1 h
      exact ((ih h).trans (more?_suffix hmore)).trans (List.suffix_cons _ _)
    · split at h
      · obtain ⟨ds, hmore, h⟩ := Option.bind_eq_some_iff.1 h
        cases h
        exact (more?_suffix hmore).trans (List.suffix_cons _ _)
      · cases h
        exact List.suffix_refl _
    · cases h
      exact List.suffix_refl _

/-- The caret of a negated class, if it is there. -/
def caret? (verbose : Bool) : List Char → Option (Bool × List Char)
  | '^' :: rest => (more? verbose rest).map fun rest => (true, rest)
  | cs => some (false, cs)

theorem caret?_suffix {negated : Bool} (h : caret? verbose cs = some (negated, r)) : r <:+ cs := by
  unfold caret? at h
  split at h
  · obtain ⟨rest, hmore, h⟩ := Option.map_eq_some_iff.1 h
    cases h
    exact (more?_suffix hmore).trans (List.suffix_cons _ _)
  · cases h
    exact List.suffix_refl _

/-- A class after its caret: the literals it opens with and a body. -/
def opened? (verbose : Bool) (fuel : Nat) (negated : Bool) (cs : List Char) :
    Option ((Bool × ClassTree) × List Char) :=
  (openingLiterals? verbose (cs.length + 1) [] cs).bind fun (items, rest) =>
    (classBody? verbose fuel none items rest).map fun (inner, rest) => ((negated, inner), rest)

theorem bracketed?_succ (verbose : Bool) (fuel : Nat) (cs : List Char) :
    bracketed? verbose (fuel + 1) cs =
      (more? verbose cs).bind fun cs =>
        (caret? verbose cs).bind fun (negated, cs) => opened? verbose fuel negated cs := by
  simp only [bracketed?, opened?, Option.bind_eq_bind, Option.map_eq_bind]
  refine congrArg _ (funext fun ds => ?_)
  split
  · simp only [caret?]
    cases more? verbose _ <;> rfl
  · rw [caret?.eq_2 _ _ ‹_›]
    rfl

/-- How the body of a class goes on at a sign. -/
inductive ClassStep
  | close
  | operator (kind : ClassOp)
  | bracket
  | item

/-- The step at the front of a text, and the text it leaves to be read. -/
def classStep : List Char → ClassStep × List Char
  | ']' :: rest => (.close, rest)
  | '&' :: '&' :: rest => (.operator .intersection, rest)
  | '-' :: '-' :: rest => (.operator .difference, rest)
  | '~' :: '~' :: rest => (.operator .symmetricDifference, rest)
  | '[' :: rest => (.bracket, rest)
  | cs => (.item, cs)

theorem classStep_item (h : classStep cs = (.item, r)) : r = cs := by
  unfold classStep at h
  split at h <;> cases h
  rfl

theorem classStep_bracket (h : classStep cs = (.bracket, r)) : cs = '[' :: r := by
  unfold classStep at h
  split at h <;> cases h
  rfl

/-- A step other than to an item takes something off the text. -/
theorem classStep_rest {step : ClassStep} (h : classStep cs = (step, r)) (hstep : step ≠ .item) :
    Rest r cs := by
  unfold classStep at h
  split at h <;> cases h
  case h_6 => exact absurd rfl hstep
  case h_1 | h_5 => exact rest_cons (List.suffix_refl _)
  all_goals exact rest_cons (List.suffix_cons _ _)

/-- What is read after a step. -/
def ClassStep.follow? (verbose : Bool) (fuel : Nat) (pending : PendingOp)
    (items : List ClassTree) : ClassStep → List Char → Option (ClassTree × List Char)
  | .close, rest => some (closeOperand pending items, rest)
  | .operator kind, rest =>
    classBody? verbose fuel (some (kind, closeOperand pending items)) [] rest
  | .bracket, rest =>
    match namedClass? ('[' :: rest) with
    | some (named, rest) => classBody? verbose fuel pending (named :: items) rest
    | none =>
      (bracketed? verbose fuel rest).bind fun ((negated, inner), rest) =>
        classBody? verbose fuel pending (.bracketed negated inner :: items) rest
  | .item, rest =>
    (classRange? verbose rest).bind fun (range, rest) =>
      classBody? verbose fuel pending (range :: items) rest

/-- The body of a class is a step and what it asks for. -/
theorem classBody?_succ (verbose : Bool) (fuel : Nat) (pending : PendingOp)
    (items : List ClassTree) (cs : List Char) :
    classBody? verbose (fuel + 1) pending items cs =
      (more? verbose cs).bind fun cs =>
        (classStep cs).1.follow? verbose fuel pending items (classStep cs).2 := by
  simp only [classBody?, Option.bind_eq_bind]
  refine congrArg _ (funext fun ds => ?_)
  split
  case h_6 => simp only [classStep, ClassStep.follow?]
  all_goals rfl

/-- A class and the body of a class leave an end of their text: the body lacks its closing bracket,
and a class is at most an opening and a body. -/
theorem class_rest (verbose : Bool) (fuel : Nat) :
    (∀ cs b r, bracketed? verbose fuel cs = some (b, r) → Rest r cs) ∧
      ∀ pending items cs b r, classBody? verbose fuel pending items cs = some (b, r) →
        Rest r cs := by
  induction fuel with
  | zero =>
    constructor
    · intro _ _ _ h
      simp only [bracketed?] at h
      cases h
    · intro _ _ _ _ _ h
      simp only [classBody?] at h
      cases h
  | succ fuel ih =>
    obtain ⟨ihClass, ihBody⟩ := ih
    constructor
    · intro cs b r h
      simp only [bracketed?_succ, opened?, Option.bind_eq_some_iff, Option.map_eq_some_iff] at h
      obtain ⟨ds, hmore, ⟨negated, es⟩, hcaret, ⟨items, rest⟩, hitems, ⟨inner, r'⟩, hbody, h⟩ := h
      cases h
      exact (ihBody _ _ _ _ _ hbody).trans_suffix
        (((openingLiterals?_suffix hitems).trans (caret?_suffix hcaret)).trans (more?_suffix hmore))
    · intro pending items cs b r h
      rw [classBody?_succ] at h
      obtain ⟨ds, hmore, h⟩ := Option.bind_eq_some_iff.1 h
      refine Rest.trans_suffix ?_ (more?_suffix hmore)
      generalize hstep : classStep ds = step at h
      obtain ⟨step, rest⟩ := step
      cases step with
      | close =>
        cases h
        exact classStep_rest hstep nofun
      | operator kind =>
        exact Rest.of_suffix (ihBody _ _ _ _ _ h).suffix (classStep_rest hstep nofun)
      | bracket =>
        rw [classStep_bracket hstep]
        dsimp only [ClassStep.follow?] at h
        split at h
        · rename_i hnamed
          exact Rest.of_suffix (ihBody _ _ _ _ _ h).suffix (namedClass?_rest hnamed)
        · obtain ⟨⟨b, rest'⟩, hclass, h⟩ := Option.bind_eq_some_iff.1 h
          exact rest_cons ((ihBody _ _ _ _ _ h).suffix.trans (ihClass _ _ _ hclass).suffix)
      | item =>
        cases classStep_item hstep
        obtain ⟨⟨item, rest'⟩, hitem, h⟩ := Option.bind_eq_some_iff.1 h
        exact Rest.of_suffix (ihBody _ _ _ _ _ h).suffix (classRange?_rest hitem)

theorem bracketed?_rest {b : Bool × ClassTree} (h : bracketed? verbose fuel cs = some (b, r)) :
    Rest r cs :=
  (class_rest verbose fuel).1 _ _ _ h

theorem classBody?_rest {pending : PendingOp} {items : List ClassTree} {b : ClassTree}
    (h : classBody? verbose fuel pending items cs = some (b, r)) : Rest r cs :=
  (class_rest verbose fuel).2 _ _ _ _ _ h

theorem opened?_rest {negated : Bool} {b : Bool × ClassTree}
    (h : opened? verbose fuel negated cs = some (b, r)) : Rest r cs := by
  obtain ⟨⟨items, rest⟩, hitems, h⟩ := Option.bind_eq_some_iff.1 h
  obtain ⟨⟨inner, r'⟩, hbody, h⟩ := Option.map_eq_some_iff.1 h
  cases h
  exact (classBody?_rest hbody).trans_suffix (openingLiterals?_suffix hitems)

/-! ## Groups and repetitions -/

theorem flags?_rest {negated : Bool} {done : FlagChanges} {b : FlagChanges × Char}
    (h : flags? negated done cs = some (b, r)) : Rest r cs := by
  induction cs generalizing negated done with
  | nil => cases h
  | cons c cs ih =>
    refine rest_cons ?_
    unfold flags? at h
    split at h
    · cases h
      exact List.suffix_refl _
    · split at h
      · split at h
        · split at h
          · cases h
          · exact (ih h).suffix
        · cases h
      · split at h
        · split at h
          · cases h
          · exact (ih h).suffix
        · cases h

theorem groupName?_suffix {name : List Char} (h : groupName? cs = some (name, r)) : r <:+ cs := by
  unfold groupName? at h
  dsimp only at h
  split at h
  · rename_i hdrop
    split at h
    · cases h
      exact (List.suffix_cons _ _).trans (hdrop ▸ List.dropWhile_suffix _)
    · cases h
  · cases h

theorem opening?_suffix {o : Opening} (h : opening? verbose cs = some (o, r)) : r <:+ cs := by
  refine List.IsSuffix.trans ?_ (skip_suffix verbose cs)
  unfold opening? at h
  split at h
  · rename_i hskip
    rw [hskip]
    exact ((suffix_of_map h (fun _ => rfl) fun _ _ => groupName?_suffix).trans
      (List.suffix_cons _ _)).trans ((List.suffix_cons _ _).trans (List.suffix_cons _ _))
  · rename_i hskip
    rw [hskip]
    exact ((suffix_of_map h (fun _ => rfl) fun _ _ => groupName?_suffix).trans
      (List.suffix_cons _ _)).trans (List.suffix_cons _ _)
  · rename_i hskip
    rw [hskip]
    simp only [Option.bind_eq_bind, Option.bind_eq_some_iff] at h
    obtain ⟨⟨⟨changes, stop⟩, rest⟩, hflags, h⟩ := h
    have hr : r = rest := by
      split at h
      · cases h
        rfl
      · split at h <;> cases h
        rfl
    exact hr ▸ (flags?_rest hflags).suffix.trans (List.suffix_cons _ _)
  · cases h
    exact List.suffix_refl _

/-- The end of a repetition with two counts. -/
def mostFrom? (least most : Nat) : List Char → Option ((Nat × Option Nat) × List Char)
  | '\x7d' :: rest => if least ≤ most then some ((least, some most), rest) else none
  | _ => none

/-- The counts of a repetition after the first. -/
def countsFrom? (verbose : Bool) (least : Nat) :
    List Char → Option ((Nat × Option Nat) × List Char)
  | ',' :: rest =>
    (more? verbose rest).bind fun
      | '\x7d' :: rest => some ((least, none), rest)
      | rest => (count? verbose rest).bind fun p => mostFrom? least p.1 p.2
  | '\x7d' :: rest => some ((least, some least), rest)
  | _ => none

theorem counts?_eq (verbose : Bool) (cs : List Char) :
    counts? verbose cs =
      (more? verbose cs).bind fun cs =>
        (count? verbose cs).bind fun p => countsFrom? verbose p.1 p.2 :=
  rfl

theorem mostFrom?_suffix {least most : Nat} {b : Nat × Option Nat}
    (h : mostFrom? least most cs = some (b, r)) : r <:+ cs := by
  unfold mostFrom? at h
  split at h
  · split at h
    · cases h
      exact List.suffix_cons _ _
    · cases h
  · cases h

theorem countsFrom?_rest {least : Nat} {b : Nat × Option Nat}
    (h : countsFrom? verbose least cs = some (b, r)) : Rest r cs := by
  unfold countsFrom? at h
  split at h
  · obtain ⟨ds, hmore, h⟩ := Option.bind_eq_some_iff.1 h
    refine rest_cons (List.IsSuffix.trans ?_ (more?_suffix hmore))
    split at h
    · cases h
      exact List.suffix_cons _ _
    · obtain ⟨⟨most, rest⟩, hmost, h⟩ := Option.bind_eq_some_iff.1 h
      exact (mostFrom?_suffix h).trans (count?_suffix hmost)
  · cases h
    exact rest_cons (List.suffix_refl _)
  · cases h

theorem counts?_rest {b : Nat × Option Nat} (h : counts? verbose cs = some (b, r)) :
    Rest r cs := by
  rw [counts?_eq] at h
  obtain ⟨ds, hmore, h⟩ := Option.bind_eq_some_iff.1 h
  obtain ⟨⟨least, rest⟩, hleast, h⟩ := Option.bind_eq_some_iff.1 h
  exact (countsFrom?_rest h).trans_suffix ((count?_suffix hleast).trans (more?_suffix hmore))

theorem skipLazy_suffix (cs : List Char) : skipLazy cs <:+ cs := by
  unfold skipLazy
  split
  · exact List.suffix_cons _ _
  · exact List.suffix_refl _

theorem sign?_rest {part : Tree} (h : sign? verbose cs = some (part, r)) : Rest r cs := by
  unfold sign? at h
  split at h
  · cases h
  · obtain ⟨⟨e, rest⟩, he, h⟩ := Option.bind_eq_some_iff.1 h
    cases h
    exact rest_cons (escape?_rest he).suffix
  all_goals
    cases h
    exact rest_cons (List.suffix_refl _)

/-! ## Patterns -/

/-- What the sign at the front of a pattern asks for: an end of the branches, another reading of
what follows, or a group. -/
inductive Move
  | close
  | next (verbose : Bool) (branches parts : List Tree)
  | enter (names : List (List Char)) (captures : Bool) (changes : FlagChanges)

/-- The move that an opening parenthesis asks for, if the name of the group is a new one. -/
def Opening.move? (verbose : Bool) (names : List (List Char)) (branches parts : List Tree) :
    Opening → Option Move
  | .switch changes =>
    some (.next ((changes.state? .verbose).getD verbose) branches (.flags changes :: parts))
  | .capture => some (.enter names true [])
  | .flagged changes => some (.enter names false changes)
  | .named name => if names.contains name then none else some (.enter (name :: names) true [])

/-- The move at the front of a text that has nothing to be ignored there. -/
def move? (verbose : Bool) (names : List (List Char)) (branches parts : List Tree) :
    List Char → Option (Move × List Char)
  | [] => some (.close, [])
  | ')' :: rest => some (.close, ')' :: rest)
  | '|' :: rest => some (.next verbose (Tree.ofParts parts.reverse :: branches) [], rest)
  | '[' :: rest =>
    (bracketed? verbose (2 * rest.length + 2) rest).map fun ((negated, inner), rest) =>
      (.next verbose branches (.bracketed negated inner :: parts), rest)
  | '?' :: rest =>
    (repeatNewest? 0 (some 1) parts).map fun parts => (.next verbose branches parts, skipLazy rest)
  | '*' :: rest =>
    (repeatNewest? 0 none parts).map fun parts => (.next verbose branches parts, skipLazy rest)
  | '+' :: rest =>
    (repeatNewest? 1 none parts).map fun parts => (.next verbose branches parts, skipLazy rest)
  | '\x7b' :: rest =>
    (counts? verbose rest).bind fun ((least, most), rest) =>
      (repeatNewest? least most parts).map fun parts =>
        (.next verbose branches parts, skipLazy (skip verbose rest))
  | '(' :: rest =>
    (opening? verbose rest).bind fun (o, rest) =>
      (o.move? verbose names branches parts).map fun m => (m, rest)
  | cs => (sign? verbose cs).map fun (part, rest) => (.next verbose branches (part :: parts), rest)

/-- What is read after a move. -/
def Move.follow? (fuel : Nat) (verbose : Bool) (names : List (List Char))
    (branches parts : List Tree) : Move → List Char → Option (Named × List Char)
  | .close, rest =>
    some ((names, Tree.ofBranches (Tree.ofParts parts.reverse :: branches).reverse), rest)
  | .next verbose branches parts, rest => branches? fuel verbose names branches parts rest
  | .enter names captures changes, rest =>
    group? fuel verbose names captures changes branches parts rest

/-- What is read after the branches of a group: the parenthesis that closes it, and the enclosing
pattern. -/
def afterGroup? (fuel : Nat) (verbose captures : Bool) (changes : FlagChanges)
    (branches parts : List Tree) (b : Named) : List Char → Option (Named × List Char)
  | ')' :: rest => branches? fuel verbose b.1 branches (.group captures changes b.2 :: parts) rest
  | _ => none

theorem afterGroup?_eq_some {captures : Bool} {changes : FlagChanges} {branches parts : List Tree}
    {b : Named} {d : Named × List Char} :
    afterGroup? fuel verbose captures changes branches parts b cs = some d ↔
      ∃ rest, cs = ')' :: rest ∧
        branches? fuel verbose b.1 branches (.group captures changes b.2 :: parts) rest =
          some d := by
  unfold afterGroup?
  constructor
  · intro h
    split at h
    · exact ⟨_, rfl, h⟩
    · cases h
  · rintro ⟨rest, rfl, h⟩
    exact h

/-- Reading a group is reading its branches and what comes after them. -/
theorem group?_succ (fuel : Nat) (verbose : Bool) (names : List (List Char)) (captures : Bool)
    (changes : FlagChanges) (branches parts : List Tree) (cs : List Char) :
    group? (fuel + 1) verbose names captures changes branches parts cs =
      (branches? fuel ((changes.state? .verbose).getD verbose) names [] [] cs).bind fun p =>
        afterGroup? fuel verbose captures changes branches parts p.1 p.2 := by
  rw [group?]
  rfl

/-- Reading branches is a move and what it asks for. -/
theorem branches?_succ (fuel : Nat) (verbose : Bool) (names : List (List Char))
    (branches parts : List Tree) (cs : List Char) :
    branches? (fuel + 1) verbose names branches parts cs =
      (move? verbose names branches parts (skip verbose cs)).bind fun (m, rest) =>
        m.follow? fuel verbose names branches parts rest := by
  simp only [branches?, Option.bind_eq_bind]
  generalize skip verbose cs = ds
  split
  · rfl
  · rfl
  · rfl
  · simp only [move?]
    cases bracketed? verbose _ _ <;> rfl
  · simp only [move?]
    cases repeatNewest? 0 (some 1) parts <;> rfl
  · simp only [move?]
    cases repeatNewest? 0 none parts <;> rfl
  · simp only [move?]
    cases repeatNewest? 1 none parts <;> rfl
  · simp only [move?]
    cases counts? verbose _ with
    | none => rfl
    | some b =>
      dsimp only [Option.bind_some]
      cases repeatNewest? b.1.1 b.1.2 parts <;> rfl
  · simp only [move?]
    cases opening? verbose _ with
    | none => rfl
    | some b =>
      obtain ⟨o, rest⟩ := b
      cases o with
      | named name =>
        dsimp only [Option.bind_some, Opening.move?]
        split <;> rfl
      | _ => rfl
  · simp only [move?]
    cases sign? verbose _ <;> rfl

section

variable {names : List (List Char)} {branches parts : List Tree}

theorem Opening.move?_ne_close {o : Opening} {m : Move}
    (h : o.move? verbose names branches parts = some m) : m ≠ .close := by
  unfold move? at h
  split at h
  case h_4 =>
    split at h
    · cases h
    · cases h
      exact Move.noConfusion
  all_goals
    cases h
    exact Move.noConfusion

/-- A move that closes the branches leaves the text as it is; any other takes something off it. -/
theorem move?_rest {m : Move} (h : move? verbose names branches parts cs = some (m, r)) :
    m = .close ∧ r = cs ∨ m ≠ .close ∧ Rest r cs := by
  unfold move? at h
  split at h
  case h_1 | h_2 =>
    cases h
    exact .inl ⟨rfl, rfl⟩
  case h_3 =>
    cases h
    exact .inr ⟨Move.noConfusion, rest_cons (List.suffix_refl _)⟩
  case h_4 =>
    obtain ⟨⟨b, rest⟩, hclass, h⟩ := Option.map_eq_some_iff.1 h
    cases h
    exact .inr ⟨Move.noConfusion, rest_cons (bracketed?_rest hclass).suffix⟩
  case h_5 | h_6 | h_7 =>
    obtain ⟨_, -, h⟩ := Option.map_eq_some_iff.1 h
    cases h
    exact .inr ⟨Move.noConfusion, rest_cons (skipLazy_suffix _)⟩
  case h_8 =>
    obtain ⟨⟨b, rest⟩, hcounts, h⟩ := Option.bind_eq_some_iff.1 h
    obtain ⟨_, -, h⟩ := Option.map_eq_some_iff.1 h
    cases h
    exact .inr ⟨Move.noConfusion, rest_cons
      (((skipLazy_suffix _).trans (skip_suffix _ _)).trans (counts?_rest hcounts).suffix)⟩
  case h_9 =>
    obtain ⟨⟨o, rest⟩, hopening, h⟩ := Option.bind_eq_some_iff.1 h
    obtain ⟨_, hmove, h⟩ := Option.map_eq_some_iff.1 h
    cases h
    exact .inr ⟨Opening.move?_ne_close hmove, rest_cons (opening?_suffix hopening)⟩
  case h_10 =>
    obtain ⟨⟨part, rest⟩, hsign, h⟩ := Option.map_eq_some_iff.1 h
    cases h
    exact .inr ⟨Move.noConfusion, sign?_rest hsign⟩

theorem move?_suffix {m : Move} (h : move? verbose names branches parts cs = some (m, r)) :
    r <:+ cs := by
  obtain ⟨-, rfl⟩ | ⟨-, hrest⟩ := move?_rest h
  · exact List.suffix_refl _
  · exact hrest.suffix

end

/-- Branches, and a group with what follows it, leave an end of their text. -/
theorem branches_suffix (fuel : Nat) :
    (∀ verbose names branches parts cs b r,
        branches? fuel verbose names branches parts cs = some (b, r) → r <:+ cs) ∧
      ∀ verbose names captures changes branches parts cs b r,
        group? fuel verbose names captures changes branches parts cs = some (b, r) →
          r <:+ cs := by
  induction fuel with
  | zero =>
    constructor
    · intro _ _ _ _ _ _ _ h
      simp only [branches?] at h
      cases h
    · intro _ _ _ _ _ _ _ _ _ h
      simp only [group?] at h
      cases h
  | succ fuel ih =>
    obtain ⟨ihBranches, ihGroup⟩ := ih
    constructor
    · intro verbose names branches parts cs b r h
      rw [branches?_succ] at h
      obtain ⟨⟨m, rest⟩, hmove, h⟩ := Option.bind_eq_some_iff.1 h
      refine List.IsSuffix.trans ?_ ((move?_suffix hmove).trans (skip_suffix verbose cs))
      cases m with
      | close =>
        cases h
        exact List.suffix_refl _
      | next verbose branches parts => exact ihBranches _ _ _ _ _ _ _ h
      | enter names captures changes => exact ihGroup _ _ _ _ _ _ _ _ _ h
    · intro verbose names captures changes branches parts cs b r h
      rw [group?_succ] at h
      obtain ⟨⟨b', _⟩, hinner, h⟩ := Option.bind_eq_some_iff.1 h
      obtain ⟨rest, rfl, h⟩ := afterGroup?_eq_some.1 h
      exact ((ihBranches _ _ _ _ _ _ _ h).trans (List.suffix_cons _ _)).trans
        (ihBranches _ _ _ _ _ _ _ hinner)

theorem branches?_suffix {names : List (List Char)} {branches parts : List Tree}
    {b : Named} (h : branches? fuel verbose names branches parts cs = some (b, r)) : r <:+ cs :=
  (branches_suffix fuel).1 _ _ _ _ _ _ _ h

theorem afterGroup?_rest {captures : Bool} {changes : FlagChanges} {branches parts : List Tree}
    {b d : Named}
    (h : afterGroup? fuel verbose captures changes branches parts b cs = some (d, r)) :
    Rest r cs := by
  obtain ⟨rest, rfl, h⟩ := afterGroup?_eq_some.1 h
  exact rest_cons (branches?_suffix h)

theorem group?_suffix {names : List (List Char)} {captures : Bool} {changes : FlagChanges}
    {branches parts : List Tree} {b : Named}
    (h : group? fuel verbose names captures changes branches parts cs = some (b, r)) : r <:+ cs :=
  (branches_suffix fuel).2 _ _ _ _ _ _ _ _ _ h

end BeanGraph.Pattern
