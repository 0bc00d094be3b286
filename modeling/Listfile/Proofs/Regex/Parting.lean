import Listfile.Proofs.Regex.Consuming

/-!
# Parts that end by themselves

Where a part of a pattern ends does not depend on what stands behind it, except for a few parts that go on as
long as they can: what may follow is a quantifier, a digit of a number or the brace of a boundary.

* `skip_append_all`: blanks and comments before the end.
* `Calm`: no quantifier stands behind blanks and comments.
* **`quantify_before`**: quantifiers, and what must not follow them.
* `NoBrace`: no brace comes up behind a part.
* `all_isDigit_of_escape`: escapes that a number may go on with.
* **`conditionGroup_before`**: conditions that name a group.
-/

namespace Listfile.Regex

variable {x inClass : Bool} {cs ds rest w name : List Char} {c d : Char} {n : Nat} {g : GroupTable}
  {flags : Flags}

/-! ### Blanks and comments -/

/-- What is left behind blanks and comments begins with neither. -/
theorem skipFrom_skipFrom {m : Skipping} (h : skipFrom x m cs = some rest) :
    skipFrom x .nothing rest = some rest := by
  fun_induction skipFrom x m cs with
  | case1 cs ih => exact ih h
  | case2 c cs hno hx ih => exact ih h
  | case3 c cs hno hx hb ih => exact ih h
  | case4 c cs hno hx hb =>
    cases h
    rw [skipFrom.eq_2 x c cs hno, if_neg hx, if_neg hb]
  | case5 =>
    cases h
    rfl
  | case6 c cs ih => exact ih h
  | case7 =>
    cases h
    rfl
  | case8 c cs ih => exact ih h
  | case9 c cs hno ih => exact ih h
  | case10 => cases h

theorem exists_of_cons_eq_concat (h : c :: ds = cs ++ [d]) :
    (c = d ∧ ds = [] ∧ cs = []) ∨ ∃ es, cs = c :: es ∧ ds = es ++ [d] := by
  cases cs with
  | nil =>
    obtain ⟨hc, hds⟩ := List.cons.inj h
    exact .inl ⟨hc, hds, rfl⟩
  | cons e es =>
    obtain ⟨rfl, hds⟩ := List.cons.inj h
    exact .inr ⟨es, rfl, hds⟩

/-- Where a bar would not be a part of the blanks and comments in front of it, these are at an end. -/
theorem skipFrom_append_all {m : Skipping} (h : skipFrom x m (cs ++ ['|']) = some ['|']) :
    skipFrom x m (cs ++ w) = skipFrom x .nothing w := by
  generalize hds : cs ++ ['|'] = ds at h
  fun_induction skipFrom x m ds generalizing cs with
  | case1 ds ih =>
    rcases exists_of_cons_eq_concat hds.symm with ⟨hc, -, -⟩ | ⟨es, rfl, hes⟩
    · cases hc
    rcases exists_of_cons_eq_concat hes with ⟨hc, -, -⟩ | ⟨fs, rfl, hfs⟩
    · cases hc
    rcases exists_of_cons_eq_concat hfs with ⟨hc, -, -⟩ | ⟨es, rfl, rfl⟩
    · cases hc
    exact ih rfl h
  | case2 c ds hno hx ih =>
    have hc : c = '#' := by
      rw [Bool.and_eq_true] at hx
      exact LawfulBEq.eq_of_beq hx.2
    subst hc
    rcases exists_of_cons_eq_concat hds.symm with ⟨hc, -, -⟩ | ⟨es, rfl, rfl⟩
    · cases hc
    rw [List.cons_append, skipFrom_cons x _ (by decide), if_pos hx]
    exact ih rfl h
  | case3 c ds hno hx hb ih =>
    rcases exists_of_cons_eq_concat hds.symm with ⟨rfl, -, -⟩ | ⟨es, rfl, rfl⟩
    · rw [Bool.and_eq_true] at hb
      exact absurd hb.2 (by decide)
    have hc : c ≠ '(' := by
      rintro rfl
      rw [Bool.and_eq_true] at hb
      exact absurd hb.2 (by decide)
    rw [List.cons_append, skipFrom_cons x _ hc, if_neg hx, if_pos hb]
    exact ih rfl h
  | case4 c ds hno hx hb =>
    rcases exists_of_cons_eq_concat hds.symm with ⟨-, -, rfl⟩ | ⟨es, rfl, rfl⟩
    · rfl
    · have hlen := congrArg List.length (List.cons.inj (Option.some.inj h)).2
      rw [List.length_append] at hlen
      cases hlen
  | case5 => cases h
  | case6 c ds ih =>
    rcases exists_of_cons_eq_concat hds.symm with ⟨rfl, rfl, -⟩ | ⟨es, rfl, rfl⟩
    · cases h
    · exact ih rfl h
  | case7 => cases h
  | case8 c ds ih =>
    rcases exists_of_cons_eq_concat hds.symm with ⟨hc, -, -⟩ | ⟨es, rfl, hes⟩
    · cases hc
    rcases exists_of_cons_eq_concat hes with ⟨-, rfl, -⟩ | ⟨fs, rfl, rfl⟩
    · cases h
    · have hrest := ih rfl h
      exact hrest
  | case9 c ds hno ih =>
    rcases exists_of_cons_eq_concat hds.symm with ⟨rfl, rfl, -⟩ | ⟨es, rfl, rfl⟩
    · cases h
    have hc : c ≠ '\\' := by
      rintro rfl
      cases es with
      | nil => exact hno _ _ rfl rfl
      | cons e es => exact hno _ _ rfl rfl
    rw [List.cons_append, skipFrom.eq_7 x c (es ++ w) fun f fs he _ => hc he]
    exact ih rfl h
  | case10 => cases h

theorem skip_append_all (h : skip x (cs ++ ['|']) = .ok ['|']) : skip x (cs ++ w) = skip x w := by
  unfold skip
  rw [skipFrom_append_all (skip_eq_ok.1 h)]

/-! ### Texts that begin without a quantifier -/

/-- The character begins a quantifier, or what marks a group. -/
def isQuantifier (c : Char) : Bool := ['?', '*', '+', '\x7B'].contains c

/-- Behind blanks and comments there is no quantifier. -/
def Calm (x : Bool) (cs : List Char) : Prop := ∃ ds, skip x cs = .ok ds ∧ ∀ c ∈ ds.head?, isQuantifier c = false

theorem calm_nil (x : Bool) : Calm x [] := ⟨[], rfl, nofun⟩

theorem skip_isQuantifier (hc : isQuantifier c = true) : skip x (c :: cs) = .ok (c :: cs) := by
  have hmem : c ∈ ['?', '*', '+', '\x7B'] := List.contains_iff_mem.1 hc
  simp only [List.mem_cons, List.not_mem_nil, or_false] at hmem
  refine skip_eq_ok.2 ?_
  rcases hmem with rfl | rfl | rfl | rfl
  all_goals
    rw [skipFrom_cons x cs (by decide)]
    cases x <;> rfl

/-- Such a text does not begin with a quantifier itself. -/
theorem Calm.head (h : Calm x cs) : ∀ c ∈ cs.head?, isQuantifier c = false := by
  obtain ⟨ds, hs, hds⟩ := h
  intro c hc
  obtain ⟨es, rfl⟩ := List.head?_eq_some_iff.1 hc
  cases hquantifier : isQuantifier c with
  | false => rfl
  | true =>
    rw [skip_isQuantifier hquantifier] at hs
    cases hs
    rw [← hquantifier]
    exact hds c rfl

theorem Calm.head_ne (h : Calm x cs) (hd : isQuantifier d = true) : cs.head? ≠ some d := by
  intro hc
  rw [h.head d hc] at hd
  cases hd

theorem quantifier_of_head (h : ∀ c ∈ cs.head?, isQuantifier c = false) : quantifier? x cs = none := by
  unfold quantifier?
  split
  · cases h '?' rfl
  · cases h '*' rfl
  · cases h '+' rfl
  · cases h '\x7B' rfl
  · rfl

/-! ### Numbers and quantifiers -/

/-- Bounds are closed by a brace. -/
theorem exists_of_closeBounds {least : Nat} {most : Option Nat} {p : Nat × Option Nat × List Char}
    (h : closeBounds? x least most cs = some p) :
    ∃ rest, skipFrom x .nothing cs = some ('\x7D' :: rest) ∧ p = (least, most, rest) := by
  unfold closeBounds? at h
  split at h
  · rename_i rest hs
    cases h
    exact ⟨rest, hs, rfl⟩
  · cases h

theorem closeBounds_before {least n : Nat} {most m : Option Nat}
    (h : closeBounds? x least most cs = some (n, m, rest)) (w : List Char) :
    closeBounds? x least most (cs ++ w) = some (n, m, rest ++ w) := by
  obtain ⟨es, hs, he⟩ := exists_of_closeBounds h
  cases he
  unfold closeBounds?
  rw [skipFrom_before hs (by decide)]
  rfl

theorem upperBounds_before {least n : Nat} {m : Option Nat}
    (h : upperBounds? x least cs = some (n, m, rest)) (w : List Char) :
    upperBounds? x least (cs ++ w) = some (n, m, rest ++ w) := by
  obtain ⟨ds, hs, h⟩ := Option.bind_eq_some_iff.1 h
  split at h
  · rename_i es
    refine Option.bind_eq_some_iff.2 ⟨_, skipFrom_before hs (by decide), ?_⟩
    obtain ⟨fs, hfs, h⟩ := Option.bind_eq_some_iff.1 h
    cases hnumber : number? fs with
    | none =>
      -- without a number the brace comes at once
      rw [hnumber] at h
      obtain ⟨gs, hgs, -⟩ := exists_of_closeBounds h
      rw [skipFrom_skipFrom hfs] at hgs
      cases hgs
      exact Option.bind_eq_some_iff.2 ⟨_, skipFrom_before hfs (by decide), closeBounds_before h w⟩
    | some q =>
      obtain ⟨k, gs⟩ := q
      rw [hnumber] at h
      cases fs with
      | nil => cases hnumber
      | cons f fs =>
        have hf : f ≠ '(' := by
          rintro rfl
          cases hnumber
        refine Option.bind_eq_some_iff.2 ⟨_, skipFrom_before hfs hf, ?_⟩
        cases gs with
        | nil => cases h
        | cons e gs =>
          rw [number_before hnumber nofun]
          exact closeBounds_before h w
  · obtain ⟨gs, hgs, -⟩ := exists_of_closeBounds h
    rw [skipFrom_skipFrom hs] at hgs
    cases hgs
    exact Option.bind_eq_some_iff.2 ⟨_, skipFrom_before hs (by decide), closeBounds_before h w⟩

theorem bounds_before {m : Option Nat} (h : bounds? x cs = some (n, m, rest)) (w : List Char) :
    bounds? x (cs ++ w) = some (n, m, rest ++ w) := by
  obtain ⟨ds, hs, h⟩ := Option.bind_eq_some_iff.1 h
  split at h
  · rename_i hcomma
    obtain ⟨es, rfl⟩ := List.head?_eq_some_iff.1 hcomma
    exact Option.bind_eq_some_iff.2 ⟨_, skipFrom_before hs (by decide), upperBounds_before h w⟩
  · rename_i hcomma
    obtain ⟨⟨least, es⟩, hnumber, h⟩ := Option.bind_eq_some_iff.1 h
    cases ds with
    | nil => cases hnumber
    | cons d ds =>
      have hd : d ≠ '(' := by
        rintro rfl
        cases hnumber
      refine Option.bind_eq_some_iff.2 ⟨_, skipFrom_before hs hd, ?_⟩
      rw [if_neg (show ¬ (d :: ds ++ w).head? = some ',' from hcomma)]
      cases es with
      | nil => cases h
      | cons e es => exact Option.bind_eq_some_iff.2 ⟨_, number_before hnumber nofun, upperBounds_before h w⟩

theorem quantifier_before {m : Option Nat} (h : quantifier? x cs = some (n, m, rest)) (w : List Char) :
    quantifier? x (cs ++ w) = some (n, m, rest ++ w) := by
  unfold quantifier? at h
  split at h
  · cases h
    rfl
  · cases h
    rfl
  · cases h
    rfl
  · exact bounds_before h w
  · cases h

/-- What quantifies begins with a sign or a brace. -/
theorem isQuantifier_of_quantifier {p : Nat × Option Nat × List Char} (h : quantifier? x cs = some p) :
    ∃ c ds, cs = c :: ds ∧ isQuantifier c = true := by
  unfold quantifier? at h
  split at h
  · exact ⟨_, _, rfl, rfl⟩
  · exact ⟨_, _, rfl, rfl⟩
  · exact ⟨_, _, rfl, rfl⟩
  · exact ⟨_, _, rfl, rfl⟩
  · cases h

theorem markRepetition_before {repetition : Bool → Expr} {e : Expr}
    (h : markRepetition x repetition cs = .ok (e, rest)) (hw : Calm x (rest ++ w)) :
    markRepetition x repetition (cs ++ w) = .ok (e, rest ++ w) := by
  obtain ⟨ds, hs, h⟩ := bind_eq_ok.1 h
  split at h
  · rename_i es
    cases h
    exact bind_eq_ok.2 ⟨_, skip_append_cons hs (by simp) (by simp), rfl⟩
  · rename_i es hplus
    cases h
    refine bind_eq_ok.2 ⟨_, skip_append_cons hs (by simp) (by simp), ?_⟩
    have hplus' : ∀ fs, rest ++ w ≠ '+' :: fs := by
      intro fs he
      exact hw.head_ne rfl (by rw [he]; rfl)
    rw [List.cons_append]
    split
    · rename_i he
      exact absurd (List.cons.inj he).2 (hplus' _)
    · rename_i he
      rw [(List.cons.inj he).2]
      rfl
    · rename_i he
      cases (List.cons.inj he).1
    · rename_i hask _
      exact absurd rfl (hask _)
  · cases h
    exact bind_eq_ok.2 ⟨_, skip_append_cons hs (by simp) (by simp), rfl⟩
  · cases h
    obtain ⟨es, hes, hcalm⟩ := hw
    refine bind_eq_ok.2 ⟨es, hes, ?_⟩
    split
    · cases hcalm '?' rfl
    · cases hcalm '?' rfl
    · cases hcalm '+' rfl
    · rfl

theorem quantify_calm (hcs : Calm flags.extended cs) (e : Expr) : quantify flags e cs = .ok (e, cs) := by
  obtain ⟨ds, hds, hcalm⟩ := hcs
  refine bind_eq_ok.2 ⟨ds, hds, ?_⟩
  rw [quantifier_of_head hcalm]
  rfl

/-- **A quantifier is the same before any text that begins without one**, and so is none. -/
theorem quantify_before {e e' : Expr} (h : quantify flags e cs = .ok (e', rest))
    (hw : Calm flags.extended (rest ++ w)) : quantify flags e (cs ++ w) = .ok (e', rest ++ w) := by
  obtain ⟨ds, hs, h⟩ := bind_eq_ok.1 h
  cases hq : quantifier? flags.extended ds with
  | none =>
    rw [hq] at h
    cases h
    exact quantify_calm hw e
  | some q =>
    rw [hq] at h
    obtain ⟨c, fs, rfl, hc⟩ := isQuantifier_of_quantifier hq
    have hparen : c ≠ '(' := by
      rintro rfl
      cases hc
    refine bind_eq_ok.2 ⟨_, skip_append_cons hs (fun he => absurd (List.cons.inj he).1 hparen)
      (fun he => hparen (List.cons.inj he).1), ?_⟩
    rw [quantifier_before hq w]
    have h : (if e.isRepeatable = true then _ else _) = _ := h
    show (if e.isRepeatable = true then _ else _) = _
    split at h
    · rename_i hr
      rw [if_pos hr]
      exact markRepetition_before h hw
    · cases h

/-! ### Escapes -/

/-- No brace is put in between a part and what follows it, and none is left alone behind the part. -/
structure NoBrace (rest w : List Char) : Prop where
  head_ne : rest = [] → w.head? ≠ some '\x7B'
  ne_brace : rest ≠ ['\x7B']

theorem NoBrace.unbraced (h : NoBrace rest w) : Unbraced rest w :=
  ⟨h.head_ne, fun he => absurd he h.ne_brace⟩

/-- A reference by number behind which nothing stands is a number to its end. -/
theorem all_isDigit_of_number (h : number? cs = some (n, [])) : cs.all Char.isDigit = true := by
  unfold number? at h
  generalize hspan : cs.span Char.isDigit = split at h
  obtain ⟨digits, back⟩ := split
  cases digits with
  | nil => cases h
  | cons d ds =>
    have h : (if _ then _ else _) = some (n, []) := h
    split at h
    · cases h
      rw [List.span_eq_takeWhile_dropWhile] at hspan
      have hall : cs.dropWhile Char.isDigit = [] := (Prod.mk.inj hspan).2
      exact List.all_eq_true.2 (List.dropWhile_eq_nil_iff.1 hall)
    · cases h

/-- A reference by number with nothing behind it is written with digits alone. -/
theorem all_isDigit_of_escape {inClass : Bool} {i : Nat}
    (h : escape flags g inClass cs = .ok (.reference i true, [])) : cs.all Char.isDigit = true := by
  cases cs with
  | nil => cases h
  | cons c cs =>
    obtain ⟨form, hform⟩ := exists_escapeForm flags g inClass c
    rw [hform] at h
    cases form with
    | number =>
      unfold EscapeForm.read at h
      dsimp only at h
      split at h
      · rename_i hnumber
        cases h
        exact all_isDigit_of_number hnumber
      · cases h
    | named =>
      obtain ⟨p, -, h⟩ := bind_eq_ok.1 h
      cases h
    | boundary _ =>
      obtain ⟨p, -, h⟩ := bind_eq_ok.1 h
      cases h
    | notBoundary _ =>
      unfold EscapeForm.read at h
      dsimp only at h
      split at h
      · cases h
      · cases h
    | codePoint count _ =>
      unfold EscapeForm.read at h
      dsimp only at h
      split at h
      · cases h
      · cases h
    | property negated =>
      obtain ⟨p, -, h⟩ := bind_eq_ok.1 h
      cases h
    | expr e he => cases h
    | set s => cases h
    | hexDigits negated => cases h
    | char d => cases h
    | unknown => cases h

/-! ### Conditions -/

/-- The number of a condition is closed by a parenthesis. -/
theorem exists_of_closedCondition {p : Option (Nat × List Char)} {i : Nat}
    (h : closedCondition p = .ok (some (i, rest))) : p = some (i, ')' :: rest) := by
  unfold closedCondition at h
  split at h
  · cases h
    rfl
  · cases h
  · cases h

/-- **A condition that names a group ends with its parenthesis.** -/
theorem conditionGroup_before {i : Nat} (h : conditionGroup? g cs = .ok (some (i, rest))) (w : List Char) :
    conditionGroup? g (cs ++ w) = .ok (some (i, rest ++ w)) := by
  fun_cases conditionGroup? g cs with
  | case1 name => exact namedCondition_append h w
  | case2 name => exact namedCondition_append h w
  | case3 ds =>
    have hp := exists_of_closedCondition (show closedCondition (distance? g.opened ('+' :: ds)) = _ from h)
    show closedCondition (distance? g.opened ('+' :: ds ++ w)) = _
    rw [distance_before hp w]
    rfl
  | case4 ds =>
    have hp := exists_of_closedCondition (show closedCondition (distance? g.opened ('-' :: ds)) = _ from h)
    show closedCondition (distance? g.opened ('-' :: ds ++ w)) = _
    rw [distance_before hp w]
    rfl
  | case5 cs back heq hangle hquote hplus hminus =>
    rw [conditionGroup?.eq_5 g cs hangle hquote hplus hminus, heq] at h
    cases h
  | case6 cs digits back hne heq hangle hquote hplus hminus =>
    rw [conditionGroup?.eq_5 g cs hangle hquote hplus hminus, heq] at h
    cases digits with
    | nil => exact absurd rfl hne
    | cons d ds =>
      have hp := exists_of_closedCondition h
      obtain ⟨j, hj, he⟩ := Option.map_eq_some_iff.1 hp
      cases he
      cases cs with
      | nil => cases heq
      | cons c cs =>
        have hfirst : ∀ e, (∀ fs, c :: cs = e :: fs → False) → ∀ fs, c :: cs ++ w = e :: fs → False := by
          intro e he fs hfs
          exact he cs (by rw [(List.cons.inj hfs).1])
        rw [conditionGroup?.eq_5 g (c :: cs ++ w) (hfirst _ hangle) (hfirst _ hquote) (hfirst _ hplus)
          (hfirst _ hminus), span_append_of_cons heq]
        show closedCondition (Option.map _ (g.lookup (d :: ds))) = _
        rw [hj]
        rfl

end Listfile.Regex
