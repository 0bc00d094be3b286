import Listfile.Regex.Parse.Quantifier
import Listfile.Proofs.Outcome
import Mathlib.Data.List.Infix

/-!
# Reading before the end of a group

A pattern is put into a group by writing a parenthesis behind it, or a line feed and a parenthesis.  What
reads a part of the pattern does not look far beyond that part, so it reads the same part then.

* `IsEnd`: what may stand behind a pattern in this way, and what is left of it.
* `Local`, `LocalOption`: a reader reads the same before such an end.
* `skip_append`, `skip_append_end`: blanks and comments before other parts, and before the end.
* `local_number`, `bounds_append`, **`local_quantify`**: numbers and quantifiers.
-/

namespace Listfile.Regex

/-! ### Ends -/

/-- What closes a group behind a pattern, and what is left of that. -/
def IsEnd (t : List Char) : Prop := t <:+ ['\n', ')']

theorem isEnd_iff {t : List Char} : IsEnd t ↔ t = ['\n', ')'] ∨ t = [')'] ∨ t = [] := by
  unfold IsEnd
  rw [List.suffix_cons_iff, List.suffix_cons_iff, List.suffix_nil]

theorem isEnd_paren : IsEnd [')'] := isEnd_iff.2 (.inr (.inl rfl))

theorem isEnd_nil : IsEnd [] := isEnd_iff.2 (.inr (.inr rfl))

theorem isEnd_lineFeed : IsEnd ['\n', ')'] := isEnd_iff.2 (.inl rfl)

theorem IsEnd.head {t : List Char} (h : IsEnd t) : ∀ c ∈ t.head?, c = '\n' ∨ c = ')' := by
  intro c hc
  rcases isEnd_iff.1 h with rfl | rfl | rfl
  · cases hc
    exact .inl rfl
  · cases hc
    exact .inr rfl
  · cases hc

/-- A text before an end that begins with another character begins with it itself. -/
theorem IsEnd.cons_of_append {cs t ds : List Char} {c : Char} (h : IsEnd t) (hc : c ≠ '\n' ∧ c ≠ ')')
    (he : cs ++ t = c :: ds) : ∃ es, cs = c :: es ∧ ds = es ++ t := by
  cases cs with
  | nil =>
    have hhead := h.head c (by rw [show t = c :: ds from he]; rfl)
    rcases hhead with rfl | rfl
    · exact absurd rfl hc.1
    · exact absurd rfl hc.2
  | cons d es =>
    obtain ⟨rfl, rfl⟩ := List.cons.inj he
    exact ⟨es, rfl, rfl⟩

/-- A text that does not begin with some character does not begin with it before an end. -/
theorem IsEnd.ne_cons_append {cs t : List Char} {c : Char} (ht : IsEnd t) (hc : c ≠ '\n' ∧ c ≠ ')')
    (h : ∀ ds, cs = c :: ds → False) (ds : List Char) : cs ++ t ≠ c :: ds := by
  intro he
  obtain ⟨es, hes, -⟩ := ht.cons_of_append hc he
  exact h es hes

/-- A reader that succeeds reads the same before an end. -/
def Local {α : Type} (p : List Char → Except Fault (α × List Char)) : Prop :=
  ∀ cs a rest, p cs = .ok (a, rest) → ∀ t, IsEnd t → p (cs ++ t) = .ok (a, rest ++ t)

theorem IsEnd.ne_cons_cons_append {cs t : List Char} {c d : Char} (ht : IsEnd t)
    (hc : c ≠ '\n' ∧ c ≠ ')') (hd : d ≠ '\n' ∧ d ≠ ')') (h : ∀ ds, cs = c :: d :: ds → False)
    (ds : List Char) : cs ++ t ≠ c :: d :: ds := by
  intro he
  obtain ⟨es, rfl, hes⟩ := ht.cons_of_append hc he
  obtain ⟨fs, rfl, -⟩ := ht.cons_of_append hd hes.symm
  exact h fs rfl

/-- A reader reads the same before an end, or nothing in both cases. -/
def LocalOption {α : Type} (p : List Char → Option (α × List Char)) : Prop :=
  ∀ cs t, IsEnd t → p (cs ++ t) = (p cs).map fun q => (q.1, q.2 ++ t)

/-! ### Blanks and comments -/

/-- What is left behind blanks and comments, without an end behind them and with one. -/
inductive SkipsAlike (t : List Char) : Option (List Char) → Option (List Char) → Prop
  | part (c : Char) (cs : List Char) : SkipsAlike t (some (c :: cs)) (some (c :: cs ++ t))
  | all {s : List Char} (hs : IsEnd s) : SkipsAlike t (some []) (some s)
  /-- A comment may be closed by the end. -/
  | unclosed {o : Option (List Char)} (ho : ∀ s ∈ o, IsEnd s) : SkipsAlike t none o

theorem skipFrom_comment_end (x : Bool) {t : List Char} (ht : IsEnd t) :
    ∀ s ∈ skipFrom x .comment t, IsEnd s := by
  rcases isEnd_iff.1 ht with rfl | rfl | rfl
  · intro s hs
    cases hs
    exact isEnd_nil
  · intro s hs
    cases hs
    exact isEnd_nil
  · intro s hs
    cases hs

theorem skipFrom_nothing_end (x : Bool) {t : List Char} (ht : IsEnd t) :
    ∃ s, IsEnd s ∧ skipFrom x .nothing t = some s := by
  rcases isEnd_iff.1 ht with rfl | rfl | rfl
  · cases x with
    | false => exact ⟨['\n', ')'], isEnd_lineFeed, rfl⟩
    | true => exact ⟨[')'], isEnd_paren, rfl⟩
  · cases x with
    | false => exact ⟨[')'], isEnd_paren, rfl⟩
    | true => exact ⟨[')'], isEnd_paren, rfl⟩
  · exact ⟨[], isEnd_nil, rfl⟩

theorem skipFrom_lineComment_end (x : Bool) {t : List Char} (ht : IsEnd t) :
    ∃ s, IsEnd s ∧ skipFrom x .lineComment t = some s := by
  rcases isEnd_iff.1 ht with rfl | rfl | rfl
  · cases x with
    | false => exact ⟨[')'], isEnd_paren, rfl⟩
    | true => exact ⟨[')'], isEnd_paren, rfl⟩
  · exact ⟨[], isEnd_nil, rfl⟩
  · exact ⟨[], isEnd_nil, rfl⟩

/-- A backslash at the end of a comment quotes the first character of an end. -/
theorem skipFrom_backslash_end (x : Bool) {t : List Char} (ht : IsEnd t) :
    ∀ s ∈ skipFrom x .comment ('\\' :: t), IsEnd s := by
  rcases isEnd_iff.1 ht with rfl | rfl | rfl
  · intro s hs
    cases hs
    exact isEnd_nil
  · intro s hs
    cases hs
  · intro s hs
    cases hs

/-- The front of a text that opens no comment does not open one before an end. -/
theorem opensNoComment_append {c : Char} {cs t : List Char} (ht : IsEnd t)
    (h : ∀ ds, c = '(' → cs = '?' :: '#' :: ds → False) (ds : List Char) (hc : c = '(') :
    cs ++ t ≠ '?' :: '#' :: ds := by
  intro he
  obtain ⟨es, rfl, hes⟩ := ht.cons_of_append (by decide) he
  obtain ⟨fs, rfl, -⟩ := ht.cons_of_append (by decide) hes.symm
  exact h fs hc rfl

/-- An end does not change what is found behind blanks and comments. -/
theorem skipsAlike (x : Bool) (m : Skipping) (cs : List Char) {t : List Char} (ht : IsEnd t) :
    SkipsAlike t (skipFrom x m cs) (skipFrom x m (cs ++ t)) := by
  fun_induction skipFrom x m cs with
  | case1 cs ih => exact ih
  | case2 c cs hno hx ih =>
    rw [List.cons_append, skipFrom.eq_2 x c (cs ++ t) fun ds hc he => opensNoComment_append ht hno ds hc he,
      if_pos hx]
    exact ih
  | case3 c cs hno hx hb ih =>
    rw [List.cons_append, skipFrom.eq_2 x c (cs ++ t) fun ds hc he => opensNoComment_append ht hno ds hc he,
      if_neg hx, if_pos hb]
    exact ih
  | case4 c cs hno hx hb =>
    rw [List.cons_append, skipFrom.eq_2 x c (cs ++ t) fun ds hc he => opensNoComment_append ht hno ds hc he,
      if_neg hx, if_neg hb]
    exact .part c cs
  | case5 =>
    obtain ⟨s, hs, he⟩ := skipFrom_nothing_end x ht
    rw [List.nil_append, he]
    exact .all hs
  | case6 c cs ih => exact ih
  | case7 =>
    obtain ⟨s, hs, he⟩ := skipFrom_lineComment_end x ht
    rw [List.nil_append, he]
    exact .all hs
  | case8 c cs ih => exact ih
  | case9 c cs hno ih =>
    cases cs with
    | nil =>
      by_cases hc : c = '\\'
      · rw [hc]
        exact .unclosed (skipFrom_backslash_end x ht)
      · rw [List.cons_append, skipFrom.eq_7 x c ([] ++ t) fun d ds hd _ => hc hd]
        exact ih
    | cons d ds =>
      rw [List.cons_append, skipFrom.eq_7 x c (d :: ds ++ t) fun e es he _ => hno d ds he rfl]
      exact ih
  | case10 => exact .unclosed (skipFrom_comment_end x ht)

theorem skip_append {x : Bool} {cs ds t : List Char} {c : Char} (h : skip x cs = .ok (c :: ds))
    (ht : IsEnd t) : skip x (cs ++ t) = .ok (c :: ds ++ t) := by
  unfold skip at h ⊢
  have halike := skipsAlike x .nothing cs ht
  cases hs : skipFrom x .nothing cs with
  | none =>
    rw [hs] at h
    cases h
  | some rest =>
    rw [hs] at h halike
    cases h
    generalize skipFrom x .nothing (cs ++ t) = o at halike ⊢
    cases halike
    rfl

theorem skip_append_end {x : Bool} {cs t : List Char} (h : skip x cs = .ok []) (ht : IsEnd t) :
    ∃ s, IsEnd s ∧ skip x (cs ++ t) = .ok s := by
  unfold skip at h ⊢
  have halike := skipsAlike x .nothing cs ht
  cases hs : skipFrom x .nothing cs with
  | none =>
    rw [hs] at h
    cases h
  | some rest =>
    rw [hs] at h halike
    cases h
    generalize skipFrom x .nothing (cs ++ t) = o at halike ⊢
    cases halike with
    | all hend => exact ⟨_, hend, rfl⟩

/-- What is read behind blanks and comments, if nothing can be read at an end. -/
theorem skipFrom_bind {β : Type} {x : Bool} {f : List Char → Option β} {g : β → β} {t : List Char}
    (ht : IsEnd t) (hf : ∀ c cs, f (c :: cs ++ t) = (f (c :: cs)).map g)
    (hend : ∀ s, IsEnd s → f s = none) (cs : List Char) :
    (skipFrom x .nothing (cs ++ t) >>= f) = (skipFrom x .nothing cs >>= f).map g := by
  have halike := skipsAlike x .nothing cs ht
  generalize skipFrom x .nothing (cs ++ t) = o' at halike ⊢
  generalize skipFrom x .nothing cs = o at halike ⊢
  cases halike with
  | part c ds => exact hf c ds
  | all hs =>
    show f _ = (f []).map g
    rw [hend _ hs, hend [] isEnd_nil]
    rfl
  | unclosed ho =>
    cases o' with
    | none => rfl
    | some s => exact hend s (ho s rfl)

/-! ### Numbers -/

theorem span_append {p : Char → Bool} {cs t : List Char} (h : ∀ c ∈ t.head?, p c = false) :
    (cs ++ t).span p = ((cs.span p).1, (cs.span p).2 ++ t) := by
  rw [List.span_eq_takeWhile_dropWhile, List.span_eq_takeWhile_dropWhile]
  induction cs with
  | nil =>
    cases t with
    | nil => rfl
    | cons c t =>
      have hc := h c rfl
      simp [hc]
  | cons d cs ih =>
    cases hd : p d with
    | false => simp [hd]
    | true => simpa [hd] using ih

theorem not_isDigit_end {t : List Char} (ht : IsEnd t) : ∀ c ∈ t.head?, c.isDigit = false := by
  intro c hc
  rcases ht.head c hc with rfl | rfl
  · rfl
  · rfl

theorem local_number : LocalOption number? := by
  intro cs t ht
  unfold number?
  rw [span_append (not_isDigit_end ht)]
  rcases cs.span Char.isDigit with ⟨digits, rest⟩
  cases digits with
  | nil => rfl
  | cons d ds =>
    show (if _ then _ else _) = Option.map _ (if _ then _ else _)
    split
    · rfl
    · rfl

theorem number_end {t : List Char} (ht : IsEnd t) : number? t = none := by
  rcases isEnd_iff.1 ht with rfl | rfl | rfl
  · rfl
  · rfl
  · rfl

/-! ### Quantifiers -/

theorem closeBounds_append (x : Bool) (least : Nat) (most : Option Nat) (cs : List Char) {t : List Char}
    (ht : IsEnd t) : closeBounds? x least most (cs ++ t)
      = (closeBounds? x least most cs).map fun q => (q.1, q.2.1, q.2.2 ++ t) := by
  unfold closeBounds?
  have halike := skipsAlike x .nothing cs ht
  generalize skipFrom x .nothing (cs ++ t) = o' at halike ⊢
  generalize skipFrom x .nothing cs = o at halike ⊢
  cases halike with
  | part c ds =>
    by_cases hc : c = '\x7D'
    · rw [hc]
      rfl
    · simp [hc]
  | all hs =>
    rcases isEnd_iff.1 hs with rfl | rfl | rfl
    all_goals rfl
  | unclosed ho =>
    cases o' with
    | none => rfl
    | some s =>
      rcases isEnd_iff.1 (ho s rfl) with rfl | rfl | rfl
      all_goals rfl

theorem closeBounds_end (x : Bool) (least : Nat) (most : Option Nat) {t : List Char} (ht : IsEnd t) :
    closeBounds? x least most t = none := by
  have h := closeBounds_append x least most [] ht
  rw [List.nil_append] at h
  rw [h]
  rfl

theorem upperBounds_append (x : Bool) (least : Nat) (cs : List Char) {t : List Char} (ht : IsEnd t) :
    upperBounds? x least (cs ++ t)
      = (upperBounds? x least cs).map fun q => (q.1, q.2.1, q.2.2 ++ t) := by
  unfold upperBounds?
  refine skipFrom_bind ht ?_ ?_ cs
  · intro c cs
    by_cases hc : c = ','
    · rw [hc]
      refine skipFrom_bind ht ?_ ?_ cs
      · intro d ds
        rw [local_number (d :: ds) t ht]
        cases number? (d :: ds) with
        | none => exact closeBounds_append x least none (d :: ds) ht
        | some p => exact closeBounds_append x least (upperBound p.1) p.2 ht
      · intro s hs
        rw [number_end hs]
        exact closeBounds_end x least none hs
    · have hclose := closeBounds_append x least (upperBound least) (c :: cs) ht
      simpa [hc] using hclose
  · intro s hs
    rcases isEnd_iff.1 hs with rfl | rfl | rfl
    · exact closeBounds_end x least (upperBound least) isEnd_lineFeed
    · exact closeBounds_end x least (upperBound least) isEnd_paren
    · exact closeBounds_end x least (upperBound least) isEnd_nil

theorem bounds_append (x : Bool) (cs : List Char) {t : List Char} (ht : IsEnd t) :
    bounds? x (cs ++ t) = (bounds? x cs).map fun q => (q.1, q.2.1, q.2.2 ++ t) := by
  unfold bounds?
  refine skipFrom_bind ht ?_ ?_ cs
  · intro c cs
    by_cases hc : c = ','
    · rw [hc]
      exact upperBounds_append x 0 (',' :: cs) ht
    · have hhead : ¬ (c :: cs).head? = some ',' := fun h => hc (Option.some.inj h)
      have hhead' : ¬ (c :: cs ++ t).head? = some ',' := fun h => hc (Option.some.inj h)
      rw [if_neg hhead, if_neg hhead', local_number (c :: cs) t ht]
      cases number? (c :: cs) with
      | none => rfl
      | some p => exact upperBounds_append x p.1 p.2 ht
  · intro s hs
    rcases isEnd_iff.1 hs with rfl | rfl | rfl
    all_goals rfl

theorem quantifier_end (x : Bool) {t : List Char} (ht : IsEnd t) : quantifier? x t = none := by
  rcases isEnd_iff.1 ht with rfl | rfl | rfl
  all_goals rfl

theorem quantifier_append (x : Bool) (cs : List Char) {t : List Char} (ht : IsEnd t) :
    quantifier? x (cs ++ t) = (quantifier? x cs).map fun q => (q.1, q.2.1, q.2.2 ++ t) := by
  fun_cases quantifier? x cs with
  | case1 cs => rfl
  | case2 cs => rfl
  | case3 cs => rfl
  | case4 cs => exact bounds_append x cs ht
  | case5 cs hask hstar hplus hbrace =>
    cases cs with
    | nil => exact quantifier_end x ht
    | cons c cs =>
      unfold quantifier?
      split
      all_goals simp_all

theorem local_markRepetition (x : Bool) (repetition : Bool → Expr) :
    Local (markRepetition x repetition) := by
  intro cs a rest h t ht
  obtain ⟨ds, hs, h⟩ := bind_eq_ok.1 h
  cases ds with
  | nil =>
    cases h
    obtain ⟨s, hend, hs⟩ := skip_append_end hs ht
    refine bind_eq_ok.2 ⟨s, hs, ?_⟩
    rcases isEnd_iff.1 hend with rfl | rfl | rfl
    all_goals rfl
  | cons c ds =>
    refine bind_eq_ok.2 ⟨c :: ds ++ t, skip_append hs ht, ?_⟩
    split at h
    · rename_i fs heq
      rw [heq]
      cases h
      rfl
    · rename_i fs hno heq
      rw [heq]
      cases h
      rw [List.cons_append]
      split
      · rename_i gs he
        obtain ⟨es, hes, -⟩ := ht.cons_of_append (by decide) (List.cons.inj he).2
        exact absurd hes (hno es)
      · rename_i he
        rw [(List.cons.inj he).2]
        rfl
      · rename_i he
        cases (List.cons.inj he).1
      · rename_i hask _
        exact absurd rfl (hask _)
    · rename_i fs heq
      rw [heq]
      cases h
      rfl
    · rename_i hask hplus
      cases h
      split
      · rename_i he
        exact absurd (congrArg (· :: ds) (List.cons.inj he).1) (hask ds)
      · rename_i he
        exact absurd (congrArg (· :: ds) (List.cons.inj he).1) (hask ds)
      · rename_i he
        exact absurd (congrArg (· :: ds) (List.cons.inj he).1) (hplus ds)
      · rfl

theorem local_quantify (flags : Flags) (e : Expr) : Local (quantify flags e) := by
  intro cs a rest h t ht
  obtain ⟨ds, hs, h⟩ := bind_eq_ok.1 h
  cases ds with
  | nil =>
    cases h
    obtain ⟨s, hend, hs⟩ := skip_append_end hs ht
    refine bind_eq_ok.2 ⟨s, hs, ?_⟩
    rw [quantifier_end flags.extended hend]
    rfl
  | cons c ds =>
    refine bind_eq_ok.2 ⟨c :: ds ++ t, skip_append hs ht, ?_⟩
    rw [quantifier_append flags.extended (c :: ds) ht]
    cases hq : quantifier? flags.extended (c :: ds) with
    | none =>
      rw [hq] at h
      cases h
      rfl
    | some q =>
      rw [hq] at h
      show (if e.isRepeatable = true then _ else _) = _
      have h : (if e.isRepeatable = true then _ else _) = _ := h
      split at h
      · rename_i hr
        rw [if_pos hr]
        exact local_markRepetition _ _ _ _ _ h t ht
      · cases h

end Listfile.Regex
