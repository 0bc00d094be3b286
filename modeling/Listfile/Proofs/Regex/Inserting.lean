import Listfile.Proofs.Regex.Ending
import Listfile.Proofs.Regex.Growing
import Listfile.Proofs.Regex.Parting

/-!
# Reading on behind texts that were put in

What is read next does not depend on what the groups that are open contain, except that what has grown is built
into what surrounds it.

* `Reading.Grows`: a reading with texts put in, without tests of conditionals that are open.
* `quantify_rel`: what can be repeated instead of an expression is repeated in the same way.
* `readGroup_grows`, `readAtom_grows`, `Reading.Grows.close`: the steps of reading a part.
* `readPart`: the next part of a pattern without the quantifier behind it, `EndsBefore`: what may follow it.
* **`readPart_grows`**: the next part of a pattern is the same before any text that does not go on with it, and
  behind any texts that were put in.
-/

namespace Listfile.Regex

variable {cs ds rest w : List Char} {x : Bool} {flags : Flags} {g g' : GroupTable} {r r' s : Reading}
  {e e' : Expr} {whole whole' : Option Expr} {limit : Nat}

/-! ### Groups -/

theorem groupReference_congr (hopened : g'.opened = g.opened) (hnames : g'.names = g.names) (relative : Bool)
    (close : Char) (cs : List Char) :
    groupReference g' relative close cs = groupReference g relative close cs := by
  unfold groupReference GroupTable.lookup
  rw [hopened, hnames]

theorem namedReference_congr (hopened : g'.opened = g.opened) (hnames : g'.names = g.names) (cs : List Char) :
    namedReference g' cs = namedReference g cs := by
  unfold namedReference
  split
  · exact groupReference_congr hopened hnames _ _ _
  · exact groupReference_congr hopened hnames _ _ _
  · rfl

theorem escape_congr (hopened : g'.opened = g.opened) (hnames : g'.names = g.names) (inClass : Bool)
    (cs : List Char) : escape flags g' inClass cs = escape flags g inClass cs := by
  cases cs with
  | nil => rfl
  | cons c cs =>
    rw [escape, escape, namedReference_congr hopened hnames]

theorem classTokensFrom_congr (hopened : g'.opened = g.opened) (hnames : g'.names = g.names) (n nest : Nat)
    (cs : List Char) : classTokensFrom flags g' n nest cs = classTokensFrom flags g n nest cs := by
  induction n generalizing nest cs with
  | zero => rfl
  | succ n ih =>
    cases cs with
    | nil => rfl
    | cons c cs =>
      by_cases hc : c = '\\'
      · rw [hc, classTokensFrom, classTokensFrom, escape_congr hopened hnames]
        simp only [ih]
      · rw [classTokensFrom.eq_4 _ _ _ _ _ _ hc, classTokensFrom.eq_4 _ _ _ _ _ _ hc]
        simp only [ih]

theorem classTokens_congr (hopened : g'.opened = g.opened) (hnames : g'.names = g.names) (cs : List Char) :
    classTokens flags g' cs = classTokens flags g cs := by
  unfold classTokens
  simp only [classTokensFrom_congr hopened hnames]

theorem conditionGroup_congr (hopened : g'.opened = g.opened) (hnames : g'.names = g.names) (cs : List Char) :
    conditionGroup? g' cs = conditionGroup? g cs := by
  unfold conditionGroup? namedCondition GroupTable.lookup
  simp only [groupReference_congr hopened hnames, hopened, hnames]

/-! ### Readings with texts put in -/

/-- Kinds of groups without tests of conditionals. Where the branches of a conditional began is of no
importance when the condition names a group. -/
inductive KindGrows : GroupKind → GroupKind → Prop
  | same {kind : GroupKind} (htest : kind ≠ .test) (hbranches : ∀ test left, kind ≠ .branches test left) :
    KindGrows kind kind
  | branches (i left left' : Nat) : KindGrows (.branches (.groupSet i) left) (.branches (.groupSet i) left')

/-- A group that is being read, with texts put in. -/
structure Frame.Grows (f f' : Frame) : Prop where
  kind : KindGrows f.kind f'.kind
  branches : List.Forall₂ Grown f.branches f'.branches
  parts : GrownParts f.parts f'.parts

namespace Frame.Grows

variable {f f' : Frame}

theorem start {kind kind' : GroupKind} (h : KindGrows kind kind') : (Frame.start kind).Grows (Frame.start kind') :=
  ⟨h, .nil, .nil⟩

theorem push (h : f.Grows f') (he : Grown e e') : (f.push e).Grows (f'.push e') := by
  unfold Frame.push
  cases hempty : e.isEmpty with
  | true =>
    cases hempty' : e'.isEmpty with
    | true => exact h
    | false =>
      rw [eq_empty_of_isEmpty hempty] at he
      exact ⟨h.kind, h.branches, .more he h.parts⟩
  | false =>
    cases hempty' : e'.isEmpty with
    | true =>
      rw [he.isEmpty hempty'] at hempty
      cases hempty
    | false => exact ⟨h.kind, h.branches, .part he h.parts⟩

theorem bar (h : f.Grows f') : f.bar.Grows f'.bar :=
  ⟨h.kind, .cons (grown_ofParts h.parts) h.branches, .nil⟩

theorem body (h : f.Grows f') : Grown f.body f'.body :=
  grown_ofBranches (List.forall₂_reverse_iff.2 h.bar.branches)

end Frame.Grows

/-- A reading with texts put in. -/
structure Reading.Grows (r s : Reading) : Prop where
  flags : s.flags = r.flags
  opened : s.groups.opened = r.groups.opened
  names : s.groups.names = r.groups.names
  numbered : s.numbered = r.numbered
  frame : r.frame.Grows s.frame
  outer : List.Forall₂ Frame.Grows r.outer s.outer

namespace Reading.Grows

theorem push (h : r.Grows s) (he : Grown e e') : (r.push e).Grows (s.push e') :=
  ⟨h.flags, h.opened, h.names, h.numbered, h.frame.push he, h.outer⟩

/-- A character can be put in anywhere. -/
theorem push_chars (h : r.Grows s) (set : CharSet) : r.Grows (s.push (.chars set)) :=
  ⟨h.flags, h.opened, h.names, h.numbered,
    ⟨h.frame.kind, h.frame.branches, .more (.chars set) h.frame.parts⟩, h.outer⟩

/-- What repeated the last part may repeat a text behind it instead. -/
theorem push_behind {a b : Expr} (h : (r.push e).Grows s) (he : e.isEmpty = false) (ha : a.isEmpty = false)
    (hb : b.isEmpty = false) (hab : Alike a (.seq e b)) : (r.push a).Grows (s.push b) := by
  refine ⟨h.flags, h.opened, h.names, h.numbered, ?_, h.outer⟩
  have hframe := h.frame
  unfold Reading.push Frame.push at hframe ⊢
  simp only [he, ha, hb] at hframe ⊢
  exact ⟨hframe.kind, hframe.branches, .behind hframe.parts hab⟩

theorem enter {kind kind' : GroupKind} (h : r.Grows s) (hkind : KindGrows kind kind') :
    (r.enter kind).Grows (s.enter kind') :=
  ⟨h.flags, h.opened, h.names, h.numbered, .start hkind, .cons h.frame h.outer⟩

theorem enterCapture (h : r.Grows s) (name : Option (List Char)) :
    (r.enterCapture name).Grows (s.enterCapture name) := by
  unfold Reading.enterCapture
  rw [h.opened]
  refine ⟨h.flags, rfl, ?_, h.numbered, .start (.same nofun nofun), .cons h.frame h.outer⟩
  show _ ++ s.groups.names = _ ++ r.groups.names
  rw [h.names]

theorem checkReferences (h : r.Grows s) : s.checkReferences = r.checkReferences := by
  unfold Reading.checkReferences
  have hempty : s.frame.branches.isEmpty = r.frame.branches.isEmpty := by
    rw [Bool.eq_iff_iff, List.isEmpty_iff_length_eq_zero, List.isEmpty_iff_length_eq_zero,
      h.frame.branches.length_eq]
  rw [hempty, h.numbered, h.names]

/-- **A group is closed in the same way.** -/
theorem close {left : Nat} (h : r.Grows s) (hclose : r.close left = .ok (r', whole)) (left' : Nat) :
    ∃ s' whole', s.close left' = .ok (s', whole') ∧ r'.Grows s' ∧ Option.Rel Grown whole whole' := by
  obtain ⟨flags, groups, numbered, ⟨kind, branches, parts⟩, outer⟩ := r
  obtain ⟨flags', groups', numbered', ⟨kind', branches', parts'⟩, outer'⟩ := s
  have hbody := h.frame.body
  have hcheck := h.checkReferences
  obtain ⟨hflags, hopened, hnames, hnumbered, ⟨hkind, -, -⟩, houter⟩ := h
  cases houter with
  | nil => cases hclose
  | @cons _ frame' _ outer' hframe houter =>
    obtain ⟨_, hrefs, hclose⟩ := bind_eq_ok.1 hclose
    have hrefs' := hcheck.trans hrefs
    cases hkind with
    | branches i start start' =>
      have hclose : (if start = left && !asksForGroup (.groupSet i) then _ else _) = _ := hclose
      rw [if_neg (by simp [asksForGroup])] at hclose
      cases hclose
      refine ⟨⟨flags', groups', numbered', frame', outer'⟩, _, bind_eq_ok.2 ⟨(), hrefs', ?_⟩,
        ⟨hflags, hopened, hnames, hnumbered, hframe, houter⟩, .some (hbody.conditionalOf i)⟩
      show (if start' = left' && !asksForGroup (.groupSet i) then _ else _) = _
      rw [if_neg (by simp [asksForGroup])]
      rfl
    | same htest hbranches =>
      cases kind with
      | pattern => cases hclose
      | plain outside =>
        cases hclose
        exact ⟨_, _, bind_eq_ok.2 ⟨(), hrefs', rfl⟩, ⟨rfl, hopened, hnames, hnumbered, hframe, houter⟩,
          .some hbody⟩
      | capture i =>
        cases hclose
        exact ⟨_, _, bind_eq_ok.2 ⟨(), hrefs', rfl⟩, ⟨hflags, hopened, hnames, hnumbered, hframe, houter⟩,
          .some (hbody.group i)⟩
      | look side negative =>
        cases hclose
        exact ⟨_, _, bind_eq_ok.2 ⟨(), hrefs', rfl⟩, ⟨hflags, hopened, hnames, hnumbered, hframe, houter⟩,
          .some (hbody.look side negative)⟩
      | atomic =>
        cases hclose
        exact ⟨_, _, bind_eq_ok.2 ⟨(), hrefs', rfl⟩, ⟨hflags, hopened, hnames, hnumbered, hframe, houter⟩,
          .some hbody.atomic⟩
      | test => exact absurd rfl htest
      | branches test left => exact absurd rfl (hbranches test left)

/-- **At the end both can be finished, or neither.** -/
theorem finish_iff (h : r.Grows s) : s.finish = .ok s.frame.body ↔ r.finish = .ok r.frame.body := by
  have houter : s.outer = [] ↔ r.outer = [] := by
    rw [← List.length_eq_zero_iff, ← List.length_eq_zero_iff, h.outer.length_eq]
  rw [finish_eq_ok, finish_eq_ok, houter, h.checkReferences, h.frame.body.references, h.opened]
  simp only [true_and]

end Reading.Grows

/-! ### Quantifiers -/

/-- Repetitions are marked in the same way. -/
theorem markRepetition_rel {R : Expr → Expr → Prop} {repetition repetition' : Bool → Expr}
    (hplain : ∀ isLazy, R (repetition isLazy) (repetition' isLazy))
    (hatomic : ∀ isLazy, R (.atomic (repetition isLazy)) (.atomic (repetition' isLazy)))
    (h : markRepetition x repetition cs = .ok (e, rest)) :
    ∃ e', markRepetition x repetition' cs = .ok (e', rest) ∧ R e e' := by
  obtain ⟨ds, hs, h⟩ := bind_eq_ok.1 h
  split at h
  · cases h
    exact ⟨_, bind_eq_ok.2 ⟨_, hs, rfl⟩, hatomic true⟩
  · rename_i fs hplus
    cases h
    refine ⟨_, bind_eq_ok.2 ⟨_, hs, ?_⟩, hplain true⟩
    split
    · rename_i heq
      exact absurd (List.cons.inj heq).2 (hplus _)
    · rename_i heq
      rw [(List.cons.inj heq).2]
      rfl
    · rename_i heq
      cases (List.cons.inj heq).1
    · rename_i hask _
      exact absurd rfl (hask _)
  · cases h
    exact ⟨_, bind_eq_ok.2 ⟨_, hs, rfl⟩, hatomic false⟩
  · rename_i hask hlazy hplus
    cases h
    refine ⟨_, bind_eq_ok.2 ⟨_, hs, ?_⟩, hplain false⟩
    split
    · exact absurd rfl (hask _)
    · exact absurd rfl (hlazy _)
    · exact absurd rfl (hplus _)
    · rfl

/-- **What can be repeated instead of an expression is repeated in the same way.** -/
theorem quantify_rel {R : Expr → Expr → Prop} {a a' : Expr}
    (hrepeatable : a.isRepeatable = true → a'.isRepeatable = true) (hsame : R a a')
    (hrepeated : a.isRepeatable = true → ∀ least most greedy,
      R (.repeated a least most greedy) (.repeated a' least most greedy) ∧
        R (.atomic (.repeated a least most greedy)) (.atomic (.repeated a' least most greedy)))
    (h : quantify flags a cs = .ok (e, rest)) : ∃ e', quantify flags a' cs = .ok (e', rest) ∧ R e e' := by
  obtain ⟨ds, hs, h⟩ := bind_eq_ok.1 h
  cases hq : quantifier? flags.extended ds with
  | none =>
    rw [hq] at h
    cases h
    refine ⟨a', bind_eq_ok.2 ⟨ds, hs, ?_⟩, hsame⟩
    rw [hq]
    rfl
  | some q =>
    rw [hq] at h
    have h : (if a.isRepeatable = true then _ else _) = _ := h
    split at h
    · rename_i ha
      obtain ⟨e', he', hrel⟩ := markRepetition_rel
        (fun isLazy => (hrepeated ha q.1 q.2.1 (isLazy == flags.lazyFirst)).1)
        (fun isLazy => (hrepeated ha q.1 q.2.1 (isLazy == flags.lazyFirst)).2) h
      refine ⟨e', bind_eq_ok.2 ⟨ds, hs, ?_⟩, hrel⟩
      rw [hq]
      exact (if_pos (hrepeatable ha)).trans he'
    · cases h

/-- What has grown is repeated in the same way. -/
theorem quantify_grows {a a' : Expr} (ha : Grown a a') (h : quantify flags a cs = .ok (e, rest)) :
    ∃ e', quantify flags a' cs = .ok (e', rest) ∧ Grown e e' :=
  quantify_rel ha.isRepeatable ha
    (fun _ least most greedy => ⟨ha.repeated least most greedy, (ha.repeated least most greedy).atomic⟩) h

/-! ### What opens groups -/

/-- What is read of a group grows. -/
def GrowsTo (r' : Reading) (whole : Option Expr) (rest : List Char)
    (o : Except Fault (Reading × Option Expr × List Char)) : Prop :=
  ∃ s' whole', o = .ok (s', whole', rest) ∧ r'.Grows s' ∧ Option.Rel Grown whole whole'

theorem enterNamed_grows {close : Char} (hgrows : r.Grows s) (h : r.enterNamed close cs = .ok (r', whole, rest)) :
    GrowsTo r' whole (rest ++ w) (s.enterNamed close (cs ++ w)) := by
  unfold Reading.enterNamed at h
  cases hn : name? close cs with
  | none =>
    rw [hn] at h
    cases h
  | some p =>
    rw [hn] at h
    cases h
    refine ⟨_, none, ?_, hgrows.enterCapture (some p.1), .none⟩
    unfold Reading.enterNamed
    rw [name_before hn w]

/-- Another letter than those of flags is none. -/
theorem readFlags_P (start : List Char) (n : Nat) (on : Bool) (p : Flags × Bool × List Char) :
    readFlags start n flags on ('P' :: cs) ≠ .ok p := by
  cases n with
  | zero => exact fun h => by cases h
  | succ n =>
    intro h
    have hskip : skip flags.extended ('P' :: cs) = .ok ('P' :: cs) := by
      refine skip_eq_ok.2 ?_
      rw [skipFrom_cons _ _ (by decide)]
      cases flags.extended with
      | false => rfl
      | true => rfl
    unfold readFlags at h
    rw [hskip] at h
    cases h

theorem ne_cons_append {c d : Char} (h : c ≠ d) (es : List Char) : c :: cs ++ w = d :: es → False :=
  fun he => h (List.cons.inj he).1

theorem readMarkedGroup_grows (hgrows : r.Grows s) (htest : r'.frame.kind ≠ .test)
    (h : readMarkedGroup r cs = .ok (r', whole, rest)) :
    GrowsTo r' whole (rest ++ w) (readMarkedGroup s (cs ++ w)) := by
  fun_cases readMarkedGroup r cs with
  | case1 ds =>
    cases h
    exact ⟨_, none, rfl, hgrows.enter (.same (by simp) (by simp)), .none⟩
  | case2 ds =>
    cases h
    exact ⟨_, none, rfl, hgrows.enter (.same (by simp) (by simp)), .none⟩
  | case3 ds =>
    cases h
    exact ⟨_, none, rfl, hgrows.enter (.same (by simp) (by simp)), .none⟩
  | case4 ds =>
    cases h
    exact ⟨_, none, rfl, hgrows.enter (.same (by simp) (by simp)), .none⟩
  | case5 ds hequal hbang =>
    rw [readMarkedGroup.eq_5 r ds hequal hbang] at h
    cases ds with
    | nil => cases h
    | cons d ds =>
      rw [List.cons_append, readMarkedGroup.eq_5 _ (d :: ds ++ w)
        (ne_cons_append fun he => hequal ds (by rw [he])) (ne_cons_append fun he => hbang ds (by rw [he]))]
      exact enterNamed_grows hgrows h
  | case6 ds => exact enterNamed_grows hgrows h
  | case7 ds => exact enterNamed_grows hgrows h
  | case8 ds =>
    obtain ⟨⟨i, es⟩, hi, h⟩ := bind_eq_ok.1 h
    cases h
    have hi' := closed_groupReference _ _ _ _ _ _ hi w
    rw [← groupReference_congr hgrows.opened hgrows.names] at hi'
    refine ⟨s, _, bind_eq_ok.2 ⟨(i, rest ++ w), hi', rfl⟩, hgrows, .some ?_⟩
    rw [hgrows.flags]
    exact .sameAs _ _ _ _
  | case9 ds =>
    cases h
    exact ⟨_, none, rfl, hgrows.enter (.same (by simp) (by simp)), .none⟩
  | case10 ds =>
    obtain ⟨o, ho, h⟩ := bind_eq_ok.1 h
    cases o with
    | none =>
      cases h
      exact absurd rfl htest
    | some p =>
      cases h
      have ho' := conditionGroup_before ho w
      rw [← conditionGroup_congr hgrows.opened hgrows.names] at ho'
      exact ⟨_, none, bind_eq_ok.2 ⟨_, ho', rfl⟩, hgrows.enter (.branches _ _ _), .none⟩
  | case11 cs h1 h2 h3 h4 h5 h6 h7 h8 h9 h10 =>
    rw [readMarkedGroup.eq_11 r cs h1 h2 h3 h4 h5 h6 h7 h8 h9 h10] at h
    obtain ⟨⟨flags, opens, es⟩, hflags, h⟩ := bind_eq_ok.1 h
    have hdash : cs ≠ ['-'] := by
      rintro rfl
      exact readFlags_dash _ _ _ _ hflags
    cases cs with
    | nil => exact absurd hflags (readFlags_nil _ _ _ _ _)
    | cons c cs =>
      have hP : c ≠ 'P' := by
        rintro rfl
        exact readFlags_P _ _ _ _ hflags
      have hflags' := readFlags_before (w := w) (List.cons_ne_nil c cs) hdash _ hflags
        (Nat.succ_le_succ (List.sublist_append_left (c :: cs) w).length_le)
      have hfirst {d : Char} (hd : ∀ es, c :: cs = d :: es → False) : c ≠ d := fun he => hd cs (by rw [he])
      rw [readMarkedGroup.eq_11 _ (c :: cs ++ w) (ne_cons_append (hfirst h1)) (ne_cons_append (hfirst h2))
        (fun _ => ne_cons_append (hfirst h5) _) (fun _ => ne_cons_append (hfirst h5) _)
        (ne_cons_append (hfirst h5)) (ne_cons_append (hfirst h6)) (fun _ => ne_cons_append hP _)
        (fun _ => ne_cons_append hP _) (ne_cons_append (hfirst h9)) (ne_cons_append (hfirst h10)), hgrows.flags]
      cases opens with
      | false =>
        cases h
        exact ⟨_, _, bind_eq_ok.2 ⟨_, hflags', rfl⟩,
          ⟨rfl, hgrows.opened, hgrows.names, hgrows.numbered, hgrows.frame, hgrows.outer⟩, .some .rfl⟩
      | true =>
        cases h
        refine ⟨_, none, bind_eq_ok.2 ⟨_, hflags', rfl⟩, ?_, .none⟩
        exact ⟨rfl, hgrows.opened, hgrows.names, hgrows.numbered, .start (.same (by simp) (by simp)),
          .cons hgrows.frame hgrows.outer⟩

/-- **A group is opened in the same way.** If it is not marked then no mark must follow. -/
theorem readGroup_grows (hgrows : r.Grows s) (htest : r'.frame.kind ≠ .test)
    (h : readGroup limit r cs = .ok (r', whole, rest))
    (hcalm : whole = none → Calm r'.flags.extended (rest ++ w)) :
    GrowsTo r' whole (rest ++ w) (readGroup limit s (cs ++ w)) := by
  unfold readGroup at h ⊢
  rw [← hgrows.outer.length_eq, hgrows.flags]
  split at h
  · cases h
  · rename_i hlimit
    rw [if_neg hlimit]
    obtain ⟨ds, hs, h⟩ := bind_eq_ok.1 h
    split at h
    · rename_i es
      obtain ⟨s', whole', hs', hgrows', hwhole⟩ := readMarkedGroup_grows (w := w) hgrows htest h
      exact ⟨s', whole', bind_eq_ok.2 ⟨_, skip_append_cons hs nofun nofun, hs'⟩, hgrows', hwhole⟩
    · rename_i hask
      cases h
      obtain ⟨es, hes, hhead⟩ := hcalm rfl
      refine ⟨_, none, bind_eq_ok.2 ⟨es, hes, ?_⟩, hgrows.enterCapture none, .none⟩
      split
      · cases hhead '?' rfl
      · rfl

theorem readGroup_nil (h : readGroup limit r [] = .ok (r', whole, rest)) : whole = none ∧ rest = [] := by
  unfold readGroup at h
  split at h
  · cases h
  · cases h
    exact ⟨rfl, rfl⟩

theorem readGroup_ask {p : Reading × Option Expr × List Char} : readGroup limit r ['?'] ≠ .ok p := by
  intro h
  unfold readGroup at h
  split at h
  · cases h
  · obtain ⟨ds, hs, h⟩ := bind_eq_ok.1 h
    rw [skip_isQuantifier rfl] at hs
    cases hs
    obtain ⟨q, hq, -⟩ := bind_eq_ok.1 (show readMarkedGroup r [] = .ok p from h)
    exact readFlags_nil _ _ _ _ _ hq

/-! ### Parts -/

/-- **A part that is neither a parenthesis nor a bar is read in the same way**, unless it is a number or a
brace that goes on. -/
theorem readAtom_grows (hgrows : r.Grows s) (h : readAtom r cs = .ok (r', e, rest))
    (hnumber : ∀ ds, cs = '\\' :: ds → ds.all Char.isDigit = false)
    (hbrace : e.isWordBoundary = true → NoBrace rest w) :
    ∃ s' e', readAtom s (cs ++ w) = .ok (s', e', rest ++ w) ∧ r'.Grows s' ∧ Grown e e' := by
  fun_cases readAtom r cs with
  | case1 ds =>
    cases h
    refine ⟨s, _, rfl, hgrows, ?_⟩
    rw [hgrows.flags]
    exact .rfl
  | case2 ds =>
    cases h
    refine ⟨s, _, rfl, hgrows, ?_⟩
    rw [hgrows.flags]
    exact .rfl
  | case3 ds =>
    cases h
    refine ⟨s, _, rfl, hgrows, ?_⟩
    rw [hgrows.flags]
    exact .rfl
  | case4 ds => cases h
  | case5 ds => cases h
  | case6 ds => cases h
  | case7 ds =>
    obtain ⟨⟨tokens, es⟩, htokens, h⟩ := bind_eq_ok.1 h
    obtain ⟨set, hset, h⟩ := bind_eq_ok.1 h
    cases h
    have htokens' := closed_classTokens _ _ _ _ _ htokens w
    rw [← classTokens_congr hgrows.opened hgrows.names, ← hgrows.flags] at htokens'
    rw [← hgrows.flags] at hset
    exact ⟨s, _, bind_eq_ok.2 ⟨_, htokens', bind_eq_ok.2 ⟨set, hset, rfl⟩⟩, hgrows, .rfl⟩
  | case8 ds =>
    obtain ⟨⟨escaped, es⟩, hescape, h⟩ := bind_eq_ok.1 h
    have hes : es = rest := by
      cases escaped with
      | _ =>
        cases h
        rfl
    subst hes
    have hdigits : ∀ i, escaped = .reference i true → es ≠ [] := by
      rintro i rfl rfl
      have hall := all_isDigit_of_escape hescape
      rw [hnumber ds rfl] at hall
      cases hall
    have hescape' := escape_before (w := w) hescape (fun i hi hnil => absurd hnil (hdigits i hi))
      fun a _ ha hboundary => by
        subst ha
        cases h
        exact (hbrace hboundary).unbraced
    rw [← escape_congr hgrows.opened hgrows.names, ← hgrows.flags] at hescape'
    cases escaped with
    | char c fold =>
      cases h
      exact ⟨s, _, bind_eq_ok.2 ⟨_, hescape', rfl⟩, hgrows, .rfl⟩
    | set s' =>
      cases h
      exact ⟨s, _, bind_eq_ok.2 ⟨_, hescape', rfl⟩, hgrows, .rfl⟩
    | hexDigits negated =>
      cases h
      exact ⟨s, _, bind_eq_ok.2 ⟨_, hescape', rfl⟩, hgrows, .rfl⟩
    | reference i numbered =>
      cases h
      refine ⟨_, _, bind_eq_ok.2 ⟨_, hescape', rfl⟩, ?_, ?_⟩
      · refine ⟨hgrows.flags, hgrows.opened, hgrows.names, ?_, hgrows.frame, hgrows.outer⟩
        rw [hgrows.numbered]
      · rw [hgrows.flags]
        exact .sameAs _ _ _ _
    | other e =>
      cases h
      exact ⟨s, _, bind_eq_ok.2 ⟨_, hescape', rfl⟩, hgrows, .rfl⟩
  | case9 c ds h1 h2 h3 h4 h5 h6 h7 h8 =>
    rw [readAtom.eq_9 r c ds h1 h2 h3 h4 h5 h6 h7 h8] at h
    rw [List.cons_append, readAtom.eq_9 _ c (ds ++ w) h1 h2 h3 h4 h5 h6 h7 h8]
    cases h
    refine ⟨s, _, rfl, hgrows, ?_⟩
    rw [hgrows.flags]
    exact .rfl
  | case10 => cases h

/-- Read the next part of a pattern without the quantifier behind it: the reading that goes on, the expression
that was completed, if one was, and what is left. None at the end. -/
def readPart (limit : Nat) (r : Reading) (cs : List Char) :
    Except Fault (Option (Reading × Option Expr × List Char)) := do
  match ← skip r.flags.extended cs with
  | [] => return none
  | c :: rest =>
    if c = '|' then return some ({ r with frame := r.frame.bar }, none, rest)
    else if c = ')' then
      let (r, whole) ← r.close (rest.length + 1)
      return some (r, whole, rest)
    else if c = '(' then return some (← readGroup limit r rest)
    else
      let (r, e, rest) ← readAtom r (c :: rest)
      return some (r, some e, rest)

/-- What the next part of a pattern is. -/
inductive PartRead (limit : Nat) (r : Reading) : List Char → Reading × Option Expr × List Char → Prop
  | bar (rest : List Char) : PartRead limit r ('|' :: rest) ({ r with frame := r.frame.bar }, none, rest)
  | close {r' : Reading} {whole : Option Expr} {rest : List Char} (h : r.close (rest.length + 1) = .ok (r', whole)) :
    PartRead limit r (')' :: rest) (r', whole, rest)
  | group {ds : List Char} {o : Reading × Option Expr × List Char} (h : readGroup limit r ds = .ok o) :
    PartRead limit r ('(' :: ds) o
  | atom {c : Char} {ds rest : List Char} {r' : Reading} {e : Expr} (hbar : c ≠ '|') (hclose : c ≠ ')')
    (hopen : c ≠ '(') (h : readAtom r (c :: ds) = .ok (r', e, rest)) : PartRead limit r (c :: ds) (r', some e, rest)

theorem readPart_eq_ok {o : Reading × Option Expr × List Char} :
    readPart limit r cs = .ok (some o) ↔ ∃ ds, skip r.flags.extended cs = .ok ds ∧ PartRead limit r ds o := by
  constructor
  · intro h
    obtain ⟨ds, hs, h⟩ := bind_eq_ok.1 h
    refine ⟨ds, hs, ?_⟩
    cases ds with
    | nil => cases h
    | cons c ds =>
      by_cases hbar : c = '|'
      · subst hbar
        cases h
        exact .bar ds
      by_cases hclose : c = ')'
      · subst hclose
        obtain ⟨p, hp, h⟩ := bind_eq_ok.1 h
        cases h
        exact .close hp
      by_cases hopen : c = '('
      · subst hopen
        obtain ⟨p, hp, h⟩ := bind_eq_ok.1 h
        cases h
        exact .group hp
      dsimp only at h
      rw [if_neg hbar, if_neg hclose, if_neg hopen] at h
      obtain ⟨p, hp, h⟩ := bind_eq_ok.1 h
      cases h
      exact .atom hbar hclose hopen hp
  · rintro ⟨ds, hs, h⟩
    refine bind_eq_ok.2 ⟨ds, hs, ?_⟩
    cases h with
    | bar rest => rfl
    | close h => exact bind_eq_ok.2 ⟨_, h, rfl⟩
    | group h => exact bind_eq_ok.2 ⟨_, h, rfl⟩
    | atom hbar hclose hopen h =>
      dsimp only
      rw [if_neg hbar, if_neg hclose, if_neg hopen]
      exact bind_eq_ok.2 ⟨_, h, rfl⟩

/-- A part is read with the quantifier behind it. -/
theorem readNext_of_readPart (hpart : readPart limit r cs = .ok (some (s, whole, ds)))
    (hadd : s.add whole ds = .ok (r', rest)) : readNext limit r cs = .ok (some (r', rest)) := by
  obtain ⟨es, hs, hpart⟩ := readPart_eq_ok.1 hpart
  refine bind_eq_ok.2 ⟨es, hs, ?_⟩
  cases hpart with
  | bar =>
    cases hadd
    rfl
  | close h => exact bind_eq_ok.2 ⟨_, h, bind_eq_ok.2 ⟨_, hadd, rfl⟩⟩
  | group h => exact bind_eq_ok.2 ⟨_, h, bind_eq_ok.2 ⟨_, hadd, rfl⟩⟩
  | atom hbar hclose hopen h =>
    split
    · contradiction
    · exact absurd (List.cons.inj ‹_›).1 hbar
    · exact absurd (List.cons.inj ‹_›).1 hclose
    · exact absurd (List.cons.inj ‹_›).1 hopen
    · exact bind_eq_ok.2 ⟨_, h, bind_eq_ok.2 ⟨_, hadd, rfl⟩⟩

/-- What may follow a part does not go on with it: a mark behind a parenthesis, or a brace behind a boundary. -/
def EndsBefore (r : Reading) (whole : Option Expr) (rest w : List Char) : Prop :=
  match whole with
  | none => Calm r.flags.extended (rest ++ w)
  | some e => e.isWordBoundary = true → NoBrace rest w

/-- **The next part of a pattern is the same before any text that does not go on with it, and behind any texts
that were put in.** -/
theorem readPart_grows (hgrows : r.Grows s) (h : readPart limit r cs = .ok (some (r', whole, rest)))
    (htest : r'.frame.kind ≠ .test) (hends : EndsBefore r' whole rest w)
    (hnumber : ∀ ds, skip r.flags.extended cs = .ok ('\\' :: ds) → ds.all Char.isDigit = false) :
    ∃ s' whole', readPart limit s (cs ++ w) = .ok (some (s', whole', rest ++ w)) ∧ r'.Grows s' ∧
      Option.Rel Grown whole whole' := by
  obtain ⟨ds, hs, h⟩ := readPart_eq_ok.1 h
  rw [← hgrows.flags] at hs
  cases h with
  | bar =>
    refine ⟨_, none, readPart_eq_ok.2 ⟨_, skip_append_cons hs nofun nofun, .bar _⟩, ?_, .none⟩
    exact ⟨hgrows.flags, hgrows.opened, hgrows.names, hgrows.numbered, hgrows.frame.bar, hgrows.outer⟩
  | close h =>
    obtain ⟨s', whole', h', hgrows', hwhole⟩ := hgrows.close h ((rest ++ w).length + 1)
    exact ⟨s', whole', readPart_eq_ok.2 ⟨_, skip_append_cons hs nofun nofun, .close h'⟩, hgrows', hwhole⟩
  | @group ds _ h =>
    have hparen : '(' :: ds = ['('] → w.head? ≠ some '?' := by
      intro he
      rw [(List.cons.inj he).2] at h
      obtain ⟨rfl, rfl⟩ := readGroup_nil h
      exact Calm.head_ne hends rfl
    have hopen : '(' :: ds ≠ ['(', '?'] := by
      intro he
      rw [(List.cons.inj he).2] at h
      exact readGroup_ask h
    have hcalm : whole = none → Calm r'.flags.extended (rest ++ w) := by
      rintro rfl
      exact hends
    obtain ⟨s', whole', h', hgrows', hwhole⟩ := readGroup_grows hgrows htest h hcalm
    exact ⟨s', whole', readPart_eq_ok.2 ⟨_, skip_append_cons hs hparen hopen, .group h'⟩, hgrows', hwhole⟩
  | @atom c ds _ _ e hbar hclose hopen h =>
    have hdigits : ∀ es, c :: ds = '\\' :: es → es.all Char.isDigit = false := by
      intro es he
      rw [he, hgrows.flags] at hs
      exact hnumber es hs
    obtain ⟨s', e', h', hgrows', he⟩ := readAtom_grows (w := w) hgrows h hdigits hends
    have hskip : skip s.flags.extended (cs ++ w) = .ok (c :: ds ++ w) :=
      skip_append_cons hs (fun he => absurd (List.cons.inj he).1 hopen) fun he => hopen (List.cons.inj he).1
    exact ⟨s', some e', readPart_eq_ok.2 ⟨_, hskip, .atom hbar hclose hopen h'⟩, hgrows', .some he⟩

end Listfile.Regex
