import Listfile.Proofs.Regex.Ending

/-!
# The start of a match in a pattern

Only `\K` reports a match from another place on than where it began.  What is read from a text without it
contains nothing that moves the start of a match.

* `Expr.KeepsStart`, `Reading.KeepsStart`: an expression, and what has been read of a pattern.
* `Reading.KeepsStart.close`, `Reading.KeepsStart.readNext`: the parts of a pattern.
* **`keepsStart_of_parse`**: a pattern without `\K`.
-/

namespace Listfile.Regex

variable {e e' a b : Expr} {r r' : Reading} {whole : Option Expr} {cs rest : List Char}

/-! ### Expressions -/

/-- The expression does not move the start of the match: it keeps nothing out, and none of its groups is the
whole match. -/
def Expr.KeepsStart : Expr → Prop
  | .keepOut => False
  | .seq a b | .either a b => a.KeepsStart ∧ b.KeepsStart
  | .group i body => i ≠ 0 ∧ body.KeepsStart
  | .repeated body _ _ _ | .look _ _ body | .atomic body => body.KeepsStart
  | .conditional test yes no => test.KeepsStart ∧ yes.KeepsStart ∧ no.KeepsStart
  | _ => True

instance Expr.decidableKeepsStart : (e : Expr) → Decidable e.KeepsStart
  | .keepOut => isFalse id
  | .seq a b | .either a b =>
    have := decidableKeepsStart a
    have := decidableKeepsStart b
    inferInstanceAs (Decidable (a.KeepsStart ∧ b.KeepsStart))
  | .group i body =>
    have := decidableKeepsStart body
    inferInstanceAs (Decidable (i ≠ 0 ∧ body.KeepsStart))
  | .repeated body _ _ _ | .look _ _ body | .atomic body => decidableKeepsStart body
  | .conditional test yes no =>
    have := decidableKeepsStart test
    have := decidableKeepsStart yes
    have := decidableKeepsStart no
    inferInstanceAs (Decidable (test.KeepsStart ∧ yes.KeepsStart ∧ no.KeepsStart))
  | .empty | .never | .chars _ | .assertion _ | .sameAs .. | .searchStart | .groupSet _ => isTrue trivial

theorem keepsStart_foldr (link : Expr → Expr → Expr) (last : Expr)
    (hlink : ∀ a b, a.KeepsStart → b.KeepsStart → (link a b).KeepsStart) (hlast : last.KeepsStart)
    {es : List Expr} (hes : ∀ e ∈ es, e.KeepsStart) : (es.foldr link last).KeepsStart :=
  List.foldrRecOn es link hlast fun b hb a ha => hlink a b (hes a ha) hb

theorem keepsStart_ofParts {es : List Expr} (hes : ∀ e ∈ es, e.KeepsStart) :
    (Expr.ofParts es).KeepsStart := by
  match es, hes with
  | [], _ => exact trivial
  | [e], hes => exact hes e List.mem_cons_self
  | _ :: _ :: _, hes => exact keepsStart_foldr .seq .empty (fun _ _ ha hb => ⟨ha, hb⟩) trivial hes

theorem keepsStart_ofBranches {es : List Expr} (hes : ∀ e ∈ es, e.KeepsStart) :
    (Expr.ofBranches es).KeepsStart := by
  match es, hes with
  | [], _ => exact trivial
  | [e], hes => exact hes e List.mem_cons_self
  | _ :: _ :: _, hes => exact keepsStart_foldr .either .never (fun _ _ ha hb => ⟨ha, hb⟩) trivial hes

theorem keepsStart_testOf (h : e.KeepsStart) : (testOf e).KeepsStart := by
  unfold testOf
  split
  · trivial
  · exact h

theorem keepsStart_otherBranches (h : e.KeepsStart) : (otherBranches e).KeepsStart := by
  unfold otherBranches
  split
  · exact h.1
  · exact h

theorem keepsStart_conditionalOf (ha : a.KeepsStart) (hb : b.KeepsStart) :
    (conditionalOf a b).KeepsStart := by
  unfold conditionalOf
  split
  rename_i yes no hbody
  have hboth : yes.KeepsStart ∧ no.KeepsStart := by
    split at hbody
    · cases hbody
      exact ⟨hb.1, keepsStart_otherBranches hb.2⟩
    · cases hbody
      exact ⟨hb, trivial⟩
  split
  · exact ha
  · exact ⟨ha, hboth⟩

theorem keepsStart_quantify {flags : Flags} (h : e.KeepsStart)
    (hr : quantify flags e cs = .ok (e', rest)) : e'.KeepsStart := by
  obtain ⟨ds, -, hr⟩ := bind_eq_ok.1 hr
  split at hr
  · cases hr
    exact h
  · split at hr
    · obtain ⟨es, -, hr⟩ := bind_eq_ok.1 hr
      split at hr
      all_goals
        cases hr
        exact h
    · cases hr

/-- Of all escapes only `\K` moves the start of the match. -/
theorem keepsStart_of_exprEscape {c : Char} (hc : c ≠ 'K') (h : exprEscape? c = some e) : e.KeepsStart := by
  unfold exprEscape? at h
  split at h
  case h_8 => exact absurd rfl hc
  case h_11 => cases h
  case h_3 =>
    cases h
    exact ⟨trivial, trivial, trivial⟩
  all_goals
    cases h
    trivial

theorem keepsStart_of_atom (hK : ¬ ['\\', 'K'] <+: cs) (h : Atom r cs e) : e.KeepsStart := by
  cases h with
  | @escape c cs e h => exact keepsStart_of_exprEscape (fun hc => hK ⟨cs, by rw [hc]; rfl⟩) h
  | _ => trivial

/-! ### What has been read -/

/-- What a group becomes does not move the start of the match. -/
def GroupKind.KeepsStart : GroupKind → Prop
  | .capture i => i ≠ 0
  | .branches e _ => e.KeepsStart
  | _ => True

theorem keepsStart_of_isOpened {kind : GroupKind} (h : kind.IsOpened) : kind.KeepsStart := by
  cases kind with
  | branches e start =>
    obtain ⟨i, rfl⟩ := h
    trivial
  | capture i => exact h
  | _ => trivial

/-- No part of the group moves the start of the match. -/
structure Frame.KeepsStart (f : Frame) : Prop where
  kind : f.kind.KeepsStart
  branches : ∀ e ∈ f.branches, e.KeepsStart
  parts : ∀ e ∈ f.parts, e.KeepsStart

namespace Frame

variable {f : Frame}

theorem keepsStart_start {kind : GroupKind} (h : kind.KeepsStart) : (start kind).KeepsStart :=
  ⟨h, List.forall_mem_nil _, List.forall_mem_nil _⟩

theorem KeepsStart.push (h : f.KeepsStart) (he : e.KeepsStart) : (f.push e).KeepsStart := by
  unfold Frame.push
  split
  · exact h
  · exact ⟨h.kind, h.branches, List.forall_mem_cons.2 ⟨he, h.parts⟩⟩

theorem KeepsStart.bar (h : f.KeepsStart) : f.bar.KeepsStart := by
  refine ⟨h.kind, List.forall_mem_cons.2 ⟨keepsStart_ofParts fun e he => ?_, h.branches⟩,
    List.forall_mem_nil _⟩
  exact h.parts e (List.mem_reverse.1 he)

theorem KeepsStart.body (h : f.KeepsStart) : f.body.KeepsStart :=
  keepsStart_ofBranches fun e he => h.bar.branches e (List.mem_reverse.1 he)

end Frame

/-- Nothing that has been read moves the start of the match. -/
structure Reading.KeepsStart (r : Reading) : Prop where
  frame : r.frame.KeepsStart
  outer : ∀ f ∈ r.outer, f.KeepsStart

namespace Reading.KeepsStart

theorem start : Reading.start.KeepsStart :=
  ⟨Frame.keepsStart_start trivial, List.forall_mem_nil _⟩

theorem push (h : r.KeepsStart) (he : e.KeepsStart) : (r.push e).KeepsStart := ⟨h.frame.push he, h.outer⟩

theorem add (h : r.KeepsStart) (hwhole : ∀ e ∈ whole, e.KeepsStart)
    (hr : r.add whole cs = .ok (r', rest)) : r'.KeepsStart := by
  cases whole with
  | none =>
    cases hr
    exact h
  | some e =>
    obtain ⟨⟨e', ds⟩, hquantify, hr⟩ := bind_eq_ok.1 hr
    cases hr
    exact h.push (keepsStart_quantify (hwhole e rfl) hquantify)

theorem close {left : Nat} (h : r.KeepsStart) (hr : r.close left = .ok (r', whole)) :
    r'.KeepsStart ∧ ∀ e ∈ whole, e.KeepsStart := by
  obtain ⟨flags, groups, numbered, frame, outer⟩ := r
  cases outer with
  | nil => cases hr
  | cons next outer =>
    obtain ⟨hnext, houter⟩ := List.forall_mem_cons.1 h.outer
    have hbody : frame.body.KeepsStart := h.frame.body
    have hkind : frame.kind.KeepsStart := h.frame.kind
    obtain ⟨kind, branches, parts⟩ := frame
    obtain ⟨_, -, hr⟩ := bind_eq_ok.1 hr
    cases kind with
    | pattern => cases hr
    | plain outside =>
      cases hr
      refine ⟨⟨hnext, houter⟩, ?_⟩
      rintro _ ⟨⟩
      exact hbody
    | capture i =>
      cases hr
      refine ⟨⟨hnext, houter⟩, ?_⟩
      rintro _ ⟨⟩
      exact ⟨hkind, hbody⟩
    | look side negative =>
      cases hr
      refine ⟨⟨hnext, houter⟩, ?_⟩
      rintro _ ⟨⟩
      exact hbody
    | atomic =>
      cases hr
      refine ⟨⟨hnext, houter⟩, ?_⟩
      rintro _ ⟨⟩
      exact hbody
    | test =>
      cases hr
      refine ⟨⟨Frame.keepsStart_start (keepsStart_testOf hbody),
        List.forall_mem_cons.2 ⟨hnext, houter⟩⟩, ?_⟩
      rintro _ ⟨⟩
    | branches test start =>
      have hr : (if start = left && !asksForGroup test then _ else _) = _ := hr
      split at hr
      · cases hr
      · cases hr
        refine ⟨⟨hnext, houter⟩, ?_⟩
        rintro _ ⟨⟩
        exact keepsStart_conditionalOf hkind hbody

theorem opening (h : r.KeepsStart) (hopening : Opening r r' whole) :
    r'.KeepsStart ∧ ∀ e ∈ whole, e.KeepsStart := by
  cases hopening with
  | opened hkind hframe houter =>
    refine ⟨⟨?_, ?_⟩, nofun⟩
    · rw [hframe]
      exact Frame.keepsStart_start (keepsStart_of_isOpened hkind)
    · rw [houter]
      exact List.forall_mem_cons.2 ⟨h.frame, h.outer⟩
  | whole he hframe houter =>
    refine ⟨⟨hframe ▸ h.frame, houter ▸ h.outer⟩, ?_⟩
    rintro _ ⟨⟩
    rcases he with rfl | ⟨i, fold, rfl⟩
    · trivial
    · trivial

theorem readNext {limit : Nat} (h : r.KeepsStart) (hK : ¬ ['\\', 'K'] <:+: cs)
    (hr : readNext limit r cs = .ok (some (r', rest))) : r'.KeepsStart := by
  obtain ⟨ds, hs, hnext⟩ := readNext_cases hr
  cases hnext with
  | bar hr =>
    rw [hr]
    exact ⟨h.frame.bar, h.outer⟩
  | close hclose hadd =>
    obtain ⟨hinner, hwhole⟩ := h.close hclose
    exact hinner.add hwhole hadd
  | group hgroup hadd =>
    obtain ⟨hinner, hwhole⟩ := h.opening (readGroup_cases hgroup).2
    exact hinner.add hwhole hadd
  | @atom _ _ inner e hatom hadd =>
    have hfront : ¬ ['\\', 'K'] <+: ds := fun hstarts => hK (hstarts.isInfix.trans (suffix_skip hs).isInfix)
    obtain ⟨-, hframe, houter, hatom⟩ := readAtom_cases hatom
    have hinner : inner.KeepsStart := ⟨hframe ▸ h.frame, houter ▸ h.outer⟩
    refine hinner.add ?_ hadd
    rintro _ ⟨⟩
    exact keepsStart_of_atom hfront hatom

/-- Reading a text without `\K` moves no start. -/
theorem readAll {limit : Nat} (n : Nat) :
    ∀ {r r' : Reading} {cs rest : List Char}, r.KeepsStart → ¬ ['\\', 'K'] <:+: cs →
      readAll limit n r cs = .ok (r', rest) → r'.KeepsStart := by
  induction n with
  | zero =>
    intro r r' cs rest _ _ hr
    cases hr
  | succ n ih =>
    intro r r' cs rest h hK hr
    obtain ⟨o, ho, hr⟩ := bind_eq_ok.1 hr
    cases o with
    | none =>
      cases hr
      exact h
    | some p =>
      exact ih (h.readNext hK ho) (fun hp => hK (hp.trans (suffix_readNext ho).isInfix)) hr

end Reading.KeepsStart

/-- **A pattern without `\K` does not move the start of a match.** -/
theorem keepsStart_of_parse (hK : ¬ ['\\', 'K'] <:+: cs) (h : parse cs = .ok e) : e.KeepsStart := by
  obtain ⟨⟨r, rest⟩, hread, hfinish⟩ := bind_eq_ok.1 h
  obtain ⟨-, -, rfl, -⟩ := Reading.finish_eq_ok.1 hfinish
  exact (Reading.KeepsStart.start.readAll _ hK hread).frame.body

end Listfile.Regex
