import Listfile.Highlight.Step
import Mathlib.Tactic.Common

/-!
# Pieces of a match

A match is cut where its captures begin and end.

* `pairwise_foldr_insertCut`, `pairwise_between`: the cuts are in order, and so are the pieces.
* `CutAt`: where a match may be cut.
* **`exists_of_mem_segments`**, **`pairwise_segments`**: the tokens of a match cover some of its text, one
  behind the other.
-/

namespace Listfile.Highlight

open Grammar

/-! ### Cuts -/

theorem mem_insertCut {m n : Nat} {cuts : List Nat} : m ∈ insertCut n cuts ↔ m = n ∨ m ∈ cuts := by
  induction cuts with
  | nil => exact List.mem_cons
  | cons k cuts ih =>
    rw [insertCut]
    split
    · exact List.mem_cons
    split
    · rename_i hnk
      rw [hnk, List.mem_cons, or_self_left]
    · rw [List.mem_cons, ih, List.mem_cons, or_left_comm]

theorem pairwise_insertCut {cuts : List Nat} (h : cuts.Pairwise (· < ·)) (n : Nat) :
    (insertCut n cuts).Pairwise (· < ·) := by
  induction cuts with
  | nil => exact List.pairwise_singleton _ n
  | cons k cuts ih =>
    obtain ⟨hk, hcuts⟩ := List.pairwise_cons.1 h
    rw [insertCut]
    split
    · rename_i hlt
      refine List.pairwise_cons.2 ⟨?_, h⟩
      exact List.forall_mem_cons.2 ⟨hlt, fun m hm => Nat.lt_trans hlt (hk m hm)⟩
    split
    · exact h
    · refine List.pairwise_cons.2 ⟨?_, ih hcuts⟩
      intro m hm
      rcases mem_insertCut.1 hm with rfl | hm
      · omega
      · exact hk m hm

theorem mem_foldr_insertCut {m : Nat} {bounds : List Nat} : m ∈ bounds.foldr insertCut [] ↔ m ∈ bounds := by
  induction bounds with
  | nil => exact Iff.rfl
  | cons n bounds ih => rw [List.foldr_cons, mem_insertCut, ih, List.mem_cons]

/-- Cuts are in order, each once. -/
theorem pairwise_foldr_insertCut (bounds : List Nat) : (bounds.foldr insertCut []).Pairwise (· < ·) := by
  induction bounds with
  | nil => exact List.Pairwise.nil
  | cons n bounds ih => exact pairwise_insertCut ih n

/-! ### Pieces -/

/-- A piece lies between two cuts. -/
theorem mem_between {cuts : List Nat} {piece : Span} (hcuts : cuts.Pairwise (· < ·))
    (h : piece ∈ between cuts) : piece.start ∈ cuts ∧ piece.stop ∈ cuts ∧ piece.start < piece.stop := by
  fun_induction between cuts with
  | case1 a b cuts ih =>
    obtain ⟨ha, hrest⟩ := List.pairwise_cons.1 hcuts
    rcases List.mem_cons.1 h with rfl | h
    · exact ⟨List.mem_cons_self, List.mem_cons_of_mem _ List.mem_cons_self, ha b List.mem_cons_self⟩
    · obtain ⟨hstart, hstop, hlt⟩ := ih hrest h
      exact ⟨List.mem_cons_of_mem _ hstart, List.mem_cons_of_mem _ hstop, hlt⟩
  | case2 => cases h

/-- Pieces follow each other. -/
theorem pairwise_between {cuts : List Nat} (hcuts : cuts.Pairwise (· < ·)) :
    (between cuts).Pairwise fun a b => a.stop ≤ b.start := by
  fun_induction between cuts with
  | case1 a b cuts ih =>
    have hrest := (List.pairwise_cons.1 hcuts).2
    refine List.pairwise_cons.2 ⟨?_, ih hrest⟩
    intro piece hpiece
    rcases List.mem_cons.1 (mem_between hrest hpiece).1 with hstart | hstart
    · exact Nat.le_of_eq hstart.symm
    · exact Nat.le_of_lt ((List.pairwise_cons.1 hrest).1 _ hstart)
  | case2 => exact List.Pairwise.nil

/-- No cut lies within a piece. -/
theorem le_or_le_of_mem_between {cuts : List Nat} {piece : Span} {n : Nat} (hcuts : cuts.Pairwise (· < ·))
    (h : piece ∈ between cuts) (hn : n ∈ cuts) : n ≤ piece.start ∨ piece.stop ≤ n := by
  fun_induction between cuts with
  | case1 a b cuts ih =>
    obtain ⟨ha, hrest⟩ := List.pairwise_cons.1 hcuts
    rcases List.mem_cons.1 h with rfl | h
    · rcases List.mem_cons.1 hn with rfl | hn
      · exact .inl (Nat.le_refl _)
      · rcases List.mem_cons.1 hn with rfl | hn
        · exact .inr (Nat.le_refl _)
        · exact .inr (Nat.le_of_lt ((List.pairwise_cons.1 hrest).1 n hn))
    · have hstart := (mem_between hrest h).1
      rcases List.mem_cons.1 hn with rfl | hn
      · exact .inl (Nat.le_of_lt (ha _ hstart))
      · exact ih hrest h hn
  | case2 => cases h

/-- What lies between two cuts lies in a piece. -/
theorem exists_mem_between {cuts : List Nat} {first last n : Nat} (hcuts : cuts.Pairwise (· < ·))
    (hfirst : first ∈ cuts) (hlast : last ∈ cuts) (hn : first ≤ n) (hlt : n < last) :
    ∃ piece ∈ between cuts, piece.start ≤ n ∧ n < piece.stop := by
  fun_induction between cuts generalizing first with
  | case1 a b cuts ih =>
    obtain ⟨ha, hrest⟩ := List.pairwise_cons.1 hcuts
    have hge : a ≤ n := by
      rcases List.mem_cons.1 hfirst with rfl | hfirst
      · exact hn
      · exact Nat.le_trans (Nat.le_of_lt (ha _ hfirst)) hn
    by_cases hb : n < b
    · exact ⟨⟨a, b⟩, List.mem_cons_self, hge, hb⟩
    · have hlast' : last ∈ b :: cuts := by
        rcases List.mem_cons.1 hlast with rfl | hlast
        · omega
        · exact hlast
      obtain ⟨piece, hpiece, hin⟩ := ih hrest List.mem_cons_self hlast' (Nat.le_of_not_lt hb)
      exact ⟨piece, List.mem_cons_of_mem _ hpiece, hin⟩
  | case2 cuts hcuts' =>
    -- a single cut leaves no room
    match cuts, hcuts' with
    | [], _ => cases hfirst
    | [a], _ =>
      rw [List.mem_singleton] at hfirst hlast
      omega
    | a :: b :: cuts, h => exact absurd rfl (h a b cuts)

/-! ### Tokens of a match -/

section
variable {base : Nat} {front : List Scope} {rule : Rule} {whole : Span} {captures : List (Option Span)}

/-- The offset is one at which the match, or one of its captures, begins or ends. -/
def CutAt (whole : Span) (captures : List (Option Span)) (n : Nat) : Prop :=
  ∃ span, (span = whole ∨ some span ∈ captures) ∧ (n = span.start ∨ n = span.stop)

/-- The captures by which a match is cut are those that are listed, lie within it and hold some text. -/
theorem mem_scopedCaptures {c : Span × List Scope} : c ∈ scopedCaptures rule whole captures ↔
    ∃ i, (i, c.2) ∈ rule.captures ∧ captures[i]? = some (some c.1) ∧ whole.start ≤ c.1.start ∧
      c.1.stop ≤ whole.stop ∧ c.1.start < c.1.stop := by
  rw [scopedCaptures, List.mem_filterMap]
  constructor
  · rintro ⟨⟨i, scopes⟩, hlisted, hc⟩
    split at hc
    · rename_i span hspan
      split at hc
      · rename_i hcovers
        cases hc
        rw [Bool.and_eq_true, covers, Bool.and_eq_true, decide_eq_true_eq, decide_eq_true_eq,
          decide_eq_true_eq] at hcovers
        exact ⟨i, hlisted, Option.join_eq_some_iff.1 hspan, hcovers.1.1, hcovers.1.2, hcovers.2⟩
      · cases hc
    · cases hc
  · rintro ⟨i, hlisted, hspan, hstart, hstop, hlt⟩
    refine ⟨(i, c.2), hlisted, ?_⟩
    have hcovers : (covers whole c.1 && c.1.start < c.1.stop) = true := by
      rw [covers, decide_eq_true hstart, decide_eq_true hstop, decide_eq_true hlt]
      rfl
    rw [Option.join_eq_some_iff.2 hspan]
    exact if_pos hcovers

/-- Where a match is cut, in order. -/
def cutsOf (rule : Rule) (whole : Span) (captures : List (Option Span)) : List Nat :=
  (whole.start :: whole.stop ::
    (scopedCaptures rule whole captures).flatMap fun c => [c.1.start, c.1.stop]).foldr insertCut []

theorem pairwise_cutsOf (rule : Rule) (whole : Span) (captures : List (Option Span)) :
    (cutsOf rule whole captures).Pairwise (· < ·) := pairwise_foldr_insertCut _

/-- A match is cut within its bounds. -/
theorem cutAt_of_mem_cutsOf (hwhole : whole.start ≤ whole.stop) {n : Nat}
    (h : n ∈ cutsOf rule whole captures) : whole.start ≤ n ∧ n ≤ whole.stop ∧ CutAt whole captures n := by
  rcases List.mem_cons.1 (mem_foldr_insertCut.1 h) with rfl | h
  · exact ⟨Nat.le_refl _, hwhole, whole, .inl rfl, .inl rfl⟩
  rcases List.mem_cons.1 h with rfl | h
  · exact ⟨hwhole, Nat.le_refl _, whole, .inl rfl, .inr rfl⟩
  obtain ⟨c, hc, hn⟩ := List.mem_flatMap.1 h
  obtain ⟨i, -, hspan, hstart, hstop, hlt⟩ := mem_scopedCaptures.1 hc
  have hcapture := List.mem_of_getElem? hspan
  rcases List.mem_cons.1 hn with rfl | hn
  · exact ⟨hstart, by omega, c.1, .inr hcapture, .inl rfl⟩
  · rw [List.mem_singleton.1 hn]
    exact ⟨by omega, hstop, c.1, .inr hcapture, .inr rfl⟩

/-- **A token of a match covers a piece of it.**  It has the scopes in front and at least two scopes. -/
theorem exists_of_mem_segments (hwhole : whole.start ≤ whole.stop) {t : Token}
    (h : t ∈ segments base front rule whole captures) :
    ∃ (piece : Span) (more : List Scope),
      t = ⟨⟨base + piece.start, base + piece.stop⟩, front ++ more⟩ ∧ 1 < (front ++ more).length ∧
        piece.start < piece.stop ∧ whole.start ≤ piece.start ∧ piece.stop ≤ whole.stop ∧
        CutAt whole captures piece.start ∧ CutAt whole captures piece.stop := by
  obtain ⟨piece, hpiece, ht⟩ := List.mem_filterMap.1 h
  obtain ⟨hstart, hstop, hlt⟩ := mem_between (pairwise_cutsOf rule whole captures) hpiece
  obtain ⟨hfirst, -, hcutFirst⟩ := cutAt_of_mem_cutsOf hwhole hstart
  obtain ⟨-, hlast, hcutLast⟩ := cutAt_of_mem_cutsOf hwhole hstop
  dsimp only at ht
  split at ht
  · rename_i hlength
    cases ht
    rw [List.append_assoc] at hlength
    exact ⟨piece, _, by rw [List.append_assoc], hlength, hlt, hfirst, hlast, hcutFirst, hcutLast⟩
  · cases ht

/-- **The tokens of a match follow each other.** -/
theorem pairwise_segments (base : Nat) (front : List Scope) (rule : Rule) (whole : Span)
    (captures : List (Option Span)) :
    (segments base front rule whole captures).Pairwise fun s t => s.span.stop ≤ t.span.start := by
  refine List.Pairwise.filterMap _ ?_ (pairwise_between (pairwise_cutsOf rule whole captures))
  intro a b hab s hs t ht
  dsimp only at hs ht
  split at hs
  · split at ht
    · cases hs
      cases ht
      exact Nat.add_le_add_left hab base
    · cases ht
  · cases hs

end

/-! ### Scopes in front -/

/-- The scope of the grammar comes first. -/
theorem exists_frontScopes (g : Grammar) (stack : Stack) (action : Action) :
    ∃ more, frontScopes g stack action = g.scope :: more := by
  cases action with
  | stay => exact ⟨_, rfl⟩
  | push targets => exact ⟨_, rfl⟩
  | set targets => exact ⟨_, rfl⟩
  | pop =>
    unfold frontScopes
    dsimp only
    split <;> exact ⟨_, rfl⟩

end Listfile.Highlight
