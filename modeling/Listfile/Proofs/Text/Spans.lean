import Listfile.Text.Cursor
import Mathlib.Tactic.Common

/-!
# Spans and places of a text

* `takeBytes_eq_some_iff`, `slice?_eq_some_iff`: what stands before an offset, and what stands in a span.
* `Cursor.exists_between`: what stands between two places of a text.
* `Tiles`: spans that follow each other without a gap.
-/

namespace Listfile

/-! ### What stands in a span -/

theorem takeBytes_append (s t : List Char) : takeBytes (byteLength s) (s ++ t) = some s := by
  induction s with
  | nil => rw [byteLength_nil, takeBytes]
  | cons c s ih =>
    have hpos := c.utf8Size_pos
    obtain ⟨n, hn⟩ : ∃ n, byteLength (c :: s) = n + 1 :=
      ⟨byteLength (c :: s) - 1, by rw [byteLength_cons]; omega⟩
    have hrest : n + 1 - c.utf8Size = byteLength s := by
      rw [← hn, byteLength_cons]
      omega
    have hle : c.utf8Size ≤ n + 1 := by
      rw [← hn, byteLength_cons]
      omega
    rw [hn, List.cons_append, takeBytes, if_pos hle, hrest, ih]
    rfl

/-- What stands before an offset is what makes up so many bytes. -/
theorem takeBytes_eq_some_iff {n : Nat} {text s : List Char} :
    takeBytes n text = some s ↔ ∃ rest, text = s ++ rest ∧ byteLength s = n := by
  constructor
  · intro h
    induction text generalizing n s with
    | nil =>
      cases n with
      | zero =>
        cases h
        exact ⟨[], rfl, rfl⟩
      | succ n => cases h
    | cons c text ih =>
      cases n with
      | zero =>
        cases h
        exact ⟨c :: text, rfl, rfl⟩
      | succ n =>
        rw [takeBytes] at h
        split at h
        · rename_i hle
          obtain ⟨s', hs', rfl⟩ := Option.map_eq_some_iff.1 h
          obtain ⟨rest, rfl, hlength⟩ := ih hs'
          refine ⟨rest, rfl, ?_⟩
          rw [byteLength_cons, hlength]
          omega
        · cases h
  · rintro ⟨rest, rfl, rfl⟩
    exact takeBytes_append s rest

/-- What stands in a span, told by what stands before it and behind it. -/
theorem slice?_eq_some_iff {sp : Span} {text s : List Char} :
    sp.slice? text = some s ↔
      ∃ before behind, text = before ++ (s ++ behind) ∧ sp.start = byteLength before ∧
        sp.stop = byteLength before + byteLength s := by
  have hbind : sp.slice? text = (takeBytes sp.stop text).bind fun upTo =>
      (takeBytes sp.start upTo).bind fun before => some (upTo.drop before.length) := rfl
  rw [hbind]
  constructor
  · intro h
    obtain ⟨upTo, hupTo, hrest⟩ := Option.bind_eq_some_iff.1 h
    obtain ⟨before, hbefore, hdrop⟩ := Option.bind_eq_some_iff.1 hrest
    obtain ⟨behind, rfl, hstop⟩ := takeBytes_eq_some_iff.1 hupTo
    obtain ⟨s', rfl, hstart⟩ := takeBytes_eq_some_iff.1 hbefore
    rw [List.drop_left, Option.some.injEq] at hdrop
    subst hdrop
    exact ⟨before, behind, List.append_assoc _ _ _, hstart.symm, by rw [← hstop, byteLength_append]⟩
  · rintro ⟨before, behind, rfl, hstart, hstop⟩
    rw [← List.append_assoc, hstop, ← byteLength_append, takeBytes_append, Option.bind_some, hstart,
      takeBytes_append, Option.bind_some, List.drop_left]

/-- What stands in a span and in the one behind it stands in both together. -/
theorem slice?_append {a b c : Nat} {text s t : List Char}
    (hs : (Span.mk a b).slice? text = some s) (ht : (Span.mk b c).slice? text = some t) :
    (Span.mk a c).slice? text = some (s ++ t) := by
  obtain ⟨before, behind, htext, ha, hb⟩ := slice?_eq_some_iff.1 hs
  obtain ⟨before', behind', htext', hb', hc⟩ := slice?_eq_some_iff.1 ht
  have hb₁ : b = byteLength before + byteLength s := hb
  have hb₂ : b = byteLength before' := hb'
  have hupTo : before' = before ++ s := by
    have h₁ := takeBytes_append before' (t ++ behind')
    have h₂ := takeBytes_append (before ++ s) behind
    rw [← htext', ← hb₂] at h₁
    rw [List.append_assoc, ← htext, byteLength_append, ← hb₁, h₁] at h₂
    exact Option.some.inj h₂
  refine slice?_eq_some_iff.2 ⟨before, behind', ?_, ha, ?_⟩
  · rw [htext', hupTo]
    simp only [List.append_assoc]
  · rw [byteLength_append, ← Nat.add_assoc, ← hb₁, hb₂]
    exact hc

/-- Nothing stands between the end of a span and itself. -/
theorem slice?_empty {a b : Nat} {text s : List Char} (h : (Span.mk a b).slice? text = some s) :
    (Span.mk b b).slice? text = some [] := by
  obtain ⟨before, behind, rfl, -, hb⟩ := slice?_eq_some_iff.1 h
  refine slice?_eq_some_iff.2 ⟨before ++ s, behind, (List.append_assoc _ _ _).symm, ?_, ?_⟩
  · rw [byteLength_append]
    exact hb
  · rw [byteLength_append, byteLength_nil]
    exact hb

/-! ### Places of a text -/

namespace Cursor

variable {c d : Cursor}

theorem offset_le (c : Cursor) : c.offset ≤ byteLength c.text := by
  rw [text, byteLength_append, byteLength_reverse, c.offset_eq]
  exact Nat.le_add_right _ _

/-- What stands between two places of a text. -/
theorem exists_between (htext : d.text = c.text) (h : c.offset ≤ d.offset) :
    ∃ s, d.before.reverse = c.before.reverse ++ s ∧ c.after = s ++ d.after := by
  rw [c.offset_eq, d.offset_eq] at h
  rcases List.append_eq_append_iff.1 htext with ⟨s, hc, hd⟩ | ⟨s, hd, hc⟩
  · -- the place further on stands before the other one only if they are the same
    have hlength := congrArg byteLength hc
    rw [byteLength_reverse, byteLength_append, byteLength_reverse] at hlength
    have hs : s = [] := by
      by_contra hne
      have hpos := byteLength_pos hne
      omega
    subst hs
    exact ⟨[], by rw [hc, List.append_nil, List.append_nil], hd.symm⟩
  · exact ⟨s, hd, hc⟩

/-- The place further on has less behind it. -/
theorem left_lt (htext : d.text = c.text) (h : c.offset < d.offset) : d.left < c.left := by
  obtain ⟨s, hbefore, hafter⟩ := exists_between htext (Nat.le_of_lt h)
  have hlength := congrArg byteLength hbefore
  rw [byteLength_append, byteLength_reverse, byteLength_reverse, ← c.offset_eq, ← d.offset_eq] at hlength
  have hs : s ≠ [] := by
    rintro rfl
    rw [byteLength_nil] at hlength
    omega
  rw [c.left_eq, d.left_eq, hafter, List.length_append]
  have hpos := List.length_pos_iff.2 hs
  omega

/-- The place one character further. -/
theorem offset_next? {x : Char} (h : c.next? = some (x, d)) :
    d.offset = c.offset + x.utf8Size ∧ d.left + 1 = c.left := by
  obtain ⟨before, after, offset, left, hoffset, hleft⟩ := c
  cases after with
  | nil => cases h
  | cons y after =>
    cases h
    refine ⟨rfl, ?_⟩
    rw [List.length_cons] at hleft
    dsimp only
    omega

end Cursor

/-! ### Spans without gaps -/

/-- The spans follow each other from one offset to another, without a gap. -/
def Tiles : (start : Nat) → List Span → (stop : Nat) → Prop
  | start, [], stop => start = stop
  | start, s :: ss, stop => s.start = start ∧ s.start ≤ s.stop ∧ Tiles s.stop ss stop

theorem Tiles.le {start stop : Nat} {ss : List Span} (h : Tiles start ss stop) : start ≤ stop := by
  induction ss generalizing start with
  | nil => exact Nat.le_of_eq h
  | cons s ss ih =>
    obtain ⟨rfl, hs, hss⟩ := h
    exact Nat.le_trans hs (ih hss)

theorem tiles_append {start stop : Nat} {ss ts : List Span} :
    Tiles start (ss ++ ts) stop ↔ ∃ middle, Tiles start ss middle ∧ Tiles middle ts stop := by
  induction ss generalizing start with
  | nil =>
    constructor
    · exact fun h => ⟨start, rfl, h⟩
    · rintro ⟨middle, rfl, h⟩
      exact h
  | cons s ss ih =>
    constructor
    · rintro ⟨hstart, hle, h⟩
      obtain ⟨middle, hs, ht⟩ := ih.1 h
      exact ⟨middle, ⟨hstart, hle, hs⟩, ht⟩
    · rintro ⟨middle, ⟨hstart, hle, hs⟩, ht⟩
      exact ⟨hstart, hle, ih.2 ⟨middle, hs, ht⟩⟩

theorem tiles_concat {start : Nat} {ss : List Span} {s : Span} (h : Tiles start ss s.start)
    (hs : s.start ≤ s.stop) : Tiles start (ss ++ [s]) s.stop :=
  tiles_append.2 ⟨s.start, h, rfl, hs, rfl⟩

end Listfile
