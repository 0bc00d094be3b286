import Listfile.Proofs.Text.Ahead
import Listfile.Proofs.Text.Spans
import Listfile.Text.Position
import Mathlib.Data.List.Induction

/-!
# Positions and offsets

A position is counted from the text before an offset.  One character more moves it on, to the next column or to
the next line, so positions follow each other as offsets do; and the lines of the whole text lead from a position
back to its offset.

* `IsBoundary`: the offsets between two characters, and the two ends of the text.
* `Position.Before`: the order of lines and columns.
* `after_concat`, `before_after_append`: what one character, and what some text, changes.
* `lineStart`, `lineAt`, `Position.toOffset`: from a position to an offset.
* `exists_lastLine`: the last line of the text before an offset, and the lines that are complete.
* **`ofOffset_order_and_offset`**: positions are in the order of offsets, and tell them.
-/

namespace Listfile

variable {text s t rest : List Char} {a b n : Nat}

/-! ### Boundaries -/

/-- The offset does not lie within a character, nor behind the text. -/
def IsBoundary (text : List Char) (n : Nat) : Prop := ∃ s rest, text = s ++ rest ∧ byteLength s = n

theorem exists_append_of_byteLength_lt {rest' : List Char} (h : s ++ rest = t ++ rest')
    (hlt : byteLength s < byteLength t) : ∃ more, more ≠ [] ∧ t = s ++ more := by
  rcases List.append_eq_append_iff.1 h with ⟨more, rfl, -⟩ | ⟨more, rfl, -⟩
  · refine ⟨more, ?_, rfl⟩
    rintro rfl
    rw [List.append_nil] at hlt
    exact Nat.lt_irrefl _ hlt
  · rw [byteLength_append] at hlt
    omega

/-! ### Lines, counted from one -/

/-- A line with its end; nothing where there is no line. -/
def lineAt (text : List Char) (line : Nat) : List Char := (splitLines text)[line - 1]?.getD []

/-- The offset at which a line begins: that behind all lines before it. -/
def lineStart (text : List Char) (line : Nat) : Nat := byteLength ((splitLines text).take (line - 1)).flatten

/-- What was read of a line stands at its front. -/
theorem isPrefix_splitLinesFrom (begun text : List Char) :
    begun.reverse <+: (splitLinesFrom begun text)[0]?.getD [] := by
  induction text generalizing begun with
  | nil =>
    cases begun with
    | nil => exact List.prefix_rfl
    | cons c begun => exact List.prefix_rfl
  | cons c text ih =>
    have hmore : begun.reverse <+: (c :: begun).reverse := by
      rw [List.reverse_cons]
      exact List.prefix_append _ _
    rw [splitLinesFrom]
    split
    · exact hmore
    · exact hmore.trans (ih (c :: begun))

namespace Position

/-- The first position stands before the second: on an earlier line, or further to the left on the same line. -/
def Before (p q : Position) : Prop := p.line < q.line ∨ p.line = q.line ∧ p.column < q.column

theorem Before.trans {p q r : Position} (hpq : p.Before q) (hqr : q.Before r) : p.Before r := by
  unfold Before at *
  omega

theorem not_before_self (p : Position) : ¬p.Before p := by
  unfold Before
  omega

/-- The offset that a position stands for: the start of its line, and the characters before its column. -/
def toOffset (text : List Char) (p : Position) : Nat :=
  lineStart text p.line + byteLength ((lineAt text p.line).take (p.column - 1))

/-! ### Moving on -/

/-- A line feed leads to the next line, any other character to the next column. -/
theorem after_concat (s : List Char) (c : Char) :
    after (s ++ [c]) = if c = '\n' then ⟨(after s).line + 1, 1⟩ else ⟨(after s).line, (after s).column + 1⟩ := by
  rw [after, List.count_append, List.reverse_concat]
  split
  · rename_i hc
    simp [hc, after]
  · rename_i hc
    simp [hc, after]

theorem before_after_concat (s : List Char) (c : Char) : (after s).Before (after (s ++ [c])) := by
  rw [after_concat]
  split
  · exact .inl (Nat.lt_succ_self _)
  · exact .inr ⟨rfl, Nat.lt_succ_self _⟩

/-- More text moves a position on. -/
theorem before_after_append (s : List Char) (h : t ≠ []) : (after s).Before (after (s ++ t)) := by
  induction t using List.reverseRecOn with
  | nil => exact absurd rfl h
  | append_singleton t c ih =>
    rw [← List.append_assoc]
    by_cases ht : t = []
    · rw [ht, List.append_nil]
      exact before_after_concat s c
    · exact (ih ht).trans (before_after_concat (s ++ t) c)

theorem ofOffset_append (s rest : List Char) : ofOffset (s ++ rest) (byteLength s) = after s := by
  rw [ofOffset, takeBytes_append, Option.getD_some]

theorem before_ofOffset (ha : IsBoundary text a) (hb : IsBoundary text b) (hlt : a < b) :
    (ofOffset text a).Before (ofOffset text b) := by
  obtain ⟨s, rest, rfl, rfl⟩ := ha
  obtain ⟨t, rest', htext, rfl⟩ := hb
  obtain ⟨more, hmore, rfl⟩ := exists_append_of_byteLength_lt htext hlt
  rw [ofOffset_append, htext, ofOffset_append]
  exact before_after_append s hmore

theorem before_ofOffset_iff (ha : IsBoundary text a) (hb : IsBoundary text b) :
    (ofOffset text a).Before (ofOffset text b) ↔ a < b := by
  refine ⟨fun hbefore => ?_, before_ofOffset ha hb⟩
  rcases Nat.lt_trichotomy a b with hlt | rfl | hgt
  · exact hlt
  · exact absurd hbefore (not_before_self _)
  · exact absurd (hbefore.trans (before_ofOffset hb ha hgt)) (not_before_self _)

/-- From the end of the text on, all offsets stand for the end. -/
theorem ofOffset_of_le (h : byteLength text ≤ n) : ofOffset text n = after text := by
  rw [ofOffset]
  cases hbefore : takeBytes n text with
  | none => rfl
  | some s =>
    obtain ⟨rest, rfl, rfl⟩ := takeBytes_eq_some_iff.1 hbefore
    rw [byteLength_append] at h
    have hrest : rest = [] := by
      by_contra hne
      have hpos := byteLength_pos hne
      omega
    rw [hrest, List.append_nil, Option.getD_some]

/-! ### Back to offsets -/

/-- The text before an offset is cut into complete lines, as many as its position counts before its own, and the
characters before its column. -/
theorem exists_lastLine (s : List Char) :
    ∃ front last, s = front ++ last ∧ (front = [] ∨ front.getLast? = some '\n') ∧ '\n' ∉ last ∧
      after s = ⟨(splitLines front).length + 1, last.length + 1⟩ := by
  induction s using List.reverseRecOn with
  | nil => exact ⟨[], [], rfl, .inl rfl, List.not_mem_nil, rfl⟩
  | append_singleton s c ih =>
    obtain ⟨front, last, rfl, hfront, hlast, hafter⟩ := ih
    rw [after_concat, hafter]
    by_cases hc : c = '\n'
    · -- the line that was the last is complete now
      subst hc
      refine ⟨front ++ (last ++ ['\n']), [], by simp, .inr (by simp), List.not_mem_nil, ?_⟩
      rw [if_pos rfl, splitLines_append hfront, splitLines_concat hlast]
      simp
    · refine ⟨front, last ++ [c], by simp, hfront, ?_, ?_⟩
      · simpa [hlast] using Ne.symm hc
      · rw [if_neg hc]
        simp

/-- The lines of a text lead from a position back to the text before it. -/
theorem toOffset_after (s rest : List Char) :
    (after s).column - 1 ≤ (lineAt (s ++ rest) (after s).line).length ∧
      toOffset (s ++ rest) (after s) = byteLength s := by
  obtain ⟨front, last, rfl, hfront, hlast, hafter⟩ := exists_lastLine s
  have hlines : splitLines (front ++ last ++ rest) = splitLines front ++ splitLines (last ++ rest) := by
    rw [List.append_assoc, splitLines_append hfront]
  have hline : last <+: lineAt (front ++ last ++ rest) ((splitLines front).length + 1) := by
    have hbegun := isPrefix_splitLinesFrom last.reverse rest
    rw [List.reverse_reverse] at hbegun
    rw [lineAt, hlines, Nat.add_sub_cancel, List.getElem?_append_right (Nat.le_refl _), Nat.sub_self, splitLines,
      splitLinesFrom_of_notMem [] hlast, List.append_nil]
    exact hbegun
  have hstart : lineStart (front ++ last ++ rest) ((splitLines front).length + 1) = byteLength front := by
    rw [lineStart, hlines, Nat.add_sub_cancel, List.take_left, flatten_splitLines]
  rw [hafter]
  refine ⟨hline.length_le, ?_⟩
  rw [toOffset, hstart, Nat.add_sub_cancel, ← List.prefix_iff_eq_take.1 hline, byteLength_append]

/-- **Positions order offsets and tell them.**  Of two boundaries the one further on has the position further on,
so two boundaries never share one.  A boundary is found again from its position: it stands behind the first
characters of the line, as many as there are columns before it.  What lies behind the text has the position of
its end. -/
theorem ofOffset_order_and_offset (text : List Char) :
    (∀ a b, IsBoundary text a → IsBoundary text b → (a < b ↔ (ofOffset text a).Before (ofOffset text b))) ∧
    (∀ a b, IsBoundary text a → IsBoundary text b → a ≠ b → ofOffset text a ≠ ofOffset text b) ∧
    (∀ a, IsBoundary text a →
      (ofOffset text a).column - 1 ≤ (lineAt text (ofOffset text a).line).length ∧
        toOffset text (ofOffset text a) = a) ∧
    ∀ n, byteLength text < n → ofOffset text n = ofOffset text (byteLength text) := by
  have hoffset : ∀ a, IsBoundary text a →
      (ofOffset text a).column - 1 ≤ (lineAt text (ofOffset text a).line).length ∧
        toOffset text (ofOffset text a) = a := by
    rintro a ⟨s, rest, rfl, rfl⟩
    rw [ofOffset_append]
    exact toOffset_after s rest
  refine ⟨fun a b ha hb => (before_ofOffset_iff ha hb).symm, fun a b ha hb hne heq => ?_, hoffset, fun n hn => ?_⟩
  · exact hne (by rw [← (hoffset a ha).2, heq, (hoffset b hb).2])
  · rw [ofOffset_of_le (Nat.le_of_lt hn), ofOffset_of_le (Nat.le_refl _)]

/-- The end of a line of two bytes and three characters, and the empty line behind it. -/
theorem ofOffset_order_and_offset_emptyLine :
    let text := "é\r\n\nx".toList
    IsBoundary text 3 ∧ IsBoundary text 4 ∧ (ofOffset text 3).Before (ofOffset text 4) ∧
      ofOffset text 4 = ⟨2, 1⟩ ∧ toOffset text ⟨2, 1⟩ = 4 ∧ toOffset text ⟨1, 3⟩ = 3 ∧
      ofOffset text 99 = ofOffset text 6 := by
  intro text
  have hreturn : IsBoundary text 3 := ⟨"é\r".toList, "\n\nx".toList, rfl, rfl⟩
  have hfeed : IsBoundary text 4 := ⟨"é\r\n".toList, "\nx".toList, rfl, rfl⟩
  obtain ⟨horder, -, hoffset, hbehind⟩ := ofOffset_order_and_offset text
  exact ⟨hreturn, hfeed, (horder 3 4 hreturn hfeed).1 (by decide), rfl, (hoffset 4 hfeed).2, (hoffset 3 hreturn).2,
    hbehind 99 (by decide)⟩

end Position

end Listfile
