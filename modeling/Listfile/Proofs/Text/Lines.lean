import Listfile.Text.Lines
import Mathlib.Tactic.Common

/-!
# Lines of a text

* `splitLines_append`: a text that ends a line is cut into lines apart from what follows it.
* `exists_of_mem_splitLines`: a line feed only stands at the end of a line.
* `exists_lineContent`, `feed_notMem_lineContent`: the content of a line is its front, without line feeds.
-/

namespace Listfile

theorem splitLinesFrom_append (line first second : List Char) :
    splitLinesFrom line (first ++ ('\n' :: second))
      = splitLinesFrom line (first ++ ['\n']) ++ splitLinesFrom [] second := by
  induction first generalizing line with
  | nil => simp [splitLinesFrom]
  | cons c first ih =>
    rw [List.cons_append, List.cons_append, splitLinesFrom, splitLinesFrom]
    split
    · rw [ih, List.cons_append]
    · exact ih _

/-- A text that ends a line is cut into lines apart from what follows it. -/
theorem splitLines_append {first : List Char} (h : first = [] ∨ first.getLast? = some '\n')
    (second : List Char) : splitLines (first ++ second) = splitLines first ++ splitLines second := by
  rcases h with rfl | h
  · rfl
  · obtain ⟨front, rfl⟩ := List.getLast?_eq_some_iff.1 h
    rw [List.append_assoc]
    exact splitLinesFrom_append [] front second

theorem exists_of_mem_splitLinesFrom {text begun line : List Char} (hbegun : '\n' ∉ begun)
    (h : line ∈ splitLinesFrom begun text) :
    ∃ body, '\n' ∉ body ∧ (line = body ∨ line = body ++ ['\n']) := by
  have hreverse : '\n' ∉ begun.reverse := fun hmem => hbegun (List.mem_reverse.1 hmem)
  induction text generalizing begun with
  | nil =>
    cases begun with
    | nil => cases h
    | cons c begun =>
      rw [splitLinesFrom, List.mem_singleton] at h
      · exact ⟨_, hreverse, .inl h⟩
      · exact List.cons_ne_nil _ _
  | cons c text ih =>
    rw [splitLinesFrom] at h
    split at h
    · rename_i hfeed
      rcases List.mem_cons.1 h with rfl | h
      · exact ⟨_, hreverse, .inr (by rw [List.reverse_cons, hfeed])⟩
      · exact ih List.not_mem_nil h List.not_mem_nil
    · rename_i hother
      have hcons : '\n' ∉ c :: begun := by
        intro hmem
        rcases List.mem_cons.1 hmem with hfeed | hmem
        · exact hother hfeed.symm
        · exact hbegun hmem
      exact ih hcons h fun hmem => hcons (List.mem_reverse.1 hmem)

/-- A line feed only stands at the end of a line. -/
theorem exists_of_mem_splitLines {text line : List Char} (h : line ∈ splitLines text) :
    ∃ body, '\n' ∉ body ∧ (line = body ∨ line = body ++ ['\n']) :=
  exists_of_mem_splitLinesFrom List.not_mem_nil h

theorem dropLastIf_isPrefix (c : Char) (line : List Char) : dropLastIf c line <+: line := by
  unfold dropLastIf
  split
  · exact List.dropLast_prefix line
  · exact List.prefix_refl line

theorem dropLastIf_eq_self {c : Char} {line : List Char} (h : line.getLast? ≠ some c) :
    dropLastIf c line = line := if_neg h

theorem dropLastIf_concat (c : Char) (line : List Char) : dropLastIf c (line ++ [c]) = line := by
  simp [dropLastIf]

/-- The content of a line is its front. -/
theorem exists_lineContent (line : List Char) : ∃ ending, line = lineContent line ++ ending := by
  obtain ⟨ending, h⟩ := (dropLastIf_isPrefix '\r' (dropLastIf '\n' line)).trans (dropLastIf_isPrefix '\n' line)
  exact ⟨ending, h.symm⟩

/-- No line feed stands in the content of a line. -/
theorem feed_notMem_lineContent {text line : List Char} (h : line ∈ splitLines text) :
    '\n' ∉ lineContent line := by
  have hfront : '\n' ∉ dropLastIf '\n' line := by
    obtain ⟨body, hbody, rfl | rfl⟩ := exists_of_mem_splitLines h
    · exact fun hmem => hbody ((dropLastIf_isPrefix '\n' line).subset hmem)
    · unfold dropLastIf
      rw [if_pos List.getLast?_concat, List.dropLast_concat]
      exact hbody
  exact fun hmem => hfront ((dropLastIf_isPrefix '\r' _).subset hmem)

end Listfile
