import Listfile.Text.Blank
import Mathlib.Data.List.DropRight
import Mathlib.Tactic.Common

/-!
# Dropping the end of a text

* `dropEndWhile_append_of_all`, `dropEndWhile_eq_self`: what is dropped, and where that stops.
* `trimEnd_cons`, `trimEnd_trimEnd`, `isBlank_of_mem_getLast?_trimEnd`: text without trailing blanks.
-/

namespace Listfile

theorem dropEndWhile_eq_rdropWhile (p : Char → Bool) (s : List Char) :
    dropEndWhile p s = s.rdropWhile p := rfl

theorem dropEndWhile_isPrefix (p : Char → Bool) (s : List Char) : dropEndWhile p s <+: s :=
  List.rdropWhile_prefix p s

/-- What satisfies the condition throughout is dropped as a whole. -/
theorem dropEndWhile_append_of_all {p : Char → Bool} {t : List Char} (h : ∀ c ∈ t, p c = true)
    (s : List Char) : dropEndWhile p (s ++ t) = dropEndWhile p s := by
  rw [dropEndWhile, List.reverse_append, List.dropWhile_append_of_pos (by simpa using h)]
  rfl

/-- Nothing is dropped from a text whose last character does not satisfy the condition. -/
theorem dropEndWhile_eq_self {p : Char → Bool} {s : List Char}
    (h : ∀ c ∈ s.getLast?, p c = false) : dropEndWhile p s = s := by
  rw [dropEndWhile_eq_rdropWhile, List.rdropWhile_eq_self_iff]
  intro hs hp
  rw [h _ (List.getLast?_eq_getLast_of_ne_nil hs)] at hp
  cases hp

theorem not_of_mem_getLast?_dropEndWhile {p : Char → Bool} {s : List Char} {c : Char}
    (h : c ∈ (dropEndWhile p s).getLast?) : p c = false := by
  rw [dropEndWhile_eq_rdropWhile] at h
  have hne : s.rdropWhile p ≠ [] := by
    intro hnil
    rw [hnil] at h
    cases h
  rw [List.getLast?_eq_getLast_of_ne_nil hne] at h
  cases h
  simpa using List.rdropWhile_last_not p s hne

theorem trimEnd_isPrefix (s : List Char) : trimEnd s <+: s := dropEndWhile_isPrefix isBlank s

theorem isBlank_of_mem_getLast?_trimEnd {s : List Char} {c : Char} (h : c ∈ (trimEnd s).getLast?) :
    isBlank c = false := not_of_mem_getLast?_dropEndWhile h

theorem trimEnd_trimEnd (s : List Char) : trimEnd (trimEnd s) = trimEnd s :=
  dropEndWhile_eq_self fun _ hc => isBlank_of_mem_getLast?_trimEnd hc

/-- Trimming stops at a character that is not blank. -/
theorem trimEnd_cons {c : Char} (hc : isBlank c = false) (s : List Char) :
    trimEnd (c :: s) = c :: trimEnd s := by
  induction s using List.reverseRecOn with
  | nil => exact dropEndWhile_eq_self fun d hd => by cases hd; exact hc
  | append_singleton s d ih =>
    by_cases hd : isBlank d = true
    · have hall : ∀ e ∈ [d], isBlank e = true := by simpa using hd
      rw [← List.cons_append, trimEnd, trimEnd, dropEndWhile_append_of_all hall,
        dropEndWhile_append_of_all hall]
      exact ih
    · have hlast : ∀ t : List Char, ∀ e ∈ (t ++ [d]).getLast?, isBlank e = false := by
        intro t e he
        rw [List.getLast?_concat] at he
        cases he
        simpa using hd
      rw [← List.cons_append, trimEnd, trimEnd, dropEndWhile_eq_self (hlast (c :: s)),
        dropEndWhile_eq_self (hlast s)]
      rfl

end Listfile
