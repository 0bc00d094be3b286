import Listfile.Text.Blank
import Listfile.Text.Quoted
import Mathlib.Tactic.Common

/-!
# Blanks of quoted text

Quoted text stays on its line, whatever is quoted: of all blanks only the space is shown as it is.

* `SpacesOnly`: texts without any other blank than the space.
* `mem_wideBlanks`: the blanks that are no characters of ASCII.
* `eq_space_of_isVisible`: the only blank that is shown as it is.
* `exists_digitChar_of_mem_toDigits`: numbers are written with digits.
* **`spacesOnly_quoteText`**: no other blank gets into quoted text.
-/

namespace Listfile

open Unicode

variable {s t : List Char} {c mark : Char}

/-! ### Texts without any other blank than the space -/

/-- The only blank in the text is the space. -/
def SpacesOnly (s : List Char) : Prop := ∀ c ∈ s, isBlank c = true → c = ' '

instance (s : List Char) : Decidable (SpacesOnly s) := List.decidableBAll (fun c => isBlank c = true → c = ' ') s

theorem spacesOnly_append : SpacesOnly (s ++ t) ↔ SpacesOnly s ∧ SpacesOnly t := List.forall_mem_append

theorem spacesOnly_cons : SpacesOnly (c :: s) ↔ (isBlank c = true → c = ' ') ∧ SpacesOnly s :=
  List.forall_mem_cons

theorem spacesOnly_of_noBlank (h : ∀ c ∈ s, isBlank c = false) : SpacesOnly s := by
  intro c hc hblank
  rw [h c hc] at hblank
  cases hblank

/-- The end of a line is a blank of its own. -/
theorem SpacesOnly.feed_notMem (h : SpacesOnly s) : '\n' ∉ s := by
  intro hmem
  cases h '\n' hmem (by decide)

/-! ### Characters that are shown as they are -/

/-- The numbers of the blanks that are no characters of ASCII. -/
def wideBlanks : List Nat :=
  [0x85, 0xA0, 0x1680, 0x2000, 0x2001, 0x2002, 0x2003, 0x2004, 0x2005, 0x2006, 0x2007, 0x2008, 0x2009, 0x200A,
    0x2028, 0x2029, 0x202F, 0x205F, 0x3000]

theorem mem_wideBlanks (hblank : isBlank c = true) (hwide : 0x7F ≤ c.toNat) : c.toNat ∈ wideBlanks := by
  simp only [isBlank, Bool.or_eq_true, Bool.and_eq_true, beq_iff_eq, decide_eq_true_eq] at hblank
  simp only [wideBlanks, List.mem_cons, List.not_mem_nil, or_false]
  omega

/-- The later characters have no blanks among them. -/
theorem contains_laterCharacters_of_mem :
    ∀ n ∈ wideBlanks, laterCharacters.contains (Char.ofNat n) = false := by decide +kernel

theorem any_contains_of_mem :
    ∀ n ∈ wideBlanks, (Category.control :: separators).any (·.contains (Char.ofNat n)) = true := by decide +kernel

theorem any_contains_invisible (h : c.toNat ∈ wideBlanks) : invisible.any (·.contains c) = true := by
  have hany := any_contains_of_mem c.toNat h
  rw [Char.ofNat_toNat] at hany
  obtain ⟨table, hmem, hcontains⟩ := List.any_eq_true.1 hany
  refine List.any_eq_true.2 ⟨table, ?_, hcontains⟩
  rcases List.mem_cons.1 hmem with rfl | hmem
  · simp [invisible, others]
  · simp [invisible, hmem]

/-- The only blank that is shown as it is. -/
theorem eq_space_of_isVisible (hvisible : isVisible c = true) (hblank : isBlank c = true) : c = ' ' := by
  unfold isVisible at hvisible
  by_cases hnarrow : c.toNat < 0x7F
  · rw [if_pos hnarrow, decide_eq_true_eq] at hvisible
    simp only [isBlank, Bool.or_eq_true, Bool.and_eq_true, beq_iff_eq, decide_eq_true_eq] at hblank
    refine Char.toNat_inj.1 ?_
    show c.toNat = 0x20
    omega
  · -- the blanks that are no characters of ASCII are controls and separators, which are not shown
    have hmem := mem_wideBlanks hblank (by omega)
    have hlater := contains_laterCharacters_of_mem c.toNat hmem
    rw [Char.ofNat_toNat] at hlater
    rw [if_neg hnarrow, if_neg (by rw [hlater]; exact Bool.false_ne_true), any_contains_invisible hmem] at hvisible
    have hmark : c = '\uFF9E' ∨ c = '\uFF9F' := by simpa using hvisible
    rcases hmark with rfl | rfl <;> cases hblank

/-! ### Characters that are written in another way -/

/-- Numbers are written with digits of their base. -/
theorem exists_digitChar_of_mem_toDigits {base n : Nat} (hbase : 1 < base) (h : c ∈ Nat.toDigits base n) :
    ∃ k < base, c = k.digitChar := by
  induction n using Nat.strongRecOn with
  | ind n ih =>
    rw [Nat.toDigits_eq_if hbase] at h
    split at h
    · rename_i hlt
      exact ⟨n, hlt, List.mem_singleton.1 h⟩
    · rename_i hge
      rcases List.mem_append.1 h with h | h
      · exact ih (n / base) (Nat.div_lt_self (by omega) hbase) h
      · exact ⟨n % base, Nat.mod_lt _ (by omega), List.mem_singleton.1 h⟩

theorem isBlank_digitChar : ∀ k < 16, isBlank (Nat.digitChar k) = false := by decide

theorem spacesOnly_toDigits {base : Nat} (hbase : 1 < base) (hle : base ≤ 16) (n : Nat) :
    SpacesOnly (Nat.toDigits base n) := by
  refine spacesOnly_of_noBlank fun d hd => ?_
  obtain ⟨k, hk, rfl⟩ := exists_digitChar_of_mem_toDigits hbase hd
  exact isBlank_digitChar k (by omega)

theorem spacesOnly_escapeIn (hmark : isBlank mark = false) (c : Char) : SpacesOnly (escapeIn mark c) := by
  unfold escapeIn
  split_ifs with hnul htab hfeed hreturn hplain hvisible
  · decide
  · decide
  · decide
  · decide
  · have hslash : isBlank '\\' = false := by decide
    have hc : isBlank c = false := by
      rcases hplain with rfl | rfl
      · exact hslash
      · exact hmark
    exact spacesOnly_of_noBlank (List.forall_mem_cons.2 ⟨hslash, List.forall_mem_singleton.2 hc⟩)
  · exact spacesOnly_cons.2 ⟨eq_space_of_isVisible hvisible, List.forall_mem_nil _⟩
  · have hdigits := spacesOnly_toDigits (by decide) (Nat.le_refl 16) c.toNat
    exact spacesOnly_append.2 ⟨spacesOnly_append.2 ⟨by decide, hdigits⟩, by decide⟩

/-- **No other blank than the space gets into quoted text**, whatever is quoted. -/
theorem spacesOnly_quoteText (s : List Char) : SpacesOnly (quoteText s) := by
  have hbody : SpacesOnly (s.flatMap (escapeIn '"')) := by
    intro d hd
    obtain ⟨c, -, hd⟩ := List.mem_flatMap.1 hd
    exact spacesOnly_escapeIn (by decide) c d hd
  exact spacesOnly_append.2 ⟨spacesOnly_cons.2 ⟨by decide, hbody⟩, by decide⟩

end Listfile
