import Listfile.Highlight.Basic
import Mathlib.Tactic.Common

/-!
# What a selector selects

Selectors are dotted names, as scopes are.  A selector is compared with a scope atom by atom; this is the same as
to compare the names, if the selector has to end where an atom of the scope ends.

* `splitAtChar_eq_splitOn`: atoms are cut off as the library cuts lists.
* `atoms_isPrefix_iff`: first atoms, told by the names.
* `selectedBy_trans`, `selectedBy_antisymm`: selecting is an order.
* **`selectedBy_iff_and_order`**: what a selector selects, whatever its atoms are.
* `Token.hasScope_of_selectedBy`: a wider selector selects no fewer tokens.
-/

namespace Listfile

theorem splitAtChar_eq_splitOn (mark : Char) (s : List Char) : splitAtChar mark s = s.splitOn mark := by
  induction s with
  | nil => rfl
  | cons c s ih =>
    rw [splitAtChar, List.splitOn_cons_eq_if_modifyHead, ih]
    by_cases hc : c = mark
    · rw [if_pos hc, if_pos (beq_iff_eq.2 hc)]
    · rw [if_neg hc, if_neg (by simpa using hc)]
      -- there is always a part to which the character can be added
      cases hparts : s.splitOn mark with
      | nil => exact absurd hparts (List.splitOn_ne_nil mark s)
      | cons part parts => rfl

theorem intercalate_append_cons {α : Type} (mark : List α) {xs : List (List α)} (h : xs ≠ []) (y : List α)
    (ys : List (List α)) :
    mark.intercalate (xs ++ y :: ys) = mark.intercalate xs ++ (mark ++ mark.intercalate (y :: ys)) := by
  induction xs with
  | nil => exact absurd rfl h
  | cons x xs ih =>
    cases xs with
    | nil => rw [List.singleton_append, List.intercalate_cons_cons, List.intercalate_singleton, List.append_assoc]
    | cons z zs =>
      rw [List.cons_append, List.cons_append, List.intercalate_cons_cons, List.intercalate_cons_cons,
        ← List.cons_append, ih (List.cons_ne_nil z zs)]
      simp only [List.append_assoc]

namespace Scope

variable {s t u : Scope}

/-- The name is made of the atoms with dots between them. -/
theorem intercalate_atoms (s : Scope) : ['.'].intercalate s.atoms = s.name.toList := by
  rw [atoms, splitAtChar_eq_splitOn, List.intercalate_splitOn]

/-- A scope is told by its atoms. -/
theorem eq_of_atoms_eq (h : s.atoms = t.atoms) : s = t := by
  have hnames : s.name.toList = t.name.toList := by rw [← intercalate_atoms s, h, intercalate_atoms]
  cases s
  cases t
  exact congrArg Scope.mk (String.toList_inj.1 hnames)

/-- The atoms of a scope are the first ones of another exactly if that goes on with a dot, or not at all. -/
theorem atoms_isPrefix_iff : t.atoms <+: s.atoms ↔ s = t ∨ ∃ more, s.name = t.name ++ "." ++ more := by
  constructor
  · rintro ⟨parts, hparts⟩
    cases parts with
    | nil => exact .inl (eq_of_atoms_eq (by rw [← hparts, List.append_nil]))
    | cons part parts =>
      have hne : t.atoms ≠ [] := by
        rw [atoms, splitAtChar_eq_splitOn]
        exact List.splitOn_ne_nil _ _
      refine .inr ⟨String.ofList (['.'].intercalate (part :: parts)), String.toList_inj.1 ?_⟩
      calc s.name.toList = ['.'].intercalate (t.atoms ++ part :: parts) := by rw [hparts, intercalate_atoms]
        _ = t.name.toList ++ (['.'] ++ ['.'].intercalate (part :: parts)) := by
          rw [intercalate_append_cons _ hne, intercalate_atoms]
        _ = _ := by simp
  · rintro (rfl | ⟨more, hmore⟩)
    · exact List.prefix_rfl
    · have hname : s.name.toList = t.name.toList ++ '.' :: more.toList := by simp [hmore]
      rw [atoms, atoms, splitAtChar_eq_splitOn, splitAtChar_eq_splitOn, hname, List.splitOn_append_cons_self]
      exact List.prefix_append _ _

theorem selectedBy_iff_isPrefix : s.selectedBy t.name = true ↔ t.atoms <+: s.atoms := List.isPrefixOf_iff_prefix

/-- What is selected by a selector is selected by what selects the selector. -/
theorem selectedBy_trans (hst : s.selectedBy t.name = true) (htu : t.selectedBy u.name = true) :
    s.selectedBy u.name = true :=
  selectedBy_iff_isPrefix.2 ((selectedBy_iff_isPrefix.1 htu).trans (selectedBy_iff_isPrefix.1 hst))

/-- Names that select each other are the same. -/
theorem selectedBy_antisymm (hst : s.selectedBy t.name = true) (hts : t.selectedBy s.name = true) : s = t :=
  eq_of_atoms_eq ((selectedBy_iff_isPrefix.1 hts).eq_of_length_le (selectedBy_iff_isPrefix.1 hst).length_le)

/-- **What a selector selects.**  Whatever dots the names have, a scope is selected by its own name and by what
stands in front of one of its dots, and by nothing else.  So selecting is an order on names. -/
theorem selectedBy_iff_and_order :
    (∀ s t : String, (Scope.mk s).selectedBy t = true ↔ s = t ∨ ∃ more, s = t ++ "." ++ more) ∧
    (∀ s : String, (Scope.mk s).selectedBy s = true) ∧
    (∀ s t u : String, (Scope.mk s).selectedBy t = true → (Scope.mk t).selectedBy u = true →
      (Scope.mk s).selectedBy u = true) ∧
    ∀ s t : String, (Scope.mk s).selectedBy t = true → (Scope.mk t).selectedBy s = true → s = t := by
  refine ⟨fun s t => ?_, fun s => ?_, fun s t u hst htu => ?_, fun s t hst hts => ?_⟩
  · rw [show t = (Scope.mk t).name from rfl, selectedBy_iff_isPrefix, atoms_isPrefix_iff, Scope.mk.injEq]
  · exact selectedBy_iff_isPrefix.2 List.prefix_rfl
  · exact selectedBy_trans (t := ⟨t⟩) (u := ⟨u⟩) hst htu
  · exact congrArg name (selectedBy_antisymm (t := ⟨t⟩) hst hts)

/-- Empty atoms count: two dots are selected by one, and that by the empty selector. -/
theorem selectedBy_iff_and_order_emptyAtoms :
    (Scope.mk "..").selectedBy "." = true ∧ (Scope.mk ".").selectedBy "" = true ∧
      (Scope.mk "..").selectedBy "" = true ∧ (Scope.mk "a..b").selectedBy "a." = true ∧
      (Scope.mk "a.b").selectedBy "a." = false := by
  have hdots : (Scope.mk "..").selectedBy "." = true := by decide
  have hdot : (Scope.mk ".").selectedBy "" = true := by decide
  refine ⟨hdots, hdot, selectedBy_iff_and_order.2.2.1 _ _ _ hdots hdot, ?_, by decide⟩
  exact (selectedBy_iff_and_order.1 _ _).2 (.inr ⟨"b", rfl⟩)

end Scope

namespace Highlight

/-- A token that is selected is also selected by a wider selector. -/
theorem Token.hasScope_of_selectedBy {t : Token} {selector wider : String} (h : t.hasScope selector = true)
    (hwider : (Scope.mk selector).selectedBy wider = true) : t.hasScope wider = true := by
  obtain ⟨s, hs, hselected⟩ := List.any_eq_true.1 h
  exact List.any_eq_true.2 ⟨s, hs, Scope.selectedBy_trans (t := ⟨selector⟩) (u := ⟨wider⟩) hselected hwider⟩

end Highlight

end Listfile
