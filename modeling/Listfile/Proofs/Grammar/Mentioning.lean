import Listfile.Proofs.Grammar.Expanding
import Mathlib.Data.List.Infix
import Mathlib.Data.List.TakeWhile

/-!
# Placeholders in a text

A placeholder holds a name between double braces.  Names have no braces, so that placeholders do not overlap,
and a text that is taken apart from left to right falls into all its placeholders and the characters between
them.

* `placeholderFor`, `Mentions`: the placeholder for a variable, and the texts that hold it.
* `pieces_placeholder`, `pieces_cons`, `pieces_induction`: the pieces of a text, one after the other.
* `flatMap_source_pieces`: the pieces make up the text.
* **`mem_pieces_iff`**: no placeholder is missed.
* `not_infix_of_pieces`: there is none among characters that are pieces of their own.
-/

namespace Listfile.Grammar

/-- A name that may stand in a placeholder. -/
structure IsVariableName (name : List Char) : Prop where
  nonempty : name ≠ []
  chars : ∀ c ∈ name, isVariableChar c = true

/-- The placeholder for a variable. -/
def placeholderFor (name : List Char) : List Char := '\x7B' :: '\x7B' :: (name ++ ['\x7D', '\x7D'])

/-- The text holds a placeholder for the variable. -/
def Mentions (text name : List Char) : Prop := IsVariableName name ∧ placeholderFor name <:+: text

/-- A piece as it is written. -/
def Piece.source : Piece → List Char
  | char c => [c]
  | var name => placeholderFor name

variable {text name other rest : List Char}

/-! ### The front of a text -/

theorem IsVariableName.takeWhile_append (h : IsVariableName name) (rest : List Char) :
    (name ++ '\x7D' :: rest).takeWhile isVariableChar = name := by
  rw [List.takeWhile_append_of_pos h.chars, List.takeWhile_cons_of_neg (by decide), List.append_nil]

theorem placeholder?_placeholderFor (h : IsVariableName name) (rest : List Char) :
    placeholder? (placeholderFor name ++ rest) = some name := by
  obtain ⟨c, cs, rfl⟩ := List.exists_cons_of_ne_nil h.nonempty
  have hname := h.takeWhile_append ('\x7D' :: rest)
  have hdrop : (c :: cs ++ '\x7D' :: '\x7D' :: rest).drop (c :: cs).length = '\x7D' :: '\x7D' :: rest :=
    List.drop_left
  have htext : placeholderFor (c :: cs) ++ rest = '\x7B' :: '\x7B' :: (c :: cs ++ '\x7D' :: '\x7D' :: rest) := by
    simp [placeholderFor]
  rw [htext, placeholder?, hname, hdrop]
  rfl

theorem exists_of_placeholder? (h : placeholder? text = some name) :
    IsVariableName name ∧ ∃ rest, text = placeholderFor name ++ rest := by
  unfold placeholder? at h
  split at h
  · rename_i cs
    dsimp only at h
    split at h
    · rename_i c cs' after hname hdrop
      cases h
      refine ⟨⟨?_, fun d hd => List.mem_takeWhile_imp hd⟩, after, ?_⟩
      · rw [hname]
        exact List.cons_ne_nil _ _
      · have hsplit := List.prefix_append_drop (List.takeWhile_prefix (l := cs) isVariableChar)
        rw [hdrop] at hsplit
        simp only [placeholderFor, List.cons_append, List.append_assoc, List.nil_append]
        rw [← hsplit]
    · cases h
  · cases h

/-- Placeholders at the front of a text are the same. -/
theorem eq_of_placeholder_append {back : List Char} (hname : IsVariableName name) (hother : IsVariableName other)
    (h : placeholderFor name ++ rest = placeholderFor other ++ back) : name = other := by
  have hplaceholder := placeholder?_placeholderFor hname rest
  rw [h, placeholder?_placeholderFor hother] at hplaceholder
  exact (Option.some.inj hplaceholder).symm

/-- What begins behind the front of a placeholder, with a brace that opens another one, begins behind its
end. -/
theorem exists_of_placeholder_append {c : Char} {front back : List Char} (hname : IsVariableName name)
    (h : placeholderFor name ++ rest = c :: front ++ (placeholderFor other ++ back)) :
    ∃ between, c :: front = placeholderFor name ++ between := by
  have hopen : '\x7B' ∉ name ++ ['\x7D', '\x7D'] := by
    intro hmem
    rcases List.mem_append.1 hmem with hmem | hmem
    · exact absurd (hname.chars _ hmem) (by decide)
    · exact absurd hmem (by decide)
  obtain ⟨d, ds, hcons⟩ := List.exists_cons_of_ne_nil hname.nonempty
  obtain ⟨rfl, hrest⟩ := List.cons_eq_cons.1 h
  cases front with
  | nil =>
    -- the second brace of one would be the first of the other
    obtain ⟨-, hrest⟩ := List.cons_eq_cons.1 hrest
    rw [hcons] at hrest hopen
    obtain ⟨rfl, -⟩ := List.cons_eq_cons.1 hrest
    exact absurd List.mem_cons_self hopen
  | cons e front =>
    obtain ⟨rfl, -⟩ := List.cons_eq_cons.1 hrest
    have htail : name ++ ['\x7D', '\x7D'] ++ rest = front ++ (placeholderFor other ++ back) :=
      (List.cons_eq_cons.1 hrest).2
    rcases List.append_eq_append_iff.1 htail with ⟨between, hfront, -⟩ | ⟨between, hfront, hbetween⟩
    · exact ⟨between, congrArg (fun cs => '\x7B' :: '\x7B' :: cs) hfront⟩
    · cases between with
      | nil =>
        rw [List.append_nil] at hfront
        refine ⟨[], ?_⟩
        rw [List.append_nil, placeholderFor, hfront]
      | cons e between =>
        obtain ⟨rfl, -⟩ := List.cons_eq_cons.1 hbetween
        rw [hfront] at hopen
        exact absurd (List.mem_append_right _ List.mem_cons_self) hopen

/-! ### Pieces -/

theorem piecesFrom_eq (skipped : Nat) (text : List Char) : piecesFrom skipped text = pieces (text.drop skipped) := by
  induction text generalizing skipped with
  | nil => cases skipped <;> rfl
  | cons c cs ih =>
    cases skipped with
    | zero => rfl
    | succ skipped => exact ih skipped

theorem pieces_placeholder (h : IsVariableName name) (rest : List Char) :
    pieces (placeholderFor name ++ rest) = .var name :: pieces rest := by
  have hplaceholder := placeholder?_placeholderFor h rest
  have hlength : ('\x7B' :: (name ++ ['\x7D', '\x7D'])).length = name.length + 3 := by simp
  rw [placeholderFor, List.cons_append] at hplaceholder ⊢
  rw [pieces, piecesFrom, hplaceholder]
  dsimp only
  rw [piecesFrom_eq, ← hlength, List.drop_left]

theorem pieces_cons {c : Char} {cs : List Char} (h : placeholder? (c :: cs) = none) :
    pieces (c :: cs) = .char c :: pieces cs := by
  rw [pieces, piecesFrom, h]
  rfl

/-- **A text is taken apart from left to right.** -/
theorem pieces_induction {motive : List Char → Prop} (nil : motive [])
    (var : ∀ name rest, IsVariableName name → motive rest → motive (placeholderFor name ++ rest))
    (char : ∀ c cs, placeholder? (c :: cs) = none → motive cs → motive (c :: cs)) (text : List Char) :
    motive text := by
  induction hlength : text.length using Nat.strong_induction_on generalizing text with
  | _ n ih =>
    cases text with
    | nil => exact nil
    | cons c cs =>
      cases hplaceholder : placeholder? (c :: cs) with
      | none =>
        refine char c cs hplaceholder (ih cs.length ?_ cs rfl)
        rw [← hlength, List.length_cons]
        exact Nat.lt_succ_self _
      | some name =>
        obtain ⟨hname, rest, htext⟩ := exists_of_placeholder? hplaceholder
        rw [htext] at hlength ⊢
        refine var name rest hname (ih rest.length ?_ rest rfl)
        rw [← hlength, placeholderFor, List.length_append, List.length_cons]
        omega

/-- The pieces make up the text. -/
theorem flatMap_source_pieces (text : List Char) : (pieces text).flatMap Piece.source = text := by
  induction text using pieces_induction with
  | nil => rfl
  | var name rest hname ih => rw [pieces_placeholder hname, List.flatMap_cons, ih, Piece.source]
  | char c cs hplaceholder ih =>
    rw [pieces_cons hplaceholder, List.flatMap_cons, ih, Piece.source, List.singleton_append]

/-- **The pieces of a text hold all its placeholders.** -/
theorem mem_pieces_iff : Piece.var name ∈ pieces text ↔ Mentions text name := by
  induction text using pieces_induction with
  | nil =>
    refine ⟨fun h => absurd h List.not_mem_nil, fun ⟨_, h⟩ => ?_⟩
    exact absurd (List.eq_nil_of_infix_nil h) (List.cons_ne_nil _ _)
  | var other rest hother ih =>
    rw [pieces_placeholder hother, List.mem_cons, ih]
    constructor
    · rintro (h | ⟨hname, h⟩)
      · cases h
        exact ⟨hother, [], rest, rfl⟩
      · exact ⟨hname, List.infix_append_of_infix_right h⟩
    · rintro ⟨hname, front, back, h⟩
      rw [List.append_assoc] at h
      cases front with
      | nil => exact .inl (congrArg Piece.var (eq_of_placeholder_append hname hother h))
      | cons c front =>
        obtain ⟨between, hbetween⟩ := exists_of_placeholder_append hother h.symm
        rw [hbetween, List.append_assoc] at h
        exact .inr ⟨hname, between, back, by rw [List.append_assoc]; exact List.append_cancel_left h⟩
  | char c cs hplaceholder ih =>
    rw [pieces_cons hplaceholder, List.mem_cons, ih]
    constructor
    · rintro (h | ⟨hname, h⟩)
      · cases h
      · exact ⟨hname, List.infix_cons h⟩
    · rintro ⟨hname, h⟩
      rcases List.infix_cons_iff.1 h with ⟨rest, hrest⟩ | h
      · rw [← hrest, placeholder?_placeholderFor hname] at hplaceholder
        cases hplaceholder
      · exact .inr ⟨hname, h⟩

/-- The pieces behind some others are those of the text that they make up. -/
theorem eq_pieces_of_append {front back : List Piece} (h : pieces text = front ++ back) :
    back = pieces (back.flatMap Piece.source) := by
  induction text using pieces_induction generalizing front with
  | nil =>
    obtain ⟨-, rfl⟩ := List.append_eq_nil_iff.1 h.symm
    rfl
  | var name rest hname ih =>
    cases front with
    | nil => rw [← show pieces _ = back from h, flatMap_source_pieces]
    | cons piece front =>
      rw [pieces_placeholder hname] at h
      exact ih (List.cons_eq_cons.1 h).2
  | char c cs hplaceholder ih =>
    cases front with
    | nil => rw [← show pieces _ = back from h, flatMap_source_pieces]
    | cons piece front =>
      rw [pieces_cons hplaceholder] at h
      exact ih (List.cons_eq_cons.1 h).2

/-- No placeholder stands among characters that are pieces of their own. -/
theorem not_infix_of_pieces {front back : List Piece} {cs : List Char}
    (h : pieces text = front ++ (cs.map .char ++ back)) (hname : IsVariableName name) : ¬placeholderFor name <:+: cs := by
  rintro ⟨before, after, rfl⟩
  have hsplit : pieces text = front ++ before.map .char ++ ((placeholderFor name ++ after).map .char ++ back) := by
    rw [h]
    simp
  have hback := eq_pieces_of_append hsplit
  rw [List.map_append, List.append_assoc, List.flatMap_append] at hback
  have hsource : ((placeholderFor name).map Piece.char).flatMap Piece.source = placeholderFor name := by
    rw [List.flatMap_map]
    exact List.flatMap_singleton' _
  rw [hsource, pieces_placeholder hname] at hback
  cases (List.cons_eq_cons.1 hback).1

end Listfile.Grammar
