import Listfile.Proofs.Grammar.Anchoring
import Listfile.Proofs.Regex.Texts
import Listfile.Regex.Quote
import Mathlib.Tactic.FinCases

/-!
# Quoted text

A quoted text is read character by character, and each of them stands for itself.

* `readAll_quote`, `parse_quote`: how a quoted text is read.
* `compileAnchored_quote`: **a quoted text is a pattern for that text**, however long it is.
-/

namespace Listfile

namespace Regex

/-! ### Single characters -/

/-- A quoted text begins with a backslash or with a character that has no other meaning. -/
theorem head?_quote (s : List Char) : ∀ c ∈ (quote s).head?, c = '\\' ∨ isMeta c = false := by
  cases s with
  | nil => nofun
  | cons x s =>
    rw [quote_cons]
    cases hx : isMeta x with
    | true =>
      rintro c ⟨⟩
      exact .inl rfl
    | false =>
      rintro c ⟨⟩
      exact .inr hx

/-- The character opens no comment and no group, and repeats nothing. -/
structure Inert (c : Char) : Prop where
  paren : c ≠ '('
  closing : c ≠ ')'
  bar : c ≠ '|'
  optional : c ≠ '?'
  star : c ≠ '*'
  plus : c ≠ '+'
  brace : c ≠ '\x7B'

theorem inert_of_not_isMeta {c : Char} (h : isMeta c = false) : Inert c := by
  refine ⟨?_, ?_, ?_, ?_, ?_, ?_, ?_⟩
  all_goals
    rintro rfl
    cases h

theorem inert_backslash : Inert '\\' := by
  refine ⟨?_, ?_, ?_, ?_, ?_, ?_, ?_⟩ <;> decide

theorem inert_head?_quote (s : List Char) : ∀ c ∈ (quote s).head?, Inert c := by
  intro c hc
  rcases head?_quote s c hc with rfl | h
  · exact inert_backslash
  · exact inert_of_not_isMeta h

theorem skip_inert {cs : List Char} (h : ∀ c ∈ cs.head?, Inert c) : skip false cs = .ok cs := by
  have hkeep : skipFrom false .nothing cs = some cs := by
    cases cs with
    | nil => rfl
    | cons c cs => simp [skipFrom, (h c rfl).paren]
  unfold skip
  rw [hkeep]

theorem quantify_inert {flags : Flags} {cs : List Char} (hflags : flags.extended = false)
    (h : ∀ c ∈ cs.head?, Inert c) (e : Expr) : quantify flags e cs = .ok (e, cs) := by
  have hnone : quantifier? false cs = none := by
    unfold quantifier?
    split
    · exact absurd rfl (h _ rfl).optional
    · exact absurd rfl (h _ rfl).star
    · exact absurd rfl (h _ rfl).plus
    · exact absurd rfl (h _ rfl).brace
    · rfl
  unfold quantify
  rw [hflags, skip_inert h]
  refine bind_eq_ok.2 ⟨cs, rfl, ?_⟩
  rw [hnone]
  rfl

/-- A part that is neither a parenthesis nor a bar is read as an atom. -/
theorem readNext_inert {limit : Nat} {r r' : Reading} {c : Char} {cs rest : List Char} {e : Expr}
    (hflags : r.flags.extended = false) (hc : Inert c) (hatom : readAtom r (c :: cs) = .ok (r', e, rest))
    (hflags' : r'.flags.extended = false) (hrest : ∀ c ∈ rest.head?, Inert c) :
    readNext limit r (c :: cs) = .ok (some (r'.push e, rest)) := by
  have hhead : ∀ d ∈ (c :: cs).head?, Inert d := by
    rintro d ⟨⟩
    exact hc
  unfold readNext
  rw [hflags, skip_inert hhead]
  refine bind_eq_ok.2 ⟨_, rfl, ?_⟩
  split
  · contradiction
  · exact absurd (List.cons_eq_cons.1 ‹_›).1 hc.bar
  · exact absurd (List.cons_eq_cons.1 ‹_›).1 hc.closing
  · exact absurd (List.cons_eq_cons.1 ‹_›).1 hc.paren
  · refine bind_eq_ok.2 ⟨(r', e, rest), hatom, ?_⟩
    refine bind_eq_ok.2 ⟨(r'.push e, rest), ?_, rfl⟩
    exact bind_eq_ok.2 ⟨(e, rest), quantify_inert hflags' hrest e, rfl⟩

/-! ### Quoted text -/

/-- A character that has no other meaning stands for itself. -/
theorem readAtom_char {r : Reading} {c : Char} (hc : isMeta c = false) (cs : List Char) :
    readAtom r (c :: cs) = .ok (r, .chars ((CharSet.single c).foldedIf r.flags.fold), cs) := by
  have hne : ∀ d, isMeta d = true → c ≠ d := by
    rintro d hd rfl
    rw [hc] at hd
    cases hd
  exact readAtom.eq_9 r c cs (hne _ rfl) (hne _ rfl) (hne _ rfl) (hne _ rfl) (hne _ rfl) (hne _ rfl)
    (hne _ rfl) (hne _ rfl)

/-- Behind a backslash every other character stands for itself. -/
theorem readAtom_backslash {r : Reading} {c : Char} (hc : isMeta c = true) (cs : List Char) :
    readAtom r ('\\' :: c :: cs) = .ok (r, .chars (.single c), cs) := by
  have hmem : c ∈ ['\\', '.', '+', '*', '?', '(', ')', '|', '[', ']', '\x7B', '\x7D', '^', '$', '#', '&',
      '-', '~'] := List.contains_iff_mem.1 hc
  have hescape : escape r.flags r.groups false (c :: cs) = .ok (.char c false, cs) := by
    fin_cases hmem <;> rfl
  unfold readAtom
  refine bind_eq_ok.2 ⟨_, hescape, rfl⟩

/-- The reading with the characters of a text added. -/
def Reading.addText (r : Reading) (s : List Char) : Reading :=
  { r with frame := { r.frame with
      parts := s.reverse.map (fun c => .chars (.single c)) ++ r.frame.parts } }

/-- **A quoted text is read character by character.** -/
theorem readAll_quote (limit : Nat) {r : Reading} (hextended : r.flags.extended = false)
    (hfold : r.flags.fold = false) (s : List Char) {n : Nat} (hn : (quote s).length < n) :
    readAll limit n r (quote s) = .ok (r.addText s, []) := by
  induction s generalizing r n with
  | nil =>
    obtain ⟨n, rfl⟩ := Nat.exists_eq_succ_of_ne_zero (Nat.ne_of_gt hn)
    have hnext : readNext limit r [] = .ok none := by
      unfold readNext
      rw [hextended]
      rfl
    rw [quote_nil, readAll, hnext]
    rfl
  | cons c s ih =>
    obtain ⟨n, rfl⟩ := Nat.exists_eq_succ_of_ne_zero (Nat.ne_of_gt (Nat.zero_lt_of_lt hn))
    have hnext : readNext limit r (quote (c :: s)) = .ok (some (r.push (.chars (.single c)), quote s)) := by
      rw [quote_cons]
      cases hc : isMeta c with
      | true =>
        exact readNext_inert hextended inert_backslash (readAtom_backslash hc _) hextended
          (inert_head?_quote s)
      | false =>
        have hatom := readAtom_char (r := r) hc (quote s)
        rw [hfold] at hatom
        exact readNext_inert hextended (inert_of_not_isMeta hc) hatom hextended (inert_head?_quote s)
    have hlength : (quote s).length < n := by
      have hpos : 0 < (if isMeta c then ['\\', c] else [c]).length := by split <;> simp
      rw [quote_cons, List.length_append] at hn
      omega
    have hadd : (r.push (.chars (.single c))).addText s = r.addText (c :: s) := by
      unfold Reading.addText Reading.push Frame.push
      rw [List.reverse_cons, List.map_append, List.append_assoc]
      rfl
    rw [readAll_step hnext, ← hadd]
    exact ih (r := r.push _) hextended hfold hlength

/-- The expression for the characters of a text. -/
def Expr.ofText (s : List Char) : Expr := .ofParts (s.map fun c => .chars (.single c))

/-- What holds of the chain of the characters of a text, and of a single one, holds of the text. -/
theorem Expr.ofText_induction {P : List Char → Expr → Prop} (hnil : P [] .empty)
    (hone : ∀ c, P [c] (.chars (.single c)))
    (hcons : ∀ c s e, P s e → P (c :: s) (.seq (.chars (.single c)) e)) (s : List Char) : P s (.ofText s) := by
  have hchain : ∀ s, P s ((s.map fun c => Expr.chars (.single c)).foldr Expr.seq Expr.empty) := by
    intro s
    induction s with
    | nil => exact hnil
    | cons c s ih => exact hcons c s _ ih
  cases s with
  | nil => exact hnil
  | cons c s =>
    cases s with
    | nil => exact hone c
    | cons d s => exact hchain (c :: d :: s)

theorem references_ofText (s : List Char) : (Expr.ofText s).references = [] := by
  refine Expr.ofText_induction (P := fun _ e => e.references = []) rfl (fun _ => rfl) ?_ s
  intro c s e he
  exact he

theorem groups_ofText (s : List Char) : (Expr.ofText s).groups = [] := by
  refine Expr.ofText_induction (P := fun _ e => e.groups = []) rfl (fun _ => rfl) ?_ s
  intro c s e he
  exact he

theorem isHard_ofText (s : List Char) (refs : List Nat) : (Expr.ofText s).isHard refs = false := by
  refine Expr.ofText_induction (P := fun _ e => e.isHard refs = false) rfl (fun _ => rfl) ?_ s
  intro c s e he
  exact he

/-- A text is a literal, which can be planned whatever its length. -/
theorem isLiteral_ofText {s : List Char} (hs : s ≠ []) : (Expr.ofText s).isLiteral = true := by
  have hliteral : s = [] ∧ Expr.ofText s = .empty ∨ (Expr.ofText s).isLiteral = true := by
    refine Expr.ofText_induction (P := fun s e => s = [] ∧ e = .empty ∨ e.isLiteral = true)
      (.inl ⟨rfl, rfl⟩) (fun _ => .inr rfl) ?_ s
    rintro c s e (⟨rfl, rfl⟩ | he)
    · exact .inr rfl
    · refine .inr ?_
      cases e with
      | empty => rfl
      | _ => exact he
  exact hliteral.resolve_left fun h => hs h.1

theorem isEmpty_ofText {s : List Char} (hs : s ≠ []) : (Expr.ofText s).isEmpty = false := by
  have hliteral := isLiteral_ofText hs
  cases hofText : Expr.ofText s with
  | empty =>
    rw [hofText] at hliteral
    cases hliteral
  | _ => rfl

theorem sets?_ofText {s : List Char} (hs : s ≠ []) : (Expr.ofText s).sets? = some (s.map .single) := by
  have hsets : s = [] ∧ Expr.ofText s = .empty ∨ (Expr.ofText s).sets? = some (s.map .single) := by
    refine Expr.ofText_induction (P := fun s e => s = [] ∧ e = .empty ∨ e.sets? = some (s.map .single))
      (.inl ⟨rfl, rfl⟩) (fun _ => .inr rfl) ?_ s
    rintro c s e (⟨rfl, rfl⟩ | he)
    · exact .inr rfl
    · refine .inr ?_
      cases e with
      | empty => cases he
      | _ =>
        rw [Expr.sets?, he]
        · rfl
        · nofun
  exact hsets.resolve_left fun h => hs h.1

theorem body_addText (s : List Char) : (Reading.start.addText s).frame.body = .ofText s := by
  unfold Reading.addText Frame.body Frame.bar Expr.ofText
  simp [Reading.start, Frame.start, Expr.ofBranches]

theorem parse_quote (s : List Char) : parse (quote s) = .ok (.ofText s) := by
  have hread := readAll_quote maxDepth (r := .start) rfl rfl s (Nat.lt_succ_self _)
  unfold parse
  rw [hread]
  refine Reading.finish_eq_ok.2 ⟨rfl, rfl, body_addText s, ?_⟩
  rw [references_ofText]
  rfl

end Regex

namespace Grammar

open Regex

/-- A quoted text does not begin with a group of flags. -/
theorem extendedFromStart_quote (s : List Char) : extendedFromStart (quote s) = false := by
  have hhead := inert_head?_quote s
  unfold extendedFromStart
  split
  · rename_i hquote
    rw [hquote] at hhead
    exact absurd rfl (hhead _ rfl).paren
  · rfl

theorem isAnchorable_quote (s : List Char) : isAnchorable (quote s) = true := by
  have hread := readAll_quote (maxDepth - 1) (r := .start) rfl rfl s (Nat.lt_succ_self _)
  have hskip : Regex.skip (Reading.start.addText s).flags.extended ([] ++ closing (quote s)) = .ok [')'] := by
    unfold closing
    rw [extendedFromStart_quote]
    rfl
  rw [isAnchorable_eq hread hskip]
  rfl

/-- **A quoted text is a pattern for that text**, however long it is. -/
theorem compileAnchored_quote {s : List Char} (hs : s ≠ []) :
    ∃ r, compileAnchored (quote s) = .ok r ∧ r.text? = some s := by
  have hparse := (parse_anchor_iff (parse_quote s)).2 (isAnchorable_quote s)
  have hplan : Plan.ofExpr (Expr.ofText s).references false (Expr.ofText s).anchored
      = .ok (.seq .searchStart (.unit (.seq (.ofText s) .empty))) := by
    rw [Plan.ofExpr_anchored (isEmpty_ofText hs), Plan.ofLast_plain (isHard_ofText s _),
      isLiteral_ofText hs]
    rfl
  rw [compileAnchored_eq hparse, hplan, groups_ofText]
  exact ⟨_, rfl, text?_eq_some.2 (sets?_ofText hs)⟩

end Grammar

end Listfile
