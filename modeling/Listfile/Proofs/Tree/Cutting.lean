import Listfile.Proofs.Text.Lines
import Listfile.Tree.Scan
import Mathlib.Data.List.TakeWhile
import Mathlib.Tactic.Common

/-!
# Cutting again

Each way of cutting a word off a text looks only a little beyond the word.  What was cut off once is
therefore cut off again when something else stands behind it.

* `splitUnquoted_local`, `splitQuoted_local`, `splitOnce?_local`: arguments and brackets.
* `bracketLevel?_append_right`, `bracketLevel?_eq_none_append`: what opens a bracket, and what does not.
* `restOfLine_append`, `drop_restOfLine`: the rest of a line.
-/

namespace Listfile.Tree

/-! ### Arguments without quotes -/

theorem splitUnquoted_cons {c : Char} (hb : c ≠ '\\') (cs : List Char) :
    splitUnquoted (c :: cs)
      = if endsUnquoted c then ([], c :: cs) else addFront [c] (splitUnquoted cs) := by
  cases cs <;> simp [splitUnquoted, hb]

theorem endsUnquoted_of_splitUnquoted {c : Char} {cs : List Char} (hb : c ≠ '\\')
    (h : (splitUnquoted (c :: cs)).1 = []) : endsUnquoted c = true := by
  by_contra he
  rw [splitUnquoted_cons hb, if_neg he] at h
  cases h

theorem splitUnquoted_eq_self {rest : List Char} (h : (splitUnquoted rest).1 = []) :
    splitUnquoted rest = ([], rest) := by
  have happ := splitUnquoted_append rest
  rw [h, List.nil_append] at happ
  exact Prod.ext h happ

/-- What was cut off once is cut off again before any other text that does not go on with it. -/
theorem splitUnquoted_local {s a b rest : List Char} (h : splitUnquoted s = (a, b))
    (hr : (splitUnquoted rest).1 = []) : splitUnquoted (a ++ rest) = (a, rest) := by
  fun_induction splitUnquoted s generalizing a b with
  | case1 =>
    cases h
    exact splitUnquoted_eq_self hr
  | case2 =>
    cases h
    exact splitUnquoted_eq_self hr
  | case3 d ds hd ih =>
    cases h
    have := ih (Prod.eta _).symm
    simp only [addFront, List.cons_append, List.nil_append, splitUnquoted, if_neg hd, this,
      if_true]
  | case4 =>
    cases h
    exact splitUnquoted_eq_self hr
  | case5 =>
    cases h
    exact splitUnquoted_eq_self hr
  | case6 c cs hb he ih =>
    cases h
    have := ih (Prod.eta _).symm
    show splitUnquoted (c :: ((splitUnquoted cs).1 ++ rest)) = (c :: (splitUnquoted cs).1, rest)
    rw [splitUnquoted_cons hb, if_neg he, this]
    rfl

/-- What follows an argument without quotes does not go on with it. -/
theorem splitUnquoted_snd (s : List Char) : (splitUnquoted (splitUnquoted s).2).1 = [] := by
  fun_induction splitUnquoted s with
  | case1 => rfl
  | case2 d ds hd => simp [splitUnquoted, hd]
  | case3 d ds hd ih => exact ih
  | case4 => simp [splitUnquoted]
  | case5 c cs hb he => rw [splitUnquoted_cons hb, if_pos he]
  | case6 c cs hb he ih => exact ih

/-! ### Quotation marks and brackets -/

theorem splitQuoted_local {s a b : List Char} (h : splitQuoted s = some (a, b)) (rest : List Char) :
    splitQuoted (a ++ rest) = some (a, rest) := by
  fun_induction splitQuoted s generalizing a b with
  | case1 cs =>
    cases h
    rfl
  | case2 c cs ih =>
    obtain ⟨⟨a', b'⟩, hs, h'⟩ := Option.map_eq_some_iff.1 h
    cases h'
    simp [addFront, splitQuoted, ih hs]
  | case3 c cs hq hb ih =>
    obtain ⟨⟨a', b'⟩, hs, h'⟩ := Option.map_eq_some_iff.1 h
    cases h'
    have hb' : ∀ d ds, c = '\\' → a' ++ rest = d :: ds → False := by
      intro d ds hc hd
      cases cs with
      | nil => cases hs
      | cons e es => exact hb e es hc rfl
    show splitQuoted (c :: (a' ++ rest)) = some (c :: a', rest)
    rw [splitQuoted]
    · rw [ih hs]
      rfl
    · exact hq
    · exact hb'
  | case4 => cases h

/-- Whether a text begins with `mark` is decided by any front of it that is long enough. -/
theorem dropPrefix?_eq_none_of_isPrefix {mark s t : List Char} (hp : t <+: s)
    (hl : mark.length ≤ t.length) (h : dropPrefix? mark s = none) (rest : List Char) :
    dropPrefix? mark (t ++ rest) = none := by
  rw [Option.eq_none_iff_forall_not_mem] at h ⊢
  intro r hr
  have hm : mark <+: t ++ rest := ⟨r, (dropPrefix?_eq_some_iff.1 hr).symm⟩
  have hmt : mark <+: t := List.prefix_of_prefix_length_le hm (List.prefix_append t rest) hl
  obtain ⟨u, hu⟩ := hmt.trans hp
  exact h u (dropPrefix?_eq_some_iff.2 hu.symm)

/-- Text is cut around the first occurrence of `mark`, whatever follows that. -/
theorem splitOnce?_local {mark s a b : List Char} (h : splitOnce? mark s = some (a, b))
    (rest : List Char) : splitOnce? mark (a ++ (mark ++ rest)) = some (a, rest) := by
  induction s generalizing a with
  | nil =>
    by_cases hm : mark = []
    · simp only [splitOnce?, hm, if_true, Option.some.injEq, Prod.mk.injEq] at h
      obtain ⟨rfl, rfl⟩ := h
      subst hm
      cases rest <;> rfl
    · simp [splitOnce?, hm] at h
  | cons c cs ih =>
    cases hd : dropPrefix? mark (c :: cs) with
    | some r =>
      simp only [splitOnce?, hd, Option.some.injEq, Prod.mk.injEq] at h
      obtain ⟨rfl, rfl⟩ := h
      have hdrop : dropPrefix? mark (mark ++ rest) = some rest := dropPrefix?_eq_some_iff.2 rfl
      cases mark with
      | nil => cases rest <;> rfl
      | cons m ms =>
        simp only [List.nil_append, List.cons_append] at hdrop ⊢
        simp only [splitOnce?, hdrop]
    | none =>
      have hs := h
      simp only [splitOnce?, hd, Option.map_eq_some_iff, Prod.mk.injEq, Prod.exists] at h
      obtain ⟨a', b', hab, rfl, rfl⟩ := h
      have hcs : c :: a' ++ mark <+: c :: cs :=
        ⟨b', by rw [splitOnce?_append hab]; simp⟩
      have hnone : dropPrefix? mark (c :: (a' ++ (mark ++ rest))) = none := by
        have := dropPrefix?_eq_none_of_isPrefix hcs (by simp; omega) hd rest
        simpa using this
      simp only [List.cons_append, splitOnce?, hnone, ih hab, Option.map_some]

theorem bracketLevel?_signsAnd (level : Nat) (rest : List Char) :
    bracketLevel? (signsAnd level '[' ++ rest) = some level := by
  have hall : ∀ c ∈ List.replicate level '=', (c == '=') = true := by
    intro c hc
    simp [List.eq_of_mem_replicate hc]
  rw [bracketLevel?, signsAnd, List.append_assoc, List.dropWhile_append_of_pos hall,
    List.takeWhile_append_of_pos hall]
  simp

theorem bracketLevel?_append_right {cs : List Char} {level : Nat} (h : bracketLevel? cs = some level)
    (rest : List Char) : bracketLevel? (cs ++ rest) = some level := by
  rw [bracketLevel?_append h, List.append_assoc]
  exact bracketLevel?_signsAnd level _

/-- A text that opens no bracket opens none either before what begins with another character. -/
theorem bracketLevel?_eq_none_append {cs rest : List Char} (h : bracketLevel? cs = none)
    (hr : ∀ c ∈ rest.head?, c ≠ '=' ∧ c ≠ '[') : bracketLevel? (cs ++ rest) = none := by
  induction cs with
  | nil =>
    cases rest with
    | nil => exact h
    | cons c rest =>
      obtain ⟨he, hb⟩ := hr c rfl
      simp [bracketLevel?, he, hb]
  | cons c cs ih =>
    by_cases hc : c = '='
    · subst hc
      have hcs : bracketLevel? cs = none := by
        unfold bracketLevel? at h ⊢
        simp only [List.dropWhile_cons, beq_self_eq_true, if_true] at h
        split
        · rename_i ds hd
          simp [hd] at h
        · rfl
      have := ih hcs
      unfold bracketLevel? at this ⊢
      simp only [List.cons_append, List.dropWhile_cons, beq_self_eq_true, if_true]
      split
      · rename_i ds hd
        simp [hd] at this
      · rfl
    · by_cases hb : c = '['
      · subst hb
        simp [bracketLevel?] at h
      · simp [bracketLevel?, hc, hb]

/-! ### Lines -/

/-- The text ends a line, or is nothing. -/
def EndsLine (rest : List Char) : Prop :=
  rest = [] ∨ (∃ cs, rest = '\n' :: cs) ∨ ∃ cs, rest = '\r' :: '\n' :: cs

theorem newline_not_mem_restOfLine (cs : List Char) : '\n' ∉ restOfLine cs := by
  intro h
  have hpre : restOfLine cs <+: cs.takeWhile (· != '\n') := by
    unfold restOfLine dropLastIf
    split
    · exact List.dropLast_prefix _
    · exact List.prefix_rfl
  have := List.mem_takeWhile_imp (hpre.subset h)
  simp at this

/-- A line that does not end with a carriage return is cut off again before any end of a line. -/
theorem restOfLine_append {line rest : List Char} (hn : '\n' ∉ line) (hl : line.getLast? ≠ some '\r')
    (hr : EndsLine rest) : restOfLine (line ++ rest) = line := by
  have hall : ∀ c ∈ line, (c != '\n') = true := by
    intro c hc
    have : c ≠ '\n' := fun e => hn (e ▸ hc)
    simpa using this
  rw [restOfLine, List.takeWhile_append_of_pos hall]
  rcases hr with rfl | ⟨cs, rfl⟩ | ⟨cs, rfl⟩
  · simpa using dropLastIf_eq_self hl
  · simpa using dropLastIf_eq_self hl
  · simpa using dropLastIf_concat '\r' line

/-- What follows the rest of a line: nothing, the end of the line, or a carriage return that ends the
text. -/
theorem drop_restOfLine (cs : List Char) :
    EndsLine (cs.drop (restOfLine cs).length) ∨
      cs.drop (restOfLine cs).length = ['\r'] := by
  have hsplit := List.takeWhile_append_dropWhile (p := (· != '\n')) (l := cs)
  have hhead : cs.dropWhile (· != '\n') = [] ∨ ∃ ds, cs.dropWhile (· != '\n') = '\n' :: ds := by
    cases hd : cs.dropWhile (· != '\n') with
    | nil => exact .inl rfl
    | cons d ds =>
      have := List.head?_dropWhile_not (· != '\n') cs
      rw [hd] at this
      have hd' : d = '\n' := by simpa using this
      exact .inr ⟨ds, by rw [hd']⟩
  by_cases hr : (cs.takeWhile (· != '\n')).getLast? = some '\r'
  · obtain ⟨line, hline⟩ := List.getLast?_eq_some_iff.1 hr
    have hrest : restOfLine cs = line := by
      rw [restOfLine, hline, dropLastIf_concat]
    have hdrop : cs.drop (restOfLine cs).length = '\r' :: cs.dropWhile (· != '\n') := by
      have hcs : cs = line ++ '\r' :: cs.dropWhile (· != '\n') := by
        conv_lhs => rw [← hsplit, hline, List.append_assoc, List.singleton_append]
      rw [hrest]
      conv_lhs => rw [hcs]
      exact List.drop_left
    rw [hdrop]
    rcases hhead with h | ⟨ds, h⟩
    · exact .inr (by rw [h])
    · exact .inl (.inr (.inr ⟨ds, by rw [h]⟩))
  · have hrest : restOfLine cs = cs.takeWhile (· != '\n') := by
      rw [restOfLine, dropLastIf_eq_self hr]
    rw [hrest, drop_length_takeWhile]
    rcases hhead with h | ⟨ds, h⟩
    · exact .inl (.inl h)
    · exact .inl (.inr (.inl ⟨ds, h⟩))

end Listfile.Tree
