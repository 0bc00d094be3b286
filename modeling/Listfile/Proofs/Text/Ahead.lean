import Listfile.Proofs.Text.Lines
import Listfile.Proofs.Tree.Cutting

/-!
# The rest of a line and the lines behind it

* `behindLine`: the lines behind the first one.
* **`exists_splitLines`**: a text is cut into its first line and the lines behind it.
* `exists_of_restOfLine`: what follows a part of the rest of a line.
* `ends_of_restOfLine`, `exists_ending`: what follows where nothing is left of a line.
* `Terminates`: the characters that end lines.
* `OneLine`, `restOfLine_append_of_oneLine`: text that ends no line.
-/

namespace Listfile

open Listfile.Tree

variable {text rest u v : List Char}

/-- The lines behind the first one. -/
def behindLine (text : List Char) : List Char := (text.dropWhile (· != '\n')).tail

theorem dropWhile_feed (text : List Char) :
    text.dropWhile (· != '\n') = [] ∨ text.dropWhile (· != '\n') = '\n' :: behindLine text := by
  unfold behindLine
  cases hdrop : text.dropWhile (· != '\n') with
  | nil => exact .inl rfl
  | cons c cs =>
    have hc := List.head?_dropWhile_not (· != '\n') text
    rw [hdrop] at hc
    have hc : c = '\n' := by simpa using hc
    exact .inr (by rw [hc, List.tail_cons])

/-- The beginning of a line is read until a line feed comes. -/
theorem splitLinesFrom_of_notMem (begun : List Char) {front : List Char} (hfront : '\n' ∉ front) (rest : List Char) :
    splitLinesFrom begun (front ++ rest) = splitLinesFrom (front.reverse ++ begun) rest := by
  induction front generalizing begun with
  | nil => rfl
  | cons c front ih =>
    obtain ⟨hc, hfront⟩ := not_or.1 (fun h => hfront (List.mem_cons.2 h))
    rw [List.cons_append, splitLinesFrom, if_neg (Ne.symm hc), ih _ hfront, List.reverse_cons, List.append_assoc]
    rfl

/-- A text whose only line feed stands at its end is one line. -/
theorem splitLines_concat {front : List Char} (hfront : '\n' ∉ front) :
    splitLines (front ++ ['\n']) = [front ++ ['\n']] := by
  rw [splitLines, splitLinesFrom_of_notMem [] hfront, splitLinesFrom, if_pos rfl, List.append_nil, List.reverse_cons,
    List.reverse_reverse, splitLinesFrom]

theorem dropLastIf_of_notMem {c : Char} {line : List Char} (h : c ∉ line) : dropLastIf c line = line :=
  dropLastIf_eq_self fun hlast => h (List.mem_of_getLast? hlast)

/-- **The first line of a text, and the lines behind it.** -/
theorem exists_splitLines (h : text ≠ []) : ∃ line, splitLines text = line :: splitLines (behindLine text) ∧
    lineContent line = restOfLine text ∧ line ++ behindLine text = text := by
  have hsplit := List.takeWhile_append_dropWhile (p := (· != '\n')) (l := text)
  have hfront : '\n' ∉ text.takeWhile (· != '\n') := by
    intro hmem
    simpa using List.mem_takeWhile_imp hmem
  have hlines := splitLinesFrom_of_notMem [] hfront (text.dropWhile (· != '\n'))
  rw [hsplit, List.append_nil] at hlines
  rcases dropWhile_feed text with hdrop | hdrop
  · have hbehind : behindLine text = [] := by rw [behindLine, hdrop, List.tail_nil]
    rw [hdrop, List.append_nil] at hsplit
    rw [hdrop, hsplit, splitLinesFrom] at hlines
    · rw [hsplit] at hfront
      refine ⟨text, ?_, ?_, ?_⟩
      · rw [hbehind, splitLines, hlines, List.reverse_reverse]
        rfl
      · rw [lineContent, restOfLine, hsplit, dropLastIf_of_notMem hfront]
      · rw [hbehind, List.append_nil]
    · exact fun hnil => h (List.reverse_eq_nil_iff.1 hnil)
  · rw [hdrop, splitLinesFrom, if_pos rfl, List.reverse_cons, List.reverse_reverse] at hlines
    refine ⟨text.takeWhile (· != '\n') ++ ['\n'], hlines, ?_, ?_⟩
    · rw [lineContent, dropLastIf_concat, restOfLine]
    · rw [List.append_assoc, List.singleton_append, ← hdrop, hsplit]

theorem restOfLine_of_cons {c : Char} (h : restOfLine (c :: rest) ≠ []) :
    c ≠ '\n' ∧ restOfLine (c :: rest) = c :: restOfLine rest ∧ behindLine (c :: rest) = behindLine rest := by
  have hc : c ≠ '\n' := by
    rintro rfl
    exact h (by simp [restOfLine, dropLastIf])
  have htake : (c :: rest).takeWhile (· != '\n') = c :: rest.takeWhile (· != '\n') := by
    simp [hc]
  refine ⟨hc, ?_, ?_⟩
  · rw [restOfLine, htake] at h ⊢
    rw [restOfLine]
    unfold dropLastIf at h ⊢
    cases hmore : rest.takeWhile (· != '\n') with
    | nil =>
      rw [hmore] at h
      split
      · rename_i hlast
        rw [if_pos hlast] at h
        exact absurd rfl h
      · rfl
    | cons d ds =>
      rw [List.getLast?_cons_cons]
      split <;> rfl
  · simp [behindLine, hc]

/-- What follows a part of the rest of a line goes on with it. -/
theorem exists_of_restOfLine (h : restOfLine rest = u ++ v) :
    ∃ rest', rest = u ++ rest' ∧ restOfLine rest' = v ∧ behindLine rest' = behindLine rest := by
  induction u generalizing rest with
  | nil => exact ⟨rest, rfl, h, rfl⟩
  | cons c u ih =>
    cases rest with
    | nil => cases h
    | cons d rest =>
      have hne : restOfLine (d :: rest) ≠ [] := by
        rw [h]
        exact List.cons_ne_nil _ _
      obtain ⟨-, hrest, hbehind⟩ := restOfLine_of_cons hne
      obtain ⟨rfl, hmore⟩ := List.cons_eq_cons.1 (hrest.symm.trans h)
      obtain ⟨rest', rfl, hv, hbehind'⟩ := ih hmore
      exact ⟨rest', rfl, hv, hbehind'.trans hbehind.symm⟩

/-- Where nothing is left of a line, its end follows, unless it is the last. -/
theorem ends_of_restOfLine (h : restOfLine rest = []) (hmore : behindLine rest ≠ []) :
    ∃ ending, (ending = ['\n'] ∨ ending = ['\r', '\n']) ∧ rest = ending ++ behindLine rest := by
  have hends := drop_restOfLine rest
  rw [h] at hends
  rcases hends with (rfl | ⟨cs, rfl⟩ | ⟨cs, rfl⟩) | rfl
  · exact absurd rfl hmore
  · exact ⟨['\n'], .inl rfl, rfl⟩
  · exact ⟨['\r', '\n'], .inr rfl, rfl⟩
  · exact absurd rfl hmore

/-- A carriage return at the end of a line does not belong to the rest of it. -/
theorem restOfLine_return : restOfLine ('\r' :: '\n' :: rest) = [] := rfl

/-- The character belongs to the end of a line, given what follows it. -/
def Terminates (c : Char) (behind : List Char) : Prop := c = '\n' ∨ c = '\r' ∧ behind.head? = some '\n'

/-- No character of the rest of a line belongs to its end. -/
theorem not_terminates_of_restOfLine {c : Char} (h : restOfLine (c :: rest) ≠ []) : ¬ Terminates c rest := by
  rintro (rfl | ⟨rfl, hfeed⟩)
  · exact (restOfLine_of_cons h).1 rfl
  · obtain ⟨cs, rfl⟩ := List.head?_eq_some_iff.1 hfeed
    exact h restOfLine_return

theorem not_terminates_of_append (h : restOfLine (u ++ rest) = u ++ v) {before inner : List Char} {c : Char}
    (hu : u = before ++ c :: inner) : ¬ Terminates c (inner ++ rest) := by
  subst hu
  rw [List.append_assoc, List.append_assoc] at h
  obtain ⟨rest', hrest, hahead, -⟩ := exists_of_restOfLine h
  rw [← List.append_cancel_left hrest] at hahead
  refine not_terminates_of_restOfLine ?_
  rw [show c :: (inner ++ rest) = c :: inner ++ rest from rfl, hahead]
  exact List.cons_ne_nil _ _

/-! ### Text on one line -/

/-- The text has no characters that end lines. -/
def OneLine (u : List Char) : Prop := '\n' ∉ u ∧ '\r' ∉ u

instance (u : List Char) : Decidable (OneLine u) := inferInstanceAs (Decidable (_ ∧ _))

theorem oneLine_append : OneLine (u ++ v) ↔ OneLine u ∧ OneLine v := by
  simp only [OneLine, List.mem_append, not_or]
  exact and_and_and_comm

theorem OneLine.right (h : OneLine (u ++ v)) : OneLine v := (oneLine_append.1 h).2

theorem oneLine_signsAnd (level : Nat) {mark : Char} (h : OneLine [mark]) : OneLine (signsAnd level mark) := by
  refine oneLine_append.2 ⟨⟨fun hmem => ?_, fun hmem => ?_⟩, h⟩
  · cases List.eq_of_mem_replicate hmem
  · cases List.eq_of_mem_replicate hmem

/-- Where nothing is left of a line, the text begins with the end of the line, or it is a carriage return at the end
of a text. -/
theorem head_of_restOfLine {c : Char} (h : restOfLine (c :: rest) = []) :
    c = '\n' ∨ c = '\r' ∧ (rest = [] ∨ ∃ cs, rest = '\n' :: cs) := by
  have hends := drop_restOfLine (c :: rest)
  rw [h] at hends
  rcases hends with (hcs | ⟨cs, hcs⟩ | ⟨cs, hcs⟩) | hcs
  · cases hcs
  · exact .inl (List.cons_eq_cons.1 hcs).1
  · exact .inr ⟨(List.cons_eq_cons.1 hcs).1, .inr ⟨cs, (List.cons_eq_cons.1 hcs).2⟩⟩
  · exact .inr ⟨(List.cons_eq_cons.1 hcs).1, .inl (List.cons_eq_cons.1 hcs).2⟩

theorem restOfLine_append_of_oneLine (hu : OneLine u) (rest : List Char) :
    restOfLine (u ++ rest) = u ++ restOfLine rest := by
  obtain ⟨hfeed, hreturn⟩ := hu
  induction u with
  | nil => rfl
  | cons c u ih =>
    have hu := ih (fun h => hfeed (List.mem_cons_of_mem _ h)) (fun h => hreturn (List.mem_cons_of_mem _ h))
    have hne : restOfLine (c :: (u ++ rest)) ≠ [] := by
      intro hend
      rcases head_of_restOfLine hend with rfl | ⟨rfl, -⟩
      · exact hfeed List.mem_cons_self
      · exact hreturn List.mem_cons_self
    rw [List.cons_append, (restOfLine_of_cons hne).2.1, hu]
    rfl

/-- The end of a line stands in the text before a character that does not end lines. -/
theorem exists_ending {c : Char} (hc : OneLine [c]) (h : restOfLine (u ++ c :: rest) = []) :
    ∃ ending v, (ending = ['\n'] ∨ ending = ['\r', '\n']) ∧ u = ending ++ v := by
  cases u with
  | nil =>
    have hahead := restOfLine_append_of_oneLine hc rest
    cases hahead.symm.trans h
  | cons d u =>
    rcases head_of_restOfLine h with rfl | ⟨rfl, hnil | ⟨cs, hcs⟩⟩
    · exact ⟨_, u, .inl rfl, rfl⟩
    · cases u <;> cases hnil
    · cases u with
      | nil =>
        obtain ⟨rfl, -⟩ := List.cons_eq_cons.1 hcs
        exact absurd List.mem_cons_self hc.1
      | cons e u =>
        obtain ⟨rfl, -⟩ := List.cons_eq_cons.1 hcs
        exact ⟨_, u, .inr rfl, rfl⟩

end Listfile
