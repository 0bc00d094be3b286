import Listfile.Proofs.Grammar.Delimiting
import Listfile.Proofs.Regex.Looping
import Listfile.Tree.Parse

/-!
# What some patterns find

* `search_anything_cases`, `search_lineEnd_cases`: patterns that match nothing.
* `passes_of_search_word`: names.
* **`exists_search_commandOpener`**: the name of a command is found if it is not too long.
-/

namespace Listfile.Grammar

open Listfile.Tree
open Regex hiding isNameChar

variable {place c d e : Cursor} {u v : List Char}

/-! ### Patterns that match nothing -/

/-- **A character that is no blank is found ahead**, but not passed. -/
theorem search_anything_cases (place : Cursor) :
    (place.after.head?.any (CharSet.compl .blanks).contains = true ∧
        ∃ groups, anything.search place = .found ⟨place, place⟩ groups) ∨
      (place.after.head?.any (CharSet.compl .blanks).contains = false ∧ anything.search place = .notFound) := by
  let inner : Regex.Plan := .seq (.look false (.chars (.compl .blanks))) .done
  let th := (Thread.start 0 place).mark 0
  have hrun (fuel : Nat) : (anything.machine place).run place.offset (fuel + 5)
      = (⟨[.follow (.chars (.compl .blanks)), .moveTo place, .follow .done, .mark 1], th, [], 0⟩ : Machine).run
        place.offset fuel := by
    rw [show fuel + 5 = fuel + 2 + 3 from rfl]
    refine (run_seq_searchStart inner 0 (fuel + 2) place).trans ?_
    rw [run_step rfl, run_step rfl]
    rfl
  have hverdict : anything.verdict place
      = (anything.machine place).search place.offset (7 + 5) backtrackLimit := rfl
  by_cases hhead : place.after.head?.any (CharSet.compl .blanks).contains = true
  · refine .inl ⟨hhead, ?_⟩
    obtain ⟨x, hx, hblank⟩ := Option.any_eq_true .. |>.1 hhead
    obtain ⟨cs, hcs⟩ := List.head?_eq_some_iff.1 hx
    obtain ⟨e, hnext, -⟩ := Cursor.next?_of_after hcs
    have htake : (⟨[.follow (.chars (.compl .blanks)), .moveTo place, .follow .done, .mark 1], th, [], 0⟩
        : Machine).step place.offset = .goOn ⟨[.moveTo place, .follow .done, .mark 1], th.moveTo e, [], 0⟩ := by
      show Machine.goOnWith _ _ (th.take? _) = _
      rw [Thread.take?_of_contains hblank (show th.here.next? = _ from hnext)]
      rfl
    have hfound : anything.verdict place = .found (((th.moveTo e).moveTo place).mark 1) := by
      rw [hverdict]
      refine search_of_done ?_
      rw [hrun, run_step htake]
      rfl
    exact exists_search_of_verdict rfl (by decide) hfound
  · have hhead : place.after.head?.any (CharSet.compl .blanks).contains = false := by simpa using hhead
    refine .inr ⟨hhead, ?_⟩
    have hstuck : (⟨[.follow (.chars (.compl .blanks)), .moveTo place, .follow .done, .mark 1], th, [], 0⟩
        : Machine).step place.offset = .stuck [] 0 := by
      show Machine.goOnWith _ _ (th.take? _) = _
      rw [Thread.take?_of_not (show th.here.after.head?.any _ = false from hhead)]
      rfl
    rw [search_eq, hverdict, Machine.search, hrun, Machine.run, hstuck]

/-- **The end of a line is found where nothing stands ahead.** -/
theorem search_lineEnd_cases (place : Cursor) :
    (place.after = [] ∧ lineEnd.search place = .found ⟨place, place⟩ []) ∨
      (place.after ≠ [] ∧ ∀ whole groups, lineEnd.search place ≠ .found whole groups) := by
  cases hafter : place.after with
  | nil =>
    refine .inl ⟨rfl, ?_⟩
    obtain ⟨before, after, offset, left, hoffset, hleft⟩ := place
    obtain rfl : after = [] := hafter
    exact search_unit (e := .seq (.assertion .textEnd) .empty) ⟨trivial, trivial⟩ 0 _
  | cons x cs =>
    refine .inr ⟨List.cons_ne_nil x cs, fun whole groups hfound => ?_⟩
    obtain ⟨_, rfl, _, ⟨rfl, hend⟩, -⟩ := leads_of_search rfl hfound
    simp [Assertion.holds, Cursor.atEnd, hafter] at hend

/-! ### Names -/

/-- The characters that end arguments, and the backslash. -/
def delimiters : List Char := [' ', '\t', '"', '(', ')', '#', '\\']

/-- A name begins with a character that names may begin with, and crosses no delimiters. -/
theorem passes_of_search_word {whole : Capture} {groups : List (Option Capture)}
    (h : word.search place = .found whole groups) : ∃ x u, firstOfName.contains x = true ∧
      place.Passes (x :: u) whole.last ∧ ∀ y ∈ delimiters, y ∉ x :: u := by
  obtain ⟨_, rfl, d, ⟨e, hfirst, hmore⟩, hlast⟩ := leads_of_search rfl h
  obtain ⟨x, hx, hcontains⟩ := CharSet.Takes.passes hfirst
  obtain ⟨u, hu⟩ := Expr.Leads.ahead hmore
  obtain rfl : d = whole.last := hlast
  have hname : place.Passes (x :: u) whole.last := hx.trans hu
  refine ⟨x, u, hcontains, hname, fun y hy => ?_⟩
  have havoids : word.plan.avoids y = true :=
    List.all_eq_true.1 (by decide : delimiters.all (word.plan.avoids ·) = true) y hy
  obtain ⟨v, hv, hyv⟩ := avoids_of_search rfl havoids h
  rwa [hname.unique_text hv]

/-! ### Names of commands -/

theorem contains_capitals (x : Char) : (CharSet.range 'A' 'Z').contains x = x.isUpper := (Bool.decide_and _ _).symm

theorem contains_restOfName (x : Char) : restOfName.contains x = isNameChar x := by
  show ((CharSet.range 'A' 'Z').contains x || (x.isLower || (x.isDigit || x == '_')))
    = (x.isUpper || x.isLower || x.isDigit || x == '_')
  rw [contains_capitals, Bool.or_assoc, Bool.or_assoc]

theorem contains_firstOfName (x : Char) : firstOfName.contains x = (x.isAlpha || x == '_') := by
  show ((CharSet.range 'A' 'Z').contains x || (x.isLower || x == '_')) = (x.isUpper || x.isLower || x == '_')
  rw [contains_capitals, Bool.or_assoc]

theorem toNat_lt_of_range {first last x : Char} (h : (CharSet.range first last).contains x = true)
    (hlast : last.toNat < 0x80) : x.toNat < 0x80 := by
  have hle : x ≤ last := of_decide_eq_true (Bool.and_eq_true_iff.1 h).2
  exact Nat.lt_of_le_of_lt (UInt32.le_iff_toNat_le.1 (Char.le_def.1 hle)) hlast

/-- Names of commands are words. -/
theorem isWordChar_of_isNameChar {x : Char} (h : isNameChar x = true) : isWordChar x = true := by
  have hascii : x.toNat < 0x80 := by
    rw [← contains_restOfName] at h
    rcases Bool.or_eq_true_iff.1 h with hupper | h
    · exact toNat_lt_of_range hupper (by decide)
    rcases Bool.or_eq_true_iff.1 h with hlower | h
    · exact toNat_lt_of_range hlower (by decide)
    rcases Bool.or_eq_true_iff.1 h with hdigit | h
    · exact toNat_lt_of_range hdigit (by decide)
    · rw [eq_of_beq h]
      decide
  unfold isWordChar
  rw [if_pos hascii]
  exact h

/-- The plan of a parenthesis as a group. -/
def parenthesis : Regex.Plan := .unit (.seq (.group 2 (.chars (.single '('))) .empty)

/-- What is left to do behind the name of a command. -/
def behindName : List Task :=
  [.follow .done, .mark 3, .follow (.seq (.star (.chars .blanks) true) parenthesis), .follow .done, .mark 1]

/-- What is left to do behind the blanks. -/
def behindBlanks : List Task := [.follow parenthesis, .follow .done, .mark 1]

/-- The thread behind the first character of a name. -/
def nameThread (place c : Cursor) : Thread := (((Thread.start 2 place).mark 0).mark 2).moveTo c

variable {origin depth : Nat} {th : Thread} {branches : List Branch}

/-- Up to the loop over the name: at the edge of a word its first character is passed. -/
theorem run_commandOpener {x : Char} (hboundary : Assertion.wordBoundary.holds place = true)
    (hx : firstOfName.contains x = true) (hnext : place.next? = some (x, c)) (k : Nat) :
    (commandOpener.machine place).run place.offset (k + 12)
      = (⟨.star (.chars restOfName) true :: behindName, nameThread place c, [], 0⟩ : Machine).run place.offset k := by
  have hguard (tasks : List Task) (t : Thread) (ht : t.here = place) :
      (⟨.follow (.assertion .wordBoundary) :: tasks, t, [], 0⟩ : Machine).step place.offset
        = .goOn ⟨tasks, t, [], 0⟩ := by
    show Machine.goOnIf _ _ (Assertion.wordBoundary.holds t.here) = _
    rw [ht, hboundary]
    rfl
  have htake (tasks : List Task) (t : Thread) (ht : t.here = place) :
      (⟨.follow (.chars firstOfName) :: tasks, t, [], 0⟩ : Machine).step place.offset
        = .goOn ⟨tasks, t.moveTo c, [], 0⟩ := by
    show Machine.goOnWith _ _ (t.take? firstOfName) = _
    rw [Thread.take?_of_contains hx (ht ▸ hnext)]
    rfl
  rw [show k + 12 = k + 9 + 3 from rfl]
  refine (run_seq_searchStart _ 2 (k + 9) place).trans ?_
  rw [run_step rfl, run_step rfl]
  refine (run_step (hguard _ _ rfl)).trans ?_
  rw [run_step rfl, run_step rfl, run_step rfl]
  refine (run_step (htake _ _ rfl)).trans ?_
  rw [run_step rfl, run_step rfl]
  rfl

/-- From the end of the name to the loop over the blanks. -/
theorem run_behindName (k : Nat) : (⟨behindName, th, branches, depth⟩ : Machine).run origin (k + 4)
    = (⟨.star (.chars .blanks) true :: behindBlanks, th.mark 3, branches, depth⟩ : Machine).run origin k := by
  unfold behindName
  rw [run_step rfl, run_step rfl, run_step rfl, run_step rfl]
  rfl

/-- From the end of the blanks to the end of the match. -/
theorem exists_run_behindBlanks (h : th.here.Passes ['('] e) : ∃ th', ∀ k,
    (⟨behindBlanks, th, branches, depth⟩ : Machine).run origin (k + 4) = .done th' := by
  have hways : (Expr.seq (.group 2 (.chars (.single '('))) .empty).ways th.here
      = ((Matcher.ofSet .ahead (.single '(')).run [(Arrival.start th.here).mark 4]).map (·.mark 5) := rfl
  obtain ⟨th', hunit⟩ : ∃ th', th.unit? (.seq (.group 2 (.chars (.single '('))) .empty) = some th' := by
    have hrun := run_single (a := (Arrival.start th.here).mark 4) (d := e) h
    unfold Thread.unit?
    rw [hways, hrun]
    exact ⟨_, rfl⟩
  refine ⟨th'.mark 1, fun k => ?_⟩
  have hstep : (⟨behindBlanks, th, branches, depth⟩ : Machine).step origin
      = .goOn ⟨[.follow .done, .mark 1], th', branches, depth⟩ := by
    show Machine.goOnWith _ _ (Thread.unit? _ _) = _
    rw [hunit]
    rfl
  rw [run_step hstep, run_step rfl, run_step rfl]
  rfl

theorem contains_blanks {y : Char} (h : isLineBlank y = true) : CharSet.blanks.contains y = true := by
  rcases Bool.or_eq_true_iff.1 h with hy | hy <;>
    · rw [eq_of_beq hy]
      rfl

/-- The name ends before the blanks or the parenthesis. -/
theorem head?_behindName {space : List Char} (hspace : ∀ x ∈ space, isLineBlank x = true) (rest : List Char) :
    (space ++ '(' :: rest).head?.any restOfName.contains = false := by
  cases space with
  | nil => rfl
  | cons y ys =>
    rcases Bool.or_eq_true_iff.1 (hspace y List.mem_cons_self) with hy | hy <;>
      · rw [eq_of_beq hy]
        rfl

/-- At the beginning of a name is the edge of a word. -/
theorem holds_wordBoundary {x : Char} {cs : List Char} (hx : isNameChar x = true) (hahead : place.after = x :: cs)
    (hbefore : place.before.head?.any isWordChar = false) : Assertion.wordBoundary.holds place = true := by
  simp [Assertion.holds, hbefore, hahead, isWordChar_of_isNameChar hx]

/-- **The name of a command is found**, with the blanks and the parenthesis behind it, if there are not too many
characters to go back over. -/
theorem exists_search_commandOpener {name space rest : List Char} (hname : isCommandName name = true)
    (hspace : ∀ x ∈ space, isLineBlank x = true) (hbefore : place.before.head?.any isWordChar = false)
    (hahead : place.after = name ++ (space ++ '(' :: rest))
    (hlength : name.length + space.length ≤ Machine.maxBranches) :
    ∃ whole groups, commandOpener.search place = .found whole groups := by
  cases name with
  | nil => cases hname
  | cons x more =>
    obtain ⟨hx, hmore⟩ := Bool.and_eq_true_iff.1 hname
    have hmore : ∀ y ∈ more, isNameChar y = true := List.all_eq_true.1 hmore
    have hfirst : isNameChar x = true := by
      rcases Bool.or_eq_true_iff.1 hx with hx | hx <;> simp [isNameChar, Char.isAlphanum, hx]
    obtain ⟨c, hnext, hc⟩ := Cursor.next?_of_after hahead
    obtain ⟨d, hd, hdafter⟩ := Cursor.exists_passes (List.cons_eq_cons.1 (hc.after.symm.trans hahead)).2
    obtain ⟨e, he, heafter⟩ := Cursor.exists_passes hdafter
    obtain ⟨f, hf, -⟩ := Cursor.exists_passes (u := ['(']) heafter
    -- the name ends before the blanks, and these before the parenthesis
    have hend : d.after.head?.any restOfName.contains = false := by
      rw [hdafter]
      exact head?_behindName hspace rest
    have hend' : e.after.head?.any CharSet.blanks.contains = false := by
      rw [heafter]
      rfl
    have hroom : more.length + space.length + 2 ≤ place.left := by
      rw [place.left_eq, hahead]
      simp only [List.length_cons, List.length_append]
      omega
    have heffort : 2 * (more.length + space.length) + 20 ≤
        commandOpener.plan.effort (place.offset + place.left) + 5 := by
      simp only [commandOpener, commandWith, Plan.effort]
      omega
    rw [List.length_cons] at hlength
    let fuel := commandOpener.plan.effort (place.offset + place.left) + 5
    -- the machine goes back where the name ends, and where the blanks end
    obtain ⟨left, hpastName⟩ : ∃ left, (commandOpener.machine place).search place.offset fuel backtrackLimit
        = Machine.search place.offset fuel 999999
          ⟨behindName, (nameThread place c).moveTo d, left, 0 + more.length⟩ :=
      search_star hd (fun y hy => (contains_restOfName y).trans (hmore y hy)) hend rfl (by omega) (by omega)
        (run_commandOpener (holds_wordBoundary hfirst hahead hbefore) ((contains_firstOfName x).trans hx) hnext)
    obtain ⟨left', hpastBlanks⟩ : ∃ left',
        (⟨behindName, (nameThread place c).moveTo d, left, 0 + more.length⟩ : Machine).search place.offset fuel
            (999998 + 1)
          = Machine.search place.offset fuel 999998 ⟨behindBlanks, (((nameThread place c).moveTo d).mark 3).moveTo e,
            left', 0 + more.length + space.length⟩ :=
      search_star he (fun y hy => contains_blanks (hspace y hy)) hend' rfl (by omega) (by omega) run_behindName
    obtain ⟨th', hdone⟩ : ∃ th', ∀ k, (⟨behindBlanks, (((nameThread place c).moveTo d).mark 3).moveTo e, left',
        0 + more.length + space.length⟩ : Machine).run place.offset (k + 4) = .done th' :=
      exists_run_behindBlanks hf
    have hfound : commandOpener.verdict place = .found th' := by
      refine hpastName.trans (hpastBlanks.trans (search_of_done ?_))
      obtain ⟨k, hk⟩ := Nat.exists_eq_add_of_le' (show 4 ≤ fuel by omega)
      rw [hk]
      exact hdone k
    obtain ⟨groups, hsearch⟩ := exists_search_of_verdict rfl (by decide) hfound
    exact ⟨_, groups, hsearch⟩

end Listfile.Grammar
