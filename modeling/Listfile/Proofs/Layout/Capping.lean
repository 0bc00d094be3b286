import Listfile.Proofs.Layout.Meaning
import Listfile.Proofs.Outcome

/-!
# Blank lines are capped

Behind content the first end of a line ends the line of that content, and each further one a blank line.
At the front of a file there is no such line, so that one more blank line is left there than elsewhere.

* `BlankLinesCapped`, `ListCapped`: how many blank lines may follow each other.
* `RunsWithin`: the same, told along the list, and what laying out does for it.
* `leadingLineEnds`: the blank lines at the front.
* **`capped_format`**: which blank lines are left by formatting.
-/

namespace Listfile.Layout

open Listfile.Tree

/-! ### Blank lines -/

/-- What counts of a node for blank lines. -/
inductive Mark
  | content
  | blanks
  | lineEnd
deriving DecidableEq

/-- What counts of an item. -/
def itemMark : Item → Mark
  | .space _ => .blanks
  | .newline _ => .lineEnd
  | .comment _ _ | .argument _ _ | .group _ _ _ => .content

/-- What counts of an element. -/
def elementMark : Element → Mark
  | .space _ => .blanks
  | .newline _ => .lineEnd
  | .comment _ _ | .command _ => .content

/-- Behind content, no more than `limit` blank lines follow each other: of the ends of lines between content
and content, or the end, the first one ends the line of the content before. -/
def BlankLinesCapped (limit : Nat) (ms : List Mark) : Prop :=
  ∀ front run back, ms = front ++ .content :: (run ++ back) → .content ∉ run →
    run.count .lineEnd ≤ limit + 1

/-- The ends of lines before any content: each of them ends a blank line. -/
def leadingLineEnds (ms : List Mark) : Nat := (ms.takeWhile (· != .content)).count .lineEnd

mutual

/-- Blank lines are capped between the parentheses of an item, and in all parentheses within. -/
def GroupCapped (limit : Nat) : Item → Prop
  | .group _ items _ =>
    BlankLinesCapped limit (.content :: items.map itemMark) ∧ GroupsCapped limit items
  | .argument _ _ | .space _ | .newline _ | .comment _ _ => True

/-- So they are in all of the items. -/
def GroupsCapped (limit : Nat) : List Item → Prop
  | [] => True
  | item :: items => GroupCapped limit item ∧ GroupsCapped limit items

end

/-- Blank lines are capped between the parentheses around the items.  The opening parenthesis is content. -/
def ListCapped (limit : Nat) (items : List Item) : Prop :=
  BlankLinesCapped limit (.content :: items.map itemMark) ∧ GroupsCapped limit items

/-- Blank lines are capped everywhere in a file. -/
structure Capped (style : Style) (f : File) : Prop where
  front : leadingLineEnds (f.elements.map elementMark) ≤ style.maxBlankLines
  behind : BlankLinesCapped style.maxBlankLines (f.elements.map elementMark)
  lists : ∀ c, .command c ∈ f.elements →
    ListCapped style.maxBlankLinesInArguments c.arguments.items

/-! ### Blank lines along a list -/

/-- No end of a line stands behind more than `limit` others, if there were `run` of them before. -/
def RunsWithin (limit run : Nat) : List Mark → Prop
  | [] => True
  | .content :: ms => RunsWithin limit 0 ms
  | .blanks :: ms => RunsWithin limit run ms
  | .lineEnd :: ms => run ≤ limit ∧ RunsWithin limit (run + 1) ms

section
variable {limit run : Nat} {ms ns : List Mark}

theorem RunsWithin.count_le (hrun : run ≤ limit + 1) (h : RunsWithin limit run (ms ++ ns))
    (hms : .content ∉ ms) : run + ms.count .lineEnd ≤ limit + 1 := by
  induction ms generalizing run with
  | nil => simpa using hrun
  | cons m ms ih =>
    obtain ⟨hm, hrest⟩ := not_or.1 (mt List.mem_cons.2 hms)
    cases m with
    | content => exact absurd rfl hm
    | blanks => simpa using ih hrun h hrest
    | lineEnd =>
      have hle := ih (Nat.succ_le_succ h.1) h.2 hrest
      rw [List.count_cons_self]
      omega

/-- Content ends a run. -/
theorem RunsWithin.behind_content (h : RunsWithin limit run (ms ++ .content :: ns)) :
    RunsWithin limit 0 ns := by
  induction ms generalizing run with
  | nil => exact h
  | cons m ms ih =>
    cases m with
    | content => exact ih h
    | blanks => exact ih h
    | lineEnd => exact ih h.2

theorem RunsWithin.append_content (hms : RunsWithin limit run (ms ++ [.content]))
    (hns : RunsWithin limit 0 ns) : RunsWithin limit run (ms ++ .content :: ns) := by
  induction ms generalizing run with
  | nil => exact hns
  | cons m ms ih =>
    cases m with
    | content => exact ih hms
    | blanks => exact ih hms
    | lineEnd => exact ⟨hms.1, ih hms.2⟩

theorem RunsWithin.capped (h : RunsWithin limit run ms) : BlankLinesCapped limit ms := by
  rintro front lines back rfl hlines
  have hle := h.behind_content.count_le (Nat.zero_le _) hlines
  omega

end

/-! ### The front of a list -/

@[simp] theorem leadingLineEnds_nil : leadingLineEnds [] = 0 := rfl

@[simp] theorem leadingLineEnds_content (ms : List Mark) : leadingLineEnds (.content :: ms) = 0 := rfl

@[simp] theorem leadingLineEnds_blanks (ms : List Mark) :
    leadingLineEnds (.blanks :: ms) = leadingLineEnds ms := by
  simp [leadingLineEnds]

@[simp] theorem leadingLineEnds_lineEnd (ms : List Mark) :
    leadingLineEnds (.lineEnd :: ms) = leadingLineEnds ms + 1 := by
  simp [leadingLineEnds]

/-- What stands behind content does not count for the front. -/
theorem leadingLineEnds_append {ms : List Mark} (h : .content ∈ ms) (ns : List Mark) :
    leadingLineEnds (ms ++ ns) = leadingLineEnds ms := by
  induction ms with
  | nil => cases h
  | cons m ms ih =>
    cases m with
    | content => rfl
    | blanks => simpa using ih (by simpa using h)
    | lineEnd => simpa using ih (by simpa using h)

/-! ### Items laid out -/

theorem map_itemMark_laySpace (before : Before) (p : Piece) (after : List Item) :
    (laySpace before p after).map itemMark = [] ∨ (laySpace before p after).map itemMark = [.blanks] := by
  rcases laySpace_cases before p after with hlay | ⟨q, hlay, -⟩
  · rw [hlay]
    exact .inl rfl
  · rw [hlay]
    exact .inr rfl

theorem runsWithin_layItems (limit : Nat) (before : Before) (run : Nat) (items : List Item) :
    RunsWithin limit run ((layItems limit before run items).map itemMark) := by
  induction items generalizing before run with
  | nil => trivial
  | cons item items ih =>
    rw [layItems, List.map_append]
    have hrest := ih (beforeNext item) (itemRun limit run item)
    cases item with
    | space p =>
      rw [layItem]
      rcases map_itemMark_laySpace before p items with h | h
      · rw [h]
        exact hrest
      · rw [h]
        exact hrest
    | newline p =>
      rw [layItem]
      rw [itemRun] at hrest ⊢
      split
      · rename_i hlimit
        rw [if_pos hlimit] at hrest
        exact hrest
      · rename_i hlimit
        rw [if_neg hlimit] at hrest
        exact ⟨Nat.le_of_not_lt hlimit, hrest⟩
    | comment kind p => exact hrest
    | argument kind p => exact hrest
    | group openAt inner closeAt => exact hrest

theorem groupsCapped_append {limit : Nat} {is js : List Item} (hi : GroupsCapped limit is)
    (hj : GroupsCapped limit js) : GroupsCapped limit (is ++ js) := by
  induction is with
  | nil => exact hj
  | cons i is ih => exact ⟨hi.1, ih hi.2⟩

theorem groupsCapped_laySpace (limit : Nat) (before : Before) (p : Piece) (after : List Item) :
    GroupsCapped limit (laySpace before p after) := by
  rcases laySpace_cases before p after with hlay | ⟨q, hlay, -⟩
  · rw [hlay]
    trivial
  · rw [hlay]
    exact ⟨trivial, trivial⟩

mutual

theorem groupsCapped_layItem (limit : Nat) (before : Before) (run : Nat) (after : List Item)
    (item : Item) : GroupsCapped limit (layItem limit before run after item) := by
  cases item with
  | space p => exact groupsCapped_laySpace limit before p after
  | newline p =>
    rw [layItem]
    split
    · trivial
    · exact ⟨trivial, trivial⟩
  | comment kind p => exact ⟨trivial, trivial⟩
  | argument kind p => exact ⟨trivial, trivial⟩
  | group openAt items closeAt =>
    have hruns : RunsWithin limit 0 (.content :: (layItems limit .nothing 0 items).map itemMark) :=
      runsWithin_layItems limit .nothing 0 items
    exact ⟨⟨hruns.capped, groupsCapped_layItems limit .nothing 0 items⟩, trivial⟩

theorem groupsCapped_layItems (limit : Nat) (before : Before) (run : Nat) (items : List Item) :
    GroupsCapped limit (layItems limit before run items) := by
  cases items with
  | nil => trivial
  | cons item items =>
    exact groupsCapped_append (groupsCapped_layItem limit before run items item)
      (groupsCapped_layItems limit _ _ items)

end

/-- **Items laid out have no more blank lines than they may have**, nor have the groups among them. -/
theorem listCapped_layItems (limit : Nat) (items : List Item) :
    ListCapped limit (layItems limit .nothing 0 items) := by
  have hruns : RunsWithin limit 0 (.content :: (layItems limit .nothing 0 items).map itemMark) :=
    runsWithin_layItems limit .nothing 0 items
  exact ⟨hruns.capped, groupsCapped_layItems limit .nothing 0 items⟩

/-! ### Elements laid out -/

section
variable (style : Style)

theorem runsWithin_layElements (run : Nat) (es : List Element) :
    RunsWithin style.maxBlankLines run ((layElements style run es).map elementMark) := by
  induction es generalizing run with
  | nil => trivial
  | cons e es ih =>
    rw [layElements, List.map_append]
    have hrest := ih (elementRun style run e)
    cases e with
    | command c => exact hrest
    | comment kind p => exact hrest
    | space p =>
      rw [layElement]
      split
      · exact hrest
      · exact hrest
    | newline p =>
      rw [layElement]
      rw [elementRun] at hrest ⊢
      split
      · rename_i hlimit
        rw [if_pos hlimit] at hrest
        exact hrest
      · rename_i hlimit
        rw [if_neg hlimit] at hrest
        exact ⟨Nat.le_of_not_lt hlimit, hrest⟩

/-- Laying out leaves one end of a line more at the front than there may be blank lines. -/
theorem leadingLineEnds_layElements {run : Nat} (hrun : run ≤ style.maxBlankLines + 1)
    (es : List Element) :
    leadingLineEnds ((layElements style run es).map elementMark)
      = min (leadingLineEnds (es.map elementMark)) (style.maxBlankLines + 1 - run) := by
  induction es generalizing run with
  | nil => simp [layElements]
  | cons e es ih =>
    rw [layElements, List.map_append, List.map_cons]
    cases e with
    | command c => simp [layElement, elementMark]
    | comment kind p => simp [layElement, elementMark]
    | space p =>
      rw [layElement, elementRun]
      split
      · simpa [elementMark] using ih hrun
      · simpa [elementMark] using ih hrun
    | newline p =>
      rw [layElement, elementRun]
      split
      · have hrest := ih hrun
        simp only [elementMark, leadingLineEnds_lineEnd, List.map_nil, List.nil_append]
        omega
      · have hroom : run + 1 ≤ style.maxBlankLines + 1 := by omega
        have hrest := ih hroom
        simp only [elementMark, leadingLineEnds_lineEnd, List.map_cons, List.map_nil,
          List.singleton_append]
        omega

theorem listCapped_layElements {run : Nat} {es : List Element} {c : Command}
    (h : .command c ∈ layElements style run es) :
    ListCapped style.maxBlankLinesInArguments c.arguments.items := by
  induction es generalizing run with
  | nil => cases h
  | cons e es ih =>
    rw [layElements] at h
    rcases List.mem_append.1 h with h | h
    · cases e with
      | command d =>
        rw [layElement, List.mem_singleton] at h
        cases h
        exact listCapped_layItems _ _
      | comment kind p => cases List.mem_singleton.1 h
      | space p =>
        rw [layElement] at h
        split at h
        · cases h
        · cases List.mem_singleton.1 h
      | newline p =>
        rw [layElement] at h
        split at h
        · cases h
        · cases List.mem_singleton.1 h
    · exact ih h

theorem elementMark_of_content {e : Element} (he : isBlankElement e = false) :
    elementMark e = .content := by
  cases e with
  | command c => rfl
  | comment kind p => rfl
  | space p => cases he
  | newline p => cases he

/-- What is laid out up to its last content ends with content. -/
theorem exists_layElements_concat (as : List Element) {e : Element} (he : isBlankElement e = false) :
    ∃ ms, (layElements style 0 (as ++ [e])).map elementMark = ms ++ [.content] := by
  obtain ⟨before, run, h⟩ := layElements_concat style 0 as e
  refine ⟨before.map elementMark, ?_⟩
  rw [h, List.map_append]
  cases e with
  | command c => rfl
  | comment kind p => rfl
  | space p => cases he
  | newline p => cases he

/-- **The blank lines of a file laid out.**  Behind content they are capped, and at the front there is at most
one more of them. -/
theorem marks_layFile (f : File) :
    BlankLinesCapped style.maxBlankLines ((layFile style f).elements.map elementMark) ∧
      leadingLineEnds ((layFile style f).elements.map elementMark)
        = min (leadingLineEnds (f.elements.map elementMark)) (style.maxBlankLines + 1) ∧
      ∀ c, .command c ∈ (layFile style f).elements →
        ListCapped style.maxBlankLinesInArguments c.arguments.items := by
  have hwhole : ∀ es : List Element,
      RunsWithin style.maxBlankLines 0 ((layElements style 0 es).map elementMark) ∧
        leadingLineEnds ((layElements style 0 es).map elementMark)
          = min (leadingLineEnds (es.map elementMark)) (style.maxBlankLines + 1) :=
    fun es => ⟨runsWithin_layElements style 0 es, leadingLineEnds_layElements style (Nat.zero_le _) es⟩
  unfold layFile
  split
  · rename_i hends
    rcases contentOf_cases f.elements with ⟨hall, -⟩ | ⟨as, e, bs, hes, he, -, hcontent⟩
    · rw [List.all_eq_true.2 hall] at hends
      simp at hends
    · -- the last line is ended once, behind content
      obtain ⟨hruns, hfront⟩ := hwhole (as ++ [e])
      obtain ⟨ms, hms⟩ := exists_layElements_concat style as he
      have hsource : f.elements.map elementMark
          = (as ++ [e]).map elementMark ++ bs.map elementMark := by
        rw [hes]
        simp
      have hmem : Mark.content ∈ (as ++ [e]).map elementMark := by
        simp [elementMark_of_content he]
      rw [hcontent, hsource, leadingLineEnds_append hmem, List.map_append, ← hfront]
      rw [hms] at hruns ⊢
      refine ⟨?_, leadingLineEnds_append (by simp) _, ?_⟩
      · have hend : RunsWithin style.maxBlankLines 0 [.lineEnd] := ⟨Nat.zero_le _, trivial⟩
        have happ := RunsWithin.append_content hruns hend
        rw [List.append_assoc]
        exact happ.capped
      · intro c hc
        rcases List.mem_append.1 hc with hc | hc
        · exact listCapped_layElements style hc
        · cases List.mem_singleton.1 hc
  · obtain ⟨hruns, hfront⟩ := hwhole f.elements
    exact ⟨hruns.capped, hfront, fun c => listCapped_layElements style⟩

end

/-! ### Places do not matter -/

theorem map_itemMark_unplacedOf (items : List Item) :
    (unplacedOf items).map itemMark = items.map itemMark := by
  induction items with
  | nil => rfl
  | cons item items ih =>
    rw [unplacedOf, List.map_cons, List.map_cons, ih]
    cases item <;> rfl

theorem map_elementMark_unplaced (f : File) :
    f.unplaced.elements.map elementMark = f.elements.map elementMark := by
  rw [File.unplaced, List.map_map]
  refine List.map_congr_left ?_
  intro e _
  cases e <;> rfl

mutual

theorem groupCapped_unplaced (limit : Nat) (item : Item) :
    GroupCapped limit item.unplaced ↔ GroupCapped limit item := by
  cases item with
  | group openAt items closeAt =>
    rw [Item.unplaced, GroupCapped, GroupCapped, map_itemMark_unplacedOf, groupsCapped_unplacedOf limit items]
  | _ => exact Iff.rfl

theorem groupsCapped_unplacedOf (limit : Nat) (items : List Item) :
    GroupsCapped limit (unplacedOf items) ↔ GroupsCapped limit items := by
  cases items with
  | nil => exact Iff.rfl
  | cons item items =>
    rw [unplacedOf, GroupsCapped, GroupsCapped, groupCapped_unplaced limit item,
      groupsCapped_unplacedOf limit items]

end

theorem listCapped_unplacedOf {limit : Nat} {items : List Item} :
    ListCapped limit (unplacedOf items) ↔ ListCapped limit items := by
  rw [ListCapped, ListCapped, map_itemMark_unplacedOf, groupsCapped_unplacedOf]

/-- A command of a file is one of every file that only differs in places. -/
theorem exists_command_of_unplaced {f g : File} (h : g.unplaced = f.unplaced) {c : Command}
    (hc : .command c ∈ g.elements) :
    ∃ d, .command d ∈ f.elements ∧ unplacedOf d.arguments.items = unplacedOf c.arguments.items := by
  have hmem : Element.unplaced (.command c) ∈ f.elements.map Element.unplaced := by
    rw [← show g.elements.map Element.unplaced = f.elements.map Element.unplaced from
      congrArg File.elements h]
    exact List.mem_map_of_mem hc
  obtain ⟨e, he, heq⟩ := List.mem_map.1 hmem
  cases e with
  | command d =>
    refine ⟨d, he, ?_⟩
    injection heq with heq
    exact congrArg (fun c : Command => c.arguments.items) heq
  | _ => cases heq

/-! ### Formatting -/

/-- **Formatting caps blank lines**: behind content, at the end of the file, and between parentheses.  At the
front it leaves as many as there are, up to one more than there may be: all blank lines are capped exactly if
there were no more of them at the front of the source. -/
theorem capped_format (style : Style) {source : List Char} {f : File} (h : File.parse source = .ok f) :
    ∃ out g, format style source = .ok out ∧ File.parse out = .ok g ∧
      BlankLinesCapped style.maxBlankLines (g.elements.map elementMark) ∧
      (∀ c, .command c ∈ g.elements → ListCapped style.maxBlankLinesInArguments c.arguments.items) ∧
      leadingLineEnds (g.elements.map elementMark)
        = min (leadingLineEnds (f.elements.map elementMark)) (style.maxBlankLines + 1) ∧
      (Capped style g ↔ leadingLineEnds (f.elements.map elementMark) ≤ style.maxBlankLines) := by
  obtain ⟨g, hg, hunplaced⟩ := parse_fileText style h
  obtain ⟨hbehind, hfront, hlists⟩ := marks_layFile style f
  have hmarks : g.elements.map elementMark = (layFile style f).elements.map elementMark := by
    rw [← map_elementMark_unplaced g, hunplaced, map_elementMark_unplaced]
  rw [← hmarks] at hbehind hfront
  have hcommands : ∀ c, .command c ∈ g.elements →
      ListCapped style.maxBlankLinesInArguments c.arguments.items := by
    intro c hc
    obtain ⟨d, hd, hitems⟩ := exists_command_of_unplaced hunplaced hc
    rw [← listCapped_unplacedOf, ← hitems, listCapped_unplacedOf]
    exact hlists d hd
  refine ⟨fileText style f, g, format_of_parse h, hg, hbehind, hcommands, hfront, ?_⟩
  constructor
  · intro hcapped
    have := hcapped.front
    omega
  · intro hsource
    exact ⟨by omega, hbehind, hcommands⟩

/-- Blank lines at the front, in a list, in a group, between commands and at the end. -/
theorem capped_format_groups :
    ∃ f, File.parse "\n\na(b\n\n\n\n(c\n\n \n))\n\n\n\n\n\n\nd()\n\n\n".toList = .ok f ∧
      ∃ out g, format {} "\n\na(b\n\n\n\n(c\n\n \n))\n\n\n\n\n\n\nd()\n\n\n".toList = .ok out ∧
        File.parse out = .ok g ∧ Capped {} g := by
  have hfront : (File.parse "\n\na(b\n\n\n\n(c\n\n \n))\n\n\n\n\n\n\nd()\n\n\n".toList).map
      (fun f => leadingLineEnds (f.elements.map elementMark)) = .ok 2 := by
    decide +kernel
  obtain ⟨f, hf, hleading⟩ := map_eq_ok.1 hfront
  obtain ⟨out, g, hout, hg, -, -, -, hcapped⟩ := capped_format {} hf
  exact ⟨f, hf, out, g, hout, hg, hcapped.2 (by rw [hleading]; decide)⟩

/-- If no blank lines are left at all, one of two is left at the front of a file. -/
theorem not_forall_capped :
    ¬∀ (style : Style) (source : List Char) (f : File), File.parse source = .ok f →
      ∃ out g, format style source = .ok out ∧ File.parse out = .ok g ∧ Capped style g := by
  intro hall
  obtain ⟨f, hf⟩ := exists_of_isOk (show (File.parse "\n\na()".toList).isOk = true by decide +kernel)
  obtain ⟨out, g, hout, hg, hcapped⟩ := hall { maxBlankLines := 0 } "\n\na()".toList f hf
  have hfront : (format { maxBlankLines := 0 } "\n\na()".toList >>= File.parse).map
      (fun g => leadingLineEnds (g.elements.map elementMark)) = .ok 1 := by
    decide +kernel
  rw [bind_eq_ok.2 ⟨out, hout, hg⟩] at hfront
  have hone : leadingLineEnds (g.elements.map elementMark) = 1 := Except.ok.inj hfront
  have hzero : leadingLineEnds (g.elements.map elementMark) ≤ 0 := hcapped.front
  omega

end Listfile.Layout
