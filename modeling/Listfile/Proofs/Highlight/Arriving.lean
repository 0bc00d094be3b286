import Listfile.Proofs.Highlight.Resuming
import Listfile.Proofs.Highlight.Walking
import Listfile.Proofs.Text.Ahead
import Listfile.Proofs.Text.Passing

/-!
# Going through a text from match to match

Highlighting comes to places of a text, with contexts on the stack and tokens and events found.  What stands
ahead of a place on its line is the rest of the text up to the end of the line.

* `Walked`: a walk along a line of the text stands at a place.
* **`Walked.step`**, `Walked.newline`: it goes on along its line, or the next one begins.
* `Walked.mem_events`: what has been found on the way is found in the end.
* `Arrived`: highlighting comes to a place.
* `Arrived.start`: it begins with the text.
* **`Arrived.forward`**, **`Arrived.skip`**, **`Arrived.newline`**: how it goes on.
* **`Arrived.finish`**: what is found where it ends.
-/

namespace Listfile.Highlight

open Grammar Listfile.Tree

/-- A walk along a line of the text stands at a place, at the offset `n` of the text with `rest` from there on. -/
inductive Walked (g : Grammar) (text : List Char) (n : Nat) (rest : List Char) (place : Cursor) (w : Walk) : Prop
  | line {before after : List (List Char)} {line : List Char} {base : Nat}
    (hlines : splitLines text = before ++ line :: after) (hbase : base = byteLength before.flatten)
    (hwalk : Walk.Reaches g base (.start (lineContent line)
      (highlightLines g 0 before (.initial g) ⟨[], []⟩).1
      (highlightLines g 0 before (.initial g) ⟨[], []⟩).2) w)
    (hplace : w.place = some place)
    (hoffset : n = base + place.offset) (hahead : place.after = restOfLine rest)
    (hline : line ++ behindLine rest = place.before.reverse ++ rest)
    (hafter : after = splitLines (behindLine rest))

/-- Highlighting the text comes to a place at the offset `n`, with `rest` from there on, the stack, and what has
been found. -/
def Arrived (g : Grammar) (text : List Char) (n : Nat) (rest : List Char) (place : Cursor) (stack : Stack)
    (f : Findings) : Prop :=
  ∃ w, Walked g text n rest place w ∧ w.stack = stack ∧ w.findings = f

variable {g : Grammar} {text rest u : List Char} {n : Nat} {place place' : Cursor} {stack : Stack} {f : Findings}
  {w : Walk}

/-! ### Walks along the lines -/

/-- Highlighting a text begins at its start, in the context `main`. -/
theorem Walked.start (g : Grammar) (htext : text ≠ []) :
    Walked g text 0 text (.ofText (restOfLine text)) (.start (restOfLine text) (.initial g) ⟨[], []⟩) := by
  obtain ⟨line, hlines, hcontent, hline⟩ := exists_splitLines htext
  have hfirst : splitLines text = [] ++ line :: splitLines (behindLine text) := hlines
  rw [← hcontent]
  exact .line hfirst rfl .refl rfl rfl hcontent hline rfl

theorem Walked.ahead (h : Walked g text n rest place w) : place.after = restOfLine rest := by
  cases h with
  | line _ _ _ _ _ hahead => exact hahead

/-- **One step** of the walk leads on along the line. -/
theorem Walked.step (h : Walked g text n rest place w) : ∃ base, n = base + place.offset ∧
    ∀ {u place'}, (w.advance g base place).place = some place' → place.Passes u place' →
      ∃ rest', rest = u ++ rest' ∧ Walked g text (n + byteLength u) rest' place' (w.advance g base place) := by
  obtain @⟨before, after, line, base, hlines, hbase, hwalk, hplace, hoffset, hahead, hline, hafter⟩ := h
  refine ⟨base, hoffset, fun {u place'} hnext hpasses => ?_⟩
  obtain ⟨rest', rfl, hahead', hbehind⟩ := exists_of_restOfLine (hahead.symm.trans hpasses.after)
  refine ⟨rest', rfl, .line hlines hbase (hwalk.step hplace) hnext ?_ hahead'.symm ?_ ?_⟩
  · rw [hpasses.offset, hoffset, Nat.add_assoc]
  · rw [hbehind, hline, hpasses.before, List.reverse_append, List.reverse_reverse, List.append_assoc]
  · rw [hbehind, hafter]

/-- Where a rule matches some text, the walk goes on behind it. -/
theorem Walked.forward (h : Walked g text n rest place w) {hit : Hit} (hmatch : findMatch g w.stack place = some hit)
    (hu : u ≠ []) (hpasses : place.Passes u hit.whole.last) : ∃ base rest', n = base + place.offset ∧
      rest = u ++ rest' ∧ Walked g text (n + byteLength u) rest' hit.whole.last
        { w.apply g base hit with place := some hit.whole.last, stalled := 0 } := by
  obtain ⟨base, hoffset, hstep⟩ := h.step
  rw [Walk.advance_of_lt hmatch (hpasses.offset_lt hu)] at hstep
  obtain ⟨rest', hrest, hnext⟩ := hstep rfl hpasses
  exact ⟨base, rest', hoffset, hrest, hnext⟩

/-- Where a rule matches nothing, the walk stays for one step more. -/
theorem Walked.stall (h : Walked g text n rest place w) {hit : Hit} (hmatch : findMatch g w.stack place = some hit)
    (hlast : hit.whole.last = place) (hstalled : w.stalled < maxStalled) : ∃ base, n = base + place.offset ∧
      Walked g text n rest place { w.apply g base hit with stalled := w.stalled + 1 } := by
  obtain ⟨base, hoffset, hstep⟩ := h.step
  rw [Walk.advance_of_le hmatch (by rw [hlast]), if_neg (Nat.not_le.2 hstalled)] at hstep
  have hplace : (w.apply g base hit).place = some place := by
    obtain ⟨-, -, -, hplace⟩ := h
    exact hplace
  obtain ⟨rest', hrest, hnext⟩ := hstep hplace (.refl place)
  obtain rfl : rest = rest' := hrest
  exact ⟨base, hoffset, hnext⟩

/-- Where no rule matches, the walk goes on behind the next character. -/
theorem Walked.skip (h : Walked g text n rest place w) (hnone : findMatch g w.stack place = none) {c : Char}
    {cs : List Char} (hafter : place.after = c :: cs) : ∃ rest' place', rest = c :: rest' ∧ place.Passes [c] place' ∧
      Walked g text (n + c.utf8Size) rest' place' { w with place := some place' } := by
  obtain ⟨place', hnext, hpasses⟩ := Cursor.next?_of_after hafter
  obtain ⟨base, -, hstep⟩ := h.step
  rw [Walk.advance_of_none hnone, hnext] at hstep
  obtain ⟨rest', hrest, hdone⟩ := hstep rfl hpasses
  exact ⟨rest', place', hrest, hpasses, by simpa using hdone⟩

/-- Where no rule matches at the end of a line, the line has been highlighted. -/
theorem Walked.exists_lines (h : Walked g text n rest place w) (hnone : findMatch g w.stack place = none)
    (hend : restOfLine rest = []) :
    ∃ before, splitLines text = before ++ splitLines (behindLine rest) ∧
      highlightLines g 0 before (.initial g) ⟨[], []⟩ = (w.stack, w.findings) ∧
      n + byteLength rest = byteLength before.flatten + byteLength (behindLine rest) := by
  obtain @⟨before, after, line, base, hlines, rfl, hwalk, hplace, rfl, hahead, hline, rfl⟩ := h
  refine ⟨before ++ [line], ?_, ?_, ?_⟩
  · rw [hlines, List.append_assoc]
    rfl
  · have hnext : place.next? = none := Cursor.next?_of_nil (hahead.trans hend)
    have hstep := hwalk.step hplace
    rw [Walk.advance_of_none hnone, hnext] at hstep
    -- the walk along the line has ended
    obtain ⟨k, hk⟩ := hstep.exists_run_eq (place_highlightLine _ _ _ _)
    rw [Walk.run_of_none rfl] at hk
    rw [highlightLines_append, Nat.zero_add]
    show ((Walk.run g _ _ (.start _ _ _)).stack, (Walk.run g _ _ (.start _ _ _)).findings) = _
    rw [← hk]
  · have hbytes := congrArg byteLength hline
    rw [byteLength_append, byteLength_append, byteLength_reverse, ← place.offset_eq] at hbytes
    rw [List.flatten_append, byteLength_append, List.flatten_singleton]
    omega

/-- **At the end of a line** the next walk begins, if there is another line. -/
theorem Walked.newline (h : Walked g text n rest place w) (hnone : findMatch g w.stack place = none)
    (hend : restOfLine rest = []) (hmore : behindLine rest ≠ []) :
    ∃ ending, (ending = ['\n'] ∨ ending = ['\r', '\n']) ∧ rest = ending ++ behindLine rest ∧
      Walked g text (n + byteLength ending) (behindLine rest) (.ofText (restOfLine (behindLine rest)))
        (.start (restOfLine (behindLine rest)) w.stack w.findings) := by
  obtain ⟨before, hlines, hfound, hbytes⟩ := h.exists_lines hnone hend
  obtain ⟨ending, hending, hrest⟩ := ends_of_restOfLine hend hmore
  obtain ⟨line, hcut, hcontent, hline⟩ := exists_splitLines hmore
  refine ⟨ending, hending, hrest, ?_⟩
  rw [← hcontent]
  refine .line (hlines.trans (congrArg _ hcut)) rfl ?_ rfl ?_ hcontent hline rfl
  · rw [hfound]
    exact .refl
  · have hrestBytes := congrArg byteLength hrest
    rw [byteLength_append] at hrestBytes
    show _ = byteLength before.flatten + 0
    omega

theorem mem_events_advance {e : Event} (he : e ∈ w.findings.events) (base : Nat) (place : Cursor) :
    e ∈ (w.advance g base place).findings.events := by
  rcases (Walk.moves_advance base w place).stack_findings with ⟨-, hsame⟩ | ⟨hit, -, -, happly⟩
  · rw [hsame]
    exact he
  · rw [happly]
    exact List.mem_append_right _ he

/-- What has been found on the way is found in the end. -/
theorem Walked.mem_events (h : Walked g text n rest place w) {e : Event} (he : e ∈ w.findings.events) :
    e ∈ (highlight g text).events := by
  obtain @⟨before, after, line, base, hlines, rfl, hwalk, -⟩ := h
  obtain ⟨k, hk⟩ := hwalk.exists_run_eq (place_highlightLine _ _ _ _)
  have hline : e ∈ (Walk.run g (byteLength before.flatten) k w).findings.events :=
    Walk.run_induction (I := fun w => e ∈ w.findings.events) (fun _ place hw _ => mem_events_advance hw _ place) he k
  rw [hk] at hline
  unfold highlight
  rw [Session.highlight_eq, highlightFrom, hlines, highlightLines_append, Nat.zero_add]
  exact List.mem_reverse.2 (highlightLines_induction (I := fun _ f => e ∈ f.events)
    (fun base _ place hw => mem_events_advance hw base place) hline _ after)

/-! ### What has been found -/

theorem Arrived.start (g : Grammar) (htext : text ≠ []) :
    Arrived g text 0 text (.ofText (restOfLine text)) (.initial g) ⟨[], []⟩ :=
  ⟨_, .start g htext, rfl, rfl⟩

theorem Arrived.ahead (h : Arrived g text n rest place stack f) : place.after = restOfLine rest := by
  obtain ⟨w, hw, -⟩ := h
  exact hw.ahead

/-! ### Tokens of matches -/

/-- The tokens of a match without captures: one for all of it, unless that has no scopes besides the scope of
the grammar. -/
theorem segments_of_captures_nil {base : Nat} {front : List Scope} {rule : Rule} {whole : Span}
    {captures : List (Option Span)} (hrule : rule.captures = []) (hwhole : whole.start < whole.stop) :
    segments base front rule whole captures =
      if 1 < (front ++ rule.scope).length then
        [⟨⟨base + whole.start, base + whole.stop⟩, front ++ rule.scope⟩]
      else [] := by
  have hmarked : scopedCaptures rule whole captures = [] := by rw [scopedCaptures, hrule, List.filterMap_nil]
  have hcuts : [whole.start, whole.stop].foldr insertCut [] = [whole.start, whole.stop] := by
    simp [insertCut, hwhole]
  unfold segments
  rw [hmarked]
  simp only [List.flatMap_nil, hcuts, between, List.append_nil]
  split
  · exact List.filterMap_cons_some rfl
  · exact List.filterMap_cons_none rfl

/-! ### Steps -/

/-- **A rule matches some text**: highlighting goes on behind it. -/
theorem Arrived.forward (h : Arrived g text n rest place stack f) {hit : Hit}
    (hmatch : findMatch g stack place = some hit) (hfirst : hit.whole.first = place) (hu : u ≠ [])
    (hpasses : place.Passes u hit.whole.last) :
    ∃ rest' tokens, rest = u ++ rest' ∧
      (hit.rule.captures = [] → 1 < (frontScopes g stack hit.rule.action ++ hit.rule.scope).length →
        tokens = [⟨⟨n, n + byteLength u⟩, frontScopes g stack hit.rule.action ++ hit.rule.scope⟩]) ∧
      Arrived g text (n + byteLength u) rest' hit.whole.last
        (applyAction g n hit.texts stack hit.rule.action).1
        (f.add tokens (applyAction g n hit.texts stack hit.rule.action).2) := by
  obtain ⟨w, hw, rfl, rfl⟩ := h
  obtain ⟨base, rest', rfl, hrest, hnext⟩ := hw.forward hmatch hu hpasses
  have hspan : hit.whole.span = ⟨place.offset, hit.whole.last.offset⟩ := by rw [Capture.span, hfirst]
  refine ⟨rest', segments base (frontScopes g w.stack hit.rule.action) hit.rule hit.whole.span
    (hit.captures.map fun c => c.map Capture.span), hrest, ?_, _, hnext, ?_, ?_⟩
  · intro hcaptures hscopes
    have hlt := hpasses.offset_lt hu
    rw [segments_of_captures_nil hcaptures (by rw [hspan]; exact hlt), if_pos hscopes, hspan, hpasses.offset,
      Nat.add_assoc]
  · unfold Walk.apply
    rw [hspan]
  · unfold Walk.apply
    rw [hspan]

/-- **No rule matches**: highlighting goes on behind the next character. -/
theorem Arrived.skip (h : Arrived g text n rest place stack f) (hnone : findMatch g stack place = none) {c : Char}
    {cs : List Char} (hafter : place.after = c :: cs) :
    ∃ rest' place', rest = c :: rest' ∧ place.Passes [c] place' ∧
      Arrived g text (n + c.utf8Size) rest' place' stack f := by
  obtain ⟨w, hw, rfl, rfl⟩ := h
  obtain ⟨rest', place', hrest, hpasses, hnext⟩ := hw.skip hnone hafter
  exact ⟨rest', place', hrest, hpasses, _, hnext, rfl, rfl⟩

/-- **At the end of a line** highlighting goes on with the next line, if there is one. -/
theorem Arrived.newline (h : Arrived g text n rest place stack f) (hnone : findMatch g stack place = none)
    (hend : restOfLine rest = []) (hmore : behindLine rest ≠ []) :
    ∃ ending, (ending = ['\n'] ∨ ending = ['\r', '\n']) ∧ rest = ending ++ behindLine rest ∧
      Arrived g text (n + byteLength ending) (behindLine rest) (.ofText (restOfLine (behindLine rest))) stack f := by
  obtain ⟨w, hw, rfl, rfl⟩ := h
  obtain ⟨ending, hending, hrest, hnext⟩ := hw.newline hnone hend hmore
  exact ⟨ending, hending, hrest, _, hnext, rfl, rfl⟩

/-- Behind the end of a line the text goes on, whatever comes next. -/
theorem Arrived.nextLine {ending : List Char} (h : Arrived g text n (ending ++ rest) place stack f)
    (hending : ending = ['\n'] ∨ ending = ['\r', '\n']) (hrest : rest ≠ []) (hnone : findMatch g stack place = none) :
    Arrived g text (n + byteLength ending) rest (.ofText (restOfLine rest)) stack f := by
  have hend : restOfLine (ending ++ rest) = [] ∧ behindLine (ending ++ rest) = rest := by
    rcases hending with rfl | rfl <;> exact ⟨rfl, rfl⟩
  obtain ⟨ending', -, hsame, hnext⟩ := h.newline hnone hend.1 (by rw [hend.2]; exact hrest)
  rw [hend.2] at hsame hnext
  rwa [List.append_cancel_right hsame]

/-- **At the end of the last line** all has been found. -/
theorem Arrived.finish (h : Arrived g text n rest place stack f) (hnone : findMatch g stack place = none)
    (hend : restOfLine rest = []) (hlast : behindLine rest = []) :
    highlight g text = ⟨f.tokens.reverse, f.events.reverse, stack.contextNames g⟩ := by
  obtain ⟨w, hw, rfl, rfl⟩ := h
  obtain ⟨before, hlines, hfound, -⟩ := hw.exists_lines hnone hend
  rw [hlast, show splitLines [] = [] from rfl, List.append_nil] at hlines
  unfold highlight
  rw [Session.highlight_eq, highlightFrom, hlines]
  show (_ : Highlighted) = _
  rw [show (Session.start g).stack = .initial g from rfl, hfound]

end Listfile.Highlight
