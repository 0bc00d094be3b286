import Listfile.Proofs.Highlight.Reaching
import Listfile.Proofs.Regex.Staying
import Listfile.Proofs.Text.Spans

/-!
# Walks along lines

* `exists_of_applyAction`: a rule takes contexts off the stack and puts others on it, and tells so.
* `Walk.Moves`, `Walk.moves_advance`: what one step of a walk can do.
* `Walk.On`: the place of a walk is a place of its line, and it has not stalled too often.
* `Walk.stepsLeft_move`, **`place_highlightLine`**: a walk gets to the end of its line.
* `highlightLines_induction`: what every step keeps, whole lines keep.
* `Walk.Reaches`, `Visits`: the states that a walk, or highlighting a text, comes through.
-/

namespace Listfile.Highlight

open Grammar

variable {g : Grammar} {base : Nat} {w v : Walk} {place : Cursor} {line : List Char}

/-! ### Changes to the stack -/

/-- The event of entering a context. -/
def Event.entering (g : Grammar) (offset : Nat) (f : Frame) : Event :=
  ⟨offset, .push, (g.context f.context).name⟩

/-- The event of leaving a context. -/
def Event.leaving (g : Grammar) (offset : Nat) (f : Frame) : Event :=
  ⟨offset, .pop, (g.context f.context).name⟩

theorem popFrame_eq (g : Grammar) (offset : Nat) (stack : Stack) :
    popFrame g offset stack = (stack.drop 1, (stack.take 1).map (.leaving g offset)) := by
  cases stack <;> rfl

theorem pushFrames_eq (g : Grammar) (offset : Nat) (texts : List (Option (List Char)))
    (targets : List Nat) (stack : Stack) :
    pushFrames g offset texts targets stack =
      ((targets.map fun id => Frame.mk id texts).reverse ++ stack,
        (targets.map fun id => Frame.mk id texts).map (.entering g offset)) := by
  unfold pushFrames
  rw [List.map_map]
  rfl

/-- **What a rule does to the stack**: it takes contexts off the top and puts others in their place, and
there is an event for each of them. -/
theorem exists_of_applyAction (g : Grammar) (offset : Nat) (texts : List (Option (List Char)))
    (stack : Stack) (action : Action) :
    ∃ left kept entered : List Frame, stack = left ++ kept ∧ (∀ f ∈ entered, f.captures = texts) ∧
      applyAction g offset texts stack action = (entered.reverse ++ kept,
        left.map (.leaving g offset) ++ entered.map (.entering g offset)) := by
  have hcaptures : ∀ targets : List Nat, ∀ f ∈ targets.map fun id => Frame.mk id texts,
      f.captures = texts := by
    intro targets f hf
    obtain ⟨id, -, rfl⟩ := List.mem_map.1 hf
    rfl
  have hstay : ∃ left kept entered : List Frame, stack = left ++ kept ∧
      (∀ f ∈ entered, f.captures = texts) ∧
      (stack, ([] : List Event)) = (entered.reverse ++ kept,
        left.map (.leaving g offset) ++ entered.map (.entering g offset)) :=
    ⟨[], stack, [], rfl, List.forall_mem_nil _, rfl⟩
  cases action with
  | stay => exact hstay
  | push targets =>
    refine ⟨[], stack, _, rfl, hcaptures targets, ?_⟩
    unfold applyAction
    dsimp only
    rw [pushFrames_eq]
    rfl
  | pop =>
    unfold applyAction
    dsimp only
    split
    · refine ⟨stack.take 1, stack.drop 1, [], (List.take_append_drop 1 stack).symm,
        List.forall_mem_nil _, ?_⟩
      rw [popFrame_eq, List.map_nil, List.append_nil]
      rfl
    · exact hstay
  | set targets =>
    refine ⟨stack.take 1, stack.drop 1, _, (List.take_append_drop 1 stack).symm, hcaptures targets, ?_⟩
    unfold applyAction
    rw [popFrame_eq]
    dsimp only
    rw [pushFrames_eq]

/-! ### One step -/

namespace Walk

/-- What a step at a place can lead to. -/
inductive Moves (g : Grammar) (base : Nat) (w : Walk) (place : Cursor) : Walk → Prop
  /-- No rule matches. -/
  | skip (hnone : findMatch g w.stack place = none) :
    Moves g base w place { w with place := place.next?.map (·.2) }
  /-- A rule matches some text. -/
  | forward {h : Hit} (hmatch : findMatch g w.stack place = some h)
    (hlt : place.offset < h.whole.last.offset) :
    Moves g base w place { w.apply g base h with place := some h.whole.last, stalled := 0 }
  /-- A rule matches nothing. -/
  | stall {h : Hit} (hmatch : findMatch g w.stack place = some h)
    (hle : h.whole.last.offset ≤ place.offset) (hstalled : w.stalled < maxStalled) :
    Moves g base w place { w.apply g base h with stalled := w.stalled + 1 }
  /-- A rule matches nothing once too often. -/
  | force {h : Hit} (hmatch : findMatch g w.stack place = some h)
    (hle : h.whole.last.offset ≤ place.offset) (hstalled : maxStalled ≤ w.stalled) :
    Moves g base w place { w.apply g base h with place := place.next?.map (·.2), stalled := 0 }

theorem moves_advance (base : Nat) (w : Walk) (place : Cursor) :
    w.Moves g base place (w.advance g base place) := by
  unfold advance follow
  cases hmatch : findMatch g w.stack place with
  | none => exact .skip hmatch
  | some h =>
    have hkeep : (w.apply g base h).stalled = w.stalled := rfl
    dsimp only
    rw [hkeep]
    split
    · rename_i hlt
      exact .forward hmatch hlt
    · rename_i hle
      split
      · rename_i hstalled
        exact .force hmatch (Nat.le_of_not_lt hle) hstalled
      · rename_i hstalled
        exact .stall hmatch (Nat.le_of_not_lt hle) (Nat.lt_of_not_le hstalled)

theorem advance_of_none (h : findMatch g w.stack place = none) :
    w.advance g base place = { w with place := place.next?.map (·.2) } := by
  unfold advance follow
  rw [h]

theorem advance_of_lt {hit : Hit} (hmatch : findMatch g w.stack place = some hit)
    (hlt : place.offset < hit.whole.last.offset) :
    w.advance g base place
      = { w.apply g base hit with place := some hit.whole.last, stalled := 0 } := by
  unfold advance follow
  rw [hmatch]
  exact if_pos hlt

theorem advance_of_le {hit : Hit} (hmatch : findMatch g w.stack place = some hit)
    (hle : hit.whole.last.offset ≤ place.offset) :
    w.advance g base place =
      if maxStalled ≤ w.stalled then
        { w.apply g base hit with place := place.next?.map (·.2), stalled := 0 }
      else { w.apply g base hit with stalled := w.stalled + 1 } := by
  unfold advance follow
  rw [hmatch]
  exact if_neg (Nat.not_lt.2 hle)

/-- A step leaves the stack and the findings as they are, or applies the rule that matches. -/
theorem Moves.stack_findings (h : w.Moves g base place v) :
    (v.stack = w.stack ∧ v.findings = w.findings) ∨
      ∃ hit, findMatch g w.stack place = some hit ∧ v.stack = (w.apply g base hit).stack ∧
        v.findings = (w.apply g base hit).findings := by
  cases h with
  | skip => exact .inl ⟨rfl, rfl⟩
  | forward hmatch => exact .inr ⟨_, hmatch, rfl, rfl⟩
  | stall hmatch => exact .inr ⟨_, hmatch, rfl, rfl⟩
  | force hmatch => exact .inr ⟨_, hmatch, rfl, rfl⟩

/-! ### The place of a walk -/

/-- The place of the walk is a place of the line, and it has not stalled too often. -/
structure On (line : List Char) (w : Walk) : Prop where
  text : ∀ c ∈ w.place, c.text = line
  stalled : w.stalled ≤ maxStalled

theorem on_start (line : List Char) (stack : Stack) (findings : Findings) :
    (start line stack findings).On line := by
  refine ⟨?_, Nat.zero_le _⟩
  rintro c ⟨⟩
  exact Cursor.text_ofText line

theorem On.next? (h : w.On line) (hplace : w.place = some place) :
    ∀ c ∈ place.next?.map (·.2), c.text = line := by
  intro c hc
  obtain ⟨⟨x, d⟩, hnext, rfl⟩ := Option.map_eq_some_iff.1 hc
  exact (Cursor.text_next? hnext).trans (h.text place hplace)

/-- What a rule captures at the place of a walk lies in the line. -/
theorem On.captures (h : w.On line) (hplace : w.place = some place) {hit : Hit}
    (hmatch : findMatch g w.stack place = some hit) :
    hit.whole.In line ∧ hit.whole.first.offset ≤ hit.whole.last.offset ∧
      ∀ c, some c ∈ hit.groups → c.In line := by
  obtain ⟨-, -, -, -, r, -, hsearch⟩ := exists_of_findMatch hmatch
  rw [← h.text place hplace]
  exact text_of_search hsearch

theorem On.move (h : w.On line) (hplace : w.place = some place) (hmove : w.Moves g base place v) :
    v.On line := by
  cases hmove with
  | skip => exact ⟨h.next? hplace, h.stalled⟩
  | forward hmatch =>
    refine ⟨?_, Nat.zero_le _⟩
    rintro c ⟨⟩
    exact (h.captures hplace hmatch).1.last
  | stall _ _ hstalled => exact ⟨h.text, hstalled⟩
  | force => exact ⟨h.next? hplace, Nat.zero_le _⟩

theorem On.advance (h : w.On line) (hplace : w.place = some place) : (w.advance g base place).On line :=
  h.move hplace (moves_advance base w place)

/-! ### The end of a walk -/

/-- How many steps the walk takes at most until it has ended. -/
def stepsLeft (w : Walk) : Nat :=
  match w.place with
  | none => 0
  | some c => (maxStalled + 1) * c.left + (maxStalled - w.stalled) + 1

theorem stepsLeft_of_next? (hnext : w.place = place.next?.map (·.2)) :
    w.stepsLeft ≤ (maxStalled + 1) * place.left := by
  unfold stepsLeft
  rw [hnext]
  cases hplace : place.next? with
  | none => exact Nat.zero_le _
  | some p =>
    have hleft := (Cursor.offset_next? hplace).2
    dsimp only [Option.map_some]
    rw [← hleft, Nat.mul_add]
    omega

/-- Every step leaves fewer steps to be taken. -/
theorem stepsLeft_move (h : w.On line) (hplace : w.place = some place) (hmove : w.Moves g base place v) :
    v.stepsLeft < w.stepsLeft := by
  have hleft : w.stepsLeft = (maxStalled + 1) * place.left + (maxStalled - w.stalled) + 1 := by
    unfold stepsLeft
    rw [hplace]
  rw [hleft]
  cases hmove with
  | skip =>
    have hnext := stepsLeft_of_next? (w := { w with place := place.next?.map (·.2) }) rfl
    omega
  | @forward hit hmatch hlt =>
    have htext : hit.whole.last.text = place.text :=
      (h.captures hplace hmatch).1.last.trans (h.text place hplace).symm
    have hfewer : hit.whole.last.left + 1 ≤ place.left := Cursor.left_lt htext hlt
    have hmul := Nat.mul_le_mul_left (maxStalled + 1) hfewer
    rw [Nat.mul_add_one] at hmul
    unfold stepsLeft
    dsimp only
    omega
  | @stall hit hmatch hle hstalled =>
    have hkeep : (w.apply g base hit).place = some place := hplace
    unfold stepsLeft
    dsimp only
    rw [hkeep]
    dsimp only
    omega
  | @force hit hmatch hle hstalled =>
    have hnext := stepsLeft_of_next?
      (w := { w.apply g base hit with place := place.next?.map (·.2), stalled := 0 }) rfl
    omega

theorem place_run (h : w.On line) {fuel : Nat} (hfuel : w.stepsLeft ≤ fuel) :
    (run g base fuel w).place = none := by
  induction fuel generalizing w with
  | zero =>
    cases hplace : w.place with
    | none => exact hplace
    | some place =>
      have hfewer := stepsLeft_move h hplace (moves_advance (g := g) base w place)
      omega
  | succ fuel ih =>
    rw [run]
    cases hplace : w.place with
    | none => exact hplace
    | some place =>
      have hfewer := stepsLeft_move h hplace (moves_advance (g := g) base w place)
      exact ih (h.advance hplace) (by omega)

theorem run_of_none (h : w.place = none) (n : Nat) : run g base n w = w := by
  cases n with
  | zero => rfl
  | succ n => rw [run, h]

theorem run_add (m n : Nat) (w : Walk) : run g base (m + n) w = run g base n (run g base m w) := by
  induction m generalizing w with
  | zero => rw [Nat.zero_add, run]
  | succ m ih =>
    rw [Nat.succ_add, run, run]
    cases hplace : w.place with
    | none => exact (run_of_none hplace n).symm
    | some place => exact ih _

/-! ### The states of a walk -/

/-- The states that a walk comes through. -/
inductive Reaches (g : Grammar) (base : Nat) (w : Walk) : Walk → Prop
  | refl : Reaches g base w w
  | step {v : Walk} {place : Cursor} (h : Reaches g base w v) (hplace : v.place = some place) :
    Reaches g base w (v.advance g base place)

theorem Reaches.on (h : w.Reaches g base v) (hw : w.On line) : v.On line := by
  induction h with
  | refl => exact hw
  | step _ hplace ih => exact ih.advance hplace

/-- From any state that a walk comes through it gets to the same end. -/
theorem Reaches.exists_run_eq {fuel : Nat} (h : w.Reaches g base v)
    (hend : (run g base fuel w).place = none) : ∃ n, run g base n v = run g base fuel w := by
  induction h with
  | refl => exact ⟨fuel, rfl⟩
  | @step v place _ hplace ih =>
    obtain ⟨n, hn⟩ := ih
    cases n with
    | zero =>
      have hv : v = run g base fuel w := hn
      rw [← hv, hplace] at hend
      cases hend
    | succ n =>
      rw [run, hplace] at hn
      exact ⟨n, hn⟩

end Walk

/-! ### Lines and texts -/

/-- **A walk gets to the end of its line**: the number of steps that it may take is enough. -/
theorem place_highlightLine (base : Nat) (line : List Char) (stack : Stack) (findings : Findings) :
    (Walk.run g base (maxSteps line.length) (.start line stack findings)).place = none := by
  refine Walk.place_run (Walk.on_start line stack findings) ?_
  have hstart : (Walk.start line stack findings).stepsLeft
      = (maxStalled + 1) * line.length + maxStalled + 1 := rfl
  rw [hstart]
  unfold maxSteps maxStalled
  omega

/-- What every step keeps of the stack and the findings holds behind whole lines. -/
theorem highlightLines_induction {I : Stack → Findings → Prop}
    (hstep : ∀ (base : Nat) (w : Walk) (place : Cursor), I w.stack w.findings →
      I (w.advance g base place).stack (w.advance g base place).findings)
    {stack : Stack} {f : Findings} (h : I stack f) (base : Nat) (lines : List (List Char)) :
    I (highlightLines g base lines stack f).1 (highlightLines g base lines stack f).2 := by
  induction lines generalizing base stack f with
  | nil => exact h
  | cons line lines ih =>
    rw [highlightLines]
    have hrun := Walk.run_induction (g := g) (I := fun w => I w.stack w.findings)
      (fun w place hw _ => hstep base w place hw) (w := .start (lineContent line) stack f) h
      (maxSteps (lineContent line).length)
    exact ih hrun _

/-- The states that highlighting a text comes through, each with the offset of its line. -/
inductive Visits (g : Grammar) (text : List Char) (base : Nat) (w : Walk) : Prop
  | line {before after : List (List Char)} {line : List Char}
    (hlines : splitLines text = before ++ line :: after) (hbase : base = byteLength before.flatten)
    (hwalk : Walk.Reaches g base (.start (lineContent line)
      (highlightLines g 0 before (.initial g) ⟨[], []⟩).1
      (highlightLines g 0 before (.initial g) ⟨[], []⟩).2) w)

theorem Visits.step {text : List Char} (h : Visits g text base w) (hplace : w.place = some place) :
    Visits g text base (w.advance g base place) := by
  cases h with
  | line hlines hbase hwalk => exact .line hlines hbase (hwalk.step hplace)

end Listfile.Highlight
