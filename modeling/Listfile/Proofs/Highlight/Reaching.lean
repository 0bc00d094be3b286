import Listfile.Highlight.Line
import Listfile.Proofs.Grammar.Compiling
import Listfile.Proofs.Outcome
import Mathlib.Data.List.Induction

/-!
# States that highlighting reaches

Highlighting begins with the context `main` alone on the stack.  It goes on line by line, with any lines,
and along each line step by step.

* `exists_tryRule_of_findMatch`, `exists_of_findMatch`: a match is one of a rule of the innermost context.
* `Reachable`: the states of walks along lines, after any other lines have been highlighted.
* `Walk.run_induction`: what every step keeps, a whole walk keeps.
* `Reachable.run`, `stackAfter_concat`: whole walks stay among the states that are reached.
* `length_applyAction`: how a rule changes the height of the stack.
* **`stack_ne_nil_iff`**: the stack never gets empty exactly if a context that is alone on it is never set
  to nothing; no grammar does that in which no list of contexts to set is empty.
-/

namespace Listfile.Highlight

open Grammar

variable {g : Grammar}

/-! ### Matches -/

/-- What a rule that matches has found. -/
theorem hit?_eq_some {place : Cursor} {rule : Rule} {r : Regex} {h : Hit} (hhit : hit? place rule r = some h) :
    h.rule = rule ∧ r.search place = .found h.whole h.groups ∧
      (rule.action = .stay → h.whole.last.offset ≠ place.offset) := by
  unfold hit? at hhit
  split at hhit
  · rename_i whole groups hsearch
    split at hhit
    · cases hhit
    · rename_i hkeeps
      cases hhit
      exact ⟨rfl, hsearch, fun hstay hsame => hkeeps ⟨hsame, hstay⟩⟩
  · cases hhit

/-- A match is one of a rule of the innermost context. -/
theorem exists_tryRule_of_findMatch {stack : Stack} {place : Cursor} {h : Hit}
    (hmatch : findMatch g stack place = some h) : ∃ frame below, stack = frame :: below ∧
      h.rule ∈ (g.context frame.context).rules ∧ tryRule frame place h.rule = some h := by
  cases stack with
  | nil => cases hmatch
  | cons frame below =>
    obtain ⟨rule, hrule, htry⟩ := List.exists_of_findSome?_eq_some hmatch
    obtain ⟨r, -, hhit⟩ := Option.bind_eq_some_iff.1 htry
    obtain ⟨rfl, -, -⟩ := hit?_eq_some hhit
    exact ⟨frame, below, rfl, hrule, htry⟩

/-- A match comes from a rule of the grammar whose pattern was searched for. -/
theorem exists_of_findMatch {stack : Stack} {place : Cursor} {h : Hit}
    (hmatch : findMatch g stack place = some h) :
    ∃ c ∈ g.contexts, h.rule ∈ c.rules ∧ ∃ captures r,
      regexFor captures h.rule.pattern = some r ∧ r.search place = .found h.whole h.groups := by
  obtain ⟨frame, below, rfl, hrule, htry⟩ := exists_tryRule_of_findMatch hmatch
  obtain ⟨r, hr, hhit⟩ := Option.bind_eq_some_iff.1 htry
  have hcontext : ∃ c ∈ g.contexts, h.rule ∈ c.rules := by
    unfold Grammar.context at hrule
    cases hcontext : g.contexts[frame.context]? with
    | none =>
      rw [hcontext] at hrule
      cases hrule
    | some c =>
      rw [hcontext] at hrule
      exact ⟨c, Array.mem_of_getElem? hcontext, hrule⟩
  obtain ⟨c, hc, hrule⟩ := hcontext
  exact ⟨c, hc, hrule, frame.captures, r, hr, (hit?_eq_some hhit).2.1⟩

/-! ### Reachable states -/

/-- The stack after lines have been highlighted, each with its offset. -/
def stackAfter (g : Grammar) (lines : List (Nat × List Char)) : Stack :=
  lines.foldl (fun stack l => (highlightLine g l.1 l.2 stack ⟨[], []⟩).1) (.initial g)

/-- The state in which the walk along a line begins. -/
def Walk.start (line : List Char) (stack : Stack) (findings : Findings) : Walk :=
  ⟨some (.ofText line), 0, stack, findings⟩

/-- What every step keeps holds at the end of a run. -/
theorem Walk.run_induction {base : Nat} {I : Walk → Prop}
    (hstep : ∀ w place, I w → w.place = some place → I (w.advance g base place)) {w : Walk} (h : I w)
    (fuel : Nat) : I (Walk.run g base fuel w) := by
  induction fuel generalizing w with
  | zero => exact h
  | succ fuel ih =>
    rw [run]
    cases hplace : w.place with
    | none => exact h
    | some place => exact ih (hstep w place h hplace)

/-- The states of walks along lines at the offset `base`, after any lines have been highlighted. -/
inductive Reachable (g : Grammar) (base : Nat) : Walk → Prop
  | start (lines : List (Nat × List Char)) (line : List Char) :
    Reachable g base (.start line (stackAfter g lines) ⟨[], []⟩)
  | step {w : Walk} {place : Cursor} (h : Reachable g base w) (hplace : w.place = some place) :
    Reachable g base (w.advance g base place)

/-- A walk stays among the states that are reached. -/
theorem Reachable.run {base : Nat} {w : Walk} (h : Reachable g base w) (fuel : Nat) :
    Reachable g base (Walk.run g base fuel w) :=
  Walk.run_induction (fun _ _ h hplace => h.step hplace) h fuel

/-- The stack behind one more line. -/
theorem stackAfter_concat (lines : List (Nat × List Char)) (base : Nat) (line : List Char) :
    stackAfter g (lines ++ [(base, line)])
      = (Walk.run g base (maxSteps line.length) (.start line (stackAfter g lines) ⟨[], []⟩)).stack := by
  rw [stackAfter, List.foldl_append]
  rfl

/-! ### The height of the stack -/

/-- How high the stack is after a rule was applied. -/
theorem length_applyAction (g : Grammar) (offset : Nat) (texts : List (Option (List Char)))
    (stack : Stack) (action : Action) :
    (applyAction g offset texts stack action).1.length =
      match action with
      | .stay => stack.length
      | .push targets => stack.length + targets.length
      | .pop => if 1 < stack.length then stack.length - 1 else stack.length
      | .set targets => stack.length - 1 + targets.length := by
  have hpop : (popFrame g offset stack).1.length = stack.length - 1 := by
    cases stack with
    | nil => rfl
    | cons f stack => rfl
  cases action with
  | stay => rfl
  | push targets =>
    unfold applyAction pushFrames
    simp only [List.length_append, List.length_reverse, List.length_map]
    omega
  | pop =>
    rw [applyAction]
    dsimp only
    split
    · exact hpop
    · rfl
  | set targets =>
    unfold applyAction pushFrames
    simp only [List.length_append, List.length_reverse, List.length_map, hpop]
    omega

/-- What one step does to the stack: nothing, or what the rule says that matches. -/
theorem stack_advance (base : Nat) (w : Walk) (place : Cursor) :
    (w.advance g base place).stack =
      match findMatch g w.stack place with
      | none => w.stack
      | some h => (applyAction g (base + h.whole.span.start) h.texts w.stack h.rule.action).1 := by
  unfold Walk.advance Walk.follow
  cases findMatch g w.stack place with
  | none => rfl
  | some h =>
    dsimp only
    split
    · rfl
    · split <;> rfl

/-- The rule that matches at the place sets a context that is alone on the stack to nothing. -/
def Empties (g : Grammar) (w : Walk) : Prop :=
  ∃ place h, w.place = some place ∧ findMatch g w.stack place = some h ∧ w.stack.length = 1 ∧
    h.rule.action = .set []

/-- A step keeps the stack from getting empty, unless a rule sets a lone context to nothing. -/
theorem length_pos_advance {base : Nat} {w : Walk} {place : Cursor} (hplace : w.place = some place)
    (hw : 0 < w.stack.length) (h : ¬Empties g w) : 0 < (w.advance g base place).stack.length := by
  rw [stack_advance]
  cases hmatch : findMatch g w.stack place with
  | none => exact hw
  | some hit =>
    have hset : w.stack.length = 1 → hit.rule.action ≠ .set [] :=
      fun hone hempty => h ⟨place, hit, hplace, hmatch, hone, hempty⟩
    dsimp only
    rw [length_applyAction]
    cases haction : hit.rule.action with
    | stay => exact hw
    | push targets =>
      dsimp only
      omega
    | pop =>
      dsimp only
      split <;> omega
    | set targets =>
      dsimp only
      cases targets with
      | nil =>
        have hne : w.stack.length ≠ 1 := fun hone => hset hone haction
        rw [List.length_nil]
        omega
      | cons target targets =>
        rw [List.length_cons]
        omega

/-- Setting a lone context to nothing leaves an empty stack. -/
theorem stack_advance_of_empties (base : Nat) {w : Walk} (h : Empties g w) :
    ∃ place, w.place = some place ∧ (w.advance g base place).stack = [] := by
  obtain ⟨place, hit, hplace, hmatch, hone, haction⟩ := h
  refine ⟨place, hplace, ?_⟩
  rw [← List.length_eq_zero_iff, stack_advance, hmatch]
  dsimp only
  rw [length_applyAction, haction]
  dsimp only
  rw [hone]
  rfl

/-! ### The stack is not empty -/

theorem length_pos_run (h : ∀ base w, Reachable g base w → ¬Empties g w) {base : Nat} {w : Walk}
    (hr : Reachable g base w) (hw : 0 < w.stack.length) (fuel : Nat) :
    0 < (Walk.run g base fuel w).stack.length := by
  have hkeep : ∀ (w : Walk) (place : Cursor), (Reachable g base w ∧ 0 < w.stack.length) →
      w.place = some place →
      Reachable g base (w.advance g base place) ∧ 0 < (w.advance g base place).stack.length :=
    fun w _ hw hplace => ⟨hw.1.step hplace, length_pos_advance hplace hw.2 (h base w hw.1)⟩
  exact (Walk.run_induction hkeep ⟨hr, hw⟩ fuel).2

theorem length_pos_stackAfter (h : ∀ base w, Reachable g base w → ¬Empties g w)
    (lines : List (Nat × List Char)) : 0 < (stackAfter g lines).length := by
  induction lines using List.reverseRecOn with
  | nil => exact Nat.one_pos
  | append_singleton lines l ih =>
    obtain ⟨base, line⟩ := l
    rw [stackAfter_concat]
    exact length_pos_run h (.start lines line) ih _

theorem length_pos_of_reachable (h : ∀ base w, Reachable g base w → ¬Empties g w) {base : Nat}
    {w : Walk} (hr : Reachable g base w) : 0 < w.stack.length := by
  induction hr with
  | start lines line => exact length_pos_stackAfter h lines
  | step hr hplace ih => exact length_pos_advance hplace ih (h base _ hr)

/-- **When the stack is never empty.**  Whatever lines are highlighted, some context is open after every
step exactly if no step sets a context that is alone on the stack to nothing.  None does if no rule of the
definition has an empty list of contexts to set. -/
theorem stack_ne_nil_iff {d : Definition} (h : d.compile = .ok g) :
    ((∀ base w, Reachable g base w → w.stack ≠ []) ↔ ∀ base w, Reachable g base w → ¬Empties g w) ∧
      (d.SetsSome → ∀ base w, Reachable g base w → w.stack ≠ []) := by
  have hkeep : (∀ base w, Reachable g base w → ¬Empties g w) →
      ∀ base w, Reachable g base w → w.stack ≠ [] :=
    fun hno base w hr => List.ne_nil_of_length_pos (length_pos_of_reachable hno hr)
  refine ⟨⟨?_, hkeep⟩, ?_⟩
  · intro hne base w hr hempties
    obtain ⟨place, hplace, hnil⟩ := stack_advance_of_empties base hempties
    exact hne base _ (hr.step hplace) hnil
  · intro hd
    refine hkeep ?_
    rintro base w - ⟨place, hit, -, hmatch, -, haction⟩
    obtain ⟨c, hc, hrule, -⟩ := exists_of_findMatch hmatch
    exact setsSome_of_compile h hd c hc _ hrule haction

/-- One context that enters itself twice, leaves itself and sets itself. -/
def threeActions : Definition :=
  ⟨"", "", [], false, [], [("main", [.rule "a" none [] (some (.stacked ["main", "main"])) none false,
    .rule "b" none [] none none true, .rule "c" none [] none (some (.named "main")) false])]⟩

/-- Entering, leaving and setting a context keeps the stack from getting empty. -/
theorem stack_ne_nil_threeActions :
    ∃ g, threeActions.compile = .ok g ∧ threeActions.SetsSome ∧
      ∀ base w, Reachable g base w → w.stack ≠ [] := by
  have hok : threeActions.compile.isOk = true := by decide +kernel
  obtain ⟨g, hg⟩ := exists_of_isOk hok
  have hsome : threeActions.SetsSome := by
    intro c hc
    rw [List.mem_singleton.1 hc]
    simp [itemsSetSome, Item.SetsSome, enteredSetsSome, Target.SetsSome]
  exact ⟨g, hg, hsome, (stack_ne_nil_iff hg).2 hsome⟩

/-- One context that sets itself to nothing. -/
def setsNothing : Definition :=
  ⟨"", "", [], false, [], [("main", [.rule "a" none [] none (some (.stacked [])) false])]⟩

/-- **Not every grammar keeps a context open**: a list of contexts to set may be empty. -/
theorem not_forall_stack_ne_nil :
    ¬∀ (d : Definition) (g : Grammar), d.compile = .ok g →
      ∀ base w, Reachable g base w → w.stack ≠ [] := by
  intro h
  have hempty : setsNothing.compile.toOption.map
      (fun g => (highlightLine g 0 ['a'] (.initial g) ⟨[], []⟩).1.length) = some 0 := by decide +kernel
  cases hcompile : setsNothing.compile with
  | error e =>
    rw [hcompile] at hempty
    cases hempty
  | ok g =>
    rw [hcompile] at hempty
    refine h setsNothing g hcompile 0 _ ((Reachable.start [] ['a']).run (maxSteps 1)) ?_
    exact List.length_eq_zero_iff.1 (Option.some.inj hempty)

end Listfile.Highlight
