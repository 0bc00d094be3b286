import Listfile.Grammar.Compile
import Listfile.Highlight.Session
import Listfile.Proofs.Text.Lines

/-!
# Stopping and resuming

Highlighting may stop at the end of any line and be resumed from the stack alone.  What is found behind that
place only differs in its offsets, and patterns that were compiled before are of no account.

* `Patterns.instantiate_eq`, `Session.highlightLine_eq`, `Session.highlight_eq`: compiled patterns change
  nothing.
* `Token.shift`, `Event.shift`, `Walk.relocate`: the same at other offsets and behind other findings.
* `highlightLines_append`, `highlightFrom_append`: lines are highlighted one after the other.
* **`highlight_append`**: a text may be cut at the end of any line, and sessions with the same stack agree.
-/

namespace Listfile.Highlight

open Grammar

variable {g : Grammar}

/-! ### Compiled patterns change nothing -/

/-- Looking a pattern up comes to the same as compiling it. -/
theorem Patterns.instantiate_eq (ps : Patterns) (source : List Char) :
    (ps.instantiate source).1 = (compileAnchored source).toOption := by
  unfold instantiate
  split
  · rename_i r hlookup
    obtain ⟨front, back, hentries, -⟩ := List.lookup_eq_some_iff.1 hlookup
    have hmem : (source, r) ∈ ps.entries := by
      rw [hentries]
      exact List.mem_append_right _ List.mem_cons_self
    have hr := ps.compiled (source, r) hmem
    dsimp only at hr
    rw [hr]
    rfl
  · split
    · rename_i r hr
      exact (congrArg Except.toOption hr).symm
    · rename_i e he
      exact (congrArg Except.toOption he).symm

theorem Patterns.regexFor_eq (ps : Patterns) (captures : List (Option (List Char))) (p : Pattern) :
    (ps.regexFor captures p).1 = Highlight.regexFor captures p := by
  cases p with
  | fixed source r => rfl
  | backref source => exact ps.instantiate_eq _

theorem Patterns.firstHit_eq (frame : Frame) (place : Cursor) (rules : List Rule) (ps : Patterns) :
    (firstHit frame place rules ps).1 = rules.findSome? (tryRule frame place) := by
  induction rules generalizing ps with
  | nil => rfl
  | cons rule rules ih =>
    have hregex := ps.regexFor_eq frame.captures rule.pattern
    rw [firstHit, List.findSome?_cons, tryRule, ← hregex]
    dsimp only
    split
    · rename_i h heq
      rw [heq]
    · rename_i heq
      rw [heq]
      exact ih _

theorem Patterns.findMatch_eq (ps : Patterns) (stack : Stack) (place : Cursor) :
    (ps.findMatch g stack place).1 = Highlight.findMatch g stack place := by
  cases stack with
  | nil => rfl
  | cons frame stack => exact firstHit_eq frame place _ ps

theorem Patterns.run_eq (base fuel : Nat) (w : Walk) (ps : Patterns) :
    (Patterns.run g base fuel w ps).1 = Walk.run g base fuel w := by
  induction fuel generalizing w ps with
  | zero => rfl
  | succ fuel ih =>
    rw [Patterns.run, Walk.run]
    cases w.place with
    | none => rfl
    | some place =>
      dsimp only
      rw [ih, ps.findMatch_eq]
      rfl

/-- What a session does with a line does not depend on the patterns that it has compiled. -/
theorem Session.highlightLine_eq (base : Nat) (line : List Char) (s : Session) (findings : Findings) :
    ((s.highlightLine g base line findings).1.stack, (s.highlightLine g base line findings).2)
      = Highlight.highlightLine g base line s.stack findings := by
  have hrun := s.patterns.run_eq (g := g) base (maxSteps line.length)
    ⟨some (.ofText line), 0, s.stack, findings⟩
  unfold Session.highlightLine Highlight.highlightLine
  dsimp only
  rw [hrun]

theorem Session.highlightLines_eq (base : Nat) (lines : List (List Char)) (s : Session)
    (findings : Findings) :
    ((s.highlightLines g base lines findings).1.stack, (s.highlightLines g base lines findings).2)
      = Highlight.highlightLines g base lines s.stack findings := by
  induction lines generalizing base s findings with
  | nil => rfl
  | cons line lines ih =>
    have hline := s.highlightLine_eq (g := g) base (lineContent line) findings
    rw [Session.highlightLines, Highlight.highlightLines, ← hline]
    exact ih _ _ _

/-- **Compiled patterns change nothing**: what a session finds depends on its stack alone. -/
theorem Session.highlight_eq (s : Session) (text : List Char) :
    s.highlight g text = highlightFrom g s.stack text := by
  have hlines := s.highlightLines_eq (g := g) 0 (splitLines text) ⟨[], []⟩
  unfold Session.highlight highlightFrom
  rw [← hlines]

/-! ### Other offsets -/

/-- The token, so many bytes further on. -/
def Token.shift (n : Nat) (t : Token) : Token := ⟨⟨n + t.span.start, n + t.span.stop⟩, t.scopes⟩

/-- The event, so many bytes further on. -/
def Event.shift (n : Nat) (e : Event) : Event := { e with offset := n + e.offset }

/-- The findings, so many bytes further on and behind older ones. -/
def Findings.relocate (n : Nat) (f old : Findings) : Findings :=
  ⟨f.tokens.map (·.shift n) ++ old.tokens, f.events.map (·.shift n) ++ old.events⟩

/-- The walk, with its findings so many bytes further on and behind older ones. -/
def Walk.relocate (n : Nat) (old : Findings) (w : Walk) : Walk :=
  { w with findings := w.findings.relocate n old }

variable (n : Nat) (old : Findings)

theorem segments_shift (n base : Nat) (front : List Scope) (rule : Rule) (whole : Span)
    (captures : List (Option Span)) :
    segments (n + base) front rule whole captures
      = (segments base front rule whole captures).map (·.shift n) := by
  unfold segments
  dsimp only
  rw [List.map_filterMap]
  congr 1
  funext piece
  split
  · simp [Token.shift, Nat.add_assoc]
  · rfl

theorem popFrame_shift (n offset : Nat) (stack : Stack) :
    popFrame g (n + offset) stack
      = ((popFrame g offset stack).1, (popFrame g offset stack).2.map (·.shift n)) := by
  cases stack <;> rfl

theorem pushFrames_shift (n offset : Nat) (texts : List (Option (List Char))) (targets : List Nat)
    (stack : Stack) :
    pushFrames g (n + offset) texts targets stack
      = ((pushFrames g offset texts targets stack).1,
        (pushFrames g offset texts targets stack).2.map (·.shift n)) := by
  unfold pushFrames
  rw [List.map_map]
  rfl

theorem applyAction_shift (n offset : Nat) (texts : List (Option (List Char))) (stack : Stack)
    (action : Action) :
    applyAction g (n + offset) texts stack action
      = ((applyAction g offset texts stack action).1,
        (applyAction g offset texts stack action).2.map (·.shift n)) := by
  cases action with
  | stay => rfl
  | push targets => exact pushFrames_shift n offset texts targets stack
  | pop =>
    unfold applyAction
    dsimp only
    split
    · exact popFrame_shift n offset stack
    · rfl
  | set targets =>
    unfold applyAction
    dsimp only
    rw [popFrame_shift, pushFrames_shift, List.map_append]

theorem Findings.relocate_add (f : Findings) (tokens : List Token) (events : List Event) :
    (f.relocate n old).add (tokens.map (·.shift n)) (events.map (·.shift n))
      = (f.add tokens events).relocate n old := by
  simp [relocate, add]

theorem Walk.apply_relocate (base : Nat) (w : Walk) (h : Hit) :
    (w.relocate n old).apply g (n + base) h = (w.apply g base h).relocate n old := by
  unfold Walk.apply
  dsimp only [Walk.relocate]
  rw [segments_shift, Nat.add_assoc, applyAction_shift]
  dsimp only
  rw [Findings.relocate_add]

/-- One step is the same at other offsets. -/
theorem Walk.advance_relocate (base : Nat) (w : Walk) (place : Cursor) :
    (w.relocate n old).advance g (n + base) place = (w.advance g base place).relocate n old := by
  unfold Walk.advance Walk.follow
  have hstack : (w.relocate n old).stack = w.stack := rfl
  rw [hstack]
  cases findMatch g w.stack place with
  | none => rfl
  | some h =>
    dsimp only
    rw [Walk.apply_relocate]
    have hstalled : ((w.apply g base h).relocate n old).stalled = (w.apply g base h).stalled := rfl
    rw [hstalled]
    split
    · rfl
    · split <;> rfl

/-- A whole walk is the same at other offsets. -/
theorem Walk.run_relocate (base fuel : Nat) (w : Walk) :
    Walk.run g (n + base) fuel (w.relocate n old) = (Walk.run g base fuel w).relocate n old := by
  induction fuel generalizing w with
  | zero => rfl
  | succ fuel ih =>
    have hplace : (w.relocate n old).place = w.place := rfl
    rw [Walk.run, Walk.run, hplace]
    cases w.place with
    | none => rfl
    | some place =>
      dsimp only
      rw [Walk.advance_relocate, ih]

theorem highlightLine_relocate (base : Nat) (line : List Char) (stack : Stack) (f : Findings) :
    highlightLine g (n + base) line stack (f.relocate n old)
      = ((highlightLine g base line stack f).1, (highlightLine g base line stack f).2.relocate n old) := by
  have hrun := Walk.run_relocate (g := g) n old base (maxSteps line.length)
    ⟨some (.ofText line), 0, stack, f⟩
  exact congrArg (fun w : Walk => (w.stack, w.findings)) hrun

theorem highlightLines_relocate (base : Nat) (lines : List (List Char)) (stack : Stack) (f : Findings) :
    highlightLines g (n + base) lines stack (f.relocate n old)
      = ((highlightLines g base lines stack f).1,
        (highlightLines g base lines stack f).2.relocate n old) := by
  induction lines generalizing base stack f with
  | nil => rfl
  | cons line lines ih =>
    rw [highlightLines, highlightLines, highlightLine_relocate, Nat.add_assoc]
    exact ih _ _ _

/-! ### One line after the other -/

theorem highlightLines_append (base : Nat) (lines more : List (List Char)) (stack : Stack)
    (f : Findings) :
    highlightLines g base (lines ++ more) stack f
      = highlightLines g (base + byteLength lines.flatten) more (highlightLines g base lines stack f).1
        (highlightLines g base lines stack f).2 := by
  induction lines generalizing base stack f with
  | nil => rfl
  | cons line lines ih =>
    rw [List.cons_append, highlightLines, highlightLines, List.flatten_cons, byteLength_append,
      ← Nat.add_assoc]
    exact ih _ _ _

/-- What is found in a text that goes on behind the end of a line. -/
theorem highlightFrom_append {first : List Char} (h : first = [] ∨ first.getLast? = some '\n')
    (second : List Char) (stack : Stack) :
    highlightFrom g stack (first ++ second) =
      let between := (highlightLines g 0 (splitLines first) stack ⟨[], []⟩).1
      let before := highlightFrom g stack first
      let behind := highlightFrom g between second
      ⟨before.tokens ++ behind.tokens.map (·.shift (byteLength first)),
        before.events ++ behind.events.map (·.shift (byteLength first)), behind.openContexts⟩ := by
  have hlines := highlightLines_relocate (g := g) (byteLength first)
    (highlightLines g 0 (splitLines first) stack ⟨[], []⟩).2 0 (splitLines second)
    (highlightLines g 0 (splitLines first) stack ⟨[], []⟩).1 ⟨[], []⟩
  have hnil : ∀ f : Findings, Findings.relocate (byteLength first) ⟨[], []⟩ f = f := fun _ => rfl
  rw [hnil, Nat.add_zero] at hlines
  unfold highlightFrom
  rw [splitLines_append h, highlightLines_append, flatten_splitLines, Nat.zero_add, hlines]
  simp [Findings.relocate, List.map_reverse]

/-! ### Stopping and resuming -/

/-- The stack after the lines of a text. -/
def stackBehind (g : Grammar) (text : List Char) : Stack :=
  ((Session.start g).highlightLines g 0 (splitLines text) ⟨[], []⟩).1.stack

/-- **Stopping and resuming cannot be told from going on.**  If a text is cut where a line begins, then what
is found in all of it is what is found in the first part, and in the second by a session that is resumed
with the stack in between, at offsets that count from there.  Two sessions with the same stack find the
same in any line and in any text, whatever patterns they have compiled. -/
theorem highlight_append (g : Grammar) :
    (∀ first second : List Char, first = [] ∨ first.getLast? = some '\n' →
      let before := highlight g first
      let behind := (Session.resume (stackBehind g first)).highlight g second
      highlight g (first ++ second) =
        ⟨before.tokens ++ behind.tokens.map (·.shift (byteLength first)),
          before.events ++ behind.events.map (·.shift (byteLength first)), behind.openContexts⟩) ∧
      ∀ s t : Session, s.stack = t.stack →
        (∀ text, s.highlight g text = t.highlight g text) ∧
          ∀ base line findings,
            (s.highlightLine g base line findings).1.stack
                = (t.highlightLine g base line findings).1.stack ∧
              (s.highlightLine g base line findings).2 = (t.highlightLine g base line findings).2 := by
  constructor
  · intro first second h
    have hstack := congrArg Prod.fst
      ((Session.start g).highlightLines_eq (g := g) 0 (splitLines first) ⟨[], []⟩)
    dsimp only [highlight]
    rw [Session.highlight_eq, Session.highlight_eq, Session.highlight_eq, highlightFrom_append h,
      stackBehind]
    dsimp only at hstack
    rw [hstack]
    rfl
  · intro s t hst
    constructor
    · intro text
      rw [Session.highlight_eq, Session.highlight_eq, hst]
    · intro base line findings
      have hs := s.highlightLine_eq (g := g) base line findings
      rw [hst, ← t.highlightLine_eq] at hs
      exact Prod.mk.inj hs

/-- Text between brackets, which is left by a bracket with as many signs as the one that opened it. -/
def bracketed : Definition :=
  ⟨"", "", [], false, [], [("main", [.rule "\\[(=*)\\[" none [] (some (.named "text")) none false]),
    ("text", [.rule "\\]\\1\\]" none [] none none true])]⟩

/-- A text that is cut within brackets, and a session that has compiled a pattern besides a new one. -/
theorem highlight_append_bracketed :
    ∃ g, bracketed.compile = .ok g ∧
      (let before := highlight g ['[', '=', '[', '\n']
        let behind := (Session.resume (stackBehind g ['[', '=', '[', '\n'])).highlight g
          [']', ']', ']', '=', ']']
        highlight g (['[', '=', '[', '\n'] ++ [']', ']', ']', '=', ']']) =
          ⟨before.tokens ++ behind.tokens.map (·.shift (byteLength ['[', '=', '[', '\n'])),
            before.events ++ behind.events.map (·.shift (byteLength ['[', '=', '[', '\n'])),
            behind.openContexts⟩) ∧
      ∃ s t : Session, s.stack = t.stack ∧ s.patterns.entries.length ≠ t.patterns.entries.length ∧
        ∀ text, s.highlight g text = t.highlight g text := by
  have hused : bracketed.compile.toOption.map (fun g =>
      let s := ((Session.start g).highlightLine g 0 ['[', '=', '[', ']', '=', ']'] ⟨[], []⟩).1
      (decide (s.stack = .initial g), s.patterns.entries.length)) = some (true, 1) := by decide +kernel
  cases hcompile : bracketed.compile with
  | error e =>
    rw [hcompile] at hused
    cases hused
  | ok g =>
    rw [hcompile] at hused
    obtain ⟨hstack, hlength⟩ := Prod.mk.inj (Option.some.inj hused)
    obtain ⟨s, hs, hpatterns⟩ :
        ∃ s : Session, s.stack = (Session.start g).stack ∧ s.patterns.entries.length = 1 :=
      ⟨_, of_decide_eq_true hstack, hlength⟩
    have hcut := (highlight_append g).1 ['[', '=', '[', '\n'] [']', ']', ']', '=', ']'] (.inr rfl)
    refine ⟨g, rfl, hcut, s, Session.start g, hs, ?_, ((highlight_append g).2 _ _ hs).1⟩
    rw [hpatterns]
    exact Nat.one_ne_zero

end Listfile.Highlight
