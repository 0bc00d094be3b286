import Listfile.Highlight.Line

/-!
# Sessions

A session goes on from line to line. Besides the stack it keeps the patterns that were compiled with the
text of captures in them, so that each of them is compiled once.

* `Patterns`: patterns that have been compiled.
* `Session.highlightLine`, `Session.highlight`: the next line, and all lines of a text.
* `highlight`: a text on its own.
-/

namespace Listfile.Highlight

open Grammar

/-! ### Compiled patterns -/

/-- Patterns that have been compiled, each with its text. -/
structure Patterns where
  entries : List (List Char × Regex)
  compiled : ∀ e ∈ entries, compileAnchored e.1 = .ok e.2

namespace Patterns

/-- Nothing has been compiled yet. -/
def none : Patterns := ⟨[], List.forall_mem_nil _⟩

/-- Look a pattern up, or else compile it and keep it. What cannot be compiled is not kept. -/
def instantiate (ps : Patterns) (source : List Char) : Option Regex × Patterns :=
  match ps.entries.lookup source with
  | some r => (some r, ps)
  | .none =>
    match h : compileAnchored source with
    | .ok r => (some r, ⟨(source, r) :: ps.entries, List.forall_mem_cons.2 ⟨h, ps.compiled⟩⟩)
    | .error _ => (.none, ps)

/-- The pattern of a rule in a context that was entered with the given captures. -/
def regexFor (ps : Patterns) (captures : List (Option (List Char))) :
    Pattern → Option Regex × Patterns
  | .fixed _ r => (some r, ps)
  | .backref source => ps.instantiate (substituteBackrefs captures source)

/-- Try rules at a place, until one matches. -/
def firstHit (frame : Frame) (place : Cursor) : List Rule → Patterns → Option Hit × Patterns
  | [], ps => (.none, ps)
  | rule :: rules, ps =>
    let (r, ps) := ps.regexFor frame.captures rule.pattern
    match r.bind (hit? place rule) with
    | some h => (some h, ps)
    | .none => firstHit frame place rules ps

/-- The first rule of the innermost context that matches at a place. -/
def findMatch (g : Grammar) (stack : Stack) (place : Cursor) (ps : Patterns) :
    Option Hit × Patterns :=
  match stack with
  | [] => (.none, ps)
  | frame :: _ => firstHit frame place (g.context frame.context).rules ps

/-- Walk on for up to `fuel` steps. -/
def run (g : Grammar) (base : Nat) : Nat → Walk → Patterns → Walk × Patterns
  | 0, w, ps => (w, ps)
  | fuel + 1, w, ps =>
    match w.place with
    | .none => (w, ps)
    | some place =>
      let (hit, ps) := ps.findMatch g w.stack place
      run g base fuel (w.follow g base place hit) ps

end Patterns

/-! ### Sessions -/

/-- Where highlighting has got to. -/
structure Session where
  stack : Stack
  patterns : Patterns

namespace Session

/-- A session that goes on with the contexts of a stack. -/
def resume (stack : Stack) : Session := ⟨stack, .none⟩

/-- A session at the start of a text. -/
def start (g : Grammar) : Session := resume (.initial g)

/-- Highlight a line without its end; `base` is its offset in the text. -/
def highlightLine (g : Grammar) (base : Nat) (line : List Char) (s : Session) (findings : Findings) :
    Session × Findings :=
  let (w, ps) := s.patterns.run g base (maxSteps line.length) ⟨some (.ofText line), 0, s.stack, findings⟩
  (⟨w.stack, ps⟩, w.findings)

/-- Highlight lines that begin at the offset `base`. -/
def highlightLines (g : Grammar) : (base : Nat) → List (List Char) → Session → Findings →
    Session × Findings
  | _, [], s, findings => (s, findings)
  | base, line :: lines, s, findings =>
    let (s, findings) := s.highlightLine g base (lineContent line) findings
    highlightLines g (base + byteLength line) lines s findings

/-- Highlight a text. -/
def highlight (g : Grammar) (s : Session) (text : List Char) : Highlighted :=
  let (s, findings) := highlightLines g 0 (splitLines text) s ⟨[], []⟩
  ⟨findings.tokens.reverse, findings.events.reverse, s.stack.contextNames g⟩

end Session

/-- Highlight a text on its own. -/
def highlight (g : Grammar) (text : List Char) : Highlighted := (Session.start g).highlight g text

end Listfile.Highlight
