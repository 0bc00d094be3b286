import Listfile.Highlight.Step
import Listfile.Text.Lines

/-!
# Highlighting lines and texts

A line is walked from left to right. Where no rule matches, the place moves on by one character; rules
that match nothing may follow each other at a place only so often before a character is skipped.

* `Walk.advance`: one step of the walk.
* `highlightLine`: the walk along a whole line.
* `highlightFrom`: all lines of a text, one after the other.
-/

namespace Listfile.Highlight

/-- How often rules may match nothing before a character is skipped. -/
def maxStalled : Nat := 32

/-- What has been found, newest first. -/
structure Findings where
  tokens : List Token
  events : List Event
deriving DecidableEq, Inhabited

/-- Add tokens and events, oldest first. -/
def Findings.add (f : Findings) (tokens : List Token) (events : List Event) : Findings :=
  ⟨tokens.reverse ++ f.tokens, events.reverse ++ f.events⟩

/-- The state of a walk along a line. -/
structure Walk where
  /-- The next place to look at, none behind the end of the line. -/
  place : Option Cursor
  /-- How many matches of nothing there have been since text was matched. -/
  stalled : Nat
  stack : Stack
  findings : Findings

namespace Walk

/-- Apply a match: emit its tokens and change the stack. -/
def apply (g : Grammar) (base : Nat) (w : Walk) (h : Hit) : Walk :=
  let tokens := segments base (frontScopes g w.stack h.rule.action) h.rule h.whole.span
    (h.captures.map fun c => c.map Capture.span)
  let (stack, events) := applyAction g (base + h.whole.span.start) h.texts w.stack h.rule.action
  { w with stack := stack, findings := w.findings.add tokens events }

/-- Go on from a place, given the rule that matches there, if any: apply it, or skip a character. -/
def follow (g : Grammar) (base : Nat) (w : Walk) (place : Cursor) (hit : Option Hit) : Walk :=
  let next := place.next?.map (·.2)
  match hit with
  | none => { w with place := next }
  | some h =>
    let w := w.apply g base h
    if place.offset < h.whole.last.offset then { w with place := some h.whole.last, stalled := 0 }
    else if maxStalled ≤ w.stalled then { w with place := next, stalled := 0 }
    else { w with stalled := w.stalled + 1 }

/-- Look at a place: apply the rule that matches, if any, and go on. -/
def advance (g : Grammar) (base : Nat) (w : Walk) (place : Cursor) : Walk :=
  w.follow g base place (findMatch g w.stack place)

/-- Walk on for up to `fuel` steps. -/
def run (g : Grammar) (base : Nat) : Nat → Walk → Walk
  | 0, w => w
  | fuel + 1, w =>
    match w.place with
    | none => w
    | some place => run g base fuel (w.advance g base place)

end Walk

/-- How many steps a walk along a line of `n` characters takes at most. -/
def maxSteps (n : Nat) : Nat := (maxStalled + 2) * (n + 1)

/-- Highlight a line without its end; `base` is its offset in the text. -/
def highlightLine (g : Grammar) (base : Nat) (line : List Char) (stack : Stack)
    (findings : Findings) : Stack × Findings :=
  let w := Walk.run g base (maxSteps line.length) ⟨some (.ofText line), 0, stack, findings⟩
  (w.stack, w.findings)

/-- Highlight lines that begin at the offset `base`. -/
def highlightLines (g : Grammar) : (base : Nat) → List (List Char) → Stack → Findings →
    Stack × Findings
  | _, [], stack, findings => (stack, findings)
  | base, line :: lines, stack, findings =>
    let (stack, findings) := highlightLine g base (lineContent line) stack findings
    highlightLines g (base + byteLength line) lines stack findings

/-- Highlight a text that goes on with the contexts of a stack. -/
def highlightFrom (g : Grammar) (stack : Stack) (text : List Char) : Highlighted :=
  let (stack, findings) := highlightLines g 0 (splitLines text) stack ⟨[], []⟩
  ⟨findings.tokens.reverse, findings.events.reverse, stack.contextNames g⟩

end Listfile.Highlight
