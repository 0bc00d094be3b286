import Listfile.Regex.Machine
import Listfile.Regex.Parse.Pattern

/-!
# Searching

* `Regex`: a compiled pattern.
* `Regex.compile`: compile a pattern.
* `Regex.search`: the preferred match among those that begin first.
-/

namespace Listfile

open Regex

/-- A compiled pattern. -/
structure Regex where
  plan : Plan
  /-- How many groups there are besides the whole match. -/
  groupCount : Nat
  /-- Can a match begin only where the search does? -/
  anchored : Bool
deriving Inhabited

/-- What a group captured. -/
structure Capture where
  first : Cursor
  last : Cursor
deriving Inhabited

/-- The bytes that a capture covers. -/
def Capture.span (c : Capture) : Span := ⟨c.first.offset, c.last.offset⟩

/-- The text that a capture covers. -/
def Capture.text (c : Capture) : List Char := c.first.sliceTo c.last.offset

/-- How a search ended. -/
inductive SearchResult
  /-- What the whole pattern and each of its groups captured. -/
  | found (whole : Capture) (groups : List (Option Capture))
  | notFound
  /-- The search went back too often. -/
  | gaveUp

namespace Regex

/-- How often a search may go back. -/
def backtrackLimit : Nat := 1000000

/-- Does every match of the expression begin where the search does? -/
def startsAtSearch : Expr → Bool
  | .searchStart => true
  | .seq first _ => startsAtSearch first
  | _ => false

/-- Compile a pattern. -/
def compile (pattern : List Char) : Except Fault Regex := do
  let e ← parse pattern
  return ⟨← Plan.ofWhole e.references e, e.groups.length, startsAtSearch e⟩

/-- What group `i` captured. -/
def Thread.capture? (t : Thread) (i : Nat) : Option Capture := do
  return ⟨← t.marked? (2 * i), ← t.marked? (2 * i + 1)⟩

/-- What the whole pattern captured. It begins no later than it ends, whatever is kept out of it. -/
def Thread.whole? (t : Thread) : Option Capture := do
  let c ← t.capture? 0
  return if c.last.offset < c.first.offset then ⟨c.last, c.last⟩ else c

/-- The machine that looks for a pattern from a place on. -/
def machine (r : Regex) (start : Cursor) : Machine :=
  let tasks := if r.anchored then [.mark 0, .follow r.plan, .mark 1] else [.scan r.plan]
  ⟨tasks, .start r.groupCount start, [], 0⟩

/-- The preferred match among those that begin first, at `start` or behind it. -/
def search (r : Regex) (start : Cursor) : SearchResult :=
  let fuel := r.plan.effort (start.offset + start.left) + 5
  match (r.machine start).search start.offset fuel backtrackLimit with
  | .found t =>
    match t.whole? with
    | some whole => .found whole ((List.range r.groupCount).map fun i => t.capture? (i + 1))
    | none => .notFound
  | .notFound => .notFound
  | .exhausted => .gaveUp

end Regex

end Listfile
