import Listfile.Highlight.Basic

/-!
# Applying a rule

At a place of a line the rules of the innermost context are tried in order, and the first that matches
is applied: it scopes the text of the match and changes the stack.

* `findMatch`: the first rule that matches.
* `frontScopes`: the scopes that a match has from the stack. What opens or closes a context has the
  scope of the context, but not that of its content.
* `segments`: the pieces into which captures divide a match.
* `applyAction`: the stack after a match, and what happened to it.
-/

namespace Listfile.Highlight

open Grammar

/-- A match of a rule. -/
structure Hit where
  rule : Rule
  whole : Capture
  groups : List (Option Capture)

namespace Hit

/-- What each group captured, the whole match first. -/
def captures (h : Hit) : List (Option Capture) := some h.whole :: h.groups

/-- The texts of the captures. -/
def texts (h : Hit) : List (Option (List Char)) := h.captures.map fun c => c.map Capture.text

end Hit

/-- The pattern of a rule in a context that was entered with the given captures. None if the pattern
cannot be compiled with their text in it. -/
def regexFor (captures : List (Option (List Char))) : Pattern → Option Regex
  | .fixed _ r => some r
  | .backref source => (compileAnchored (substituteBackrefs captures source)).toOption

/-- The match of a rule at a place, given its compiled pattern. A match of nothing counts only if the rule
changes the stack. -/
def hit? (place : Cursor) (rule : Rule) (r : Regex) : Option Hit :=
  match r.search place with
  | .found whole groups =>
    if whole.last.offset = place.offset ∧ rule.action = .stay then none
    else some ⟨rule, whole, groups⟩
  | _ => none

/-- Try a rule at a place. -/
def tryRule (frame : Frame) (place : Cursor) (rule : Rule) : Option Hit :=
  (regexFor frame.captures rule.pattern).bind (hit? place rule)

/-- The first rule of the innermost context that matches at a place. -/
def findMatch (g : Grammar) (stack : Stack) (place : Cursor) : Option Hit :=
  match stack with
  | [] => none
  | frame :: _ => (g.context frame.context).rules.findSome? (tryRule frame place)

/-! ### Scopes -/

/-- The scopes of text within the contexts of a stack. -/
def contentScopes (g : Grammar) (stack : Stack) : List Scope :=
  g.scope :: stack.reverse.flatMap fun f =>
    let c := g.context f.context
    c.metaScope ++ c.metaContentScope

/-- The scopes of what opens and closes the given contexts. -/
def metaScopes (g : Grammar) (ids : List Nat) : List Scope :=
  ids.flatMap fun id => (g.context id).metaScope

/-- The scopes that a match has before those of its rule. -/
def frontScopes (g : Grammar) (stack : Stack) : Action → List Scope
  | .stay => contentScopes g stack
  | .push targets => contentScopes g stack ++ metaScopes g targets
  | .set targets => contentScopes g stack.tail ++ metaScopes g targets
  | .pop =>
    match stack with
    | top :: below :: rest =>
      contentScopes g (below :: rest) ++ (g.context top.context).metaScope
    | stack => contentScopes g stack

/-- Insert a number into a list in increasing order, once. -/
def insertCut (n : Nat) : List Nat → List Nat
  | [] => [n]
  | m :: ms => if n < m then n :: m :: ms else if n = m then m :: ms else m :: insertCut n ms

/-- The spans between neighbouring cuts. -/
def between : List Nat → List Span
  | a :: b :: cuts => ⟨a, b⟩ :: between (b :: cuts)
  | _ => []

/-- Does the first span hold the second? -/
def covers (outer inner : Span) : Bool := outer.start ≤ inner.start && inner.stop ≤ outer.stop

/-- The captures with scopes that lie within the match and hold some text. -/
def scopedCaptures (rule : Rule) (whole : Span) (captures : List (Option Span)) :
    List (Span × List Scope) :=
  rule.captures.filterMap fun c =>
    match (captures[c.1]?).join with
    | some span => if covers whole span && span.start < span.stop then some (span, c.2) else none
    | none => none

/-- The tokens of a match: it is cut where captures begin and end, and each piece has the scopes of the
captures that hold it. A piece that only has the scope of the grammar is left out. -/
def segments (base : Nat) (front : List Scope) (rule : Rule) (whole : Span)
    (captures : List (Option Span)) : List Token :=
  let marked := scopedCaptures rule whole captures
  let bounds := whole.start :: whole.stop :: marked.flatMap fun c => [c.1.start, c.1.stop]
  let cuts := bounds.foldr insertCut []
  (between cuts).filterMap fun piece =>
    let scopes := front ++ rule.scope ++
      marked.flatMap fun c => if covers c.1 piece then c.2 else []
    if 1 < scopes.length then some ⟨⟨base + piece.start, base + piece.stop⟩, scopes⟩ else none

/-! ### The stack -/

/-- Leave the innermost context. -/
def popFrame (g : Grammar) (offset : Nat) : Stack → Stack × List Event
  | [] => ([], [])
  | f :: stack => (stack, [⟨offset, .pop, (g.context f.context).name⟩])

/-- Enter contexts one after the other. -/
def pushFrames (g : Grammar) (offset : Nat) (texts : List (Option (List Char))) (targets : List Nat)
    (stack : Stack) : Stack × List Event :=
  ((targets.map fun id => ⟨id, texts⟩).reverse ++ stack,
    targets.map fun id => ⟨offset, .push, (g.context id).name⟩)

/-- Change the stack. The context that is alone on the stack cannot be left, only replaced. -/
def applyAction (g : Grammar) (offset : Nat) (texts : List (Option (List Char))) (stack : Stack) :
    Action → Stack × List Event
  | .stay => (stack, [])
  | .push targets => pushFrames g offset texts targets stack
  | .pop => if 1 < stack.length then popFrame g offset stack else (stack, [])
  | .set targets =>
    let (below, popped) := popFrame g offset stack
    let (stack, pushed) := pushFrames g offset texts targets below
    (stack, popped ++ pushed)

end Listfile.Highlight
