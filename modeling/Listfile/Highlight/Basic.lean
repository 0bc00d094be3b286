import Listfile.Grammar.Basic

/-!
# Highlighted text

* `Token`: a span of a text with its scopes.
* `Event`: a change to the stack of contexts.
* `Highlighted`: what highlighting a text results in.
-/

namespace Listfile.Highlight

/-- A span of a text with its scopes, the outermost first. -/
structure Token where
  span : Span
  scopes : List Scope
deriving DecidableEq, Inhabited

namespace Token

/-- The text of a token, given the text that was highlighted. -/
def text (t : Token) (source : List Char) : List Char := (t.span.slice? source).getD []

/-- The most specific scope. -/
def innermost? (t : Token) : Option Scope := t.scopes.getLast?

/-- Does the selector match some scope of the token? -/
def hasScope (t : Token) (selector : String) : Bool := t.scopes.any (·.selectedBy selector)

end Token

/-- How the stack of contexts changes. -/
inductive EventKind
  | push
  | pop
deriving DecidableEq, Inhabited

/-- A change to the stack of contexts, at the offset of the match that caused it. -/
structure Event where
  offset : Nat
  kind : EventKind
  context : String
deriving DecidableEq, Inhabited

/-- What highlighting a text results in. -/
structure Highlighted where
  tokens : List Token
  events : List Event
  /-- The contexts that are open at the end, the outermost first. -/
  openContexts : List String
deriving DecidableEq, Inhabited

/-- A context that has been entered. -/
structure Frame where
  context : Nat
  /-- What the match that entered it captured, the whole match first. -/
  captures : List (Option (List Char))
deriving DecidableEq, Inhabited

/-- The contexts that have been entered, the innermost first. -/
abbrev Stack := List Frame

namespace Stack

/-- Only the context in which a text begins. -/
def initial (g : Grammar) : Stack := [⟨g.main, []⟩]

/-- The contexts on a stack, the outermost first. -/
def contextIds (s : Stack) : List Nat := (s.map Frame.context).reverse

/-- Their names. -/
def contextNames (g : Grammar) (s : Stack) : List String :=
  (contextIds s).map fun id => (g.context id).name

end Stack

end Listfile.Highlight
