import Listfile.Grammar.Anchor
import Listfile.Grammar.Backrefs
import Listfile.Scope

/-!
# Compiled grammars

In a compiled grammar contexts are known by their place in a table, and the rules of included contexts
and of the prototype stand where they are used.

* `Pattern`, `Action`, `Rule`, `Context`: the parts of a grammar.
* `Grammar`: the table of contexts, with the names of those that have one.
-/

namespace Listfile.Grammar

/-- The pattern of a rule, after its variables were expanded. -/
inductive Pattern
  | fixed (source : List Char) (regex : Regex)
  /-- A pattern that refers to the match that entered its context. -/
  | backref (source : List Char)
deriving Inhabited

/-- The pattern as text. -/
def Pattern.source : Pattern → List Char
  | fixed source _ | backref source => source

/-- What a rule does to the stack of contexts. -/
inductive Action
  | stay
  /-- Contexts to enter, the last of which ends up on top. -/
  | push (targets : List Nat)
  /-- Leave the context, then enter others. -/
  | set (targets : List Nat)
  | pop
deriving DecidableEq, Inhabited

/-- A rule. -/
structure Rule where
  pattern : Pattern
  scope : List Scope
  /-- The scopes of captures, in the order of their groups. -/
  captures : List (Nat × List Scope)
  action : Action
deriving Inhabited

/-- A context. -/
structure Context where
  name : String
  metaScope : List Scope
  metaContentScope : List Scope
  rules : List Rule
deriving Inhabited

end Listfile.Grammar

namespace Listfile

open Grammar

/-- A compiled grammar. -/
structure Grammar where
  name : String
  scope : Scope
  fileExtensions : List String
  hidden : Bool
  /-- The contexts that have a name come first, in the order of their names. -/
  contexts : Array Context
  /-- The names of the contexts that have one. -/
  named : List String
  /-- The context in which a text begins. -/
  main : Nat
deriving Inhabited

namespace Grammar

/-- The context at a place of the table. -/
def context (g : Grammar) (id : Nat) : Context := g.contexts[id]?.getD default

/-- The place of a context that has a name. -/
def contextId? (g : Grammar) (name : String) : Option Nat := g.named.findIdx? (· == name)

end Grammar

end Listfile
