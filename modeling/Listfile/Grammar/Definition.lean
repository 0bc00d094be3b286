import Listfile.Entries

/-!
# Grammar definitions

A definition is what the author of a grammar writes: named contexts that hold lists of items. An item
is a rule, an inclusion of another context, or a remark on the context itself.

* `Item`, `Target`: the items of contexts, and what a rule pushes or sets.
* `Definition`: a grammar as it is written.
-/

namespace Listfile.Grammar

mutual

/-- An item of a context. -/
inductive Item
  /-- A rule: its pattern, the scopes of the match and of its captures, and what it does to the stack
  of contexts. -/
  | rule (pattern : String) (scope : Option String) (captures : List (Nat × String))
      (push set : Option Target) (pop : Bool)
  /-- All rules of another context. -/
  | incl (context : String)
  /-- Scopes of the context, and whether the prototype is part of it. -/
  | about (metaScope metaContentScope : Option String) (includePrototype : Option Bool)

/-- The contexts that a rule enters. -/
inductive Target
  | named (context : String)
  /-- Several contexts, the last of which ends up on top. -/
  | stacked (contexts : List String)
  /-- A context without a name, written where it is used. -/
  | anonymous (items : List Item)

end

instance : Inhabited Item := ⟨.incl ""⟩

instance : Inhabited Target := ⟨.stacked []⟩

/-- A grammar as it is written. Contexts and variables are kept in the order of their names, each name
once. -/
structure Definition where
  name : String
  scope : String
  fileExtensions : List String
  hidden : Bool
  vars : List (String × String)
  contexts : List (String × List Item)
deriving Inhabited

end Listfile.Grammar
