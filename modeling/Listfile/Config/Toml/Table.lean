import Listfile.Config.Toml.Scalar

/-!
# Tables of TOML

A table may be filled in several places of a document, but nothing may be said twice.

* `Node`: what stands under a key while a document is being read.
* `openTable`, `openItem`: what a heading does.
* `insertAt`: what a key with a value does.
-/

namespace Listfile.Config.Toml

/-- Why there is a table. -/
inductive Origin
  /-- A heading names a table within it. -/
  | implied
  /-- It is part of a key with dots. -/
  | dotted
  /-- It has a heading of its own. -/
  | defined
deriving DecidableEq

/-- What stands under a key. -/
inductive Node
  | value (v : Value)
  | table (origin : Origin) (fields : List (String × Node))
  /-- A list of tables with headings of their own, the latest first. -/
  | tables (items : List (List (String × Node)))

/-- What stands under the keys of a table. -/
abbrev Fields := List (String × Node)

/-- Change what stands under a key. -/
def alterKey (key : String) (f : Option Node → Option Node) : Fields → Option Fields
  | [] => do return [(key, ← f none)]
  | (k, n) :: fields =>
    if k = key then do return (k, ← f (some n)) :: fields
    else do return (k, n) :: (← alterKey key f fields)

/-- Change the table to which the names of a heading lead. Of a list of tables the latest is meant. -/
def alterTable (f : Fields → Option Fields) : List String → Fields → Option Fields
  | [] => f
  | name :: names => alterKey name fun
    | none => do return .table .implied (← alterTable f names [])
    | some (.table origin fields) => do return .table origin (← alterTable f names fields)
    | some (.tables (fields :: items)) => do return .tables ((← alterTable f names fields) :: items)
    | some _ => none

/-- Open the table that a heading names. It comes behind the others, even if it was implied before. -/
def openTable (names : List String) (name : String) : Fields → Option Fields :=
  alterTable (fun fields =>
    match fields.lookup name with
    | none => some (fields ++ [(name, .table .defined [])])
    | some (.table .implied inner) =>
      some (fields.filter (·.1 != name) ++ [(name, .table .defined inner)])
    | some _ => none) names

/-- Add an item to the list of tables that a heading names. -/
def openItem (names : List String) (name : String) : Fields → Option Fields :=
  alterTable (alterKey name fun
    | none => some (.tables [[]])
    | some (.tables items) => some (.tables ([] :: items))
    | some _ => none) names

/-- Put a value under a key that has none yet. -/
def insertNew (key : String) (v : Value) : Fields → Option Fields :=
  alterKey key fun
    | none => some (.value v)
    | some _ => none

/-- Put a value under a key with dots. Tables that have headings may not be filled in this way. -/
def insertAt (v : Value) : (names : List String) → (key : String) → Fields → Option Fields
  | [], key => insertNew key v
  | name :: names, key => alterKey name fun
    | none => do return .table .dotted (← insertAt v names key [])
    | some (.table origin fields) =>
      if origin = .dotted ∨ (origin = .implied ∧ names ≠ []) then do
        return .table origin (← insertAt v names key fields)
      else none
    | some (.tables (fields :: items)) =>
      if names ≠ [] then do return .tables ((← insertAt v names key fields) :: items) else none
    | some _ => none

mutual

/-- The value that a node stands for. -/
def Node.toValue : Node → Value
  | .value v => v
  | .table _ fields => .table (fieldValues fields)
  | .tables items => .list (itemValues items).reverse

/-- The values of fields. -/
def fieldValues : List (String × Node) → List (String × Value)
  | [] => []
  | (key, n) :: fields => (key, n.toValue) :: fieldValues fields

/-- The values of tables in a list. -/
def itemValues : List (List (String × Node)) → List Value
  | [] => []
  | fields :: items => .table (fieldValues fields) :: itemValues items

end

end Listfile.Config.Toml
