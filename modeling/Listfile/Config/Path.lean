import Listfile.Config.Value

/-!
# Paths to settings

A setting is named by a path: names of tables set apart by dots, and numbers of list items in brackets.

* `Path`, `Path.parse?`: paths and their text.
* `Path.set`: put a value at the end of a path. Tables are joined with what is there already.
-/

namespace Listfile.Config

/-- A step from a collection to a part of it. -/
inductive Step
  | field (name : String)
  /-- An item of a list; negative numbers count from its end. -/
  | item (index : Int)
deriving DecidableEq

/-- A path: the name of a field, and steps from there. -/
structure Path where
  first : String
  steps : List Step
deriving DecidableEq

namespace Path

/-! ### The text of paths -/

/-- The characters of names in paths. -/
def isNameChar (c : Char) : Bool := c.isAlphanum || c == ' ' || c == '_' || c == '-'

/-- Take a name off the front. -/
def name? (cs : List Char) : Option (String × List Char) :=
  match cs.takeWhile isNameChar with
  | [] => none
  | name => some (String.ofList name, cs.dropWhile isNameChar)

/-- A blank around an index. -/
def isSpace (c : Char) : Bool := c == ' ' || c == '\t'

/-- Take an index and the bracket behind it off the front. -/
def index? (cs : List Char) : Option (Int × List Char) :=
  let cs := cs.dropWhile isSpace
  let negative := cs.head? = some '-'
  let cs := if negative then cs.tail else cs
  let digits := cs.takeWhile Char.isDigit
  match (cs.drop digits.length).dropWhile isSpace with
  | ']' :: rest =>
    let n : Int := if negative then -(natOfDigits 10 digits : Int) else natOfDigits 10 digits
    if digits ≠ [] ∧ fitsSigned 64 n then some (n, rest) else none
  | _ => none

/-- The steps that a text stands for; at most `fuel` of them. -/
def steps? : (fuel : Nat) → List Char → Option (List Step)
  | _, [] => some []
  | 0, _ => none
  | fuel + 1, c :: cs =>
    if c = '.' then do
      let (name, rest) ← name? cs
      return .field name :: (← steps? fuel rest)
    else if c = '[' then do
      let (index, rest) ← index? cs
      return .item index :: (← steps? fuel rest)
    else none

/-- The path that a text stands for. -/
def parse? (text : List Char) : Option Path := do
  let (first, rest) ← name? text
  return ⟨first, ← steps? rest.length rest⟩

end Path

/-! ### Values at the end of paths -/

/-- A name as it is kept: case makes no difference. -/
def keyName (s : String) : String := String.ofList (lowercase s)

namespace Value

/-- The fields of a table; other values count as an empty one. -/
def fields : Value → List (String × Value)
  | table fs => fs
  | _ => []

/-- The items of a list; other values count as an empty one. -/
def items : Value → List Value
  | list vs => vs
  | _ => []

/-- What stands under a name. -/
def field? (v : Value) (name : String) : Option Value := v.fields.lookup name

/-- Fields with a value under a name. -/
def putField (name : String) (v : Value) : List (String × Value) → List (String × Value)
  | [] => [(name, v)]
  | (k, w) :: fields => if k = name then (k, v) :: fields else (k, w) :: putField name v fields

mutual

/-- Put a value under a name of a table. A table is joined with what is there already. -/
def mergeField (name : String) (root : Value) : Value → Value
  | .table incoming =>
    let there := (root.field? (keyName name)).getD (.table [])
    .table (putField (keyName name) (mergeFields there incoming) root.fields)
  | v => .table (putField (keyName name) v root.fields)

/-- Put values under names of a table. -/
def mergeFields (root : Value) : List (String × Value) → Value
  | [] => root
  | (name, v) :: fields => mergeFields (mergeField name root v) fields

end

/-- The place of an item in a list of the given length. -/
def placeOf (index : Int) (length : Nat) : Nat :=
  if index < 0 then length - index.natAbs else index.toNat

/-- Change an item of a list, which grows if it is too short. -/
def alterItem (index : Int) (f : Value → Value) (items : List Value) : List Value :=
  let place := placeOf index items.length
  let items := items ++ List.replicate (place + 1 - items.length) .null
  items.modify place f

/-- Change what a step leads to. Collections come into being as they are needed. -/
def alterStep (s : Step) (f : Value → Value) (root : Value) : Value :=
  match s with
  | .field name =>
    let there := (root.field? (keyName name)).getD .null
    .table (putField (keyName name) (f there) root.fields)
  | .item index => .list (alterItem index f root.items)

/-- Change what steps lead to. -/
def alter (f : Value → Value) : List Step → Value → Value
  | [], root => f root
  | s :: steps, root => alterStep s (alter f steps) root

end Value

/-- Put a value at the end of a path. -/
def Path.set (p : Path) (v root : Value) : Value :=
  match (Step.field p.first :: p.steps).getLast? with
  | some (.item index) =>
    Value.alter (fun parent => .list (Value.alterItem index (fun _ => v) parent.items))
      (Step.field p.first :: p.steps).dropLast root
  | some (.field name) =>
    Value.alter (fun parent => Value.mergeField name parent v)
      (Step.field p.first :: p.steps).dropLast root
  | none => root

end Listfile.Config
