import Listfile.Grammar.Fault

/-!
# Variables

Patterns may use variables, written as a name between double braces. Variables may use each other, but
not themselves.

* `pieces`: a text cut into characters and placeholders.
* `Variables.resolve`: the values of all variables of a table.
* `Variables.expand`: a pattern with values in place of placeholders.
-/

namespace Listfile.Grammar

/-- A part of a text: a character, or a placeholder for a variable. -/
inductive Piece
  | char (c : Char)
  | var (name : List Char)
deriving DecidableEq

/-- The characters of names of variables. -/
def isVariableChar (c : Char) : Bool := c.isAlphanum || c == '_'

/-- The name in a placeholder at the front of a text. -/
def placeholder? : List Char → Option (List Char)
  | '\x7B' :: '\x7B' :: cs =>
    let name := cs.takeWhile isVariableChar
    match name, cs.drop name.length with
    | _ :: _, '\x7D' :: '\x7D' :: _ => some name
    | _, _ => none
  | _ => none

/-- The pieces of a text after its first `skipped` characters. -/
def piecesFrom : (skipped : Nat) → List Char → List Piece
  | _, [] => []
  | skipped + 1, _ :: cs => piecesFrom skipped cs
  | 0, c :: cs =>
    match placeholder? (c :: cs) with
    | some name => .var name :: piecesFrom (name.length + 3) cs
    | none => .char c :: piecesFrom 0 cs

/-- The characters and placeholders of a text, found from left to right. -/
def pieces (text : List Char) : List Piece := piecesFrom 0 text

/-- The text with the values of variables in place of placeholders. -/
def substitute {m : Type → Type} [Monad m] (value : List Char → m (List Char)) (text : List Char) :
    m (List Char) := do
  let parts ← (pieces text).mapM fun
    | .char c => pure [c]
    | .var name => value name
  return parts.flatten

/-- The values of variables. -/
structure Variables where
  values : List (String × List Char)
deriving Inhabited

namespace Variables

/-- The value of a variable of a table. The state holds the values that have been found, and `visiting` the
variables whose values are being found, the latest first; there are at most `fuel` others. -/
def valueIn (table : List (String × String)) : Nat → (visiting : List String) → List Char →
    StateT (List (String × List Char)) (Except Fault) (List Char)
  | fuel, visiting, chars => do
    let name := String.ofList chars
    match (← get).lookup name with
    | some value => return value
    | none =>
      if visiting.contains name then throw (.recursiveVariable name)
      else match table.lookup name with
        | none => throw (.unknownVariable name (visiting.head?.getD ""))
        | some body =>
          match fuel with
          | 0 => throw (.recursiveVariable name)
          | fuel + 1 => do
            let value ← substitute (valueIn table fuel (name :: visiting)) body.toList
            modify ((name, value) :: ·)
            return value

/-- The variables of a table with their values. -/
def valuesOf (table : List (String × String)) :
    StateT (List (String × List Char)) (Except Fault) (List (String × List Char)) :=
  table.mapM fun v => do return (v.1, ← valueIn table table.length [] v.1.toList)

/-- The values of all variables of a table. -/
def resolve (table : List (String × String)) : Except Fault Variables := do
  return ⟨(← (valuesOf table).run []).1⟩

/-- The value of a variable. -/
def get? (vs : Variables) (name : String) : Option (List Char) := vs.values.lookup name

/-- The pattern with values in place of placeholders; `usedIn` names the context it belongs to. -/
def expand (vs : Variables) (usedIn : String) (pattern : String) : Except Fault (List Char) :=
  substitute (fun name =>
    match vs.get? (String.ofList name) with
    | some value => .ok value
    | none => .error (.unknownVariable (String.ofList name) usedIn)) pattern.toList

end Variables

end Listfile.Grammar
