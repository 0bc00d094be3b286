import Listfile.Decimal
import Listfile.Text.Digits

/-!
# Values of settings

A setting may be given as a value of another type, as long as it can be understood.

* `Value`: what settings are given as.
* `Value.toNat?`, `Value.toBool?`, `Value.toText?`: what a value means where a number, a truth value or
  a text is needed.
-/

namespace Listfile.Config

/-- A value of a setting. -/
inductive Value
  | null
  | bool (b : Bool)
  | integer (n : Int)
  | float (x : Float)
  | text (s : String)
  | list (items : List Value)
  | table (fields : List (String × Value))

instance : Inhabited Value := ⟨.null⟩

/-- A character in lower case. Beyond ASCII only the Kelvin sign counts, which stands for a letter. -/
def lowerChar (c : Char) : Char := if c = '\u212A' then 'k' else c.toLower

/-- A text in lower case. -/
def lowercase (s : String) : List Char := s.toList.map lowerChar

/-- The words for truth values. -/
def boolOfWord? (word : List Char) : Option Bool :=
  if word = "true".toList ∨ word = "on".toList ∨ word = "yes".toList then some true
  else if word = "false".toList ∨ word = "off".toList ∨ word = "no".toList then some false
  else none

/-- The number that a text stands for: digits, which a plus sign may precede. The number has to fit into
64 bits. -/
def natOfText? (text : List Char) : Option Nat :=
  let digits := if text.head? = some '+' then text.tail else text
  let n := natOfDigits 10 digits
  if digits ≠ [] ∧ digits.all Char.isDigit ∧ fitsUnsigned 64 n then some n else none

namespace Value

/-- The value as a number. -/
def toNat? : Value → Option Nat
  | bool b => some (if b then 1 else 0)
  | integer n => if n < 0 then none else some n.toNat
  | float x => some x.round.toUInt64.toNat
  | text s =>
    match boolOfWord? (lowercase s) with
    | some b => some (if b then 1 else 0)
    | none => natOfText? s.toList
  | _ => none

/-- The value as a truth value. -/
def toBool? : Value → Option Bool
  | bool b => some b
  | integer n => some (n != 0)
  | float x => some (x != 0)
  | text s =>
    if s = "1" then some true else if s = "0" then some false else boolOfWord? (lowercase s)
  | _ => none

/-- The value as a text. -/
def toText? : Value → Option String
  | bool b => some (if b then "true" else "false")
  | integer n => some (toString n)
  | float x => some (String.ofList (Decimal.floatText x))
  | text s => some s
  | _ => none

end Value

end Listfile.Config
