import Listfile.Config.Value
import Listfile.Text.Digits

/-!
# Dates and times of TOML

A date, a time, or both are kept as text. In a document they stand for tables with a single field of a
special name, so a table that is written in this way is a date or a time too.

* `moment?`: the text of a date or a time.
* `moment`, `withMoments?`: the tables that stand for them, and a value with texts instead of these.
-/

namespace Listfile.Config.Toml

/-- The number that all of the given digits stand for, if it lies between the bounds. -/
def numberIn? (low high : Nat) (digits : List Char) : Option Nat :=
  let n := natOfDigits 10 digits
  if digits.all Char.isDigit ∧ low ≤ n ∧ n ≤ high then some n else none

/-- How many days a month has. -/
def daysOfMonth (year month : Nat) : Nat :=
  if month = 2 then
    if year % 4 = 0 ∧ (year % 100 ≠ 0 ∨ year % 400 = 0) then 29 else 28
  else if month = 4 ∨ month = 6 ∨ month = 9 ∨ month = 11 then 30
  else 31

/-- A date and what follows it. -/
def date? : List Char → Option (List Char × List Char)
  | a :: b :: c :: d :: '-' :: e :: f :: '-' :: g :: h :: cs => do
    let year ← numberIn? 0 9999 [a, b, c, d]
    let month ← numberIn? 1 12 [e, f]
    let _ ← numberIn? 1 (daysOfMonth year month) [g, h]
    return ([a, b, c, d, '-', e, f, '-', g, h], cs)
  | _ => none

/-- The greatest numbers of times and of distances from universal time. -/
structure Bounds where
  hour : Nat
  offsetHour : Nat
  offsetMinute : Nat

/-- The bounds for a date or a time that is written as a word. -/
def Bounds.word : Bounds := ⟨23, 23, 59⟩

/-- The bounds for a date or a time that is written as a table. -/
def Bounds.table : Bounds := ⟨24, 99, 99⟩

/-- The fraction of a second: at most nine digits, and no zeros at their end. -/
def secondFraction (digits : List Char) : List Char :=
  match ((digits.take 9).reverse.dropWhile (· == '0')).reverse with
  | [] => []
  | digits => '.' :: digits

/-- A time and what follows it. -/
def time? (bounds : Bounds) : List Char → Option (List Char × List Char)
  | a :: b :: ':' :: c :: d :: ':' :: e :: f :: cs => do
    let _ ← numberIn? 0 bounds.hour [a, b]
    let _ ← numberIn? 0 59 [c, d]
    let _ ← numberIn? 0 60 [e, f]
    let time := [a, b, ':', c, d, ':', e, f]
    match cs with
    | '.' :: cs =>
      match cs.takeWhile Char.isDigit with
      | [] => none
      | digits => return (time ++ secondFraction digits, cs.dropWhile Char.isDigit)
    | _ => return (time, cs)
  | _ => none

/-- A number less than a hundred in two digits. -/
def twoDigits (n : Nat) : List Char := [Char.ofNat (48 + n / 10), Char.ofNat (48 + n % 10)]

/-- The distance from universal time, which is empty if it is not given. It is a day at most. -/
def offset? (bounds : Bounds) : List Char → Option (List Char)
  | [] => some []
  | ['Z'] | ['z'] => some ['Z']
  | [sign, a, b, ':', c, d] => do
    let hours ← numberIn? 0 bounds.offsetHour [a, b]
    let minutes ← numberIn? 0 bounds.offsetMinute [c, d]
    let total := hours * 60 + minutes
    if (sign = '+' ∨ sign = '-') ∧ total ≤ 24 * 60 then
      return (if total = 0 then '+' else sign) ::
        twoDigits (total / 60) ++ ':' :: twoDigits (total % 60)
    else none
  | _ => none

/-- A date, a time, or both. -/
def moment? (bounds : Bounds) (cs : List Char) : Option (List Char) :=
  match date? cs with
  | some (date, []) => some date
  | some (date, mark :: cs) => do
    if mark = 'T' ∨ mark = 't' ∨ mark = ' ' then
      let (time, cs) ← time? bounds cs
      return date ++ 'T' :: time ++ (← offset? bounds cs)
    else none
  | none =>
    match time? bounds cs with
    | some (time, []) => some time
    | _ => none

/-! ### Tables that stand for dates and times -/

/-- The name of the field of such a table. -/
def momentField : String := "$__toml_private_datetime"

/-- The table that stands for a date or a time. -/
def moment (text : List Char) : Value := .table [(momentField, .text (String.ofList text))]

mutual

/-- A value with texts in place of the tables that stand for dates and times. A table whose first field has
the special name has to stand for one; its other fields do not matter. -/
def withMoments? : Value → Option Value
  | .table fields =>
    match fields with
    | [] => some (.table [])
    | (name, v) :: rest =>
      if name = momentField then
        match v with
        | .text s => (moment? .table s.toList).map fun t => .text (String.ofList t)
        | _ => none
      else do return .table ((name, ← withMoments? v) :: (← fieldsWithMoments? rest))
  | .list items => do return .list (← itemsWithMoments? items)
  | v => some v

/-- The same for the fields of a table. -/
def fieldsWithMoments? : List (String × Value) → Option (List (String × Value))
  | [] => some []
  | (name, v) :: fields => do return (name, ← withMoments? v) :: (← fieldsWithMoments? fields)

/-- The same for the items of a list. -/
def itemsWithMoments? : List Value → Option (List Value)
  | [] => some []
  | v :: items => do return (← withMoments? v) :: (← itemsWithMoments? items)

end

end Listfile.Config.Toml
