import Listfile.Config.Toml.Moment
import Listfile.Config.Toml.Reader

/-!
# Words of TOML

* `integer?`, `float?`: numbers.
* `word?`: any value that is written as one word.
-/

namespace Listfile.Config.Toml

/-! ### Numbers -/

/-- Digits between which single low lines may stand, without these. -/
def grouped? (isDigit : Char → Bool) : List Char → Option (List Char)
  | [] => none
  | [c] => if isDigit c then some [c] else none
  | c :: '_' :: cs => if isDigit c then (grouped? isDigit cs).map (c :: ·) else none
  | c :: cs => if isDigit c then (grouped? isDigit cs).map (c :: ·) else none

/-- Take a sign off the front: is it a minus sign? -/
def splitSign : List Char → Bool × List Char
  | '-' :: cs => (true, cs)
  | '+' :: cs => (false, cs)
  | cs => (false, cs)

/-- Decimal digits that do not begin with a superfluous zero. -/
def plainDigits? (cs : List Char) : Option (List Char) := do
  let digits ← grouped? Char.isDigit cs
  if digits.head? = some '0' && cs.length != 1 then none else some digits

/-- An integer that fits into 64 bits. -/
def integer? (cs : List Char) : Option Int := do
  let n : Int ← match cs with
    | '0' :: 'x' :: cs => (grouped? (isDigitOf 16) cs).map fun ds => natOfDigits 16 ds
    | '0' :: 'o' :: cs => (grouped? (isDigitOf 8) cs).map fun ds => natOfDigits 8 ds
    | '0' :: 'b' :: cs => (grouped? (isDigitOf 2) cs).map fun ds => natOfDigits 2 ds
    | cs =>
      let (negative, cs) := splitSign cs
      (plainDigits? cs).map fun ds => if negative then -(natOfDigits 10 ds : Int) else natOfDigits 10 ds
  if fitsSigned 64 n then some n else none

/-- The exponent of a number, zero if there is none. -/
def exponent? : List Char → Option Int
  | [] => some 0
  | 'e' :: cs | 'E' :: cs =>
    let (negative, cs) := splitSign cs
    (grouped? Char.isDigit cs).map fun ds =>
      if negative then -(natOfDigits 10 ds : Int) else natOfDigits 10 ds
  | _ => none

/-- The digits behind the point, empty if there is none, and what follows them. -/
def fraction? : List Char → Option (List Char × List Char)
  | '.' :: cs =>
    let digits := cs.takeWhile fun c => c.isDigit || c == '_'
    (grouped? Char.isDigit digits).map fun ds => (ds, cs.drop digits.length)
  | cs => some ([], cs)

/-- A floating-point number. It may not be too large; one that is too small in the same way is infinite. -/
def float? (cs : List Char) : Option Float := do
  let (negative, cs) := splitSign cs
  if cs = "inf".toList then return if negative then -1 / 0 else 1 / 0
  else if cs = "nan".toList then return 0 / 0
  else
    let whole := cs.takeWhile fun c => c.isDigit || c == '_'
    let rest := cs.drop whole.length
    if rest = [] then none
    else
      let whole ← plainDigits? whole
      let (fraction, rest) ← fraction? rest
      let x := Decimal.toFloat (natOfDigits 10 (whole ++ fraction)) ((← exponent? rest) - fraction.length)
      if negative then return -x
      else if x == 1 / 0 then none
      else return x

/-! ### Words -/

/-- The characters of values that are written as one word. -/
def isWordChar (c : Char) : Bool := isNameChar c || c == '+' || c == '.' || c == ':'

/-- The value of a word. -/
def word? (cs : List Char) : Option Value :=
  if cs = "true".toList then some (.bool true)
  else if cs = "false".toList then some (.bool false)
  else
    match moment? .word cs with
    | some text => some (moment text)
    | none =>
      match integer? cs with
      | some n => some (.integer n)
      | none => (float? cs).map .float

/-- Take a word off the front. A blank between a date and a time belongs to it. -/
def splitWord (cs : List Char) : List Char × List Char :=
  let word := cs.takeWhile isWordChar
  match cs.drop word.length with
  | ' ' :: d :: rest =>
    if (date? word).any (·.2.isEmpty) && d.isDigit then
      let time := (d :: rest).takeWhile isWordChar
      (word ++ ' ' :: time, (d :: rest).drop time.length)
    else (word, ' ' :: d :: rest)
  | rest => (word, rest)

end Listfile.Config.Toml
