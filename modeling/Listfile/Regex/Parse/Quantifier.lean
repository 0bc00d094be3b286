import Listfile.Regex.Expr
import Listfile.Regex.Fault
import Listfile.Text.Digits

/-!
# Blanks, comments and quantifiers

* `Flags`: the flags in force at some place of a pattern.
* `skip`: what follows the blanks and comments that do not belong to a pattern.
* `quantify`: the expression with the quantifier behind it.
-/

namespace Listfile.Regex

/-- The flags that are set between `(?` and `)`. -/
structure Flags where
  /-- `i`: case is ignored. -/
  fold : Bool := false
  /-- `m`: anchors match at lines. -/
  multiline : Bool := false
  /-- `s`: the dot matches a line feed too. -/
  dotAll : Bool := false
  /-- `U`: repetitions are lazy unless marked. -/
  lazyFirst : Bool := false
  /-- `x`: blanks and comments between the parts of a pattern are skipped. -/
  extended : Bool := false
deriving DecidableEq, Inhabited

/-! ### Blanks and comments -/

/-- What is being skipped. -/
inductive Skipping
  | nothing
  | lineComment
  | comment

/-- Skip comments of the form `(?#…)` and, if asked for, blanks and comments up to the end of a line.
Nothing when a comment is not closed. -/
def skipFrom (extended : Bool) : Skipping → List Char → Option (List Char)
  | .nothing, '(' :: '?' :: '#' :: cs => skipFrom extended .comment cs
  | .nothing, c :: cs =>
    if extended && c == '#' then skipFrom extended .lineComment cs
    else if extended && (c == ' ' || c == '\t' || c == '\r' || c == '\n') then
      skipFrom extended .nothing cs
    else some (c :: cs)
  | .nothing, [] => some []
  | .lineComment, c :: cs => skipFrom extended (if c == '\n' then .nothing else .lineComment) cs
  | .lineComment, [] => some []
  | .comment, '\\' :: _ :: cs => skipFrom extended .comment cs
  | .comment, c :: cs => skipFrom extended (if c == ')' then .nothing else .comment) cs
  | .comment, [] => none

/-- Skip what does not belong to the pattern. -/
def skip (extended : Bool) (cs : List Char) : Except Fault (List Char) :=
  match skipFrom extended .nothing cs with
  | some rest => .ok rest
  | none => .error .unclosedComment

/-! ### Quantifiers -/

/-- The largest number that can be written in a pattern. As an upper bound it stands for none. -/
def maxNumber : Nat := 18446744073709551615

/-- A decimal number at the front of a text. -/
def number? (cs : List Char) : Option (Nat × List Char) :=
  match cs.span Char.isDigit with
  | ([], _) => none
  | (digits, rest) =>
    let n := natOfDigits 10 digits
    if n ≤ maxNumber then some (n, rest) else none

/-- The bounds of a repetition of which only the closing brace is left to be read. -/
def closeBounds? (extended : Bool) (least : Nat) (most : Option Nat) (cs : List Char) :
    Option (Nat × Option Nat × List Char) :=
  match skipFrom extended .nothing cs with
  | some ('\x7D' :: cs) => some (least, most, cs)
  | _ => none

/-- The upper bound that a number stands for. -/
def upperBound (n : Nat) : Option Nat := if n = maxNumber then none else some n

/-- The bounds of a repetition, after the lower one. Without a comma that is the upper one too. -/
def upperBounds? (extended : Bool) (least : Nat) (cs : List Char) :
    Option (Nat × Option Nat × List Char) := do
  match ← skipFrom extended .nothing cs with
  | ',' :: cs =>
    let cs ← skipFrom extended .nothing cs
    match number? cs with
    | some (most, cs) => closeBounds? extended least (upperBound most) cs
    | none => closeBounds? extended least none cs
  | cs => closeBounds? extended least (upperBound least) cs

/-- The bounds of a repetition, after its opening brace. -/
def bounds? (extended : Bool) (cs : List Char) : Option (Nat × Option Nat × List Char) := do
  let cs ← skipFrom extended .nothing cs
  if cs.head? = some ',' then upperBounds? extended 0 cs
  else
    let (least, cs) ← number? cs
    upperBounds? extended least cs

/-- A quantifier at the front of a text: least number, greatest number, rest. A brace that opens no
bounds is an ordinary character. -/
def quantifier? (extended : Bool) : List Char → Option (Nat × Option Nat × List Char)
  | '?' :: cs => some (0, some 1, cs)
  | '*' :: cs => some (0, none, cs)
  | '+' :: cs => some (1, none, cs)
  | '\x7B' :: cs => bounds? extended cs
  | _ => none

/-- A repetition with the mark that follows its bounds, if there is one: `?` prefers fewer repetitions
and `+` after that forbids going back. -/
def markRepetition (extended : Bool) (repetition : (isLazy : Bool) → Expr) (cs : List Char) :
    Except Fault (Expr × List Char) := do
  match ← skip extended cs with
  | '?' :: '+' :: rest => return (.atomic (repetition true), rest)
  | '?' :: rest => return (repetition true, rest)
  | '+' :: rest => return (.atomic (repetition false), rest)
  | _ => return (repetition false, cs)

/-- Apply the quantifier that follows an expression, if there is one. -/
def quantify (flags : Flags) (e : Expr) (cs : List Char) : Except Fault (Expr × List Char) := do
  match quantifier? flags.extended (← skip flags.extended cs) with
  | none => return (e, cs)
  | some (least, most, cs) =>
    if e.isRepeatable then
      markRepetition flags.extended (fun isLazy => .repeated e least most (isLazy == flags.lazyFirst)) cs
    else throw .nothingToRepeat

end Listfile.Regex
