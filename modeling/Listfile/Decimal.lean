import Listfile.Text.Digits

/-!
# Decimal text of binary numbers

The text of a floating-point number has the fewest digits that still tell it from its neighbours, and no
exponent.

* `Binary`: a positive number `mantissa * 2 ^ exponent` with the numbers that are rounded to it.
* `Binary.shortest`: the fewest digits.
* `positional`: digits as they are written without an exponent.
* `floatText`: the text of a floating-point number.
-/

namespace Listfile.Decimal

/-- A positive number, with the bounds between which numbers are rounded to it. All are counted in units
of `2 ^ exponent`. -/
structure Binary where
  value : Nat
  low : Nat
  high : Nat
  /-- Are the bounds rounded to it as well? -/
  closed : Bool
  exponent : Int

namespace Binary

/-- The number with the given 52 bits of a fraction and 11 bits of an exponent. -/
def ofParts (fraction exponent : Nat) : Binary :=
  let mantissa := if exponent = 0 then fraction else pow2 52 + fraction
  let scale : Int := if exponent = 0 then -1074 else exponent - 1075
  { value := 4 * mantissa
    low := 4 * mantissa - (if fraction = 0 ∧ 1 < exponent then 1 else 2)
    high := 4 * mantissa + 2
    closed := mantissa % 2 = 0
    exponent := scale - 2 }

/-- A fraction of natural numbers that is equal to `n * 2 ^ exponent / 10 ^ place`. -/
def ratio (b : Binary) (n : Nat) (place : Int) : Nat × Nat :=
  (n * pow2 b.exponent.toNat * Nat.pow 10 (-place).toNat,
    pow2 (-b.exponent).toNat * Nat.pow 10 place.toNat)

/-- Is `digits * 10 ^ place` rounded to the number? -/
def reads (b : Binary) (digits : Nat) (place : Int) : Bool :=
  let (low, unit) := b.ratio b.low place
  let (high, _) := b.ratio b.high place
  if b.closed then low ≤ digits * unit && digits * unit ≤ high
  else low < digits * unit && digits * unit < high

/-- The digits at a decimal place that are nearest to the number among those that read back as it. -/
def digitsAt? (b : Binary) (place : Int) : Option Nat :=
  let (value, unit) := b.ratio b.value place
  let below := value / unit
  match b.reads below place, b.reads (below + 1) place with
  | true, true => some (if 2 * (value % unit) < unit then below else below + 1)
  | true, false => some below
  | false, true => some (below + 1)
  | false, false => none

/-- The first of the places from `place` downwards at which some digits read back as the number. -/
def shortestFrom (b : Binary) : Nat → Int → Nat × Int
  | 0, place => (0, place)
  | fuel + 1, place =>
    match b.digitsAt? place with
    | some digits => if digits = 0 then shortestFrom b fuel (place - 1) else (digits, place)
    | none => shortestFrom b fuel (place - 1)

/-- The fewest digits that read back as the number, and the place of the last. -/
def shortest (b : Binary) : Nat × Int := shortestFrom b 700 309

end Binary

/-- Digits of which the last stands for `10 ^ place`, written without an exponent. -/
def positional (digits : List Char) (place : Int) : List Char :=
  let behind := (-place).toNat
  if behind = 0 then digits ++ List.replicate place.toNat '0'
  else if behind < digits.length then
    digits.take (digits.length - behind) ++ '.' :: digits.drop (digits.length - behind)
  else ['0', '.'] ++ List.replicate (behind - digits.length) '0' ++ digits

/-- The text of the number with the given bits. -/
def bitsText (bits : Nat) : List Char :=
  let fraction := bits % pow2 52
  let exponent := bits / pow2 52 % pow2 11
  let sign := if bits / pow2 63 = 1 then ['-'] else []
  if exponent = 2047 then if fraction = 0 then sign ++ "inf".toList else "NaN".toList
  else if exponent = 0 ∧ fraction = 0 then sign ++ ['0']
  else
    let (digits, place) := (Binary.ofParts fraction exponent).shortest
    sign ++ positional (toString digits).toList place

/-- The text of a floating-point number. -/
def floatText (x : Float) : List Char := bitsText x.toBits.toNat

/-- The number `digits * 10 ^ place`, rounded. -/
def toFloat (digits : Nat) (place : Int) : Float :=
  let size := place + (toString digits).length
  if digits = 0 ∨ size < -400 then 0
  else if 400 < size then 1 / 0
  else if place < 0 then Float.ofScientific digits true (-place).toNat
  else Float.ofScientific digits false place.toNat

end Listfile.Decimal
