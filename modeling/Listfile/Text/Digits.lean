/-!
# Digits

* `digitValue?`, `natOfDigits`: the values of digits, up to those of base 16.
* `charOfHex?`: the character with a given number.
* `fitsUnsigned`, `fitsSigned`: does a number fit into so many bits?
-/

namespace Listfile

/-- The value of a digit. Letters count from ten. -/
def digitValue? (c : Char) : Option Nat :=
  if '0' ≤ c ∧ c ≤ '9' then some (c.toNat - 48)
  else if 'a' ≤ c ∧ c ≤ 'f' then some (c.toNat - 87)
  else if 'A' ≤ c ∧ c ≤ 'F' then some (c.toNat - 55)
  else none

/-- Is this a digit of the given base? -/
def isDigitOf (base : Nat) (c : Char) : Bool := (digitValue? c).any (· < base)

/-- The number that digits stand for. -/
def natOfDigits (base : Nat) (digits : List Char) : Nat :=
  digits.foldl (fun n c => base * n + (digitValue? c).getD 0) 0

/-- The character with the number that hexadecimal digits stand for. -/
def charOfHex? (digits : List Char) : Option Char :=
  let n := natOfDigits 16 digits
  if digits.all (isDigitOf 16) ∧ n.isValidChar then some (Char.ofNat n) else none

/-- Two to the power `n`. -/
def pow2 (n : Nat) : Nat := Nat.pow 2 n

/-- Does a number fit into so many bits? -/
def fitsUnsigned (bits n : Nat) : Bool := n < pow2 bits

/-- Does a number with a sign fit into so many bits, one of which is for the sign? -/
def fitsSigned (bits : Nat) (n : Int) : Bool :=
  -(pow2 (bits - 1) : Int) ≤ n && n < pow2 (bits - 1)

end Listfile
