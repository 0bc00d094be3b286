/-!
# Text from bytes

* `decodeFront`: the character at the front of some bytes.
* `decodeUtf8?`: the text that bytes stand for, if they are UTF-8.
-/

namespace Listfile

/-- The least and the greatest byte that may stand behind the first byte of a longer sequence, and the
length of that sequence. -/
def secondByte? (first : Nat) : Option (Nat × Nat × Nat) :=
  if 0xC2 ≤ first ∧ first ≤ 0xDF then some (0x80, 0xBF, 2)
  else if first = 0xE0 then some (0xA0, 0xBF, 3)
  else if first = 0xED then some (0x80, 0x9F, 3)
  else if 0xE1 ≤ first ∧ first ≤ 0xEF then some (0x80, 0xBF, 3)
  else if first = 0xF0 then some (0x90, 0xBF, 4)
  else if 0xF1 ≤ first ∧ first ≤ 0xF3 then some (0x80, 0xBF, 4)
  else if first = 0xF4 then some (0x80, 0x8F, 4)
  else none

/-- How many bytes behind the first belong to it: the second has to lie between `low` and `high`, and
those that follow it between 80 and BF. -/
def followers (low high : Nat) : Nat → List UInt8 → Nat
  | 0, _ => 0
  | _ + 1, [] => 0
  | n + 1, b :: bs =>
    if low ≤ b.toNat ∧ b.toNat ≤ high then followers 0x80 0xBF n bs + 1 else 0

/-- The character at the front of bytes that begin with `b` and go on with `bs`, and how many of `bs`
belong to it. There is no character if they break off. -/
def decodeFront (b : UInt8) (bs : List UInt8) : Option Char × Nat :=
  if b.toNat < 0x80 then (some (Char.ofNat b.toNat), 0)
  else
    match secondByte? b.toNat with
    | none => (none, 0)
    | some (low, high, length) =>
      let n := followers low high (length - 1) bs
      if n = length - 1 then
        let start := b.toNat % (if length = 2 then 32 else if length = 3 then 16 else 8)
        (some (Char.ofNat ((bs.take n).foldl (fun v c => v * 64 + c.toNat % 64) start)), n)
      else (none, n)

/-- The characters of bytes, none for those that are not UTF-8, after the first `skipped` bytes. -/
def decodeFrom : (skipped : Nat) → List UInt8 → List (Option Char)
  | _, [] => []
  | skipped + 1, _ :: bs => decodeFrom skipped bs
  | 0, b :: bs => (decodeFront b bs).1 :: decodeFrom (decodeFront b bs).2 bs

/-- The text that bytes stand for in UTF-8. -/
def decodeUtf8? (bytes : List UInt8) : Option (List Char) := (decodeFrom 0 bytes).mapM id

/-- The bytes of a text in UTF-8. -/
def encodeUtf8 (text : List Char) : List UInt8 := (String.ofList text).toUTF8.toList

end Listfile
