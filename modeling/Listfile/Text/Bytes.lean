/-!
# Byte offsets into text

Text is a list of characters, and offsets into it count the bytes of its UTF-8 form.

* `byteLength`: the number of bytes of a text.
* `takeBytes`: the part of a text before an offset, if the offset lies between two characters.
* `Span`: a half-open range of offsets.
-/

namespace Listfile

/-- The number of bytes of a text in UTF-8, added to `n`. -/
def byteLengthFrom : (n : Nat) → List Char → Nat
  | n, [] => n
  | n, c :: cs => byteLengthFrom (n + c.utf8Size) cs

/-- The number of bytes of a text in UTF-8. -/
def byteLength (s : List Char) : Nat := byteLengthFrom 0 s

theorem byteLengthFrom_eq (n : Nat) (s : List Char) : byteLengthFrom n s = n + byteLength s := by
  induction s generalizing n with
  | nil => rfl
  | cons c cs ih =>
    have h : byteLength (c :: cs) = byteLengthFrom (0 + c.utf8Size) cs := rfl
    rw [byteLengthFrom, ih, h, ih (0 + c.utf8Size), Nat.zero_add, Nat.add_assoc]

@[simp] theorem byteLength_nil : byteLength [] = 0 := rfl

@[simp] theorem byteLength_cons (c : Char) (cs : List Char) :
    byteLength (c :: cs) = c.utf8Size + byteLength cs := by
  rw [byteLength, byteLengthFrom, byteLengthFrom_eq, Nat.zero_add]

@[simp] theorem byteLength_append (s t : List Char) :
    byteLength (s ++ t) = byteLength s + byteLength t := by
  induction s with
  | nil => simp
  | cons c cs ih => simp [ih, Nat.add_assoc]

@[simp] theorem byteLength_reverse (s : List Char) : byteLength s.reverse = byteLength s := by
  induction s with
  | nil => rfl
  | cons c cs ih => simp [ih, Nat.add_comm]

theorem byteLength_pos {s : List Char} (h : s ≠ []) : 0 < byteLength s := by
  cases s with
  | nil => exact absurd rfl h
  | cons c cs => have := c.utf8Size_pos; simp; omega

theorem length_le_byteLength (s : List Char) : s.length ≤ byteLength s := by
  induction s with
  | nil => exact Nat.le_refl 0
  | cons c cs ih =>
    have hpos := c.utf8Size_pos
    rw [List.length_cons, byteLength_cons]
    omega

/-- The characters before the byte offset `n`, if that offset lies on a character boundary. -/
def takeBytes : Nat → List Char → Option (List Char)
  | 0, _ => some []
  | _ + 1, [] => none
  | n + 1, c :: cs =>
    if c.utf8Size ≤ n + 1 then (takeBytes (n + 1 - c.utf8Size) cs).map (c :: ·) else none

/-- A half-open range of byte offsets. -/
structure Span where
  start : Nat
  stop : Nat
deriving DecidableEq, Inhabited

/-- The characters of `text` from byte `s.start` to byte `s.stop`, nothing when the span does not
fall on character boundaries. -/
def Span.slice? (s : Span) (text : List Char) : Option (List Char) := do
  let upTo ← takeBytes s.stop text
  let before ← takeBytes s.start upTo
  return upTo.drop before.length

end Listfile
