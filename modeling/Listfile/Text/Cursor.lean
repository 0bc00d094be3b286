import Listfile.Text.Bytes

/-!
# Cursors

A cursor is a place in a text, given by what stands before it and what stands after it. Moving one
character to either side takes constant time, and the byte offset is kept with the place.

* `Cursor.ofText`: the start of a text.
* `Cursor.next?`, `Cursor.prev?`: one character to the right and to the left.
* `Cursor.seek?`: the place at a byte offset.
-/

namespace Listfile

/-- A place in a text. -/
structure Cursor where
  /-- The characters before the place, nearest first. -/
  before : List Char
  /-- The characters from the place on. -/
  after : List Char
  /-- The byte offset of the place. -/
  offset : Nat
  /-- How many characters follow. -/
  left : Nat
  offset_eq : offset = byteLength before
  left_eq : left = after.length

namespace Cursor

/-- The start of a text. -/
def ofText (text : List Char) : Cursor := ⟨[], text, 0, text.length, rfl, rfl⟩

instance : Inhabited Cursor := ⟨ofText []⟩

/-- The whole text a cursor is a place of. -/
def text (c : Cursor) : List Char := c.before.reverse ++ c.after

/-- Is this the end of the text? -/
def atEnd (c : Cursor) : Bool := c.after.isEmpty

/-- Is this the start of the text? -/
def atStart (c : Cursor) : Bool := c.before.isEmpty

/-- The place one character further, with that character. -/
def next? : Cursor → Option (Char × Cursor)
  | ⟨before, x :: after, offset, left, ho, hl⟩ =>
    some (x, ⟨x :: before, after, offset + x.utf8Size, left - 1, by simp [ho, Nat.add_comm],
      by simp [hl]⟩)
  | ⟨_, [], _, _, _, _⟩ => none

/-- The place one character back, with that character. -/
def prev? : Cursor → Option (Char × Cursor)
  | ⟨x :: before, after, offset, left, ho, hl⟩ =>
    some (x, ⟨before, x :: after, offset - x.utf8Size, left + 1, by simp [ho], by simp [hl]⟩)
  | ⟨[], _, _, _, _, _⟩ => none

/-- The place `n` characters back. -/
def back? : Nat → Cursor → Option Cursor
  | 0, c => some c
  | n + 1, c => c.prev?.bind fun p => back? n p.2

/-- Move to the right, by at most `fuel` characters, up to the byte offset `target`. -/
def seekFrom (target : Nat) : Nat → Cursor → Option Cursor
  | 0, c => if c.offset = target then some c else none
  | fuel + 1, c =>
    if c.offset = target then some c
    else if target < c.offset then none
    else c.next?.bind fun p => seekFrom target fuel p.2

/-- The place of a text at a byte offset, if that offset lies on a character boundary. -/
def seek? (text : List Char) (target : Nat) : Option Cursor :=
  seekFrom target text.length (ofText text)

/-- The characters from this place up to the byte offset `stop`. -/
def sliceTo (c : Cursor) (stop : Nat) : List Char :=
  (takeBytes (stop - c.offset) c.after).getD []

@[simp] theorem text_ofText (t : List Char) : (ofText t).text = t := by simp [ofText, text]

theorem text_next? {c d : Cursor} {x : Char} (h : c.next? = some (x, d)) : d.text = c.text := by
  obtain ⟨b, a, o, l, ho, hl⟩ := c
  cases a with
  | nil => simp [next?] at h
  | cons y a =>
    simp only [next?, Option.some.injEq, Prod.mk.injEq] at h
    obtain ⟨rfl, rfl⟩ := h
    simp [text]

theorem text_prev? {c d : Cursor} {x : Char} (h : c.prev? = some (x, d)) : d.text = c.text := by
  obtain ⟨b, a, o, l, ho, hl⟩ := c
  cases b with
  | nil => simp [prev?] at h
  | cons y b =>
    simp only [prev?, Option.some.injEq, Prod.mk.injEq] at h
    obtain ⟨rfl, rfl⟩ := h
    simp [text]

end Cursor

end Listfile
