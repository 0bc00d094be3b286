import Listfile.Proofs.Text.Spans
import Mathlib.Data.List.Basic

/-!
# Text that is passed on the way to a place

* `Cursor.Passes`: a place lies behind a text from another place on.
* `Passes.trans`, `Passes.step`: what is passed on the way adds up.
* `Passes.unique`, `exists_passes`: there is one such place if the text stands ahead.
* `Passes.unique_text`: there is one such text if the place lies ahead.
* `Passes.sliceTo`: the text between the places.
-/

namespace Listfile.Cursor

/-- The place `d` lies behind the text `u` that stands ahead of `c`. -/
structure Passes (c : Cursor) (u : List Char) (d : Cursor) : Prop where
  before : d.before = u.reverse ++ c.before
  after : c.after = u ++ d.after

variable {c d e : Cursor} {u v : List Char}

@[ext] theorem ext' (hbefore : c.before = d.before) (hafter : c.after = d.after) : c = d := by
  obtain ⟨before, after, offset, left, hoffset, hleft⟩ := c
  obtain ⟨before', after', offset', left', hoffset', hleft'⟩ := d
  subst hoffset hoffset' hleft hleft'
  cases hbefore
  cases hafter
  rfl

namespace Passes

theorem refl (c : Cursor) : c.Passes [] c := ⟨rfl, rfl⟩

theorem trans (h : c.Passes u d) (h' : d.Passes v e) : c.Passes (u ++ v) e := by
  refine ⟨?_, ?_⟩
  · rw [h'.before, h.before, List.reverse_append, List.append_assoc]
  · rw [h.after, h'.after, List.append_assoc]

theorem step {x : Char} (h : c.next? = some (x, d)) : c.Passes [x] d := by
  obtain ⟨before, after, offset, left, hoffset, hleft⟩ := c
  cases after with
  | nil => cases h
  | cons y after =>
    cases h
    exact ⟨rfl, rfl⟩

theorem text (h : c.Passes u d) : d.text = c.text := by
  rw [Cursor.text, Cursor.text, h.before, h.after, List.reverse_append, List.reverse_reverse,
    List.append_assoc]

theorem offset (h : c.Passes u d) : d.offset = c.offset + byteLength u := by
  rw [d.offset_eq, h.before, byteLength_append, byteLength_reverse, ← c.offset_eq, Nat.add_comm]

theorem offset_lt (h : c.Passes u d) (hu : u ≠ []) : c.offset < d.offset := by
  have hpos := byteLength_pos hu
  have hoffset := h.offset
  omega

/-- There is only one place behind a text. -/
theorem unique (h : c.Passes u d) (h' : c.Passes u e) : d = e := by
  refine ext' (h.before.trans h'.before.symm) ?_
  exact List.append_cancel_left (h.after.symm.trans h'.after)

/-- There is only one text between two places. -/
theorem unique_text (h : c.Passes u d) (h' : c.Passes v d) : u = v := by
  have hbefore := List.append_cancel_right (h.before.symm.trans h'.before)
  exact List.reverse_injective hbefore

/-- What is passed on the way is what stands between the places. -/
theorem sliceTo (h : c.Passes u d) : c.sliceTo d.offset = u := by
  rw [Cursor.sliceTo, h.offset, Nat.add_sub_cancel_left, h.after, takeBytes_append]
  rfl

end Passes

/-- The place behind the next character. -/
theorem next?_of_after {x : Char} {rest : List Char} (h : c.after = x :: rest) :
    ∃ d, c.next? = some (x, d) ∧ c.Passes [x] d := by
  obtain ⟨before, after, offset, left, hoffset, hleft⟩ := c
  cases h
  exact ⟨_, rfl, ⟨rfl, rfl⟩⟩

theorem next?_of_nil (h : c.after = []) : c.next? = none := by
  obtain ⟨before, after, offset, left, hoffset, hleft⟩ := c
  cases h
  rfl

/-- What stands ahead can be passed. -/
theorem exists_passes {rest : List Char} (h : c.after = u ++ rest) : ∃ d, c.Passes u d ∧ d.after = rest := by
  induction u generalizing c with
  | nil => exact ⟨c, .refl c, h⟩
  | cons x u ih =>
    obtain ⟨d, -, hd⟩ := next?_of_after h
    have hafter : d.after = u ++ rest := (List.cons_eq_cons.1 (hd.after.symm.trans h)).2
    obtain ⟨e, he, hrest⟩ := ih hafter
    exact ⟨e, hd.trans he, hrest⟩

end Listfile.Cursor
