import Listfile.Proofs.Highlight.Resuming
import Listfile.Proofs.Highlight.Walking

/-!
# How many steps a line takes

Rules may match nothing again and again, and enter, leave or replace contexts while they do.  Still the steps along a
line are limited by its length.

* `Walk.Takes`: the steps of a walk up to its end, each of them at a place of the line.
* `Walk.On.exists_takes`: a walk that is allowed enough steps takes no more than these.
* **`exists_takes_highlightLine`**: a line takes a number of steps that is linear in its length.
-/

namespace Listfile.Highlight

variable {g : Grammar} {base fuel : Nat} {line : List Char} {w : Walk}

namespace Walk

/-- The walk `w` takes `n` steps, and then it has ended as `v`.  Each step is at a place between characters of the
line. -/
inductive Takes (g : Grammar) (base : Nat) (line : List Char) : (n : Nat) → (w v : Walk) → Prop
  | ended {w : Walk} (hplace : w.place = none) : Takes g base line 0 w w
  | step {n : Nat} {w v : Walk} {place : Cursor} {before : List Char} (hplace : w.place = some place)
    (hline : line = before ++ place.after) (hoffset : place.offset = byteLength before)
    (h : Takes g base line n (w.advance g base place) v) : Takes g base line (n + 1) w v

/-- A walk along the line that has ended after some steps has taken no more than them. -/
theorem On.exists_takes (h : w.On line) (hend : (run g base fuel w).place = none) :
    ∃ n, n ≤ fuel ∧ Takes g base line n w (run g base fuel w) := by
  induction fuel generalizing w with
  | zero => exact ⟨0, Nat.le_refl 0, .ended hend⟩
  | succ fuel ih =>
    cases hplace : w.place with
    | none =>
      rw [run_of_none hplace]
      exact ⟨0, Nat.zero_le _, .ended hplace⟩
    | some place =>
      rw [run, hplace] at hend ⊢
      obtain ⟨n, hn, htakes⟩ := ih (h.advance hplace) hend
      have hline : line = place.before.reverse ++ place.after := (h.text place hplace).symm
      have hoffset : place.offset = byteLength place.before.reverse := by rw [byteLength_reverse, place.offset_eq]
      exact ⟨n + 1, Nat.succ_le_succ hn, .step hplace hline hoffset htakes⟩

end Walk

/-- **Highlighting a line ends after a linear number of steps**, whatever the grammar and the contexts on the stack are
and whatever was highlighted before.  Each step looks at a place between characters of the line, and what is found is
what the steps have found when there is no place left. -/
theorem exists_takes_highlightLine (g : Grammar) (s : Session) (base : Nat) (line : List Char) (findings : Findings) :
    ∃ n v, n ≤ (maxStalled + 2) * (byteLength line + 1) ∧
      Walk.Takes g base line n (.start line s.stack findings) v ∧
      (s.highlightLine g base line findings).1.stack = v.stack ∧
      (s.highlightLine g base line findings).2 = v.findings := by
  obtain ⟨n, hn, htakes⟩ :=
    (Walk.on_start line s.stack findings).exists_takes (g := g) (place_highlightLine base line s.stack findings)
  have hbytes : maxSteps line.length ≤ (maxStalled + 2) * (byteLength line + 1) :=
    Nat.mul_le_mul_left _ (Nat.succ_le_succ (length_le_byteLength line))
  obtain ⟨hstack, hfindings⟩ := Prod.mk.inj (s.highlightLine_eq (g := g) base line findings)
  exact ⟨n, _, Nat.le_trans hn hbytes, htakes, hstack, hfindings⟩

end Listfile.Highlight
