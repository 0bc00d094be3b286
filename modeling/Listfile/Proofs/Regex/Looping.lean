import Listfile.Proofs.Regex.Attempting
import Listfile.Proofs.Regex.Tracking

/-!
# Loops that take all they can

A greedy loop over the characters of a set passes as many of them as stand ahead.  Then it is stuck, and goes back to
the branch that leaves it there.

* `run_star`, **`search_star`**: the loop from its head to where it is left.
* `exists_search_of_verdict`: what the machine finds from an anchor on is a match.
-/

namespace Listfile.Regex

variable {s : CharSet} {tasks : List Task} {branches : List Branch} {origin fuel budget depth : Nat}
  {place c d : Cursor} {th : Thread} {u : List Char} {r : Regex}

/-! ### One step -/

theorem Thread.take?_of_contains {x : Char} (hx : s.contains x = true) (h : th.here.next? = some (x, d)) :
    th.take? s = some (th.moveTo d) := by
  unfold Thread.take?
  rw [h]
  exact if_pos hx

theorem Thread.take?_of_not (h : th.here.after.head?.any s.contains = false) : th.take? s = none := by
  unfold Thread.take?
  cases hafter : th.here.after with
  | nil => rw [Cursor.next?_of_nil hafter]
  | cons x rest =>
    obtain ⟨e, hnext, -⟩ := Cursor.next?_of_after hafter
    have hx : s.contains x = false := by simpa [hafter] using h
    simp [hnext, hx]

/-- The head of a loop notes the branch that leaves it. -/
theorem step_star (hdepth : depth < Machine.maxBranches) (body : Plan) :
    (⟨.star body true :: tasks, th, branches, depth⟩ : Machine).step origin
      = .goOn ⟨.follow body :: .star body true :: tasks, th, ⟨tasks, th⟩ :: branches, depth + 1⟩ :=
  if_neg (Nat.not_le.2 hdepth)

/-! ### The whole loop -/

/-- **The loop passes all characters of the set that stand ahead.** -/
theorem run_star (hu : c.Passes u d) (hs : ∀ x ∈ u, s.contains x = true)
    (hend : d.after.head?.any s.contains = false) (hhere : th.here = c)
    (hdepth : depth + u.length < Machine.maxBranches) (k : Nat) : ∃ left : List Branch,
      (⟨.star (.chars s) true :: tasks, th, branches, depth⟩ : Machine).run origin (k + 2 * u.length + 2)
        = .stuck (⟨tasks, th.moveTo d⟩ :: left) (depth + u.length + 1) := by
  induction u generalizing c th branches depth with
  | nil =>
    obtain rfl : c = d := hu.unique (.refl c) |>.symm
    obtain rfl : th.here = c := hhere
    refine ⟨branches, ?_⟩
    rw [run_step (step_star (by simpa using hdepth) _), Machine.run]
    have hstuck : (⟨.follow (.chars s) :: .star (.chars s) true :: tasks, th, ⟨tasks, th⟩ :: branches,
        depth + 1⟩ : Machine).step origin = .stuck (⟨tasks, th⟩ :: branches) (depth + 1) := by
      show Machine.goOnWith _ _ (th.take? s) = _
      rw [Thread.take?_of_not hend]
      rfl
    rw [hstuck]
    rfl
  | cons x u ih =>
    obtain ⟨e, hnext, he⟩ := Cursor.next?_of_after (hu.after.trans (List.cons_append ..))
    obtain ⟨e', he', hafter⟩ := Cursor.exists_passes (List.cons_eq_cons.1 (he.after.symm.trans hu.after)).2
    have hrest : e.Passes u d := by
      rwa [(he.trans he').unique hu] at he'
    rw [List.length_cons] at hdepth ⊢
    have htake : (⟨.follow (.chars s) :: .star (.chars s) true :: tasks, th, ⟨tasks, th⟩ :: branches,
        depth + 1⟩ : Machine).step origin
          = .goOn ⟨.star (.chars s) true :: tasks, th.moveTo e, ⟨tasks, th⟩ :: branches, depth + 1⟩ := by
      show Machine.goOnWith _ _ (th.take? s) = _
      rw [Thread.take?_of_contains (hs x List.mem_cons_self) (hhere ▸ hnext)]
      rfl
    obtain ⟨left, hleft⟩ : ∃ left : List Branch,
        (⟨.star (.chars s) true :: tasks, th.moveTo e, ⟨tasks, th⟩ :: branches, depth + 1⟩ : Machine).run origin
          (k + 2 * u.length + 2) = .stuck (⟨tasks, (th.moveTo e).moveTo d⟩ :: left) (depth + 1 + u.length + 1) :=
      ih hrest (fun y hy => hs y (List.mem_cons_of_mem x hy)) rfl (by omega)
    refine ⟨left, ?_⟩
    rw [show k + 2 * (u.length + 1) + 2 = k + 2 * u.length + 2 + 1 + 1 by omega,
      run_step (step_star (by omega) _), run_step htake, hleft,
      show depth + 1 + u.length + 1 = depth + (u.length + 1) + 1 by omega]
    rfl

/-- A machine that is stuck goes back to the latest branch. -/
theorem search_of_stuck {m : Machine} {b : Branch} (h : m.run origin fuel = .stuck (b :: branches) (depth + 1)) :
    m.search origin fuel (budget + 1) = Machine.search origin fuel budget ⟨b.tasks, b.thread, branches, depth⟩ := by
  rw [Machine.search, h]
  rfl

/-- **Behind the loop the search goes on with what comes next.** -/
theorem search_star {m : Machine} {k : Nat} (hu : c.Passes u d) (hs : ∀ x ∈ u, s.contains x = true)
    (hend : d.after.head?.any s.contains = false) (hhere : th.here = c)
    (hdepth : depth + u.length < Machine.maxBranches) (hfuel : k + 2 * u.length + 2 ≤ fuel)
    (hrun : ∀ more, m.run origin (more + k)
      = (⟨.star (.chars s) true :: tasks, th, branches, depth⟩ : Machine).run origin more) : ∃ left : List Branch,
      m.search origin fuel (budget + 1)
        = Machine.search origin fuel budget ⟨tasks, th.moveTo d, left, depth + u.length⟩ := by
  obtain ⟨more, rfl⟩ := Nat.exists_eq_add_of_le' hfuel
  obtain ⟨left, hleft⟩ : ∃ left : List Branch,
      (⟨.star (.chars s) true :: tasks, th, branches, depth⟩ : Machine).run origin (more + 2 * u.length + 2)
        = .stuck (⟨tasks, th.moveTo d⟩ :: left) (depth + u.length + 1) :=
    run_star hu hs hend hhere hdepth more
  refine ⟨left, search_of_stuck (b := ⟨tasks, th.moveTo d⟩) ?_⟩
  rw [show more + (k + 2 * u.length + 2) = more + 2 * u.length + 2 + k by omega, hrun, hleft]

/-! ### What is found -/

/-- **What the machine finds is a match** from the place on to where the machine has got. -/
theorem exists_search_of_verdict (hanchored : r.anchored = true) (hr : r.plan.KeepsStart false)
    (h : r.verdict place = .found th) : ∃ groups, r.search place = .found ⟨place, th.here⟩ groups := by
  obtain ⟨looking, hkeeps⟩ := keepsStart_of_verdict hanchored hr h
  obtain ⟨-, -, hcloses | ⟨-, hlast⟩⟩ := tracks_of_verdict hanchored h
  · cases hcloses
  · have hwhole : th.whole? = some ⟨place, th.here⟩ := by
      have hle := hkeeps.last _ hlast
      unfold Thread.whole? Thread.capture?
      rw [show 2 * 0 = 0 from rfl, show 0 + 1 = 1 from rfl, hkeeps.first, hlast]
      exact congrArg some (if_neg (Nat.not_lt.2 hle))
    rw [search_eq, h]
    dsimp only
    rw [hwhole]
    exact ⟨_, rfl⟩

end Listfile.Regex
