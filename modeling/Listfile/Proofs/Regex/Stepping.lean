import Listfile.Regex.Search

/-!
# What a search keeps

A search works on what is to be done now and, if that fails, on the branches that it noted.  So it keeps
whatever each step keeps, both for the tasks that are done next and for the branches that are noted.

* `Machine.Holds`, `Step.Holds`: something holds of what is done now and of what else could be done.
* `holds_choose`, `holds_goOnWith`, `holds_cutTo`: the ways in which a step goes on.
* `holds_guarded`, `holds_counted`, `holds_commit`, `holds_sameAs`: the steps that look at more than their task.
* **`holds_search`**, `exists_of_search`: what every step keeps holds of what is found.
-/

namespace Listfile.Regex

variable {I : List Task → Thread → Prop} {m : Machine} {tasks more : List Task}

/-- It holds of what is done now and of what else could be done. -/
structure Machine.Holds (I : List Task → Thread → Prop) (m : Machine) : Prop where
  now : I m.tasks m.thread
  branches : ∀ b ∈ m.branches, I b.tasks b.thread

/-- It holds of what the step leads to. -/
def Step.Holds (I : List Task → Thread → Prop) : Step → Prop
  | .goOn m => m.Holds I
  | .done th => I [] th
  | .stuck branches _ => ∀ b ∈ branches, I b.tasks b.thread
  | .overflow => True

namespace Machine

theorem holds_choose (hbranches : ∀ b ∈ m.branches, I b.tasks b.thread) (hfirst : I tasks m.thread)
    (hsecond : I more m.thread) : (m.choose tasks more).Holds I := by
  unfold choose
  split
  · trivial
  · exact ⟨hfirst, List.forall_mem_cons.2 ⟨hsecond, hbranches⟩⟩

theorem holds_chooseLoop (hbranches : ∀ b ∈ m.branches, I b.tasks b.thread) {greedy : Bool}
    (hagain : I tasks m.thread) (hleave : I more m.thread) :
    (m.chooseLoop greedy tasks more).Holds I := by
  cases greedy with
  | false => exact holds_choose hbranches hleave hagain
  | true => exact holds_choose hbranches hagain hleave

theorem holds_goOnWith (hbranches : ∀ b ∈ m.branches, I b.tasks b.thread) {next : Option Thread}
    (hnext : ∀ u ∈ next, I tasks u) : (m.goOnWith tasks next).Holds I := by
  cases next with
  | none => exact hbranches
  | some u => exact ⟨hnext u rfl, hbranches⟩

theorem holds_goOnIf (hbranches : ∀ b ∈ m.branches, I b.tasks b.thread) {holds : Bool}
    (hnow : I tasks m.thread) : (m.goOnIf tasks holds).Holds I := by
  refine holds_goOnWith hbranches ?_
  intro u hu
  split at hu
  · cases hu
    exact hnow
  · cases hu

/-- Branches that are given up are not missed. -/
theorem holds_cutTo (hbranches : ∀ b ∈ m.branches, I b.tasks b.thread) (depth : Nat) :
    ∀ b ∈ (m.cutTo depth).branches, I b.tasks b.thread :=
  fun b hb => hbranches b (List.mem_of_mem_drop hb)

variable {origin : Nat}

section
variable {th : Thread} {branches : List Branch} {depth least count : Nat} {most last : Option Nat} {body : Plan}
  {greedy : Bool}

/-- A loop whose body may be empty is left or gone through again, whatever its count. -/
theorem holds_guarded (hbranches : ∀ b ∈ branches, I b.tasks b.thread) (hleave : least ≤ count → I tasks th)
    (hagain : ∀ last', I (.follow body :: .guarded body least greedy (count + 1) last' :: tasks) th) :
    (step origin ⟨.guarded body least greedy count last :: tasks, th, branches, depth⟩).Holds I := by
  unfold step
  dsimp only
  split
  · rename_i hcount
    exact ⟨hleave (Nat.le_of_lt hcount.1), hbranches⟩
  split
  · exact ⟨hagain _, hbranches⟩
  · rename_i hcount
    exact holds_chooseLoop hbranches (hagain _) (hleave (Nat.le_of_not_lt hcount))

/-- A loop with a count is left or gone through again, but left no sooner than its count allows. -/
theorem holds_counted (hbranches : ∀ b ∈ branches, I b.tasks b.thread)
    (hleave : ¬(count < least ∧ most ≠ some count) → I tasks th)
    (hagain : I (.follow body :: .counted body least most greedy (count + 1) :: tasks) th) :
    (step origin ⟨.counted body least most greedy count :: tasks, th, branches, depth⟩).Holds I := by
  unfold step
  dsimp only
  split
  · rename_i hmost
    exact ⟨hleave fun hcount => hcount.2 hmost, hbranches⟩
  split
  · exact ⟨hagain, hbranches⟩
  · rename_i hcount
    exact holds_chooseLoop hbranches hagain (hleave fun h => hcount h.1)

/-- Giving up branches changes nothing but what is held. -/
theorem holds_commit (hbranches : ∀ b ∈ branches, I b.tasks b.thread)
    (hnow : ∀ held, I tasks { th with held := held }) :
    (step origin ⟨.commit :: tasks, th, branches, depth⟩).Holds I := by
  unfold step
  dsimp only
  split
  · exact ⟨hnow _, hbranches⟩
  · rename_i depth' held _
    exact ⟨hnow _, holds_cutTo hbranches depth'⟩

/-- What was captured before is repeated from this place on. -/
theorem holds_sameAs (hbranches : ∀ b ∈ m.branches, I b.tasks b.thread) {i : Nat} {fold : Bool}
    (hnow : ∀ captured c, repeatText? fold captured m.thread.here = some c → I tasks (m.thread.moveTo c)) :
    (m.follow origin tasks (.sameAs i fold)).Holds I := by
  refine holds_goOnWith hbranches fun u hu => ?_
  obtain ⟨first, -, hu⟩ := Option.bind_eq_some_iff.1 hu
  obtain ⟨last, -, hu⟩ := Option.bind_eq_some_iff.1 hu
  obtain ⟨c, hc, hu⟩ := Option.bind_eq_some_iff.1 hu
  cases hu
  exact hnow _ c hc

end

/-- A run goes on with what its first step leads to. -/
theorem holds_run_succ {fuel : Nat} (h : (m.step origin).Holds I)
    (hrest : ∀ m' : Machine, m'.Holds I → (m'.run origin fuel).Holds I) : (m.run origin (fuel + 1)).Holds I := by
  rw [run]
  cases hgo : m.step origin with
  | goOn m' =>
    rw [hgo] at h
    exact hrest m' h
  | done th =>
    rw [hgo] at h
    exact h
  | stuck branches depth =>
    rw [hgo] at h
    exact h
  | overflow => trivial

/-- A run keeps what every step keeps. -/
theorem holds_run (hstep : ∀ m : Machine, m.Holds I → (m.step origin).Holds I) (h : m.Holds I) (fuel : Nat) :
    (m.run origin fuel).Holds I := by
  induction fuel generalizing m with
  | zero => trivial
  | succ fuel ih => exact holds_run_succ (hstep m h) fun m' hm' => ih hm'

/-- **What every step keeps holds of what is found**, whatever branch the search goes back to. -/
theorem holds_search (hstep : ∀ m : Machine, m.Holds I → (m.step origin).Holds I) {fuel budget : Nat}
    {th : Thread} (hrun : (m.run origin fuel).Holds I) (hfound : m.search origin fuel budget = .found th) :
    I [] th := by
  induction budget generalizing m with
  | zero =>
    unfold search at hfound
    split at hfound
    · rename_i u hu
      cases hfound
      rw [hu] at hrun
      exact hrun
    all_goals cases hfound
  | succ budget ih =>
    unfold search at hfound
    split at hfound
    · rename_i u hu
      cases hfound
      rw [hu] at hrun
      exact hrun
    · cases hfound
    · cases hfound
    · cases hfound
    · rename_i b branches depth hu
      rw [hu] at hrun
      obtain ⟨hb, hbranches⟩ := List.forall_mem_cons.1 hrun
      exact ih (holds_run hstep ⟨hb, hbranches⟩ fuel) hfound

end Machine

/-- What the first step leads to and every step keeps holds of the thread that the machine finds. -/
theorem holds_found {r : Regex} {place : Cursor} {fuel budget : Nat} {th : Thread}
    (hstep : ∀ m : Machine, m.Holds I → (m.step place.offset).Holds I)
    (hfirst : ((r.machine place).step place.offset).Holds I)
    (h : (r.machine place).search place.offset (fuel + 1) budget = .found th) : I [] th :=
  Machine.holds_search hstep (Machine.holds_run_succ hfirst fun _ hm => Machine.holds_run hstep hm fuel) h

/-- The thread that found a match: what the first step leads to and every step keeps holds of it. -/
theorem exists_of_search {r : Regex} {place : Cursor} {whole : Capture} {groups : List (Option Capture)}
    (hstep : ∀ m : Machine, m.Holds I → (m.step place.offset).Holds I)
    (hfirst : ((r.machine place).step place.offset).Holds I) (h : r.search place = .found whole groups) :
    ∃ th, I [] th ∧ th.whole? = some whole ∧
      groups = (List.range r.groupCount).map fun i => th.capture? (i + 1) := by
  unfold Regex.search at h
  dsimp only at h
  split at h
  · rename_i th hth
    have hfound := holds_found hstep hfirst hth
    split at h
    · rename_i w hw
      cases h
      exact ⟨th, hfound, hw, rfl⟩
    · cases h
  · cases h
  · cases h

end Listfile.Regex
