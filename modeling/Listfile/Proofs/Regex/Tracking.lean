import Listfile.Proofs.Regex.Leading
import Listfile.Proofs.Regex.Returning

/-!
# Where searches end

A plan leads from the place where it is followed to some places, and so do the tasks that are left to a
search.  A step of the machine makes no place a goal that was none before.

* `Plan.Leads`, `TasksLead`: the places to which a plan, or a list of tasks, can lead.
* `Tracks`, `tracks_step`: every step keeps the places to which the search can lead.
* **`leads_of_search`**: an anchored search ends where its plan leads.
-/

namespace Listfile

namespace Regex

open Relation (ReflTransGen TransGen)

/-- The places to which a plan can lead. -/
def Plan.Leads : Plan → Cursor → Cursor → Prop
  | done, c, d | look _ _, c, d | keepOut, c, d | searchStart, c, d | groupSet _, c, d => c = d
  | unit e, c, d => e.Leads c d
  | chars s, c, d => s.Takes c d
  | assertion a, c, d => c = d ∧ a.holds c = true
  | seq a b, c, d => ∃ x, a.Leads c x ∧ b.Leads x d
  | either a b, c, d => a.Leads c d ∨ b.Leads c d
  | group _ body, c, d | atomic body, c, d => body.Leads c d
  | optional body _, c, d => c = d ∨ body.Leads c d
  | star body _, c, d => ReflTransGen body.Leads c d
  | plus body _, c, d => TransGen body.Leads c d
  | guarded body least _, c, d => Repeats body.Leads (0 < least) c d
  | counted body least most _, c, d => Repeats body.Leads (0 < least ∧ most ≠ some 0) c d
  | back n, c, d => c.back? n = some d
  | backOver e, c, d => e.beginning? c = some d
  | sameAs _ _, _, _ => True
  | conditional test yes no, c, d => (∃ x, test.Leads c x ∧ yes.Leads x d) ∨ no.Leads c d

/-- The places to which a task can lead. -/
def Task.Leads : Task → Cursor → Cursor → Prop
  | .follow p, c, d => p.Leads c d
  | .star body _, c, d => ReflTransGen body.Leads c d
  | .guarded body least _ count _, c, d => Repeats body.Leads (count < least) c d
  | .counted body least most _ count, c, d => Repeats body.Leads (count < least ∧ most ≠ some count) c d
  | .mark _, c, d | .commit, c, d => c = d
  | .moveTo x, _, d => x = d
  | .refuse _, _, _ => False
  | .scan _, _, _ | .skip _, _, _ => True

/-- The task looks for a plan further on. -/
def Task.scans : Task → Bool
  | .scan _ | .skip _ => true
  | _ => false

/-- The places to which tasks can lead, one after the other. -/
def TasksLead : List Task → Cursor → Cursor → Prop
  | [], c, d => c = d
  | task :: tasks, c, d => ∃ x, task.Leads c x ∧ TasksLead tasks x d

/-- The last task marks the end of the match, or refuses what should not match, and no task looks for a plan
further on. -/
inductive Closes : List Task → Prop
  | mark : Closes [.mark 1]
  | refuse (depth : Nat) : Closes [.refuse depth]
  | cons {task : Task} {tasks : List Task} (htask : task.scans = false) (h : Closes tasks) :
    Closes (task :: tasks)

/-- The search can only lead to goals, and marks where it ends. -/
structure Tracks (Goal : Cursor → Prop) (tasks : List Task) (th : Thread) : Prop where
  size : 1 < th.marks.size
  leads : ∀ d, TasksLead tasks th.here d → Goal d
  closes : Closes tasks ∨ tasks = [] ∧ th.marked? 1 = some th.here

/-! ### Threads -/

section
variable {th u : Thread}

@[simp] theorem Thread.size_setMark (slot : Nat) (c : Option Cursor) :
    (th.setMark slot c).marks.size = th.marks.size := Array.size_setIfInBounds

@[simp] theorem Thread.size_capture (e : Expr) (a : Arrival) : (th.capture e a).marks.size = th.marks.size := by
  have hforget : (e.groups.foldl Thread.forget th).marks.size = th.marks.size :=
    List.foldlRecOn (motive := fun u : Thread => u.marks.size = th.marks.size) _ _ rfl
      fun u hu i _ => by simp [Thread.forget, hu]
  exact List.foldrRecOn (motive := fun u : Thread => u.marks.size = th.marks.size) _ _ hforget
    fun u hu m _ => by simp [hu]

theorem Thread.leads_of_unit? {e : Expr} (h : th.unit? e = some u) :
    e.Leads th.here u.here ∧ u.marks.size = th.marks.size := by
  obtain ⟨a, ha, rfl⟩ := Option.map_eq_some_iff.1 h
  exact ⟨leads_of_ways (List.mem_of_mem_head? ha), size_capture e a⟩

theorem Thread.takes_of_take? {s : CharSet} (h : th.take? s = some u) :
    s.Takes th.here u.here ∧ u.marks.size = th.marks.size := by
  unfold Thread.take? at h
  split at h
  · rename_i x d hnext
    split at h
    · rename_i hs
      cases h
      exact ⟨⟨x, hnext, hs⟩, rfl⟩
    · cases h
  · cases h

theorem Thread.leads_of_backOver? {e : Expr} (h : th.backOver? e = some u) :
    e.beginning? th.here = some u.here ∧ u.marks.size = th.marks.size := by
  obtain ⟨first, hfirst, hu⟩ := Option.bind_eq_some_iff.1 h
  cases hu
  refine ⟨hfirst, ?_⟩
  show Array.size (Thread.marks _) = _
  split
  · split
    · rfl
    · exact size_capture _ _
  · rfl

theorem Thread.marked?_mark (h : 1 < th.marks.size) : (th.mark 1).marked? 1 = some (th.mark 1).here :=
  congrArg Option.join (Array.getElem?_setIfInBounds_self_of_lt h)

end

/-! ### The machine -/

section
variable {Goal : Cursor → Prop} {m : Machine} {tasks more : List Task} {origin : Nat}

/-- Other tasks keep to the goals if they lead no further. -/
theorem Tracks.of_leads {th u : Thread} (h : Tracks Goal more th) (hsize : u.marks.size = th.marks.size)
    (hcloses : Closes tasks) (hleads : ∀ d, TasksLead tasks u.here d → TasksLead more th.here d) :
    Tracks Goal tasks u :=
  ⟨hsize ▸ h.size, fun d hd => h.leads d (hleads d hd), .inl hcloses⟩

/-- Following a plan keeps to the goals. -/
theorem tracks_follow {p : Plan} (h : Tracks Goal (.follow p :: tasks) m.thread)
    (hbranches : ∀ b ∈ m.branches, Tracks Goal b.tasks b.thread) (hcloses : Closes tasks) :
    (m.follow origin tasks p).Holds (Tracks Goal) := by
  cases p with
  | done => exact ⟨h.of_leads rfl hcloses fun d hd => ⟨_, rfl, hd⟩, hbranches⟩
  | unit e =>
    refine Machine.holds_goOnWith hbranches fun u hu => ?_
    obtain ⟨hleads, hsize⟩ := Thread.leads_of_unit? hu
    exact h.of_leads hsize hcloses fun d hd => ⟨_, hleads, hd⟩
  | chars s =>
    refine Machine.holds_goOnWith hbranches fun u hu => ?_
    obtain ⟨htakes, hsize⟩ := Thread.takes_of_take? hu
    exact h.of_leads hsize hcloses fun d hd => ⟨_, htakes, hd⟩
  | assertion a =>
    refine Machine.holds_goOnWith hbranches fun u hu => ?_
    split at hu
    · rename_i hholds
      cases hu
      exact h.of_leads rfl hcloses fun d hd => ⟨_, ⟨rfl, hholds⟩, hd⟩
    · cases hu
  | seq a b =>
    refine ⟨h.of_leads rfl (.cons rfl (.cons rfl hcloses)) ?_, hbranches⟩
    rintro d ⟨x, hx, y, hy, hd⟩
    exact ⟨y, ⟨x, hx, hy⟩, hd⟩
  | either a b =>
    refine Machine.holds_choose hbranches (h.of_leads rfl (.cons rfl hcloses) ?_)
      (h.of_leads rfl (.cons rfl hcloses) ?_)
    · rintro d ⟨x, hx, hd⟩
      exact ⟨x, .inl hx, hd⟩
    · rintro d ⟨x, hx, hd⟩
      exact ⟨x, .inr hx, hd⟩
  | group i body =>
    refine ⟨h.of_leads (Thread.size_setMark _ _) (.cons rfl (.cons rfl hcloses)) ?_, hbranches⟩
    rintro d ⟨x, hx, _, rfl, hd⟩
    exact ⟨x, hx, hd⟩
  | optional body greedy =>
    refine Machine.holds_chooseLoop hbranches (h.of_leads rfl (.cons rfl hcloses) ?_)
      (h.of_leads rfl hcloses fun d hd => ⟨_, .inl rfl, hd⟩)
    rintro d ⟨x, hx, hd⟩
    exact ⟨x, .inr hx, hd⟩
  | star body greedy => exact ⟨h.of_leads rfl (.cons rfl hcloses) fun d hd => hd, hbranches⟩
  | plus body greedy =>
    refine ⟨h.of_leads rfl (.cons rfl (.cons rfl hcloses)) ?_, hbranches⟩
    rintro d ⟨x, hx, y, hy, hd⟩
    exact ⟨y, .head' hx hy, hd⟩
  | guarded body least greedy =>
    exact ⟨h.of_leads rfl (.cons rfl hcloses) fun d hd => hd, hbranches⟩
  | counted body least most greedy =>
    exact ⟨h.of_leads rfl (.cons rfl hcloses) fun d hd => hd, hbranches⟩
  | look negative body =>
    cases negative with
    | false =>
      -- whatever the body leads to, the search returns
      refine ⟨h.of_leads rfl (.cons rfl (.cons rfl hcloses)) ?_, hbranches⟩
      rintro d ⟨x, -, _, rfl, hd⟩
      exact ⟨_, rfl, hd⟩
    | true =>
      refine Machine.holds_choose hbranches (h.of_leads rfl (.cons rfl (.refuse m.depth)) ?_)
        (h.of_leads rfl hcloses fun d hd => ⟨_, rfl, hd⟩)
      rintro d ⟨x, -, y, hy, -⟩
      cases hy
  | back size =>
    refine Machine.holds_goOnWith hbranches fun u hu => ?_
    obtain ⟨c, hc, rfl⟩ := Option.map_eq_some_iff.1 hu
    exact h.of_leads rfl hcloses fun d hd => ⟨c, hc, hd⟩
  | backOver e =>
    refine Machine.holds_goOnWith hbranches fun u hu => ?_
    obtain ⟨hleads, hsize⟩ := Thread.leads_of_backOver? hu
    exact h.of_leads hsize hcloses fun d hd => ⟨_, hleads, hd⟩
  | atomic body =>
    refine ⟨⟨h.size, ?_, .inl (.cons rfl (.cons rfl hcloses))⟩, hbranches⟩
    rintro d ⟨x, hx, _, rfl, hd⟩
    exact h.leads d ⟨x, hx, hd⟩
  | sameAs i fold =>
    exact Machine.holds_sameAs hbranches fun _ c _ => h.of_leads rfl hcloses fun d hd => ⟨c, trivial, hd⟩
  | keepOut =>
    exact ⟨h.of_leads (Thread.size_setMark _ _) hcloses fun d hd => ⟨_, rfl, hd⟩, hbranches⟩
  | searchStart =>
    exact Machine.holds_goOnIf hbranches (h.of_leads rfl hcloses fun d hd => ⟨_, rfl, hd⟩)
  | groupSet i =>
    exact Machine.holds_goOnIf hbranches (h.of_leads rfl hcloses fun d hd => ⟨_, rfl, hd⟩)
  | conditional test yes no =>
    refine Machine.holds_choose (m := { m with thread := _ }) hbranches
      ⟨h.size, ?_, .inl (.cons rfl (.cons rfl (.cons rfl hcloses)))⟩ ⟨h.size, ?_, .inl (.cons rfl hcloses)⟩
    · rintro d ⟨x, hx, _, rfl, y, hy, hd⟩
      exact h.leads d ⟨y, .inl ⟨x, hx, hy⟩, hd⟩
    · rintro d ⟨x, hx, hd⟩
      exact h.leads d ⟨x, .inr hx, hd⟩

/-- **Every step keeps to the goals.** -/
theorem tracks_step (h : m.Holds (Tracks Goal)) : (m.step origin).Holds (Tracks Goal) := by
  obtain ⟨todo, th, branches, depth⟩ := m
  obtain ⟨hnow, hbranches⟩ := h
  have hnow : Tracks Goal todo th := hnow
  rcases hnow.closes with hcloses | ⟨rfl, hmarked⟩
  · cases hcloses with
    | mark =>
      refine ⟨⟨?_, ?_, .inr ⟨rfl, Thread.marked?_mark hnow.size⟩⟩, hbranches⟩
      · exact (Thread.size_setMark _ _).symm ▸ hnow.size
      · exact fun d hd => hnow.leads d ⟨_, rfl, hd⟩
    | refuse depth' => exact Machine.holds_cutTo hbranches depth'
    | @cons task tasks htask hcloses =>
      cases task with
      | follow p => exact tracks_follow hnow hbranches hcloses
      | star body greedy =>
        refine Machine.holds_chooseLoop hbranches
          (hnow.of_leads rfl (.cons rfl (.cons rfl hcloses)) ?_)
          (hnow.of_leads rfl hcloses fun d hd => ⟨_, .refl, hd⟩)
        rintro d ⟨x, hx, y, hy, hd⟩
        exact ⟨y, .head hx hy, hd⟩
      | guarded body least greedy count last =>
        have hleave (hcount : least ≤ count) : Tracks Goal tasks th := by
          refine hnow.of_leads rfl hcloses fun d hd => ⟨_, ⟨fun hlt => ?_, .refl⟩, hd⟩
          have := of_decide_eq_true hlt
          omega
        have hagain (last' : Option Nat) : Tracks Goal
            (.follow body :: .guarded body least greedy (count + 1) last' :: tasks) th := by
          refine hnow.of_leads rfl (.cons rfl (.cons rfl hcloses)) ?_
          rintro d ⟨x, hx, y, hy, hd⟩
          exact ⟨y, .head hx hy.2, hd⟩
        exact Machine.holds_guarded hbranches hleave hagain
      | counted body least most greedy count =>
        have hleave (hcount : ¬ (count < least ∧ most ≠ some count)) : Tracks Goal tasks th := by
          refine hnow.of_leads rfl hcloses fun d hd => ⟨_, ⟨fun hlt => ?_, .refl⟩, hd⟩
          exact absurd (of_decide_eq_true hlt) hcount
        have hagain : Tracks Goal
            (.follow body :: .counted body least most greedy (count + 1) :: tasks) th := by
          refine hnow.of_leads rfl (.cons rfl (.cons rfl hcloses)) ?_
          rintro d ⟨x, hx, y, hy, hd⟩
          exact ⟨y, .head hx hy.2, hd⟩
        exact Machine.holds_counted hbranches hleave hagain
      | mark slot =>
        exact ⟨hnow.of_leads (Thread.size_setMark _ _) hcloses fun d hd => ⟨_, rfl, hd⟩, hbranches⟩
      | moveTo c => exact ⟨hnow.of_leads rfl hcloses fun d hd => ⟨c, rfl, hd⟩, hbranches⟩
      | commit =>
        exact Machine.holds_commit hbranches fun _ =>
          ⟨hnow.size, fun d hd => hnow.leads d ⟨_, rfl, hd⟩, .inl hcloses⟩
      | refuse depth' => exact Machine.holds_cutTo hbranches depth'
      | scan p => cases htask
      | skip p => cases htask
  · exact hnow

end

end Regex

open Regex

/-- A search from an anchor on can only lead to where its plan leads. -/
theorem tracks_first {r : Regex} (hanchored : r.anchored = true) (place : Cursor) :
    ((r.machine place).step place.offset).Holds (Tracks (r.plan.Leads place)) := by
  refine tracks_step ?_
  rw [machine_of_anchored hanchored]
  refine ⟨⟨?_, ?_, .inl (.cons rfl (.cons rfl .mark))⟩, List.forall_mem_nil _⟩
  · show 1 < (Array.replicate (2 * (r.groupCount + 1)) none).size
    rw [Array.size_replicate]
    omega
  · rintro d ⟨_, rfl, x, hx, _, rfl, rfl⟩
    exact hx

/-- The thread that the machine finds is where the plan leads. -/
theorem tracks_of_verdict {r : Regex} (hanchored : r.anchored = true) {place : Cursor} {th : Thread}
    (h : r.verdict place = .found th) : Tracks (r.plan.Leads place) [] th :=
  holds_found (fun _ hm => tracks_step hm) (tracks_first hanchored place) h

/-- **An anchored search ends where its plan leads.** -/
theorem leads_of_search {r : Regex} (hanchored : r.anchored = true) {place : Cursor} {whole : Capture}
    {groups : List (Option Capture)} (h : r.search place = .found whole groups) :
    r.plan.Leads place whole.last := by
  obtain ⟨th, ⟨-, hleads, hcloses | ⟨-, hmarked⟩⟩, hfound, -⟩ :=
    exists_of_search (fun _ hm => tracks_step hm) (tracks_first hanchored place) h
  · cases hcloses
  · have hhere := hleads th.here rfl
    -- whatever is kept out of the match, it ends where its end is marked
    obtain ⟨c, hc, hwhole⟩ := Option.bind_eq_some_iff.1 hfound
    obtain ⟨first, -, hc⟩ := Option.bind_eq_some_iff.1 hc
    obtain ⟨last, hlast, hc⟩ := Option.bind_eq_some_iff.1 hc
    cases hc
    have hsame : last = th.here := Option.some.inj (hlast.symm.trans hmarked)
    rw [← hsame] at hhere
    split at hwhole
    · cases hwhole
      exact hhere
    · cases hwhole
      exact hhere

end Listfile
