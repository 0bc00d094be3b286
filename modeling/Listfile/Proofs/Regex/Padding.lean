import Mathlib.Data.List.Forall2
import Listfile.Proofs.Regex.Attempting

/-!
# A plan that does nothing at the end

An expression that is the last part of a sequence is followed by a plan that does nothing. The machine then
has a task more than for the expression on its own, in every branch that leads to the end of the match.

* `Padded`: the lists of tasks of both machines.
* `step_padded`, `run_padded`: both machines do the same, one of them with a step more at the end.
* `attempt_seq_done`: **an attempt that does not give up is the same with a plan that does nothing
  behind it.**
* `Plan.ofLast_hard`: such a plan is behind an expression that needs backtracking.
-/

namespace Listfile.Regex

/-! ### Padded tasks -/

/-- Tasks up to the end of the match, and the same ones with a plan that does nothing in front of it. -/
inductive Padded : List Task → List Task → Prop
  | same (ts : List Task) : Padded ts ts
  | last : Padded [.mark 1] [.follow .done, .mark 1]
  | cons (task : Task) {ts us : List Task} (htasks : Padded ts us) : Padded (task :: ts) (task :: us)

/-- Branches whose tasks are padded. -/
def PaddedBranches (bs cs : List Branch) : Prop :=
  List.Forall₂ (fun b c => Padded b.tasks c.tasks ∧ b.thread = c.thread) bs cs

/-- Steps that lead to padded tasks. -/
inductive PaddedStep : Step → Step → Prop
  | goOn (t : Thread) (depth : Nat) {ts us : List Task} {bs cs : List Branch} (htasks : Padded ts us)
    (hbranches : PaddedBranches bs cs) : PaddedStep (.goOn ⟨ts, t, bs, depth⟩) (.goOn ⟨us, t, cs, depth⟩)
  | done (t : Thread) : PaddedStep (.done t) (.done t)
  | stuck (depth : Nat) {bs cs : List Branch} (hbranches : PaddedBranches bs cs) :
    PaddedStep (.stuck bs depth) (.stuck cs depth)
  | overflow : PaddedStep .overflow .overflow

theorem PaddedBranches.drop {bs cs : List Branch} (h : PaddedBranches bs cs) (n : Nat) :
    PaddedBranches (bs.drop n) (cs.drop n) :=
  List.forall₂_drop n h

/-! ### One step -/

section Steps

variable {origin depth : Nat} {t : Thread} {as as' ts us ts' us' : List Task} {bs cs : List Branch}

theorem choose_padded (hbranches : PaddedBranches bs cs) (hfirst : Padded ts us)
    (hsecond : Padded ts' us') :
    PaddedStep (Machine.choose ⟨as, t, bs, depth⟩ ts ts') (Machine.choose ⟨as', t, cs, depth⟩ us us') := by
  unfold Machine.choose
  split
  · exact .overflow
  · exact .goOn t (depth + 1) hfirst (.cons ⟨hsecond, rfl⟩ hbranches)

theorem chooseLoop_padded (greedy : Bool) (hbranches : PaddedBranches bs cs) (hagain : Padded ts us)
    (hleave : Padded ts' us') :
    PaddedStep (Machine.chooseLoop ⟨as, t, bs, depth⟩ greedy ts ts')
      (Machine.chooseLoop ⟨as', t, cs, depth⟩ greedy us us') := by
  cases greedy with
  | false => exact choose_padded hbranches hleave hagain
  | true => exact choose_padded hbranches hagain hleave

theorem goOnWith_padded (next : Option Thread) (hbranches : PaddedBranches bs cs) (htasks : Padded ts us) :
    PaddedStep (Machine.goOnWith ⟨as, t, bs, depth⟩ ts next)
      (Machine.goOnWith ⟨as', t, cs, depth⟩ us next) := by
  cases next with
  | none => exact .stuck depth hbranches
  | some t' => exact .goOn t' depth htasks hbranches

theorem follow_padded (p : Plan) (hbranches : PaddedBranches bs cs) (htasks : Padded ts us) :
    PaddedStep (Machine.follow origin ⟨as, t, bs, depth⟩ ts p)
      (Machine.follow origin ⟨as', t, cs, depth⟩ us p) := by
  cases p with
  | done => exact .goOn _ _ htasks hbranches
  | unit e => exact goOnWith_padded _ hbranches htasks
  | chars s => exact goOnWith_padded _ hbranches htasks
  | assertion a => exact goOnWith_padded _ hbranches htasks
  | seq a b => exact .goOn _ _ (.cons _ (.cons _ htasks)) hbranches
  | either a b => exact choose_padded hbranches (.cons _ htasks) (.cons _ htasks)
  | group i body => exact .goOn _ _ (.cons _ (.cons _ htasks)) hbranches
  | optional body greedy => exact chooseLoop_padded greedy hbranches (.cons _ htasks) htasks
  | star body greedy => exact .goOn _ _ (.cons _ htasks) hbranches
  | plus body greedy => exact .goOn _ _ (.cons _ (.cons _ htasks)) hbranches
  | guarded body least greedy => exact .goOn _ _ (.cons _ htasks) hbranches
  | counted body least most greedy => exact .goOn _ _ (.cons _ htasks) hbranches
  | look negative body =>
    cases negative with
    | false => exact .goOn _ _ (.cons _ (.cons _ htasks)) hbranches
    | true => exact choose_padded hbranches (.same _) htasks
  | back size => exact goOnWith_padded _ hbranches htasks
  | backOver e => exact goOnWith_padded _ hbranches htasks
  | atomic body => exact .goOn _ _ (.cons _ (.cons _ htasks)) hbranches
  | sameAs i fold => exact goOnWith_padded _ hbranches htasks
  | keepOut => exact .goOn _ _ htasks hbranches
  | searchStart => exact goOnWith_padded _ hbranches htasks
  | groupSet i => exact goOnWith_padded _ hbranches htasks
  | conditional test yes no =>
    exact choose_padded hbranches (.cons _ (.cons _ (.cons _ htasks))) (.cons _ htasks)

/-- Both machines do their first task alike. -/
theorem step_padded (task : Task) (hbranches : PaddedBranches bs cs) (htasks : Padded ts us) :
    PaddedStep (Machine.step origin ⟨task :: ts, t, bs, depth⟩)
      (Machine.step origin ⟨task :: us, t, cs, depth⟩) := by
  cases task with
  | follow p => exact follow_padded p hbranches htasks
  | star body greedy => exact chooseLoop_padded greedy hbranches (.cons _ (.cons _ htasks)) htasks
  | guarded body least greedy count last =>
    simp only [Machine.step]
    split
    · exact .goOn _ _ htasks hbranches
    · split
      · exact .goOn _ _ (.cons _ (.cons _ htasks)) hbranches
      · exact chooseLoop_padded greedy hbranches (.cons _ (.cons _ htasks)) htasks
  | counted body least most greedy count =>
    simp only [Machine.step]
    split
    · exact .goOn _ _ htasks hbranches
    · split
      · exact .goOn _ _ (.cons _ (.cons _ htasks)) hbranches
      · exact chooseLoop_padded greedy hbranches (.cons _ (.cons _ htasks)) htasks
  | mark slot => exact .goOn _ _ htasks hbranches
  | moveTo c => exact .goOn _ _ htasks hbranches
  | commit =>
    simp only [Machine.step]
    split
    · exact .goOn _ _ htasks hbranches
    · exact .goOn _ _ htasks (hbranches.drop _)
  | refuse size => exact .stuck _ (hbranches.drop _)
  | scan p => exact choose_padded hbranches (.same _) (.same _)
  | skip p => exact goOnWith_padded _ hbranches (.same _)

/-! ### A run -/

/-- The padding is reached once at most, since the match ends behind it. -/
theorem run_padded {n : Nat} (more : Nat) (hbranches : PaddedBranches bs cs) (htasks : Padded ts us)
    (hrun : Machine.run origin n ⟨ts, t, bs, depth⟩ ≠ .overflow) :
    PaddedStep (Machine.run origin n ⟨ts, t, bs, depth⟩)
      (Machine.run origin (n + 1 + more) ⟨us, t, cs, depth⟩) := by
  induction n generalizing t depth ts us bs cs with
  | zero => exact absurd rfl hrun
  | succ n ih =>
    rw [show n + 1 + 1 + more = n + 1 + more + 1 by omega]
    have hcons {task : Task} {ts us : List Task} (htasks : Padded ts us)
        (hrun : Machine.run origin (n + 1) ⟨task :: ts, t, bs, depth⟩ ≠ .overflow) :
        PaddedStep (Machine.run origin (n + 1) ⟨task :: ts, t, bs, depth⟩)
          (Machine.run origin (n + 1 + more + 1) ⟨task :: us, t, cs, depth⟩) := by
      have hstep : PaddedStep (Machine.step origin ⟨task :: ts, t, bs, depth⟩)
          (Machine.step origin ⟨task :: us, t, cs, depth⟩) := step_padded task hbranches htasks
      rw [Machine.run] at hrun ⊢
      rw [Machine.run]
      generalize Machine.step origin ⟨task :: ts, t, bs, depth⟩ = s at hstep hrun ⊢
      generalize Machine.step origin ⟨task :: us, t, cs, depth⟩ = s' at hstep ⊢
      cases hstep with
      | goOn t' depth' htasks' hbranches' => exact ih hbranches' htasks' hrun
      | done t' => exact .done t'
      | stuck depth' hbranches' => exact .stuck depth' hbranches'
      | overflow => exact .overflow
    cases htasks with
    | same =>
      cases ts with
      | nil => exact .done t
      | cons task ts => exact hcons (.same ts) hrun
    | last =>
      cases n with
      | zero => exact absurd rfl hrun
      | succ n =>
        rw [show n + 1 + 1 + more + 1 = n + more + 3 by omega]
        exact .done (t.mark 1)
    | cons task htasks => exact hcons htasks hrun

theorem run_ne_overflow {n budget : Nat} {m : Machine} (h : m.search origin n budget ≠ .exhausted) :
    m.run origin n ≠ .overflow := by
  intro hrun
  rw [Machine.search, hrun] at h
  exact h rfl

/-- What is found is the same when the first run is. -/
theorem search_padded {n budget : Nat} {m m' : Machine}
    (hrun : PaddedStep (m.run origin n) (m'.run origin (n + 2)))
    (hsearch : m.search origin n budget ≠ .exhausted) :
    m'.search origin (n + 2) budget = m.search origin n budget := by
  rw [Machine.search] at hsearch ⊢
  rw [Machine.search]
  generalize m.run origin n = s at hrun hsearch ⊢
  generalize m'.run origin (n + 2) = s' at hrun ⊢
  cases hrun with
  | goOn => exact absurd rfl hsearch
  | done t => rfl
  | overflow => exact absurd rfl hsearch
  | stuck depth hbranches =>
    cases hbranches with
    | nil => rfl
    | cons hbranch hbranches =>
      obtain ⟨htasks, hthread⟩ := hbranch
      -- the latest branch is taken up with one attempt less to go back
      cases budget with
      | zero => exact absurd rfl hsearch
      | succ budget =>
        refine search_padded ?_ hsearch
        rw [← hthread]
        exact run_padded 1 hbranches htasks (run_ne_overflow hsearch)

end Steps

/-! ### An attempt -/

theorem verdict_ne_exhausted {r : Regex} {place : Cursor} (h : r.search place ≠ .gaveUp) :
    r.verdict place ≠ .exhausted := by
  intro hverdict
  rw [search_eq, hverdict] at h
  exact h rfl

/-- **An attempt that does not give up is the same with a plan that does nothing behind it.** -/
theorem attempt_seq_done {p : Plan} {n : Nat} {b c : Bool} {place : Cursor}
    (h : attempt ⟨p, n, b⟩ place ≠ .gaveUp) :
    attempt ⟨.seq p .done, n, c⟩ place = attempt ⟨p, n, b⟩ place := by
  have hexhausted := verdict_ne_exhausted h
  have heffort (room : Nat) : (Plan.seq .done (.seq p .done)).effort room + 5
      = (Plan.seq .done p).effort room + 5 + 2 := by
    show 1 + (p.effort room + 1 + 1) + 1 + 5 = 1 + p.effort room + 1 + 5 + 2
    omega
  refine search_congr rfl ?_
  unfold verdict at hexhausted ⊢
  rw [heffort (place.offset + place.left)]
  refine search_padded ?_ hexhausted
  have hne := run_ne_overflow hexhausted
  have hfuel : (Plan.seq .done p).effort (place.offset + place.left) + 5
      = p.effort (place.offset + place.left) + 4 + 3 := by
    show 1 + p.effort (place.offset + place.left) + 1 + 5 = _
    omega
  have hseq (fuel : Nat) : (attemptMachine (.seq p .done) n place).run place.offset (fuel + 1)
      = (⟨[.follow p, .follow .done, .mark 1], (Thread.start n place).mark 0, [], 0⟩ : Machine).run
          place.offset fuel := run_step rfl
  show PaddedStep ((machine ⟨.seq .done p, n, true⟩ place).run place.offset
      ((Plan.seq .done p).effort (place.offset + place.left) + 5)) _
  rw [hfuel, run_seq_done] at hne ⊢
  rw [show p.effort (place.offset + place.left) + 4 + 3 + 2
    = p.effort (place.offset + place.left) + 4 + 1 + 1 + 3 by omega]
  show PaddedStep _ ((machine ⟨.seq .done (.seq p .done), n, true⟩ place).run place.offset _)
  rw [run_seq_done, hseq]
  exact run_padded 0 .nil (.cons _ .last) hne

/-- The plan of an expression that needs backtracking has a plan that does nothing behind it where it is the
last part of a sequence. -/
theorem Plan.ofLast_hard {e : Expr} {p : Plan} (hhard : e.isHard e.references = true)
    (h : Plan.ofExpr e.references true e = .ok p) : Plan.ofLast e = .ok (.seq p .done) := by
  unfold Plan.ofLast
  rw [hhard]
  show (Plan.ofExpr e.references true e >>= fun q => Except.ok (Plan.seq q .done)) = _
  rw [h]
  rfl

end Listfile.Regex
