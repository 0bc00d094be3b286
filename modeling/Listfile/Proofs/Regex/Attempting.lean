import Listfile.Proofs.Regex.Ending
import Listfile.Proofs.Regex.Planning
import Listfile.Regex.Search

/-!
# Attempts at one place

* `Regex.attempt`: a compiled pattern is tried at one place only.
* `search_seq_searchStart`: a pattern behind an anchor is searched for by an attempt.
* `Plan.ofLast`: the plan of an expression that is the last part of a sequence.
* `ofExpr_anchored`: the plan of an expression behind an anchor.
* `attempt_ofLast`: **the attempt is the same for an expression on its own if the expression is plain.**
-/

namespace Listfile

open Regex

/-- Try a pattern at one place: it matches from there on or not at all. The plan that does nothing takes
as long as an anchor. -/
def Regex.attempt (r : Regex) (place : Cursor) : SearchResult :=
  (⟨.seq .done r.plan, r.groupCount, true⟩ : Regex).search place

/-- Is there a match? -/
def SearchResult.isFound : SearchResult → Bool
  | .found _ _ => true
  | .notFound | .gaveUp => false

namespace Regex

/-! ### Machines -/

theorem run_step {origin fuel : Nat} {m m' : Machine} (h : m.step origin = .goOn m') :
    m.run origin (fuel + 1) = m'.run origin fuel := by
  rw [Machine.run, h]

theorem search_congr_run {origin fuel budget : Nat} {m m' : Machine}
    (h : m.run origin fuel = m'.run origin fuel) :
    m.search origin fuel budget = m'.search origin fuel budget := by
  rw [Machine.search, Machine.search, h]

/-- The machine that follows a plan from a place on, to the end of the match. -/
def attemptMachine (p : Plan) (n : Nat) (place : Cursor) : Machine :=
  ⟨[.follow p, .mark 1], (Thread.start n place).mark 0, [], 0⟩

theorem run_seq_done (p : Plan) (n fuel : Nat) (place : Cursor) :
    (machine ⟨.seq .done p, n, true⟩ place).run place.offset (fuel + 3)
      = (attemptMachine p n place).run place.offset fuel := by
  rw [run_step rfl, run_step rfl, run_step rfl]
  rfl

theorem run_seq_searchStart (p : Plan) (n fuel : Nat) (place : Cursor) :
    (machine ⟨.seq .searchStart p, n, true⟩ place).run place.offset (fuel + 3)
      = (attemptMachine p n place).run place.offset fuel := by
  have hstart : (⟨[.follow .searchStart, .follow p, .mark 1], (Thread.start n place).mark 0, [], 0⟩
      : Machine).step place.offset = .goOn (attemptMachine p n place) := by
    show Machine.goOnIf _ _ (place.offset == place.offset) = _
    rw [beq_self_eq_true]
    rfl
  rw [run_step rfl, run_step rfl]
  exact run_step hstart

/-- What the machine is asked to find. -/
def verdict (r : Regex) (place : Cursor) : Machine.Verdict :=
  (r.machine place).search place.offset (r.plan.effort (place.offset + place.left) + 5) backtrackLimit

theorem search_eq (r : Regex) (place : Cursor) :
    r.search place = match r.verdict place with
      | .found t =>
        match t.whole? with
        | some whole => .found whole ((List.range r.groupCount).map fun i => t.capture? (i + 1))
        | none => .notFound
      | .notFound => .notFound
      | .exhausted => .gaveUp := rfl

theorem search_congr {r r' : Regex} {place : Cursor} (hcount : r.groupCount = r'.groupCount)
    (hverdict : r.verdict place = r'.verdict place) : r.search place = r'.search place := by
  rw [search_eq, search_eq, hverdict, hcount]

/-- **A pattern behind an anchor is searched for by an attempt.** -/
theorem search_seq_searchStart (p : Plan) (n : Nat) (b : Bool) (place : Cursor) :
    search ⟨.seq .searchStart p, n, true⟩ place = attempt ⟨p, n, b⟩ place := by
  refine search_congr rfl (search_congr_run ?_)
  exact (run_seq_searchStart p n _ place).trans (run_seq_done p n _ place).symm

/-- Attempts are the same for plans that are followed alike. -/
theorem attempt_congr {p q : Plan} {n : Nat} {b c : Bool} {place : Cursor}
    (heffort : ∀ room, p.effort room = q.effort room)
    (hfollow : ∀ m tasks, Machine.follow place.offset m tasks p = m.follow place.offset tasks q) :
    attempt ⟨p, n, b⟩ place = attempt ⟨q, n, c⟩ place := by
  have hmachine (fuel : Nat) : (attemptMachine p n place).run place.offset fuel
      = (attemptMachine q n place).run place.offset fuel := by
    cases fuel with
    | zero => rfl
    | succ fuel =>
      have hstep : (attemptMachine p n place).step place.offset
          = (attemptMachine q n place).step place.offset := hfollow _ _
      rw [Machine.run, Machine.run, hstep]
  have heffort' (room : Nat) : (Plan.seq .done p).effort room = (Plan.seq .done q).effort room := by
    show 1 + p.effort room + 1 = 1 + q.effort room + 1
    rw [heffort]
  refine search_congr rfl ?_
  unfold verdict
  rw [heffort' (place.offset + place.left)]
  refine search_congr_run ?_
  exact ((run_seq_done p n _ place).trans (hmachine _)).trans (run_seq_done q n _ place).symm

/-! ### Plain expressions -/

variable {origin : Nat} {m : Machine} {tasks : List Task}

/-- A sequence of a single plain expression is matched like the expression. -/
theorem unit_seq_empty (t : Thread) (e : Expr) : t.unit? (.seq e .empty) = t.unit? e := by
  unfold Thread.unit? Thread.capture
  rw [show (Expr.seq e .empty).groups = e.groups from List.append_nil _]
  rfl

theorem take_eq_unit (t : Thread) (s : CharSet) : t.take? s = t.unit? (.chars s) := by
  cases hnext : t.here.next? with
  | none =>
    simp [Thread.take?, Thread.unit?, Expr.ways, Expr.matcher, Matcher.runAt, Matcher.ofSet, Side.step?,
      Arrival.start, hnext]
  | some p =>
    cases hc : s.contains p.1 with
    | false =>
      simp [Thread.take?, Thread.unit?, Expr.ways, Expr.matcher, Matcher.runAt, Matcher.ofSet, Side.step?,
        Arrival.start, hnext, hc]
    | true =>
      simp [Thread.take?, Thread.unit?, Expr.ways, Expr.matcher, Matcher.runAt, Matcher.ofSet, Side.step?,
        Arrival.start, hnext, hc]
      rfl

theorem follow_chars (s : CharSet) :
    m.follow origin tasks (.chars s) = m.follow origin tasks (.unit (.chars s)) := by
  show m.goOnWith tasks (m.thread.take? s) = m.goOnWith tasks (m.thread.unit? (.chars s))
  rw [take_eq_unit]

theorem follow_assertion (a : Assertion) :
    m.follow origin tasks (.assertion a) = m.follow origin tasks (.unit (.assertion a)) := by
  have hunit : m.thread.unit? (.assertion a) = if a.holds m.thread.here then some m.thread else none := by
    cases ha : a.holds m.thread.here with
    | false =>
      simp [Thread.unit?, Expr.ways, Expr.matcher, Matcher.runAt, Arrival.start, ha]
    | true =>
      simp [Thread.unit?, Expr.ways, Expr.matcher, Matcher.runAt, Arrival.start, ha]
      rfl
  show Machine.goOnWith _ _ _ = m.goOnWith tasks (m.thread.unit? (.assertion a))
  rw [hunit]

/-- The automaton of a sequence of a single expression is that of the expression. -/
theorem checked_seq_empty (e : Expr) :
    Plan.checked (.seq e .empty) = (Plan.checked e).map fun _ => .seq e .empty := by
  have hbounds : (Expr.seq e .empty).boundsAgree = e.boundsAgree := Bool.and_true _
  have hgrow (backward : Bool) : (Expr.seq e .empty).grow backward = e.grow backward := by
    rw [Expr.grow]
  have hfits : (Expr.seq e .empty).fitsAutomaton = e.fitsAutomaton := by
    unfold Expr.fitsAutomaton Expr.automatonSize
    rw [hgrow, hgrow, Expr.weightBound]
  unfold Plan.checked
  rw [hbounds, hfits]
  split
  · rfl
  · split
    · rfl
    · rfl

/-! ### Plans -/

/-- The plan of an expression that is the last part of a sequence. -/
def Plan.ofLast (e : Expr) : Except Fault Plan :=
  Plan.ofChain e.references 0 (if e.isHard e.references then 1 else 0) (.seq e .empty)

theorem Plan.ofLast_plain {e : Expr} (hplain : e.isHard e.references = false) :
    Plan.ofLast e = if e.isLiteral then .ok (.unit (.seq e .empty))
      else (Plan.checked e).map fun _ => .unit (.seq e .empty) := by
  unfold Plan.ofLast
  rw [hplain]
  show (if e.isLiteral then _ else (Plan.checked (.seq e .empty)).map Plan.unit) = _
  rw [checked_seq_empty]
  cases Plan.checked e with
  | error f => rfl
  | ok e => rfl

/-- A plan that takes one step, which matches an expression as a unit. -/
def Plan.IsUnit (p : Plan) (e : Expr) : Prop :=
  (∀ room, p.effort room = 1) ∧
    ∀ origin m tasks, Machine.follow origin m tasks p = m.follow origin tasks (.unit e)

theorem Plan.isUnit_unit (e : Expr) : (Plan.unit e).IsUnit e :=
  ⟨fun _ => rfl, fun _ _ _ => rfl⟩

theorem Plan.isUnit_done : Plan.done.IsUnit .empty :=
  ⟨fun _ => rfl, fun _ _ _ => rfl⟩

theorem Plan.isUnit_seq_empty {p : Plan} {e : Expr} (h : p.IsUnit e) : p.IsUnit (.seq e .empty) := by
  refine ⟨h.1, fun origin m tasks => (h.2 origin m tasks).trans ?_⟩
  show m.goOnWith tasks (m.thread.unit? e) = m.goOnWith tasks (m.thread.unit? (.seq e .empty))
  rw [unit_seq_empty]

theorem Plan.eq_of_checked {e e' : Expr} (h : Plan.checked e = .ok e') : e' = e := by
  unfold checked at h
  split at h
  · cases h
  · split at h
    · cases h
    · cases h
      rfl

/-- Small automata can be built. -/
theorem Plan.checked_of_small {e : Expr} (hbounds : e.boundsAgree = true)
    (hsmall : e.weightBound + 1000 ≤ AutomatonSize.limit) : Plan.checked e = .ok e := by
  have hfits : e.fitsAutomaton = true := by
    unfold Expr.fitsAutomaton
    rw [decide_eq_true hsmall, Bool.true_or]
  unfold checked
  rw [hbounds, hfits]
  rfl

theorem Plan.ofUnit_isUnit {e : Expr} {p : Plan} (h : Plan.ofUnit e = .ok p) :
    (e.isLiteral = true ∨ Plan.checked e = .ok e) ∧ p.IsUnit e := by
  unfold ofUnit at h
  split at h
  · cases h
    exact ⟨.inr (checked_of_small rfl (by decide)), isUnit_done⟩
  · rename_i s
    obtain ⟨e', he', rfl⟩ := map_eq_ok.1 h
    rw [eq_of_checked he'] at he'
    exact ⟨.inr he', fun _ => rfl, fun _ _ _ => follow_chars s⟩
  · split at h
    · rename_i hliteral
      cases h
      exact ⟨.inl hliteral, isUnit_unit e⟩
    · obtain ⟨e', he', rfl⟩ := map_eq_ok.1 h
      obtain rfl := eq_of_checked he'
      exact ⟨.inr he', isUnit_unit e'⟩

theorem Plan.ofExpr_isUnit {refs : List Nat} {e : Expr} {p : Plan} (hplain : e.isHard refs = false)
    (h : Plan.ofExpr refs false e = .ok p) :
    (e.isLiteral = true ∨ Plan.checked e = .ok e) ∧ p.IsUnit e := by
  cases e with
  | empty => exact ofUnit_isUnit h
  | never =>
    cases h
    exact ⟨.inr (checked_of_small rfl (by decide)), isUnit_unit .never⟩
  | chars s => exact ofUnit_isUnit h
  | assertion a =>
    cases h
    have hsmall : 32 + 1000 ≤ AutomatonSize.limit := by decide
    exact ⟨.inr (checked_of_small rfl hsmall), fun _ => rfl, fun _ _ _ => follow_assertion a⟩
  | seq a b =>
    rw [Plan.ofExpr, hplain] at h
    exact ofUnit_isUnit h
  | either a b =>
    rw [Plan.ofExpr, hplain] at h
    exact ofUnit_isUnit h
  | group i body =>
    rw [Plan.ofExpr, hplain] at h
    exact ofUnit_isUnit h
  | repeated body least most greedy =>
    rw [Plan.ofExpr, show body.isHard refs = false from hplain] at h
    exact ofUnit_isUnit h
  | _ => cases hplain

theorem Plan.ofExpr_of_ofWhole {refs : List Nat} {e : Expr} {p : Plan} (h : Plan.ofWhole refs e = .ok p) :
    Plan.ofExpr refs false e = .ok p := by
  unfold ofWhole at h
  split at h
  · obtain ⟨_, -, h⟩ := bind_eq_ok.1 h
    exact h
  · exact h

/-- **An attempt at a plain expression is the same whether it stands alone or is the last part.** -/
theorem attempt_ofLast {e : Expr} {p : Plan} (hplain : e.isHard e.references = false)
    (h : Plan.ofExpr e.references false e = .ok p) :
    ∃ q, Plan.ofLast e = .ok q ∧
      ∀ n b c place, attempt ⟨q, n, b⟩ place = attempt ⟨p, n, c⟩ place := by
  obtain ⟨hmade, hunit⟩ := Plan.ofExpr_isUnit hplain h
  refine ⟨.unit (.seq e .empty), ?_, fun n b c place => ?_⟩
  · rw [Plan.ofLast_plain hplain]
    rcases hmade with hliteral | hchecked
    · rw [if_pos hliteral]
    · rw [hchecked]
      exact ite_self _
  · obtain ⟨heffort, hfollow⟩ := Plan.isUnit_seq_empty hunit
    exact attempt_congr (fun room => (heffort room).symm) fun m tasks => (hfollow _ m tasks).symm

/-- What can be planned on its own can be planned as the last part, unless an automaton is too large. A
plain expression stays the unit that it is. -/
theorem Plan.made_ofLast {e : Expr} {p : Plan} (h : Plan.ofExpr e.references false e = .ok p) :
    (∃ q, Plan.ofLast e = .ok q) ∨
      (Plan.ofLast e = .error .tooLarge ∧ AutomatonSize.limit < e.heaviest + 1000 ∧
        e.isHard e.references = true) := by
  cases hhard : e.isHard e.references with
  | false =>
    obtain ⟨q, hq, -⟩ := attempt_ofLast hhard h
    exact .inl ⟨q, hq⟩
  | true =>
    have hmade : Plan.Made e.heaviest (Plan.ofLast e) := by
      unfold Plan.ofLast
      rw [hhard]
      exact .bind ((made_within e.references e).expr h) fun q => .of_ok rfl
    rcases hmade with hok | ⟨herror, hlarge⟩
    · exact .inl hok
    · exact .inr ⟨herror, hlarge, rfl⟩

/-! ### Behind an anchor -/

theorem groups_anchored (e : Expr) : e.anchored.groups = e.groups := by
  unfold Expr.anchored
  cases e with
  | empty => rfl
  | _ =>
    show [] ++ (_ ++ []) = _
    rw [List.nil_append, List.append_nil]

theorem anchored_eq {e : Expr} (hne : e.isEmpty = false) :
    e.anchored = .seq .searchStart (.seq e .empty) := by
  unfold Expr.anchored
  rw [hne]
  rfl

/-- The plan of an expression behind an anchor is that of the expression as the last part. -/
theorem Plan.ofExpr_anchored {e : Expr} (hne : e.isEmpty = false) :
    Plan.ofExpr e.references false e.anchored = (Plan.ofLast e).map (.seq .searchStart) := by
  have hfront : Plan.frontSize e.references (Expr.seq .searchStart (.seq e .empty)).parts = 0 := rfl
  have hback : Plan.backSize e.references false (Expr.seq .searchStart (.seq e .empty)).parts
      = if e.isHard e.references then 0 else 1 := by
    unfold Plan.backSize
    cases hhard : e.isHard e.references with
    | false => simp [Expr.parts, hhard, Expr.isHard]
    | true => simp [Expr.parts, hhard]
  have hmiddle : (Expr.seq .searchStart (.seq e .empty)).parts.length - 0
      - (if e.isHard e.references then 0 else 1) = (if e.isHard e.references then 1 else 0) + 1 := by
    cases e.isHard e.references with
    | false => rfl
    | true => rfl
  have hfirst : Plan.ofExpr e.references true .searchStart = .ok .searchStart := by
    rw [Plan.ofExpr]
  rw [anchored_eq hne, Plan.ofExpr]
  simp only [hfront, List.drop_zero, hback, hmiddle, Plan.ofLink, hfirst]
  unfold Plan.ofLast
  cases Plan.ofChain e.references 0 (if e.isHard e.references then 1 else 0) (.seq e .empty) with
  | error f => rfl
  | ok q => rfl

theorem search_of_done {origin fuel budget : Nat} {m : Machine} {t : Thread}
    (h : m.run origin fuel = .done t) : m.search origin fuel budget = .found t := by
  rw [Machine.search, h]

theorem run_mark (slot : Nat) (t : Thread) (origin fuel : Nat) :
    (⟨[.mark slot], t, [], 0⟩ : Machine).run origin (fuel + 2) = .done (t.mark slot) := by
  rw [run_step rfl]
  rfl

/-- An anchor on its own matches where nothing matches. -/
theorem search_searchStart (n : Nat) (b : Bool) (place : Cursor) :
    search ⟨.searchStart, n, true⟩ place = attempt ⟨.done, n, b⟩ place := by
  have hanchor (fuel : Nat) : (machine ⟨.searchStart, n, true⟩ place).run place.offset (fuel + 4)
      = .done (((Thread.start n place).mark 0).mark 1) := by
    have hstart : (attemptMachine .searchStart n place).step place.offset
        = .goOn ⟨[.mark 1], (Thread.start n place).mark 0, [], 0⟩ := by
      show Machine.goOnIf _ _ (place.offset == place.offset) = _
      rw [beq_self_eq_true]
      rfl
    rw [run_step rfl]
    exact (run_step hstart).trans (run_mark 1 _ _ fuel)
  have hdone (fuel : Nat) : (machine ⟨.seq .done .done, n, true⟩ place).run place.offset (fuel + 6)
      = .done (((Thread.start n place).mark 0).mark 1) := by
    rw [run_seq_done, run_step rfl]
    exact run_mark 1 _ _ fuel
  refine search_congr rfl ?_
  exact (search_of_done (hanchor 2)).trans (search_of_done (hdone 2)).symm

/-- The pattern behind an anchor, compiled. -/
theorem ofExpr_anchored_attempt {e : Expr} {q : Plan} (h : Plan.ofLast e = .ok q) :
    ∃ p, Plan.ofExpr e.references false e.anchored = .ok p ∧ ∀ n b place,
      search ⟨p, n, true⟩ place = attempt ⟨q, n, b⟩ place := by
  cases hempty : e.isEmpty with
  | false =>
    refine ⟨.seq .searchStart q, ?_, fun n b place => search_seq_searchStart q n b place⟩
    rw [Plan.ofExpr_anchored hempty, h]
    rfl
  | true =>
    cases e with
    | empty =>
      obtain ⟨q', hq', hattempt⟩ := attempt_ofLast (e := .empty) (p := .done) rfl rfl
      rw [h] at hq'
      cases hq'
      refine ⟨.searchStart, rfl, fun n b place => ?_⟩
      rw [hattempt n b b place]
      exact search_searchStart n b place
    | _ => cases hempty

end Regex

end Listfile
