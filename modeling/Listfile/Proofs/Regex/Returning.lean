import Listfile.Proofs.Regex.Attempting
import Listfile.Proofs.Regex.Marking
import Listfile.Proofs.Regex.Staying

/-!
# Where anchored matches begin

A search that is not allowed to move on looks for a match at one place.  It may still go back to look at what
stands before that place, but then it returns, so the match that it reports does not end before the place.

* `Plan.KeepsStart`: a plan does not move the start of a match, and goes back only to look around.
* `keepsStart_ofExpr`: the plans of expressions that do not move it.
* `Returns`: from where a search looks around it returns.
* `keepsStart_step`: no step moves the start.
* **`first_of_search`**: the match begins at the place of the search.
-/

namespace Listfile

namespace Regex

variable {refs : List Nat} {e a b : Expr} {p : Plan}

/-! ### Plans -/

/-- The plan does not move the start of the match. It goes back only where it looks around. -/
def Plan.KeepsStart : (looking : Bool) → Plan → Prop
  | _, .keepOut => False
  | _, .unit e => e.KeepsStart
  | looking, .back _ => looking = true
  | looking, .backOver e => looking = true ∧ e.KeepsStart
  | looking, .seq a b | looking, .either a b => a.KeepsStart looking ∧ b.KeepsStart looking
  | looking, .group i body => i ≠ 0 ∧ body.KeepsStart looking
  | looking, .optional body _ | looking, .star body _ | looking, .plus body _ | looking, .guarded body _ _
  | looking, .counted body _ _ _ | looking, .atomic body => body.KeepsStart looking
  | _, .look _ body => body.KeepsStart true
  | looking, .conditional test yes no =>
    test.KeepsStart looking ∧ yes.KeepsStart looking ∧ no.KeepsStart looking
  | _, _ => True

instance Plan.decidableKeepsStart : (looking : Bool) → (p : Plan) → Decidable (p.KeepsStart looking)
  | _, .keepOut => isFalse id
  | _, .unit e => inferInstanceAs (Decidable e.KeepsStart)
  | looking, .back _ => inferInstanceAs (Decidable (looking = true))
  | looking, .backOver e => inferInstanceAs (Decidable (looking = true ∧ e.KeepsStart))
  | looking, .seq a b | looking, .either a b =>
    have := decidableKeepsStart looking a
    have := decidableKeepsStart looking b
    inferInstanceAs (Decidable (a.KeepsStart looking ∧ b.KeepsStart looking))
  | looking, .group i body =>
    have := decidableKeepsStart looking body
    inferInstanceAs (Decidable (i ≠ 0 ∧ body.KeepsStart looking))
  | looking, .optional body _ | looking, .star body _ | looking, .plus body _ | looking, .guarded body _ _
  | looking, .counted body _ _ _ | looking, .atomic body => decidableKeepsStart looking body
  | _, .look _ body => decidableKeepsStart true body
  | looking, .conditional test yes no =>
    have := decidableKeepsStart looking test
    have := decidableKeepsStart looking yes
    have := decidableKeepsStart looking no
    inferInstanceAs (Decidable
      (test.KeepsStart looking ∧ yes.KeepsStart looking ∧ no.KeepsStart looking))
  | _, .done | _, .chars _ | _, .assertion _ | _, .sameAs .. | _, .searchStart | _, .groupSet _ => isTrue trivial

namespace Plan

/-- What does not go back may be followed while looking around. -/
theorem KeepsStart.within_look (h : p.KeepsStart false) : p.KeepsStart true := by
  induction p with
  | seq a b ha hb => exact ⟨ha h.1, hb h.2⟩
  | either a b ha hb => exact ⟨ha h.1, hb h.2⟩
  | group i body ih => exact ⟨h.1, ih h.2⟩
  | optional body greedy ih => exact ih h
  | star body greedy ih => exact ih h
  | plus body greedy ih => exact ih h
  | guarded body least greedy ih => exact ih h
  | counted body least most greedy ih => exact ih h
  | atomic body ih => exact ih h
  | backOver e => exact ⟨rfl, h.2⟩
  | back size => rfl
  | conditional test yes no ht hy hn => exact ⟨ht h.1, hy h.2.1, hn h.2.2⟩
  | _ => exact h

theorem keepsStart_ofUnit (he : e.KeepsStart) (h : ofUnit e = .ok p) : p.KeepsStart false := by
  unfold ofUnit at h
  split at h
  · cases h
    trivial
  · obtain ⟨_, -, rfl⟩ := map_eq_ok.1 h
    trivial
  · split at h
    · cases h
      exact he
    · obtain ⟨e', he', rfl⟩ := map_eq_ok.1 h
      rw [eq_of_checked he']
      exact he

theorem keepsStart_ofRepetition (h : p.KeepsStart false) (size least : Nat) (most : Option Nat)
    (greedy : Bool) : (ofRepetition p size least most greedy).KeepsStart false := by
  unfold ofRepetition
  split
  · exact h
  · split
    · exact h
    · split
      all_goals exact h
  · exact h

theorem keepsStart_ofLink {front middle : Nat} {first : Unit → Except Fault Plan}
    {rest : Nat → Nat → Except Fault Plan} (he : e.KeepsStart)
    (hfirst : ∀ p, first () = .ok p → p.KeepsStart false)
    (hrest : ∀ front middle p, rest front middle = .ok p → p.KeepsStart false)
    (h : ofLink front middle e first rest = .ok p) : p.KeepsStart false := by
  unfold ofLink at h
  split at h
  · exact hrest _ _ p h
  · obtain ⟨a, ha, h⟩ := bind_eq_ok.1 h
    obtain ⟨b, hb, h⟩ := bind_eq_ok.1 h
    cases h
    exact ⟨hfirst a ha, hrest _ _ b hb⟩
  · exact keepsStart_ofUnit he h

/-- A look behind goes back while it looks around. -/
theorem keepsStart_ofBehind {negative : Bool} {plan : Unit → Except Fault Plan} (he : e.KeepsStart)
    (hplan : ∀ p, plan () = .ok p → p.KeepsStart false) (h : ofBehind refs negative e plan = .ok p) :
    p.KeepsStart false := by
  unfold ofBehind at h
  split at h
  · obtain ⟨q, hq, h⟩ := bind_eq_ok.1 h
    cases h
    exact ⟨rfl, (hplan q hq).within_look⟩
  · split at h
    · cases h
    · obtain ⟨e', he', h⟩ := bind_eq_ok.1 h
      cases h
      rw [eq_of_checked he']
      exact ⟨rfl, he⟩

/-- What `keepsStart_ofExpr` says of an expression, of the chains and choices that it is the rest of, and of a
look behind for it. -/
structure KeptStart (refs : List Nat) (e : Expr) : Prop where
  expr {hard : Bool} {p : Plan} (h : ofExpr refs hard e = .ok p) : p.KeepsStart false
  chain {front middle : Nat} {p : Plan} (h : ofChain refs front middle e = .ok p) : p.KeepsStart false
  branches {hard : Bool} {first p : Plan} (hfirst : first.KeepsStart false)
    (h : ofBranches refs hard first e = .ok p) : p.KeepsStart false
  branchesBehind {negative : Bool} {first p : Plan} (hfirst : first.KeepsStart false)
    (h : ofBranchesBehind refs negative first e = .ok p) : p.KeepsStart false
  behind {hard negative : Bool} {p : Plan} (h : ofExpr refs hard (.look .behind negative e) = .ok p) :
    p.KeepsStart false

/-- Of an expression that is neither a sequence nor a choice, only its own plan has to be shown to keep the
start. -/
theorem KeptStart.of_expr (he : e.KeepsStart) (hseq : ∀ a b, e ≠ .seq a b) (heither : ∀ a b, e ≠ .either a b)
    (hexpr : ∀ hard p, ofExpr refs hard e = .ok p → p.KeepsStart false) : KeptStart refs e := by
  refine ⟨hexpr _ _, fun h => ?_, fun hfirst h => ?_, fun hfirst h => ?_, fun h => ?_⟩
  · rw [ofChain.eq_2 _ _ _ e hseq] at h
    exact keepsStart_ofUnit he h
  · rw [ofBranches.eq_2 _ _ _ e heither] at h
    cases h
    exact hfirst
  · rw [ofBranchesBehind.eq_2 _ _ _ e heither] at h
    cases h
    exact hfirst
  · rw [ofExpr.eq_11 _ _ _ e heither] at h
    exact keepsStart_ofBehind he (hexpr false) h

theorem keepsStart_chain_seq (he : (Expr.seq a b).KeepsStart) (ha : KeptStart refs a) (hb : KeptStart refs b)
    {front middle : Nat} (h : ofLink front middle (.seq a b) (fun _ => ofExpr refs true a)
      (fun front middle => ofChain refs front middle b) = .ok p) : p.KeepsStart false :=
  keepsStart_ofLink he (fun _ hp => ha.expr hp) (fun _ _ _ hp => hb.chain hp) h

theorem keepsStart_parts (he : e.KeepsStart) : ∀ a ∈ e.parts, a.KeepsStart := by
  induction e with
  | seq a b _ ih => exact List.forall_mem_cons.2 ⟨he.1, ih he.2⟩
  | _ => exact List.forall_mem_nil _

theorem keptStart_seq (he : (Expr.seq a b).KeepsStart) (ha : KeptStart refs a) (hb : KeptStart refs b) :
    KeptStart refs (.seq a b) := by
  have hexpr (hard : Bool) (p : Plan) (h : ofExpr refs hard (.seq a b) = .ok p) : p.KeepsStart false := by
    rw [ofExpr] at h
    split at h
    · exact keepsStart_ofUnit he h
    · obtain ⟨tail, htail, h⟩ := bind_eq_ok.1 h
      have htail := keepsStart_chain_seq he ha hb htail
      split at h
      · cases h
        exact htail
      · obtain ⟨front, hfront, h⟩ := bind_eq_ok.1 h
        cases h
        refine ⟨keepsStart_ofUnit (keepsStart_ofParts fun c hc => ?_) hfront, htail⟩
        exact keepsStart_parts he c (List.mem_of_mem_take hc)
  refine ⟨hexpr _ _, fun h => ?_, fun hfirst h => ?_, fun hfirst h => ?_, fun h => ?_⟩
  · rw [ofChain] at h
    exact keepsStart_chain_seq he ha hb h
  · cases h
    exact hfirst
  · cases h
    exact hfirst
  · rw [ofExpr.eq_11 refs _ _ (.seq a b) (by simp)] at h
    exact keepsStart_ofBehind he (hexpr false) h

theorem keptStart_either (he : (Expr.either a b).KeepsStart) (ha : KeptStart refs a) (hb : KeptStart refs b) :
    KeptStart refs (.either a b) := by
  have hmore (hard : Bool) (p : Plan) (h : (if !hard && !(Expr.either a b).isHard refs
      then ofUnit (.either a b)
      else ofExpr refs hard a >>= fun first => ofBranches refs hard first b) = .ok p) :
      p.KeepsStart false := by
    split at h
    · exact keepsStart_ofUnit he h
    · obtain ⟨first, hfirst, h⟩ := bind_eq_ok.1 h
      exact hb.branches (ha.expr hfirst) h
  refine ⟨fun h => ?_, fun h => ?_, fun hfirst h => ?_, fun hfirst h => ?_, fun h => ?_⟩
  · rw [ofExpr] at h
    exact hmore _ _ h
  · rw [ofChain.eq_2 refs _ _ (.either a b) (by simp)] at h
    exact keepsStart_ofUnit he h
  · rw [ofBranches] at h
    obtain ⟨second, hsecond, h⟩ := bind_eq_ok.1 h
    obtain ⟨others, hothers, h⟩ := bind_eq_ok.1 h
    cases h
    exact ⟨hfirst, hb.branches (ha.expr hsecond) hothers⟩
  · rw [ofBranchesBehind] at h
    obtain ⟨second, hsecond, h⟩ := bind_eq_ok.1 h
    obtain ⟨others, hothers, h⟩ := bind_eq_ok.1 h
    have hsecond := keepsStart_ofBehind he.1 (fun _ hp => ha.expr hp) hsecond
    have hothers := hb.branchesBehind hsecond hothers
    cases h
    split
    · exact ⟨hfirst, hothers⟩
    · exact ⟨hfirst, hothers⟩
  · rw [ofExpr.eq_10] at h
    split at h
    · exact keepsStart_ofBehind he (fun _ hp => hmore false _ hp) h
    · obtain ⟨first, hfirst, h⟩ := bind_eq_ok.1 h
      exact hb.branchesBehind (keepsStart_ofBehind he.1 (fun _ hp => ha.expr hp) hfirst) h

theorem keptStart_of_keepsStart (refs : List Nat) (he : e.KeepsStart) : KeptStart refs e := by
  -- Chains and choices are planned along the rests of expressions, so the induction carries all of `KeptStart`.
  induction e with
  | seq a b ha hb => exact keptStart_seq he (ha he.1) (hb he.2)
  | either a b ha hb => exact keptStart_either he (ha he.1) (hb he.2)
  | group i body ih =>
    refine .of_expr he (by simp) (by simp) fun hard p h => ?_
    rw [ofExpr] at h
    split at h
    · exact keepsStart_ofUnit he h
    · obtain ⟨q, hq, h⟩ := bind_eq_ok.1 h
      cases h
      exact ⟨he.1, (ih he.2).expr hq⟩
  | repeated body least most greedy ih =>
    refine .of_expr he (by simp) (by simp) fun hard p h => ?_
    rw [ofExpr] at h
    split at h
    · exact keepsStart_ofUnit he h
    · have h : (if least = 0 ∧ most = some 1 then _ else _) = _ := h
      split at h
      · obtain ⟨q, hq, h⟩ := bind_eq_ok.1 h
        have hq := (ih he).expr hq
        cases h
        exact hq
      · obtain ⟨q, hq, h⟩ := bind_eq_ok.1 h
        cases h
        exact keepsStart_ofRepetition ((ih he).expr hq) _ _ _ _
  | look side negative body ih =>
    refine .of_expr he (by simp) (by simp) fun hard p h => ?_
    cases side with
    | ahead =>
      rw [ofExpr] at h
      obtain ⟨q, hq, h⟩ := bind_eq_ok.1 h
      cases h
      exact ((ih he).expr hq).within_look
    | behind => exact (ih he).behind h
  | atomic body ih =>
    refine .of_expr he (by simp) (by simp) fun hard p h => ?_
    rw [ofExpr] at h
    obtain ⟨q, hq, h⟩ := bind_eq_ok.1 h
    have hq := (ih he).expr hq
    cases h
    exact hq
  | conditional test yes no htest hyes hno =>
    refine .of_expr he (by simp) (by simp) fun hard p h => ?_
    rw [ofExpr] at h
    obtain ⟨q, hq, h⟩ := bind_eq_ok.1 h
    obtain ⟨q₁, hq₁, h⟩ := bind_eq_ok.1 h
    obtain ⟨q₂, hq₂, h⟩ := bind_eq_ok.1 h
    cases h
    exact ⟨(htest he.1).expr hq, (hyes he.2.1).expr hq₁, (hno he.2.2).expr hq₂⟩
  | chars s => exact .of_expr he (by simp) (by simp) fun hard p h => keepsStart_ofUnit he h
  | keepOut => cases he
  | _ =>
    refine .of_expr he (by simp) (by simp) fun hard p h => ?_
    rw [ofExpr] at h
    cases h
    trivial

/-- **The plan of an expression that does not move the start of a match does not move it either.** -/
theorem keepsStart_ofExpr {hard : Bool} (he : e.KeepsStart) (h : ofExpr refs hard e = .ok p) :
    p.KeepsStart false := (keptStart_of_keepsStart refs he).expr h

end Plan

/-! ### Threads -/

theorem Expr.KeepsStart.marks (he : e.KeepsStart) : e.Marks (2 ≤ ·) := by
  have hgroups : ∀ i ∈ e.groups, i ≠ 0 := by
    induction e with
    | seq a b ha hb | either a b ha hb => exact List.forall_mem_append.2 ⟨ha he.1, hb he.2⟩
    | group i body ih => exact List.forall_mem_cons.2 ⟨he.1, ih he.2⟩
    | repeated body _ _ _ ih | look _ _ body ih | atomic body ih => exact ih he
    | conditional test yes no ht hy hn =>
      exact List.forall_mem_append.2
        ⟨List.forall_mem_append.2 ⟨ht he.1, hy he.2.1⟩, hn he.2.2⟩
    | _ => exact List.forall_mem_nil _
  intro i hi
  have := hgroups i hi
  constructor
  · omega
  · omega

/-- Where a search is that began at a place: not before it, unless it looks around. -/
def Region.around (place : Cursor) (looking : Bool) : Region :=
  ⟨fun c => looking = false → place.offset ≤ c.offset, fun hc h hlooking => by
    rw [(Cursor.offset_next? h).1]
    exact Nat.le_add_right_of_le (hc hlooking)⟩

variable {place : Cursor} {looking : Bool} {th : Thread}

theorem Thread.marked?_setMark_ne {slot other : Nat} (hne : slot ≠ other) (c : Option Cursor) :
    (th.setMark slot c).marked? other = th.marked? other :=
  congrArg Option.join (Array.getElem?_setIfInBounds_ne hne)

/-- The match that the thread has begun starts at the place and does not end before it. -/
structure Thread.KeepsStart (place : Cursor) (looking : Bool) (th : Thread) : Prop where
  here : (Region.around place looking).Has th.here
  first : th.marked? 0 = some place
  last : ∀ c ∈ th.marked? 1, place.offset ≤ c.offset

namespace Thread.KeepsStart

theorem moveTo (h : th.KeepsStart place looking) {outside : Bool} {c : Cursor}
    (hc : (Region.around place outside).Has c) : (th.moveTo c).KeepsStart place outside :=
  ⟨hc, h.first, h.last⟩

/-- While it looks around, a search may be anywhere. -/
theorem within_look (h : th.KeepsStart place looking) : th.KeepsStart place true :=
  ⟨nofun, h.first, h.last⟩

theorem setMark (h : th.KeepsStart place looking) {slot : Nat} (hslot : 2 ≤ slot) (c : Option Cursor) :
    (th.setMark slot c).KeepsStart place looking := by
  refine ⟨h.here, ?_, ?_⟩
  · rw [marked?_setMark_ne (by omega)]
    exact h.first
  · rw [marked?_setMark_ne (by omega)]
    exact h.last

/-- The end of the match is set where the search does not look around. -/
theorem mark (h : th.KeepsStart place looking) {slot : Nat} (hfirst : slot ≠ 0)
    (hlast : slot = 1 → looking = false) : (th.mark slot).KeepsStart place looking := by
  -- Only the end is said to be not before the place, so other marks may be set anywhere.
  by_cases hslot : slot = 1
  · refine ⟨h.here, ?_, ?_⟩
    · exact (marked?_setMark_ne hfirst _).trans h.first
    · intro c hc
      rw [hslot] at hc
      unfold Thread.mark Thread.setMark Thread.marked? at hc
      rw [Array.getElem?_setIfInBounds_self] at hc
      split at hc
      · cases hc
        exact h.here (hlast hslot)
      · cases hc
  · exact h.setMark (by omega) _

theorem forget (h : th.KeepsStart place looking) {i : Nat} (hi : 2 ≤ 2 * i ∧ 2 ≤ 2 * i + 1) :
    (th.forget i).KeepsStart place looking := (h.setMark hi.1 none).setMark hi.2 none

theorem capture (h : th.KeepsStart place looking) (he : e.KeepsStart) {R : Region} {a : Arrival}
    (ha : a.Within R (2 ≤ ·)) : (th.capture e a).KeepsStart place looking := by
  have hforget : (e.groups.foldl Thread.forget th).KeepsStart place looking :=
    List.foldlRecOn _ _ h fun _ h i hi => h.forget (he.marks i hi)
  exact List.foldrRecOn _ _ hforget fun _ hu m hm => hu.setMark (ha.marks m hm).1 _

theorem take? (h : th.KeepsStart place looking) {s : CharSet} :
    ∀ u ∈ th.take? s, u.KeepsStart place looking := by
  intro u hu
  obtain ⟨c, hc, rfl⟩ := exists_of_take? h.here hu
  exact h.moveTo hc

theorem unit? (h : th.KeepsStart place looking) (he : e.KeepsStart) :
    ∀ u ∈ th.unit? e, u.KeepsStart place looking := by
  intro u hu
  obtain ⟨a, ha, rfl⟩ := exists_of_unit? he.marks h.here hu
  exact (h.capture he ha).moveTo ha.place

theorem backOver? (h : th.KeepsStart place true) (he : e.KeepsStart) :
    ∀ u ∈ th.backOver? e, u.KeepsStart place true := by
  intro u hu
  have hback : (Region.around place true).Keeps .behind := nofun
  obtain ⟨c, hc, rfl | ⟨a, ha, rfl⟩⟩ := exists_of_backOver? hback he.marks h.here hu
  · exact h.moveTo hc
  · exact (h.capture he ha).moveTo hc

/-- The match starts at the place, even if it is said to start no later than it ends. -/
theorem whole? (h : th.KeepsStart place looking) {whole : Capture} (hwhole : th.whole? = some whole) :
    whole.first = place := by
  obtain ⟨c, hc, hwhole⟩ := Option.bind_eq_some_iff.1 hwhole
  obtain ⟨first, hfirst, hc⟩ := Option.bind_eq_some_iff.1 hc
  obtain ⟨last, hlast, hc⟩ := Option.bind_eq_some_iff.1 hc
  cases hc
  have hle := h.last last hlast
  have hfirst' : some first = some place := hfirst.symm.trans h.first
  cases hfirst'
  rw [if_neg (show ¬ last.offset < place.offset by omega)] at hwhole
  cases hwhole
  rfl

end Thread.KeepsStart

/-! ### The machine -/

/-- The task does not move the start of the match and does not begin or end a look around. -/
def Task.KeepsStart (looking : Bool) : Task → Prop
  | .follow p | .star p _ | .guarded p _ _ _ _ | .counted p _ _ _ _ => p.KeepsStart looking
  | .mark slot => slot ≠ 0 ∧ (slot = 1 → looking = false)
  | .commit => True
  | .moveTo _ | .refuse _ | .scan _ | .skip _ => False

/-- The tasks do not move the start of the match. A look around ends with a return to where the search was, or
with its refusal, and the last task is not within one. -/
inductive Returns (place : Cursor) : (looking : Bool) → List Task → Prop
  | done : Returns place false []
  | cons {looking : Bool} {task : Task} {tasks : List Task} (htask : task.KeepsStart looking)
      (htasks : Returns place looking tasks) : Returns place looking (task :: tasks)
  | moveTo {outside : Bool} {c : Cursor} {tasks : List Task} (hc : (Region.around place outside).Has c)
      (htasks : Returns place outside tasks) : Returns place true (.moveTo c :: tasks)
  | refuse (depth : Nat) : Returns place true [.refuse depth]

/-- The search does not move the start of the match. -/
def SearchKeepsStart (place : Cursor) (tasks : List Task) (th : Thread) : Prop :=
  ∃ looking, Returns place looking tasks ∧ th.KeepsStart place looking

section
variable {m : Machine} {tasks : List Task} {origin : Nat}

/-- Following a plan does not move the start. -/
theorem keepsStart_follow (hth : m.thread.KeepsStart place looking)
    (hbranches : ∀ b ∈ m.branches, SearchKeepsStart place b.tasks b.thread)
    (htasks : Returns place looking tasks) {p : Plan} (hp : p.KeepsStart looking) :
    (m.follow origin tasks p).Holds (SearchKeepsStart place) := by
  have hgoOn {ts : List Task} {u : Thread} (hts : Returns place looking ts)
      (hu : u.KeepsStart place looking) : SearchKeepsStart place ts u := ⟨looking, hts, hu⟩
  cases p with
  | done => exact ⟨hgoOn htasks hth, hbranches⟩
  | unit e => exact Machine.holds_goOnWith hbranches fun u hu => hgoOn htasks (hth.unit? hp u hu)
  | chars s => exact Machine.holds_goOnWith hbranches fun u hu => hgoOn htasks (hth.take? u hu)
  | assertion a => exact Machine.holds_goOnIf hbranches (hgoOn htasks hth)
  | seq a b => exact ⟨hgoOn (.cons hp.1 (.cons hp.2 htasks)) hth, hbranches⟩
  | either a b =>
    exact Machine.holds_choose hbranches (hgoOn (.cons hp.1 htasks) hth) (hgoOn (.cons hp.2 htasks) hth)
  | group i body =>
    have hi : i ≠ 0 := hp.1
    have hlast : Task.KeepsStart looking (.mark (2 * i + 1)) := ⟨by omega, by omega⟩
    exact ⟨hgoOn (.cons hp.2 (.cons hlast htasks)) (hth.mark (by omega) (by omega)), hbranches⟩
  | optional body greedy =>
    exact Machine.holds_chooseLoop hbranches (hgoOn (.cons hp htasks) hth) (hgoOn htasks hth)
  | star body greedy => exact ⟨hgoOn (.cons hp htasks) hth, hbranches⟩
  | plus body greedy => exact ⟨hgoOn (.cons hp (.cons hp htasks)) hth, hbranches⟩
  | guarded body least greedy => exact ⟨hgoOn (.cons hp htasks) hth, hbranches⟩
  | counted body least most greedy => exact ⟨hgoOn (.cons hp htasks) hth, hbranches⟩
  | look negative body =>
    -- Whatever the body goes back over, it ends with the return to this place, or with its refusal.
    cases negative with
    | false => exact ⟨⟨true, .cons hp (.moveTo hth.here htasks), hth.within_look⟩, hbranches⟩
    | true =>
      exact Machine.holds_choose hbranches ⟨true, .cons hp (.refuse m.depth), hth.within_look⟩
        (hgoOn htasks hth)
  | back size =>
    refine Machine.holds_goOnWith hbranches fun u hu => hgoOn htasks ?_
    obtain ⟨c, -, rfl⟩ := Option.map_eq_some_iff.1 hu
    refine hth.moveTo fun hlooking => ?_
    rw [show looking = true from hp] at hlooking
    cases hlooking
  | backOver e =>
    obtain ⟨rfl, he⟩ := hp
    exact Machine.holds_goOnWith hbranches fun u hu => hgoOn htasks (hth.backOver? he u hu)
  | atomic body =>
    exact ⟨hgoOn (.cons hp (.cons trivial htasks)) ⟨hth.here, hth.first, hth.last⟩, hbranches⟩
  | sameAs i fold =>
    exact Machine.holds_sameAs hbranches fun _ c hc => hgoOn htasks (hth.moveTo (has_repeatText? hth.here hc))
  | keepOut => cases hp
  | searchStart => exact Machine.holds_goOnIf hbranches (hgoOn htasks hth)
  | groupSet i => exact Machine.holds_goOnIf hbranches (hgoOn htasks hth)
  | conditional test yes no =>
    have hholding : Thread.KeepsStart place looking { m.thread with held := m.depth :: m.thread.held } :=
      ⟨hth.here, hth.first, hth.last⟩
    exact Machine.holds_choose (m := { m with thread := _ }) hbranches
      (hgoOn (.cons hp.1 (.cons trivial (.cons hp.2.1 htasks))) hholding)
      (hgoOn (.cons hp.2.2 htasks) hholding)

/-- **No step moves the start of the match.** -/
theorem keepsStart_step (h : m.Holds (SearchKeepsStart place)) :
    (m.step origin).Holds (SearchKeepsStart place) := by
  obtain ⟨todo, th, branches, depth⟩ := m
  obtain ⟨⟨looking, htodo, hth⟩, hbranches⟩ := h
  have hgoOn {ts : List Task} {u : Thread} (hts : Returns place looking ts)
      (hu : u.KeepsStart place looking) : SearchKeepsStart place ts u := ⟨looking, hts, hu⟩
  cases htodo with
  | done => exact ⟨false, .done, hth⟩
  | refuse depth' => exact Machine.holds_cutTo hbranches depth'
  | @moveTo outside c tasks hc htasks => exact ⟨⟨outside, htasks, hth.moveTo hc⟩, hbranches⟩
  | @cons _ task tasks htask htasks =>
    cases task with
    | follow p => exact keepsStart_follow hth hbranches htasks htask
    | star body greedy =>
      exact Machine.holds_chooseLoop hbranches (hgoOn (.cons htask (.cons htask htasks)) hth)
        (hgoOn htasks hth)
    | guarded body least greedy count last =>
      exact Machine.holds_guarded hbranches (fun _ => hgoOn htasks hth)
        fun _ => hgoOn (.cons htask (.cons htask htasks)) hth
    | counted body least most greedy count =>
      exact Machine.holds_counted hbranches (fun _ => hgoOn htasks hth)
        (hgoOn (.cons htask (.cons htask htasks)) hth)
    | mark slot => exact ⟨hgoOn htasks (hth.mark htask.1 htask.2), hbranches⟩
    | commit => exact Machine.holds_commit hbranches fun _ => hgoOn htasks ⟨hth.here, hth.first, hth.last⟩
    | _ => cases htask

end

/-- A match begins where its start is marked. -/
theorem Thread.keepsStart_start (groupCount : Nat) (place : Cursor) :
    ((Thread.start groupCount place).mark 0).KeepsStart place false := by
  refine ⟨fun _ => Nat.le_refl place.offset, ?_, ?_⟩
  · have hsize : 0 < (Thread.start groupCount place).marks.size := by
      simp [Thread.start]
    exact congrArg Option.join (Array.getElem?_setIfInBounds_self_of_lt hsize)
  · intro c hc
    have hunset : (Thread.start groupCount place).marked? 1 = some c :=
      (marked?_setMark_ne Nat.zero_ne_one _).symm.trans hc
    cases (Array.mem_replicate.1 (Array.mem_of_getElem? (Option.join_eq_some_iff.1 hunset))).2

end Regex

open Regex

/-- The machine of a search that may not move on. -/
theorem machine_of_anchored {r : Regex} (h : r.anchored = true) (place : Cursor) :
    r.machine place = ⟨[.mark 0, .follow r.plan, .mark 1], .start r.groupCount place, [], 0⟩ := by
  unfold Regex.machine
  rw [h]
  rfl

/-- A search from an anchor on begins by marking its start. -/
theorem keepsStart_first {r : Regex} (hanchored : r.anchored = true) (hr : r.plan.KeepsStart false) (place : Cursor) :
    ((r.machine place).step place.offset).Holds (SearchKeepsStart place) := by
  have hmarked : Machine.Holds (SearchKeepsStart place)
      ⟨[.follow r.plan, .mark 1], (Thread.start r.groupCount place).mark 0, [], 0⟩ := by
    have hlast : Task.KeepsStart false (.mark 1) := ⟨Nat.one_ne_zero, fun _ => rfl⟩
    exact ⟨⟨false, .cons hr (.cons hlast .done), Thread.keepsStart_start _ _⟩, List.forall_mem_nil _⟩
  rw [machine_of_anchored hanchored]
  exact hmarked

/-- The thread that the machine finds has kept the start of the match. -/
theorem keepsStart_of_verdict {r : Regex} (hanchored : r.anchored = true) (hr : r.plan.KeepsStart false)
    {place : Cursor} {th : Thread} (h : r.verdict place = .found th) : ∃ looking, th.KeepsStart place looking := by
  obtain ⟨looking, -, hkeeps⟩ := holds_found (fun _ hm => keepsStart_step hm) (keepsStart_first hanchored hr place) h
  exact ⟨looking, hkeeps⟩

/-- **A match begins at the place of the search**, if the search may not move on and the plan does not move the
start. -/
theorem first_of_search {r : Regex} (hanchored : r.anchored = true) (hr : r.plan.KeepsStart false)
    {place : Cursor} {whole : Capture} {groups : List (Option Capture)}
    (h : r.search place = .found whole groups) : whole.first = place := by
  obtain ⟨th, ⟨looking, -, hkeeps⟩, hfound, -⟩ :=
    exists_of_search (fun _ hm => keepsStart_step hm) (keepsStart_first hanchored hr place) h
  exact hkeeps.whole? hfound

end Listfile
