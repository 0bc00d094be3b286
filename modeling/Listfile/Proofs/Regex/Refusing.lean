import Listfile.Proofs.Regex.Growing
import Listfile.Proofs.Regex.Planning

/-!
# Why an expression cannot be planned

A pattern that can be read is refused only for its size, for the bounds of a repetition, or for something that
it looks for behind a place.

* `Expr.weight`: a bound for the automata of all parts of an expression, `Expr.isLarge`: is it too high?
* `Refusal`: the faults of an expression, given whether it is large, whether its bounds are bad and whether it looks
  behind for something that needs backtracking.
* `Within`: what speaks against a part speaks against the whole.
* `Plan.FailsOnly`: a step of planning fails for no other reason.
* **`failsFor_ofExpr`**: an expression is refused for these reasons only.
* `failsFor_ofWhole`: and so a whole pattern.
-/

namespace Listfile.Regex

variable {refs : List Nat} {e a b : Expr} {large large' bad bad' behind behind' : Prop}

/-! ### Weights -/

namespace Expr

/-- The bound for the automaton of a plain expression, with the parts that need backtracking counted too. -/
def weight : Expr → Nat
  | chars s => 1500 + 300 * s.cutCount
  | seq a b => a.weight + b.weight
  | either a b => a.weight + b.weight + 100
  | group _ body => body.weight + 64
  | repeated body least most _ => (max least (most.getD 0) + 1) * (body.weight + 112)
  | look _ _ body | atomic body => body.weight
  | conditional test yes no => test.weight + yes.weight + no.weight
  | _ => 32

/-- May an automaton of some part of the expression take more memory than there is? -/
def isLarge (e : Expr) : Bool := AutomatonSize.limit < e.weight + 1000

theorem le_weight (e : Expr) : 32 ≤ e.weight := by
  induction e with
  | chars s => exact Nat.le_add_right_of_le (by decide)
  | repeated body least most greedy ih =>
    exact (Nat.le_add_left_of_le (by decide)).trans (Nat.le_mul_of_pos_left _ (Nat.succ_pos _))
  | _ =>
    simp only [weight]
    omega

theorem weight_le_repeated (body : Expr) (least : Nat) (most : Option Nat) (greedy : Bool) :
    body.weight ≤ (repeated body least most greedy).weight :=
  (Nat.le_add_right _ _).trans (Nat.le_mul_of_pos_left _ (Nat.succ_pos _))

theorem weightBound_le (e : Expr) : e.weightBound ≤ e.weight := by
  fun_induction weightBound e with
  | case1 s => exact Nat.le_refl _
  | case2 a ih => exact ih.trans (Nat.le_add_right _ _)
  | case3 a b hb iha ihb => exact Nat.add_le_add iha ihb
  | case4 a b iha ihb => exact Nat.add_le_add_right (Nat.add_le_add iha ihb) _
  | case5 i body ih => exact Nat.add_le_add_right ih _
  | case6 body least most greedy ih => exact Nat.mul_le_mul_left _ (Nat.add_le_add_right ih _)
  | case7 e => exact le_weight _

theorem weight_chain_le (e : Expr) (front : Nat) : ((e.parts.take front).foldr seq empty).weight ≤ e.weight := by
  fun_induction parts e generalizing front with
  | case1 a b ih =>
    cases front with
    | zero => exact le_weight _
    | succ front => exact Nat.add_le_add_left (ih front) _
  | case2 e =>
    rw [List.take_nil]
    exact le_weight _

/-- The front of a sequence has less weight. -/
theorem weight_front_le (e : Expr) (front : Nat) : (ofParts (e.parts.take front)).weight ≤ e.weight := by
  have h := weight_chain_le e front
  match hparts : e.parts.take front with
  | [] => exact le_weight _
  | [a] =>
    rw [hparts] at h
    exact (Nat.le_add_right _ _).trans h
  | a :: b :: es =>
    rw [hparts] at h
    exact h

theorem isLarge_of_le (h : a.weight ≤ b.weight) (ha : a.isLarge = true) : b.isLarge = true := by
  unfold isLarge at *
  rw [decide_eq_true_iff] at *
  omega

/-- Where there is not enough memory the expression is large. -/
theorem isLarge_of_not_fitsAutomaton (h : e.fitsAutomaton = false) : e.isLarge = true := by
  unfold fitsAutomaton at h
  rw [Bool.or_eq_false_iff, decide_eq_false_iff_not] at h
  have hle := weightBound_le e
  unfold isLarge
  rw [decide_eq_true_iff]
  omega

end Expr

/-! ### Refusals -/

/-- Why an expression may be refused: `large` tells that it is, `bad` that bounds of a repetition are, and `behind`
that something that needs backtracking is looked for behind a place. -/
inductive Refusal (large bad behind : Prop) : Fault → Prop
  | tooLarge (h : large) : Refusal large bad behind .tooLarge
  | badRepetition (h : bad) : Refusal large bad behind .badRepetition
  | unboundedLookbehind (h : behind) : Refusal large bad behind .unboundedLookbehind

theorem Refusal.mono {f : Fault} (h : Refusal large bad behind f) (hlarge : large → large') (hbad : bad → bad')
    (hbehind : behind → behind') : Refusal large' bad' behind' f := by
  cases h with
  | tooLarge h => exact .tooLarge (hlarge h)
  | badRepetition h => exact .badRepetition (hbad h)
  | unboundedLookbehind h => exact .unboundedLookbehind (hbehind h)

/-! ### Parts -/

theorem isHard_of_looksBehindHard (h : e.looksBehindHard refs = true) : e.isHard refs = true := by
  induction e with
  | seq a b ha hb =>
    rcases (Bool.or_eq_true _ _).mp h with h | h
    · exact (Bool.or_eq_true _ _).mpr (.inl (ha h))
    · exact (Bool.or_eq_true _ _).mpr (.inr (hb h))
  | either a b ha hb =>
    rcases (Bool.or_eq_true _ _).mp h with h | h
    · exact (Bool.or_eq_true _ _).mpr (.inl (ha h))
    · exact (Bool.or_eq_true _ _).mpr (.inr (hb h))
  | group i body ih => exact (Bool.or_eq_true _ _).mpr (.inr (ih h))
  | repeated body least most greedy ih => exact ih h
  | look side negative body => rfl
  | atomic body => rfl
  | conditional test yes no => rfl
  | _ => cases h

/-- What speaks against a part `a` speaks against the whole `b`. -/
structure Within (refs : List Nat) (a b : Expr) : Prop where
  weight : a.weight ≤ b.weight
  bounds : a.boundsAgree = false → b.boundsAgree = false
  behind : a.looksBehindHard refs = true → b.looksBehindHard refs = true
  hard : a.isHard refs = true → b.isHard refs = true

namespace Within

theorem seq_left (a b : Expr) : Within refs a (.seq a b) :=
  ⟨Nat.le_add_right _ _, fun h => Bool.and_eq_false_iff.2 (.inl h), fun h => (Bool.or_eq_true _ _).mpr (.inl h),
    fun h => (Bool.or_eq_true _ _).mpr (.inl h)⟩

theorem seq_right (a b : Expr) : Within refs b (.seq a b) :=
  ⟨Nat.le_add_left _ _, fun h => Bool.and_eq_false_iff.2 (.inr h), fun h => (Bool.or_eq_true _ _).mpr (.inr h),
    fun h => (Bool.or_eq_true _ _).mpr (.inr h)⟩

theorem either_left (a b : Expr) : Within refs a (.either a b) :=
  have h : Within refs a (.seq a b) := seq_left a b
  ⟨h.weight.trans (Nat.le_add_right _ _), h.bounds, h.behind, h.hard⟩

theorem either_right (a b : Expr) : Within refs b (.either a b) :=
  have h : Within refs b (.seq a b) := seq_right a b
  ⟨h.weight.trans (Nat.le_add_right _ _), h.bounds, h.behind, h.hard⟩

theorem group (i : Nat) (e : Expr) : Within refs e (.group i e) :=
  ⟨Nat.le_add_right _ _, id, id, fun h => (Bool.or_eq_true _ _).mpr (.inr h)⟩

theorem repeated (e : Expr) (least : Nat) (most : Option Nat) (greedy : Bool) :
    Within refs e (.repeated e least most greedy) := by
  refine ⟨Expr.weight_le_repeated e least most greedy, fun h => ?_, id, id⟩
  rw [Expr.boundsAgree, h]
  rfl

theorem lookAhead (negative : Bool) (e : Expr) : Within refs e (.look .ahead negative e) :=
  ⟨Nat.le_refl _, id, id, fun _ => rfl⟩

theorem atomic (e : Expr) : Within refs e (.atomic e) := ⟨Nat.le_refl _, id, id, fun _ => rfl⟩

/-- A conditional has the parts of a sequence. -/
theorem conditional {test yes no : Expr} (h : Within refs e (.seq (.seq test yes) no)) :
    Within refs e (.conditional test yes no) :=
  ⟨h.weight, h.bounds, h.behind, fun _ => rfl⟩

theorem trans {c : Expr} (hab : Within refs a b) (hbc : Within refs b c) : Within refs a c :=
  ⟨hab.weight.trans hbc.weight, hbc.bounds ∘ hab.bounds, hbc.behind ∘ hab.behind, hbc.hard ∘ hab.hard⟩

end Within

theorem boundsAgree_front (front : Nat) (h : (Expr.ofParts (e.parts.take front)).boundsAgree = false) :
    e.boundsAgree = false := by
  cases hbounds : e.boundsAgree with
  | false => rfl
  | true =>
    rw [boundsAgree_ofParts fun a ha => boundsAgree_parts hbounds a (List.mem_of_mem_take ha)] at h
    cases h

/-! ### Steps of planning -/

namespace Plan

/-- A step of planning fails only for the given reasons. -/
def FailsOnly {α : Type} (large bad behind : Prop) (x : Except Fault α) : Prop :=
  ∀ f, x = .error f → Refusal large bad behind f

namespace FailsOnly

variable {α β : Type} {x : Except Fault α} {f : α → Except Fault β}

theorem ok (a : α) : FailsOnly large bad behind (.ok a) := nofun

theorem mono (h : FailsOnly large bad behind x) (hlarge : large → large') (hbad : bad → bad')
    (hbehind : behind → behind') : FailsOnly large' bad' behind' x :=
  fun f hf => (h f hf).mono hlarge hbad hbehind

theorem bind (hx : FailsOnly large bad behind x) (hf : ∀ a, FailsOnly large bad behind (f a)) :
    FailsOnly large bad behind (x >>= f) := by
  intro g hg
  cases x with
  | error g' =>
    cases hg
    exact hx _ rfl
  | ok a => exact hf a g hg

theorem map (hx : FailsOnly large bad behind x) (g : α → β) : FailsOnly large bad behind (x.map g) :=
  fun f hf => hx f (map_eq_error.1 hf)

end FailsOnly

/-- A step of planning fails only for what speaks against the expression. -/
abbrev FailsFor {α : Type} (refs : List Nat) (e : Expr) (x : Except Fault α) : Prop :=
  FailsOnly (e.isLarge = true) (e.boundsAgree = false) (e.looksBehindHard refs = true) x

/-- A step of planning fails only for what speaks against the expression behind a place. -/
abbrev FailsBehind {α : Type} (refs : List Nat) (e : Expr) (x : Except Fault α) : Prop :=
  FailsOnly (e.isLarge = true) (e.boundsAgree = false) (e.isHard refs = true) x

variable {α : Type} {x : Except Fault α}

theorem FailsFor.within (hx : FailsFor refs a x) (h : Within refs a b) : FailsFor refs b x :=
  hx.mono (Expr.isLarge_of_le h.weight) h.bounds h.behind

theorem FailsBehind.within (hx : FailsBehind refs a x) (h : Within refs a b) : FailsBehind refs b x :=
  hx.mono (Expr.isLarge_of_le h.weight) h.bounds h.hard

theorem FailsFor.failsBehind (hx : FailsFor refs e x) : FailsBehind refs e x :=
  hx.mono id id isHard_of_looksBehindHard

theorem failsOnly_checked (e : Expr) :
    FailsOnly (e.isLarge = true) (e.boundsAgree = false) behind (checked e) := by
  intro f hf
  unfold checked at hf
  cases hbounds : e.boundsAgree with
  | false =>
    rw [hbounds] at hf
    cases hf
    exact .badRepetition rfl
  | true =>
    rw [hbounds] at hf
    cases hfits : e.fitsAutomaton with
    | false =>
      rw [hfits] at hf
      cases hf
      exact .tooLarge (Expr.isLarge_of_not_fitsAutomaton hfits)
    | true =>
      rw [hfits] at hf
      cases hf

theorem failsOnly_ofUnit (e : Expr) :
    FailsOnly (e.isLarge = true) (e.boundsAgree = false) behind (ofUnit e) := by
  unfold ofUnit
  split
  · exact .ok _
  · exact (failsOnly_checked _).map _
  · split
    · exact .ok _
    · exact (failsOnly_checked _).map _

theorem failsOnly_front (e : Expr) (front : Nat) :
    FailsOnly (e.isLarge = true) (e.boundsAgree = false) behind (ofUnit (.ofParts (e.parts.take front))) :=
  (failsOnly_ofUnit _).mono (Expr.isLarge_of_le (Expr.weight_front_le e front)) (boundsAgree_front front) id

theorem failsOnly_ofLink {front middle : Nat} {whole : Expr} {first : Unit → Except Fault Plan}
    {rest : Nat → Nat → Except Fault Plan} (hwhole : FailsOnly large bad behind (ofUnit whole))
    (hfirst : FailsOnly large bad behind (first ()))
    (hrest : ∀ front middle, FailsOnly large bad behind (rest front middle)) :
    FailsOnly large bad behind (ofLink front middle whole first rest) := by
  unfold ofLink
  split
  · exact hrest _ _
  · exact hfirst.bind fun _ => (hrest _ _).bind fun _ => .ok _
  · exact hwhole

/-- What is looked for behind a place must be plain, or its size must be fixed. -/
theorem failsBehind_ofBehind {negative : Bool} {plan : Unit → Except Fault Plan}
    (hplan : FailsBehind refs e (plan ())) : FailsBehind refs e (ofBehind refs negative e plan) := by
  unfold ofBehind
  split
  · exact hplan.bind fun _ => .ok _
  · split
    · rename_i hhard
      rintro f ⟨⟩
      exact .unboundedLookbehind hhard
    · exact (failsOnly_checked e).bind fun _ => .ok _

end Plan

/-! ### Expressions -/

open Plan (FailsFor FailsBehind)

/-- What `failsFor_ofExpr` says of an expression, of the chains and choices that it is the rest of, and of what is
looked for behind a place. -/
structure Planned (refs : List Nat) (e : Expr) : Prop where
  expr (hard : Bool) : FailsFor refs e (Plan.ofExpr refs hard e)
  chain (front middle : Nat) : FailsFor refs e (Plan.ofChain refs front middle e)
  branches (hard : Bool) (first : Plan) : FailsFor refs e (Plan.ofBranches refs hard first e)
  branchesBehind (negative : Bool) (first : Plan) : FailsBehind refs e (Plan.ofBranchesBehind refs negative first e)
  lookBehind (hard negative : Bool) : FailsBehind refs e (Plan.ofExpr refs hard (.look .behind negative e))

namespace Planned

/-- An expression that is neither a sequence nor a choice. -/
theorem of_expr (hseq : ∀ a b, e ≠ .seq a b) (heither : ∀ a b, e ≠ .either a b)
    (h : ∀ hard, FailsFor refs e (Plan.ofExpr refs hard e)) : Planned refs e := by
  refine ⟨h, fun front middle => ?_, fun hard first => ?_, fun negative first => ?_, fun hard negative => ?_⟩
  · rw [Plan.ofChain.eq_2 refs front middle e hseq]
    exact Plan.failsOnly_ofUnit e
  · rw [Plan.ofBranches.eq_2 refs hard first e heither]
    exact .ok _
  · rw [Plan.ofBranchesBehind.eq_2 refs negative first e heither]
    exact .ok _
  · rw [Plan.ofExpr.eq_11 refs hard negative e heither]
    exact Plan.failsBehind_ofBehind (h false).failsBehind

theorem seq (ha : Planned refs a) (hb : Planned refs b) : Planned refs (.seq a b) := by
  have hfirst (hard : Bool) := (ha.expr hard).within (Within.seq_left a b)
  have hrest (front middle : Nat) := (hb.chain front middle).within (Within.seq_right a b)
  have hexpr (hard : Bool) : FailsFor refs (.seq a b) (Plan.ofExpr refs hard (.seq a b)) := by
    rw [Plan.ofExpr]
    split
    · exact Plan.failsOnly_ofUnit _
    · refine (Plan.failsOnly_ofLink (Plan.failsOnly_ofUnit _) (hfirst true) hrest).bind fun tail => ?_
      split
      · exact .ok _
      · exact (Plan.failsOnly_front _ _).bind fun _ => .ok _
  refine ⟨hexpr, fun front middle => ?_, fun hard first => ?_, fun negative first => ?_, fun hard negative => ?_⟩
  · rw [Plan.ofChain]
    exact Plan.failsOnly_ofLink (Plan.failsOnly_ofUnit _) (hfirst true) hrest
  · rw [Plan.ofBranches.eq_2 refs hard first _ (by simp)]
    exact .ok _
  · rw [Plan.ofBranchesBehind.eq_2 refs negative first _ (by simp)]
    exact .ok _
  · rw [Plan.ofExpr.eq_11 refs hard negative _ (by simp)]
    exact Plan.failsBehind_ofBehind (hexpr false).failsBehind

theorem either (ha : Planned refs a) (hb : Planned refs b) : Planned refs (.either a b) := by
  have hfirst (hard : Bool) := (ha.expr hard).within (Within.either_left a b)
  have hrest (hard : Bool) (first : Plan) := (hb.branches hard first).within (Within.either_right a b)
  have hexpr (hard : Bool) : FailsFor refs (.either a b) (Plan.ofExpr refs hard (.either a b)) := by
    rw [Plan.ofExpr]
    split
    · exact Plan.failsOnly_ofUnit _
    · exact (hfirst hard).bind fun first => hrest hard first
  -- each branch is looked for on its own when they differ in size
  have hbranch (negative : Bool) : FailsBehind refs (.either a b)
      (Plan.ofBehind refs negative a fun _ => Plan.ofExpr refs false a) :=
    (Plan.failsBehind_ofBehind (ha.expr false).failsBehind).within (.either_left a b)
  have hbranches (negative : Bool) (first : Plan) :=
    (hb.branchesBehind negative first).within (Within.either_right a b)
  refine ⟨hexpr, fun front middle => ?_, fun hard first => ?_, fun negative first => ?_, fun hard negative => ?_⟩
  · rw [Plan.ofChain.eq_2 refs front middle _ (by simp)]
    exact Plan.failsOnly_ofUnit _
  · rw [Plan.ofBranches]
    exact (hfirst hard).bind fun second => (hrest hard second).bind fun _ => .ok _
  · rw [Plan.ofBranchesBehind]
    exact (hbranch negative).bind fun second => (hbranches negative second).bind fun _ => .ok _
  · rw [Plan.ofExpr]
    split
    · refine Plan.failsBehind_ofBehind ?_
      have hwhole := (hexpr false).failsBehind
      rw [Plan.ofExpr] at hwhole
      exact hwhole
    · exact (hbranch negative).bind fun first => hbranches negative first

end Planned

/-- **An expression is refused for these reasons only.** -/
theorem failsFor_ofExpr (refs : List Nat) (e : Expr) : Planned refs e := by
  induction e with
  | seq a b ha hb => exact ha.seq hb
  | either a b ha hb => exact ha.either hb
  | group i body ih =>
    refine .of_expr (by simp) (by simp) fun hard => ?_
    rw [Plan.ofExpr]
    split
    · exact Plan.failsOnly_ofUnit _
    · exact ((ih.expr hard).within (.group i body)).bind fun _ => .ok _
  | repeated body least most greedy ih =>
    have hbody (hard : Bool) := (ih.expr hard).within (Within.repeated body least most greedy)
    refine .of_expr (by simp) (by simp) fun hard => ?_
    rw [Plan.ofExpr]
    split
    · exact Plan.failsOnly_ofUnit _
    · show FailsFor refs _ (if least = 0 ∧ most = some 1 then _ else _)
      split
      · exact (hbody _).bind fun _ => .ok _
      · exact (hbody _).bind fun _ => .ok _
  | look side negative body ih =>
    refine .of_expr (by simp) (by simp) fun hard => ?_
    cases side with
    | ahead =>
      rw [Plan.ofExpr]
      exact ((ih.expr false).within (.lookAhead negative body)).bind fun _ => .ok _
    | behind => exact ih.lookBehind hard negative
  | atomic body ih =>
    refine .of_expr (by simp) (by simp) fun hard => ?_
    rw [Plan.ofExpr]
    exact ((ih.expr false).within (.atomic body)).bind fun _ => .ok _
  | conditional test yes no htest hyes hno =>
    refine .of_expr (by simp) (by simp) fun hard => ?_
    rw [Plan.ofExpr]
    refine ((htest.expr hard).within (.conditional ((Within.seq_left test yes).trans (.seq_left _ no)))).bind
      fun _ => ?_
    refine ((hyes.expr hard).within (.conditional ((Within.seq_right test yes).trans (.seq_left _ no)))).bind
      fun _ => ?_
    exact ((hno.expr hard).within (.conditional (.seq_right _ no))).bind fun _ => .ok _
  | chars s =>
    refine .of_expr (by simp) (by simp) fun hard => ?_
    rw [Plan.ofExpr]
    exact Plan.failsOnly_ofUnit _
  | _ =>
    refine .of_expr (by simp) (by simp) fun hard => ?_
    rw [Plan.ofExpr]
    exact .ok _

/-- **Why a whole pattern is refused.** -/
theorem failsFor_ofWhole (refs : List Nat) (e : Expr) : FailsFor refs e (Plan.ofWhole refs e) := by
  unfold Plan.ofWhole
  split
  · exact (Plan.failsOnly_checked e).bind fun _ => (failsFor_ofExpr refs e).expr false
  · exact (failsFor_ofExpr refs e).expr false

end Listfile.Regex
