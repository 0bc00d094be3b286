import Listfile.Proofs.Outcome
import Listfile.Regex.Plan
import Mathlib.Algebra.Ring.Nat
import Mathlib.Data.List.TakeWhile

/-!
# Plans within other plans

What surrounds an expression decides how it is planned. If it can be planned on its own then it can be
planned within what needs backtracking, unless an automaton gets too large.

* `Expr.heaviest`: a bound for the automata of all parts of an expression.
* `Plan.Made`: a plan is made, or an automaton is too large.
* `made_plain`: a plain expression is planned part by part.
* `made_within`: **an expression that is planned on its own can be planned within others.**
-/

namespace Listfile.Regex

variable {refs : List Nat} {e a b : Expr} {w v : Nat}

/-! ### The size of parts -/

/-- No automaton of a part of the expression takes more memory than this. -/
def Expr.heaviest : Expr → Nat
  | .seq a b => max (Expr.seq a b).weightBound (max a.heaviest b.heaviest)
  | .either a b => max (Expr.either a b).weightBound (max a.heaviest b.heaviest)
  | .group i body => max (Expr.group i body).weightBound body.heaviest
  | .repeated body least most greedy =>
    max (Expr.repeated body least most greedy).weightBound body.heaviest
  | .conditional test yes no =>
    max (Expr.conditional test yes no).weightBound
      (max test.heaviest (max yes.heaviest no.heaviest))
  | e => e.weightBound

theorem weightBound_seq (a b : Expr) :
    (b = .empty ∧ (Expr.seq a b).weightBound = a.weightBound) ∨
      (Expr.seq a b).weightBound = a.weightBound + b.weightBound := by
  by_cases hb : b = .empty
  · rw [hb]
    exact .inl ⟨rfl, rfl⟩
  · exact .inr (Expr.weightBound.eq_3 a b hb)

/-- The parts of a sequence do not weigh more than the sequence. -/
theorem sum_parts_le (e : Expr) : (e.parts.map Expr.weightBound).sum ≤ e.weightBound := by
  induction e with
  | seq a b _ ih =>
    rw [Expr.parts, List.map_cons, List.sum_cons]
    rcases weightBound_seq a b with ⟨hb, hw⟩ | hw
    · rw [hw, hb]
      exact Nat.le_refl _
    · rw [hw]
      exact Nat.add_le_add_left ih _
  | _ => exact Nat.zero_le _

theorem weightBound_ofParts_le {es : List Expr} (hne : es ≠ []) :
    (Expr.ofParts es).weightBound ≤ (es.map Expr.weightBound).sum := by
  have hchain (es : List Expr) (hne : es ≠ []) :
      (es.foldr Expr.seq .empty).weightBound ≤ (es.map Expr.weightBound).sum := by
    induction es with
    | nil => exact absurd rfl hne
    | cons a es ih =>
      rw [List.foldr_cons, List.map_cons, List.sum_cons]
      cases es with
      | nil => exact Nat.le_add_right _ _
      | cons b es =>
        rw [show (Expr.seq a ((b :: es).foldr Expr.seq .empty)).weightBound
          = a.weightBound + ((b :: es).foldr Expr.seq .empty).weightBound from rfl]
        exact Nat.add_le_add_left (ih (List.cons_ne_nil b es)) _
  match es, hne with
  | [e], _ => exact Nat.le_add_right _ _
  | a :: b :: es, hne => exact hchain (a :: b :: es) hne

theorem boundsAgree_ofParts {es : List Expr} (h : ∀ e ∈ es, e.boundsAgree = true) :
    (Expr.ofParts es).boundsAgree = true := by
  have hchain : ∀ es : List Expr, (∀ e ∈ es, e.boundsAgree = true) →
      (es.foldr Expr.seq .empty).boundsAgree = true := by
    intro es h
    induction es with
    | nil => rfl
    | cons a es ih =>
      rw [List.foldr_cons, Expr.boundsAgree, h a List.mem_cons_self,
        ih fun e he => h e (List.mem_cons_of_mem a he)]
      rfl
  match es, h with
  | [], _ => rfl
  | [e], h => exact h e List.mem_cons_self
  | a :: b :: es, h => exact hchain (a :: b :: es) h

theorem boundsAgree_parts (h : e.boundsAgree = true) : ∀ a ∈ e.parts, a.boundsAgree = true := by
  induction e with
  | seq a b _ ih =>
    obtain ⟨ha, hb⟩ := (Bool.and_eq_true _ _).mp h
    intro c hc
    rcases List.mem_cons.1 hc with rfl | hc
    · exact ha
    · exact ih hb c hc
  | _ =>
    intro c hc
    cases hc

theorem weightBound_le_heaviest (e : Expr) : e.weightBound ≤ e.heaviest := by
  cases e with
  | seq a b => exact Nat.le_max_left _ _
  | either a b => exact Nat.le_max_left _ _
  | group i body => exact Nat.le_max_left _ _
  | repeated body least most greedy => exact Nat.le_max_left _ _
  | conditional test yes no => exact Nat.le_max_left _ _
  | _ => exact Nat.le_refl _

/-! ### Outcomes -/

/-- A plan is made, or an automaton is too large. -/
def Plan.Made (w : Nat) (x : Except Fault Plan) : Prop :=
  (∃ p, x = .ok p) ∨ (x = .error .tooLarge ∧ AutomatonSize.limit < w + 1000)

namespace Plan.Made

variable {x : Except Fault Plan} {f : Plan → Except Fault Plan} {p : Plan}

theorem of_ok (h : x = .ok p) : Made w x := .inl ⟨p, h⟩

theorem mono (h : Made w x) (hle : w ≤ v) : Made v x := by
  rcases h with h | ⟨h, hw⟩
  · exact .inl h
  · exact .inr ⟨h, by omega⟩

theorem bind (hx : Made w x) (hf : ∀ p, Made w (f p)) : Made w (x >>= f) := by
  rcases hx with ⟨p, rfl⟩ | ⟨rfl, hw⟩
  · exact hf p
  · exact .inr ⟨rfl, hw⟩

theorem ofUnit (h : e.boundsAgree = true) : Made e.weightBound (Plan.ofUnit e) := by
  have hchecked : Plan.checked e = .ok e ∨
      (Plan.checked e = .error .tooLarge ∧ AutomatonSize.limit < e.weightBound + 1000) := by
    unfold checked
    rw [h]
    cases hfits : e.fitsAutomaton with
    | true => exact .inl rfl
    | false =>
      refine .inr ⟨rfl, ?_⟩
      unfold Expr.fitsAutomaton at hfits
      have hlarge := (Bool.or_eq_false_iff.1 hfits).1
      exact Nat.lt_of_not_le (of_decide_eq_false hlarge)
  unfold Plan.ofUnit
  split
  · exact .inl ⟨_, rfl⟩
  · rcases hchecked with hok | ⟨herror, hlarge⟩
    · rw [hok]
      exact .inl ⟨_, rfl⟩
    · rw [herror]
      exact .inr ⟨rfl, hlarge⟩
  · split
    · exact .inl ⟨_, rfl⟩
    · rcases hchecked with hok | ⟨herror, hlarge⟩
      · rw [hok]
        exact .inl ⟨_, rfl⟩
      · rw [herror]
        exact .inr ⟨rfl, hlarge⟩

end Plan.Made

/-! ### Plain expressions -/

/-- What `made_plain` says of an expression and of the chains and choices that it is the rest of. -/
structure MadePlain (refs : List Nat) (e : Expr) : Prop where
  expr (hplain : e.isHard refs = false) (hbounds : e.boundsAgree = true) :
    Plan.Made e.heaviest (Plan.ofExpr refs true e)
  chain (hplain : ∀ a ∈ e.parts, a.isHard refs = false) (hbounds : e.boundsAgree = true) (front middle : Nat) :
    Plan.Made e.heaviest (Plan.ofChain refs front middle e)
  branches (hplain : e.isHard refs = false) (hbounds : e.boundsAgree = true) (first : Plan) :
    Plan.Made e.heaviest (Plan.ofBranches refs true first e)

theorem heaviest_first (a b : Expr) : a.heaviest ≤ (Expr.seq a b).heaviest := by
  rw [Expr.heaviest]
  omega

theorem heaviest_rest (a b : Expr) : b.heaviest ≤ (Expr.seq a b).heaviest := by
  rw [Expr.heaviest]
  omega

theorem heaviest_branch (a b : Expr) : a.heaviest ≤ (Expr.either a b).heaviest := by
  rw [Expr.heaviest]
  omega

theorem heaviest_branches (a b : Expr) : b.heaviest ≤ (Expr.either a b).heaviest := by
  rw [Expr.heaviest]
  omega

theorem heaviest_group (i : Nat) (e : Expr) : e.heaviest ≤ (Expr.group i e).heaviest := by
  rw [Expr.heaviest]
  omega

theorem heaviest_repeated (e : Expr) (least : Nat) (most : Option Nat) (greedy : Bool) :
    e.heaviest ≤ (Expr.repeated e least most greedy).heaviest := by
  rw [Expr.heaviest]
  omega

theorem made_chain_seq (ha : MadePlain refs a) (hb : MadePlain refs b)
    (hplain : ∀ c ∈ (Expr.seq a b).parts, c.isHard refs = false)
    (hbounds : (Expr.seq a b).boundsAgree = true) (front middle : Nat) :
    Plan.Made (Expr.seq a b).heaviest (Plan.ofChain refs front middle (.seq a b)) := by
  obtain ⟨hba, hbb⟩ := (Bool.and_eq_true _ _).mp hbounds
  have hpa := hplain a List.mem_cons_self
  have hpb : ∀ c ∈ b.parts, c.isHard refs = false := fun c hc => hplain c (List.mem_cons_of_mem a hc)
  rw [Plan.ofChain]
  cases front with
  | succ front => exact (hb.chain hpb hbb front middle).mono (heaviest_rest a b)
  | zero =>
    cases middle with
    | zero => exact (Plan.Made.ofUnit hbounds).mono (weightBound_le_heaviest _)
    | succ middle =>
      refine .bind ((ha.expr hpa hba).mono (heaviest_first a b)) fun p => ?_
      refine .bind ((hb.chain hpb hbb 0 middle).mono (heaviest_rest a b)) fun q => ?_
      exact .of_ok rfl

/-- The parts at the front of a sequence do not weigh more than the sequence. -/
theorem made_front (hbounds : e.boundsAgree = true) {front : Nat} (hfront : e.parts.take front ≠ []) :
    Plan.Made e.weightBound (Plan.ofUnit (.ofParts (e.parts.take front))) := by
  have hparts := boundsAgree_parts hbounds
  have htake : ∀ a ∈ e.parts.take front, a.boundsAgree = true :=
    fun a ha => hparts a (List.mem_of_mem_take ha)
  refine (Plan.Made.ofUnit (boundsAgree_ofParts htake)).mono ?_
  calc (Expr.ofParts (e.parts.take front)).weightBound
      ≤ ((e.parts.take front).map Expr.weightBound).sum := weightBound_ofParts_le hfront
    _ ≤ ((e.parts.take front).map Expr.weightBound).sum
        + ((e.parts.drop front).map Expr.weightBound).sum := Nat.le_add_right _ _
    _ = (e.parts.map Expr.weightBound).sum := by
        rw [← List.sum_append, ← List.map_append, List.take_append_drop]
    _ ≤ e.weightBound := sum_parts_le e

theorem isHard_parts (h : e.isHard refs = false) : ∀ a ∈ e.parts, a.isHard refs = false := by
  induction e with
  | seq a b _ ih =>
    obtain ⟨ha, hb⟩ := (Bool.or_eq_false_iff).1 h
    intro c hc
    rcases List.mem_cons.1 hc with rfl | hc
    · exact ha
    · exact ih hb c hc
  | _ =>
    intro c hc
    cases hc

/-- A chain that ends here is a unit. -/
theorem made_chain_unit (hseq : ∀ a b, e ≠ .seq a b) (hbounds : e.boundsAgree = true) (front middle : Nat) :
    Plan.Made e.heaviest (Plan.ofChain refs front middle e) := by
  rw [Plan.ofChain.eq_2 refs front middle e hseq]
  exact (Plan.Made.ofUnit hbounds).mono (weightBound_le_heaviest e)

theorem made_branches_end (heither : ∀ a b, e ≠ .either a b) (first : Plan) :
    Plan.Made e.heaviest (Plan.ofBranches refs true first e) := by
  rw [Plan.ofBranches.eq_2 refs true first e heither]
  exact .of_ok rfl

/-- **A plain expression is planned part by part.** -/
theorem made_plain (refs : List Nat) (e : Expr) : MadePlain refs e := by
  induction e with
  | seq a b ha hb =>
    refine ⟨fun hplain hbounds => ?_, made_chain_seq ha hb, fun _ _ => made_branches_end (by simp)⟩
    have hchain := made_chain_seq ha hb (isHard_parts hplain) hbounds
    rw [Plan.ofExpr]
    refine .bind (hchain _ _) fun p => ?_
    split
    · exact .of_ok rfl
    · rename_i hfront
      have hne : (Expr.seq a b).parts.take (Plan.frontSize refs (Expr.seq a b).parts) ≠ [] := by
        rw [ne_eq, List.take_eq_nil_iff, not_or]
        exact ⟨hfront, List.cons_ne_nil a b.parts⟩
      exact .bind ((made_front hbounds hne).mono (weightBound_le_heaviest _)) fun q => .of_ok rfl
  | either a b ha hb =>
    refine ⟨fun hplain hbounds => ?_, fun _ => made_chain_unit (by simp), fun hplain hbounds first => ?_⟩
    · obtain ⟨hpa, hpb⟩ := Bool.or_eq_false_iff.1 hplain
      obtain ⟨hba, hbb⟩ := (Bool.and_eq_true _ _).mp hbounds
      rw [Plan.ofExpr]
      exact .bind ((ha.expr hpa hba).mono (heaviest_branch a b)) fun p =>
        (hb.branches hpb hbb p).mono (heaviest_branches a b)
    · obtain ⟨hpa, hpb⟩ := Bool.or_eq_false_iff.1 hplain
      obtain ⟨hba, hbb⟩ := (Bool.and_eq_true _ _).mp hbounds
      rw [Plan.ofBranches]
      refine .bind ((ha.expr hpa hba).mono (heaviest_branch a b)) fun p => ?_
      exact .bind ((hb.branches hpb hbb p).mono (heaviest_branches a b)) fun q => .of_ok rfl
  | group i body ih =>
    refine ⟨fun hplain hbounds => ?_, fun _ => made_chain_unit (by simp), fun _ _ => made_branches_end (by simp)⟩
    have hbody := (Bool.or_eq_false_iff.1 hplain).2
    rw [Plan.ofExpr]
    exact .bind ((ih.expr hbody hbounds).mono (heaviest_group i body)) fun p => .of_ok rfl
  | repeated body least most greedy ih =>
    refine ⟨fun hplain hbounds => ?_, fun _ => made_chain_unit (by simp), fun _ _ => made_branches_end (by simp)⟩
    have hbody : body.boundsAgree = true := by
      rw [Expr.boundsAgree] at hbounds
      exact (Bool.and_eq_true _ _ ▸ (Bool.and_eq_true _ _ ▸ hbounds).1).1
    have hmade := (ih.expr hplain hbody).mono (heaviest_repeated body least most greedy)
    rw [Plan.ofExpr]
    show Plan.Made _ (if least = 0 ∧ most = some 1 then _ else _)
    split
    · exact .bind hmade fun p => .of_ok rfl
    · exact .bind hmade fun p => .of_ok rfl
  | empty =>
    exact ⟨fun _ _ => .of_ok rfl, fun _ => made_chain_unit (by simp), fun _ _ => made_branches_end (by simp)⟩
  | never =>
    exact ⟨fun _ _ => .of_ok rfl, fun _ => made_chain_unit (by simp), fun _ _ => made_branches_end (by simp)⟩
  | chars s =>
    refine ⟨fun _ hbounds => ?_, fun _ => made_chain_unit (by simp), fun _ _ => made_branches_end (by simp)⟩
    rw [Plan.ofExpr]
    exact (Plan.Made.ofUnit hbounds).mono (weightBound_le_heaviest _)
  | assertion a =>
    exact ⟨fun _ _ => .of_ok rfl, fun _ => made_chain_unit (by simp), fun _ _ => made_branches_end (by simp)⟩
  | _ =>
    refine ⟨fun hplain hbounds => ?_, fun _ => made_chain_unit (by simp), fun _ _ => made_branches_end (by simp)⟩
    cases hplain

/-! ### Expressions within others -/

theorem boundsAgree_of_isLiteral (h : e.isLiteral = true) : e.boundsAgree = true := by
  induction e with
  | chars s => rfl
  | seq a b ha hb =>
    rw [Expr.boundsAgree]
    cases b with
    | empty =>
      rw [ha h]
      rfl
    | _ =>
      obtain ⟨hfirst, hrest⟩ := (Bool.and_eq_true _ _).mp h
      rw [ha hfirst, hb hrest, Bool.and_self]
  | _ => cases h

theorem boundsAgree_of_ofUnit {p : Plan} (h : Plan.ofUnit e = .ok p) : e.boundsAgree = true := by
  have hchecked {e e' : Expr} (h : Plan.checked e = .ok e') : e.boundsAgree = true := by
    unfold Plan.checked at h
    cases hb : e.boundsAgree with
    | true => rfl
    | false =>
      rw [hb] at h
      cases h
  unfold Plan.ofUnit at h
  split at h
  · rfl
  · rfl
  · split at h
    · rename_i hliteral
      exact boundsAgree_of_isLiteral hliteral
    · obtain ⟨e', he', -⟩ := map_eq_ok.1 h
      exact hchecked he'

/-- A chain of which more parts are planned one by one. -/
theorem made_chain_more (k : Nat) :
    ∀ {front middle : Nat} {p : Plan}, Plan.ofChain refs front middle e = .ok p →
      (∀ a ∈ e.parts.drop (front + middle), a.isHard refs = false) →
      Plan.Made e.heaviest (Plan.ofChain refs front (middle + k) e) := by
  induction e with
  | seq a b _ ih =>
    intro front middle p h hplain
    rw [Plan.ofChain] at h ⊢
    cases front with
    | succ front =>
      rw [Expr.parts, Nat.succ_add, List.drop_succ_cons] at hplain
      exact (ih h hplain).mono (heaviest_rest a b)
    | zero =>
      cases middle with
      | zero =>
        have hmade := (made_plain refs (.seq a b)).chain hplain (boundsAgree_of_ofUnit h) 0 (0 + k)
        rw [Plan.ofChain] at hmade
        exact hmade
      | succ middle =>
        obtain ⟨p₁, hp₁, h⟩ := bind_eq_ok.1 h
        obtain ⟨p₂, hp₂, h⟩ := bind_eq_ok.1 h
        rw [Expr.parts, Nat.zero_add, List.drop_succ_cons] at hplain
        rw [← Nat.zero_add middle] at hplain
        rw [Nat.succ_add]
        exact .bind (.of_ok hp₁) fun _ => .bind ((ih hp₂ hplain).mono (heaviest_rest a b)) fun _ => .of_ok rfl
  | _ =>
    intro front middle p h _
    rw [Plan.ofChain.eq_2 refs _ _ _ (by simp)] at h ⊢
    exact .of_ok h

/-- The parts that form a unit at the end are plain. -/
theorem isHard_back (refs : List Nat) (hard : Bool) (es : List Expr) :
    ∀ a ∈ es.drop (es.length - Plan.backSize refs hard es), a.isHard refs = false := by
  have hall : ∀ a ∈ es.reverse.takeWhile fun e => !e.isHard refs && (!hard || e.size.fixed),
      a.isHard refs = false := by
    intro a ha
    have hboth := List.mem_takeWhile_imp (p := fun e : Expr => !e.isHard refs && (!hard || e.size.fixed)) ha
    have hplain := ((Bool.and_eq_true _ _).mp hboth).1
    rwa [Bool.not_eq_true'] at hplain
  unfold Plan.backSize
  have hsplit := List.takeWhile_append_dropWhile
    (p := fun e : Expr => !e.isHard refs && (!hard || e.size.fixed)) (l := es.reverse)
  generalize es.reverse.takeWhile (fun e => !e.isHard refs && (!hard || e.size.fixed)) = back at hall hsplit ⊢
  generalize es.reverse.dropWhile (fun e => !e.isHard refs && (!hard || e.size.fixed)) = front at hsplit
  have hes : es = front.reverse ++ back.reverse := by
    rw [← List.reverse_append, hsplit, List.reverse_reverse]
  have hlen : es.length - back.length = front.reverse.length := by
    rw [hes, List.length_append, List.length_reverse, List.length_reverse, Nat.add_sub_cancel]
  rw [hlen, hes, List.drop_left]
  intro a ha
  exact hall a (List.mem_reverse.1 ha)

/-- Within others no more parts form a unit at the end. -/
theorem backSize_within (refs : List Nat) (es : List Expr) :
    Plan.backSize refs true es ≤ Plan.backSize refs false es := by
  unfold Plan.backSize
  induction es.reverse with
  | nil => exact Nat.le_refl _
  | cons e es ih =>
    rw [List.takeWhile_cons, List.takeWhile_cons]
    cases he : e.isHard refs with
    | true => exact Nat.zero_le _
    | false =>
      cases e.size.fixed with
      | true => exact Nat.succ_le_succ ih
      | false => exact Nat.zero_le _

/-- What is looked for on a side of a place is planned on its own. -/
theorem ofExpr_look (hard : Bool) (side : Side) (negative : Bool) (body : Expr) :
    Plan.ofExpr refs hard (.look side negative body) = Plan.ofExpr refs false (.look side negative body) := by
  cases side with
  | ahead => rw [Plan.ofExpr, Plan.ofExpr]
  | behind =>
    cases body with
    | either a b => rw [Plan.ofExpr, Plan.ofExpr]
    | _ => rfl

/-- What `made_within` says of an expression, and of a choice that it is the rest of. -/
structure MadeWithin (refs : List Nat) (e : Expr) : Prop where
  expr {p : Plan} (h : Plan.ofExpr refs false e = .ok p) : Plan.Made e.heaviest (Plan.ofExpr refs true e)
  branches {first p : Plan} (h : Plan.ofBranches refs false first e = .ok p) (first' : Plan) :
    Plan.Made e.heaviest (Plan.ofBranches refs true first' e)

/-- A plain expression that is planned as a unit can be planned part by part. -/
theorem made_of_unit {p : Plan} (hplain : e.isHard refs = false) (h : Plan.ofUnit e = .ok p) :
    Plan.Made e.heaviest (Plan.ofExpr refs true e) :=
  (made_plain refs e).expr hplain (boundsAgree_of_ofUnit h)

theorem made_within_seq {p : Plan} (h : Plan.ofExpr refs false (.seq a b) = .ok p) :
    Plan.Made (Expr.seq a b).heaviest (Plan.ofExpr refs true (.seq a b)) := by
  cases hhard : (Expr.seq a b).isHard refs with
  | false =>
    rw [Plan.ofExpr, hhard] at h
    exact made_of_unit hhard h
  | true =>
    rw [Plan.ofExpr, hhard] at h
    rw [Plan.ofExpr]
    obtain ⟨tail, htail, h⟩ := bind_eq_ok.1 h
    have hmiddle := backSize_within refs ((Expr.seq a b).parts.drop (Plan.frontSize refs (Expr.seq a b).parts))
    have hback := isHard_back refs false
      ((Expr.seq a b).parts.drop (Plan.frontSize refs (Expr.seq a b).parts))
    rw [List.length_drop, List.drop_drop] at hback
    obtain ⟨k, hk⟩ := Nat.exists_eq_add_of_le (Nat.sub_le_sub_left hmiddle
      ((Expr.seq a b).parts.length - Plan.frontSize refs (Expr.seq a b).parts))
    have hchain := made_chain_more (e := .seq a b) k htail hback
    rw [← hk, Plan.ofChain] at hchain
    refine .bind hchain fun tail' => ?_
    split at h
    · rename_i hfront
      rw [if_pos hfront]
      exact .of_ok rfl
    · rename_i hfront
      obtain ⟨unit, hunit, -⟩ := bind_eq_ok.1 h
      rw [if_neg hfront, hunit]
      exact .of_ok rfl

/-- **An expression that is planned on its own can be planned within others.** -/
theorem made_within (refs : List Nat) (e : Expr) : MadeWithin refs e := by
  induction e with
  | seq a b => exact ⟨made_within_seq, fun _ => made_branches_end (by simp)⟩
  | either a b ha hb =>
    refine ⟨fun h => ?_, fun h first' => ?_⟩
    · cases hhard : (Expr.either a b).isHard refs with
      | false =>
        rw [Plan.ofExpr, hhard] at h
        exact made_of_unit hhard h
      | true =>
        rw [Plan.ofExpr, hhard] at h
        obtain ⟨first, hfirst, h⟩ := bind_eq_ok.1 h
        rw [Plan.ofExpr]
        refine .bind ((ha.expr hfirst).mono (heaviest_branch a b)) fun first' => ?_
        exact (hb.branches h first').mono (heaviest_branches a b)
    · rw [Plan.ofBranches] at h ⊢
      obtain ⟨second, hsecond, h⟩ := bind_eq_ok.1 h
      obtain ⟨others, hothers, -⟩ := bind_eq_ok.1 h
      refine .bind ((ha.expr hsecond).mono (heaviest_branch a b)) fun second' => ?_
      exact .bind ((hb.branches hothers second').mono (heaviest_branches a b)) fun _ => .of_ok rfl
  | group i body ih =>
    refine ⟨fun h => ?_, fun _ => made_branches_end (by simp)⟩
    cases hhard : (Expr.group i body).isHard refs with
    | false =>
      rw [Plan.ofExpr, hhard] at h
      exact made_of_unit hhard h
    | true =>
      rw [Plan.ofExpr, hhard] at h
      obtain ⟨inner, hinner, -⟩ := bind_eq_ok.1 h
      rw [Plan.ofExpr]
      exact .bind ((ih.expr hinner).mono (heaviest_group i body)) fun _ => .of_ok rfl
  | repeated body least most greedy ih =>
    refine ⟨fun h => ?_, fun _ => made_branches_end (by simp)⟩
    cases hhard : body.isHard refs with
    | false =>
      rw [Plan.ofExpr, hhard] at h
      exact made_of_unit hhard h
    | true =>
      rw [Plan.ofExpr, hhard] at h
      rw [Plan.ofExpr]
      show Plan.Made _ (if least = 0 ∧ most = some 1 then _ else _)
      have h : (if least = 0 ∧ most = some 1 then _ else _) = _ := h
      split at h
      · rename_i hoptional
        obtain ⟨inner, hinner, -⟩ := bind_eq_ok.1 h
        rw [if_pos hoptional]
        exact .bind ((ih.expr hinner).mono (heaviest_repeated body least most greedy)) fun _ => .of_ok rfl
      · rename_i hoptional
        obtain ⟨inner, hinner, -⟩ := bind_eq_ok.1 h
        rw [if_neg hoptional]
        exact .bind (.of_ok hinner) fun _ => .of_ok rfl
  | conditional test yes no htest hyes hno =>
    refine ⟨fun h => ?_, fun _ => made_branches_end (by simp)⟩
    rw [Plan.ofExpr] at h ⊢
    obtain ⟨p₁, hp₁, h⟩ := bind_eq_ok.1 h
    obtain ⟨p₂, hp₂, h⟩ := bind_eq_ok.1 h
    obtain ⟨p₃, hp₃, -⟩ := bind_eq_ok.1 h
    refine .bind ((htest.expr hp₁).mono ?_) fun _ => .bind ((hyes.expr hp₂).mono ?_) fun _ =>
      .bind ((hno.expr hp₃).mono ?_) fun _ => .of_ok rfl
    all_goals
      rw [Expr.heaviest]
      omega
  | look side negative body =>
    refine ⟨fun h => ?_, fun _ => made_branches_end (by simp)⟩
    rw [ofExpr_look]
    exact .of_ok h
  | _ => exact ⟨fun h => .of_ok h, fun _ => made_branches_end (by simp)⟩

end Listfile.Regex
