import Listfile.Regex.Parse.Pattern
import Mathlib.Data.List.Forall2

/-!
# Expressions with texts put in

Where texts are put between the parts of a pattern, its expression gets more parts.  What decides whether it
can be read and compiled stays the same: the groups and the references, the bounds of repetitions, what needs
backtracking and what is looked for behind a place.

* `Expr.looksBehindHard`: is something that needs backtracking looked for behind a place?
* `Alike`: expressions that agree in all this.
* `Grown`: an expression with texts put in.
* `GrownParts`: the parts of a sequence with texts put in, of which one may have taken over a quantifier.
* `grown_ofParts`, `grown_ofBranches`, `Grown.conditionalOf`, `Grown.repeated`: **what grows is built in the same
  way from parts that grow.**
-/

namespace Listfile.Regex

variable {e e' a a' b b' c : Expr} {es es' : List Expr}

/-! ### What stays the same -/

/-- Is something that needs backtracking looked for behind a place? -/
def Expr.looksBehindHard (refs : List Nat) : Expr → Bool
  | .look .behind _ body => body.isHard refs
  | .look .ahead _ body | .group _ body | .repeated body _ _ _ | .atomic body => body.looksBehindHard refs
  | .seq a b | .either a b => a.looksBehindHard refs || b.looksBehindHard refs
  | .conditional test yes no =>
    test.looksBehindHard refs || yes.looksBehindHard refs || no.looksBehindHard refs
  | _ => false

/-- Expressions that agree in what decides whether a pattern can be compiled, the sizes of their parts apart. -/
structure Alike (e e' : Expr) : Prop where
  references : e'.references = e.references
  groups : e'.groups = e.groups
  boundsAgree : e'.boundsAgree = e.boundsAgree
  isHard (refs : List Nat) : e'.isHard refs = e.isHard refs
  looksBehindHard (refs : List Nat) : e'.looksBehindHard refs = e.looksBehindHard refs

namespace Alike

theorem rfl : Alike e e := ⟨by rfl, by rfl, by rfl, fun _ => by rfl, fun _ => by rfl⟩

theorem symm (h : Alike a b) : Alike b a :=
  ⟨h.references.symm, h.groups.symm, h.boundsAgree.symm, fun refs => (h.isHard refs).symm,
    fun refs => (h.looksBehindHard refs).symm⟩

theorem trans (h : Alike a b) (h' : Alike b c) : Alike a c :=
  ⟨h'.references.trans h.references, h'.groups.trans h.groups, h'.boundsAgree.trans h.boundsAgree,
    fun refs => (h'.isHard refs).trans (h.isHard refs),
    fun refs => (h'.looksBehindHard refs).trans (h.looksBehindHard refs)⟩

instance : Trans Alike Alike Alike := ⟨trans⟩

theorem seq (ha : Alike a a') (hb : Alike b b') : Alike (.seq a b) (.seq a' b') := by
  refine ⟨?_, ?_, ?_, fun refs => ?_, fun refs => ?_⟩
  · rw [Expr.references, ha.references, hb.references, Expr.references]
  · rw [Expr.groups, ha.groups, hb.groups, Expr.groups]
  · rw [Expr.boundsAgree, ha.boundsAgree, hb.boundsAgree, Expr.boundsAgree]
  · rw [Expr.isHard, ha.isHard, hb.isHard, Expr.isHard]
  · rw [Expr.looksBehindHard, ha.looksBehindHard, hb.looksBehindHard, Expr.looksBehindHard]

/-- A choice has the same traits as a sequence. -/
theorem seq_either (a b : Expr) : Alike (.seq a b) (.either a b) :=
  ⟨by rfl, by rfl, by rfl, fun _ => by rfl, fun _ => by rfl⟩

theorem either (ha : Alike a a') (hb : Alike b b') : Alike (.either a b) (.either a' b') :=
  ((seq_either a b).symm.trans (ha.seq hb)).trans (seq_either a' b')

theorem group (h : Alike a a') (i : Nat) : Alike (.group i a) (.group i a') := by
  refine ⟨h.references, congrArg (i :: ·) h.groups, h.boundsAgree, fun refs => ?_, h.looksBehindHard⟩
  rw [Expr.isHard, h.isHard, Expr.isHard]

theorem repeated (h : Alike a a') (least : Nat) (most : Option Nat) (greedy : Bool) :
    Alike (.repeated a least most greedy) (.repeated a' least most greedy) := by
  refine ⟨h.references, h.groups, ?_, h.isHard, h.looksBehindHard⟩
  rw [Expr.boundsAgree, h.boundsAgree, Expr.boundsAgree]

theorem look (h : Alike a a') (side : Side) (negative : Bool) :
    Alike (.look side negative a) (.look side negative a') := by
  refine ⟨h.references, h.groups, h.boundsAgree, fun _ => by rfl, fun refs => ?_⟩
  cases side with
  | ahead => exact h.looksBehindHard refs
  | behind => exact h.isHard refs

theorem atomic (h : Alike a a') : Alike (.atomic a) (.atomic a') :=
  ⟨h.references, h.groups, h.boundsAgree, fun _ => by rfl, h.looksBehindHard⟩

/-- What has no traits of its own can be put in front. -/
theorem more (ha : Alike .empty a) (hb : Alike b b') : Alike b (.seq a b') := by
  refine ⟨?_, ?_, ?_, fun refs => ?_, fun refs => ?_⟩
  · rw [Expr.references, ha.references, hb.references]
    rfl
  · rw [Expr.groups, ha.groups, hb.groups]
    rfl
  · rw [Expr.boundsAgree, ha.boundsAgree, hb.boundsAgree]
    rfl
  · rw [Expr.isHard, ha.isHard, hb.isHard]
    rfl
  · rw [Expr.looksBehindHard, ha.looksBehindHard, hb.looksBehindHard]
    rfl

theorem seq_empty (e : Expr) : Alike (.seq e .empty) e := by
  refine ⟨?_, ?_, ?_, fun refs => ?_, fun refs => ?_⟩
  · exact (List.append_nil _).symm
  · exact (List.append_nil _).symm
  · exact (Bool.and_true _).symm
  · exact (Bool.or_false _).symm
  · exact (Bool.or_false _).symm

theorem seq_assoc (a b c : Expr) : Alike (.seq a (.seq b c)) (.seq (.seq a b) c) := by
  refine ⟨?_, ?_, ?_, fun refs => ?_, fun refs => ?_⟩
  · exact List.append_assoc _ _ _
  · exact List.append_assoc _ _ _
  · exact Bool.and_assoc _ _ _
  · exact Bool.or_assoc _ _ _
  · exact Bool.or_assoc _ _ _

/-- What has no traits of its own can be put behind. -/
theorem behind (ha : Alike .empty a) (hb : Alike b b') : Alike b (.seq b' a) :=
  (seq_empty b).symm.trans (hb.seq ha)

/-- Where an expression was repeated it may stand alone, with what has no traits repeated behind it. -/
theorem repeated_behind (ha : Alike .empty a) (e : Expr) (least : Nat) (most : Option Nat) (greedy : Bool) :
    Alike (.repeated e least most greedy) (.seq e (.repeated a least most greedy)) := by
  refine ⟨?_, ?_, ?_, fun refs => ?_, fun refs => ?_⟩
  · exact (congrArg (e.references ++ ·) ha.references).trans (List.append_nil _)
  · exact (congrArg (e.groups ++ ·) ha.groups).trans (List.append_nil _)
  · have hbounds : a.boundsAgree = true := ha.boundsAgree
    simp [Expr.boundsAgree, hbounds, Bool.and_assoc]
  · exact (congrArg (e.isHard refs || ·) (ha.isHard refs)).trans (Bool.or_false _)
  · exact (congrArg (e.looksBehindHard refs || ·) (ha.looksBehindHard refs)).trans (Bool.or_false _)

theorem atomic_behind (ha : Alike .empty a) (e : Expr) (least : Nat) (most : Option Nat) (greedy : Bool) :
    Alike (.atomic (.repeated e least most greedy)) (.seq e (.atomic (.repeated a least most greedy))) :=
  have h := repeated_behind ha e least most greedy
  ⟨h.references, h.groups, h.boundsAgree, fun _ => Bool.or_true _, h.looksBehindHard⟩

theorem seq_never (e : Expr) : Alike (.seq e .never) e := by
  refine ⟨?_, ?_, ?_, fun refs => ?_, fun refs => ?_⟩
  · exact (List.append_nil _).symm
  · exact (List.append_nil _).symm
  · exact (Bool.and_true _).symm
  · exact (Bool.or_false _).symm
  · exact (Bool.or_false _).symm

end Alike

/-! ### Conditionals without a body -/

/-- Are both branches of a conditional with this body empty? -/
def Expr.isBlank : Expr → Bool
  | .either yes rest => yes.isEmpty && (otherBranches rest).isEmpty
  | e => e.isEmpty

theorem eq_empty_of_isEmpty (h : e.isEmpty = true) : e = .empty := by
  cases e with
  | empty => rfl
  | _ => cases h

theorem alike_otherBranches (e : Expr) : Alike e (otherBranches e) := by
  unfold otherBranches
  split
  · rename_i e
    exact (Alike.seq_either e .never).symm.trans (Alike.seq_never e)
  · exact .rfl

theorem alike_of_isBlank (h : e.isBlank = true) : Alike .empty e := by
  unfold Expr.isBlank at h
  split at h
  · rename_i yes rest
    rw [Bool.and_eq_true] at h
    have hrest := alike_otherBranches rest
    rw [eq_empty_of_isEmpty h.1]
    rw [eq_empty_of_isEmpty h.2] at hrest
    exact (Alike.more .rfl hrest.symm).trans (Alike.seq_either .empty rest)
  · rw [eq_empty_of_isEmpty h]
    exact .rfl

theorem conditionalOf_of_isBlank (test : Expr) (h : e.isBlank = true) : conditionalOf test e = test := by
  unfold Expr.isBlank at h
  unfold conditionalOf
  split at h
  · exact if_pos h
  · rename_i hno
    rw [eq_empty_of_isEmpty h]
    rfl

theorem conditionalOf_of_not_isBlank (test : Expr) (h : e.isBlank = false) :
    ∃ yes no, conditionalOf test e = .conditional test yes no ∧ Alike e (.seq yes no) := by
  unfold Expr.isBlank at h
  split at h
  · rename_i yes rest
    refine ⟨yes, otherBranches rest, ?_, ?_⟩
    · unfold conditionalOf
      simp only [h]
      rfl
    · exact (Alike.seq_either yes rest).symm.trans (Alike.rfl.seq (alike_otherBranches rest))
  · rename_i hno
    refine ⟨e, .empty, ?_, (Alike.seq_empty e).symm⟩
    unfold conditionalOf
    cases e with
    | either yes rest => exact absurd rfl (hno yes rest)
    | empty => cases h
    | _ => rfl

/-- A conditional has the traits of its test and its body. -/
theorem alike_conditionalOf (i : Nat) (e : Expr) : Alike (.seq (.groupSet i) e) (conditionalOf (.groupSet i) e) := by
  cases h : e.isBlank with
  | true =>
    rw [conditionalOf_of_isBlank _ h]
    exact (Alike.rfl.seq (alike_of_isBlank h).symm).trans (Alike.seq_empty _)
  | false =>
    obtain ⟨yes, no, heq, halike⟩ := conditionalOf_of_not_isBlank (.groupSet i) h
    rw [heq]
    refine (Alike.rfl.seq halike).trans ⟨?_, ?_, ?_, fun refs => by rfl, fun refs => ?_⟩
    · exact List.append_assoc _ _ _
    · exact List.append_assoc _ _ _
    · exact Bool.and_assoc _ _ _
    · exact Bool.or_assoc _ _ _

/-! ### Expressions with texts put in -/

/-- The expression `e'` is `e` with texts put in. -/
structure Grown (e e' : Expr) : Prop extends Alike e e' where
  isRepeatable : e.isRepeatable = true → e'.isRepeatable = true
  isEmpty : e'.isEmpty = true → e.isEmpty = true
  isBlank : e'.isBlank = true → e.isBlank = true

/-- The parts of a sequence with texts put in, newest first: some have grown, and some were not there. What
repeated the newest part may repeat a text behind it instead. -/
inductive GrownParts : List Expr → List Expr → Prop
  | nil : GrownParts [] []
  | part {e e' : Expr} {es es' : List Expr} (he : Grown e e') (hes : GrownParts es es') :
    GrownParts (e :: es) (e' :: es')
  | more {e' : Expr} {es es' : List Expr} (he : Grown .empty e') (hes : GrownParts es es') :
    GrownParts es (e' :: es')
  | behind {e a b : Expr} {es es' : List Expr} (hes : GrownParts (e :: es) es') (hab : Alike a (.seq e b)) :
    GrownParts (a :: es) (b :: es')

namespace Grown

theorem rfl : Grown e e := ⟨.rfl, id, id, id⟩

/-- A character is a text. -/
theorem chars (s : CharSet) : Grown .empty (.chars s) :=
  ⟨⟨by rfl, by rfl, by rfl, fun _ => by rfl, fun _ => by rfl⟩, nofun, nofun, nofun⟩

theorem sameAs (i : Nat) (fold : Bool) (size size' : Size) :
    Grown (.sameAs i fold size) (.sameAs i fold size') :=
  ⟨⟨by rfl, by rfl, by rfl, fun _ => by rfl, fun _ => by rfl⟩, fun _ => by rfl, nofun, nofun⟩

theorem group (h : Grown a a') (i : Nat) : Grown (.group i a) (.group i a') :=
  ⟨h.toAlike.group i, fun _ => by rfl, nofun, nofun⟩

theorem repeated (h : Grown a a') (least : Nat) (most : Option Nat) (greedy : Bool) :
    Grown (.repeated a least most greedy) (.repeated a' least most greedy) :=
  ⟨h.toAlike.repeated least most greedy, fun _ => by rfl, nofun, nofun⟩

theorem look (h : Grown a a') (side : Side) (negative : Bool) :
    Grown (.look side negative a) (.look side negative a') :=
  ⟨h.toAlike.look side negative, nofun, nofun, nofun⟩

theorem atomic (h : Grown a a') : Grown (.atomic a) (.atomic a') :=
  ⟨h.toAlike.atomic, fun _ => by rfl, nofun, nofun⟩

theorem seq (h : Alike e (.seq a b)) : Grown e (.seq a b) := ⟨h, fun _ => by rfl, nofun, nofun⟩

theorem conditionalOf (i : Nat) (h : Grown a a') :
    Grown (conditionalOf (.groupSet i) a) (conditionalOf (.groupSet i) a') := by
  have halike := ((alike_conditionalOf i a).symm.trans (Alike.rfl.seq h.toAlike)).trans (alike_conditionalOf i a')
  cases hblank : a'.isBlank with
  | true =>
    rw [conditionalOf_of_isBlank _ (h.isBlank hblank), conditionalOf_of_isBlank _ hblank]
    exact .rfl
  | false =>
    obtain ⟨yes, no, heq, -⟩ := conditionalOf_of_not_isBlank (.groupSet i) hblank
    rw [heq] at halike ⊢
    exact ⟨halike, fun _ => by rfl, nofun, nofun⟩

end Grown

/-! ### Sequences -/

/-- A chain that ends with a part has the traits of the part behind the chain of the others. -/
theorem alike_chain_concat (es : List Expr) (e : Expr) :
    Alike ((es ++ [e]).foldr .seq .empty) (.seq (es.foldr .seq .empty) e) := by
  induction es with
  | nil => exact (Alike.seq_empty e).trans (Alike.more .rfl .rfl)
  | cons a es ih => exact (Alike.rfl.seq ih).trans (Alike.seq_assoc a _ e)

namespace GrownParts

/-- The chain of the parts grows. -/
theorem chain (h : GrownParts es es') :
    Alike (es.reverse.foldr .seq .empty) (es'.reverse.foldr .seq .empty) := by
  induction h with
  | nil => exact .rfl
  | part hd _ ih =>
    rw [List.reverse_cons, List.reverse_cons]
    exact ((alike_chain_concat _ _).trans (ih.seq hd.toAlike)).trans (alike_chain_concat _ _).symm
  | more hd _ ih =>
    rw [List.reverse_cons]
    exact (ih.trans (Alike.behind hd.toAlike .rfl)).trans (alike_chain_concat _ _).symm
  | @behind e a b es es' hes hab ih =>
    rw [List.reverse_cons] at ih ⊢
    rw [List.reverse_cons]
    have hfirst := (alike_chain_concat es.reverse e).symm.trans ih
    calc
      Alike ((es.reverse ++ [a]).foldr .seq .empty) (.seq (es.reverse.foldr .seq .empty) a) :=
        alike_chain_concat _ _
      Alike _ (.seq (es.reverse.foldr .seq .empty) (.seq e b)) := Alike.rfl.seq hab
      Alike _ (.seq (.seq (es.reverse.foldr .seq .empty) e) b) := Alike.seq_assoc _ _ _
      Alike _ (.seq (es'.reverse.foldr .seq .empty) b) := hfirst.seq .rfl
      Alike _ ((es'.reverse ++ [b]).foldr .seq .empty) := (alike_chain_concat _ _).symm

theorem eq_nil (h : GrownParts es []) : es = [] := by
  cases h
  rfl

end GrownParts

/-- A sequence has the traits of the chain of its parts. -/
theorem alike_ofParts (es : List Expr) : Alike (es.foldr .seq .empty) (.ofParts es) := by
  match es with
  | [] => exact .rfl
  | [e] => exact Alike.seq_empty e
  | a :: b :: es => exact .rfl

/-- **A sequence grows with its parts.** -/
theorem grown_ofParts (h : GrownParts es es') : Grown (.ofParts es.reverse) (.ofParts es'.reverse) := by
  have halike := ((alike_ofParts es.reverse).symm.trans h.chain).trans (alike_ofParts es'.reverse)
  match es', h with
  | [], h =>
    rw [h.eq_nil]
    exact .rfl
  | [_], .part he .nil => exact he
  | [_], .more he .nil => exact he
  | [_], .behind hes _ => nomatch hes.eq_nil
  | a :: b :: es', _ =>
    have hlength : 2 ≤ (a :: b :: es').reverse.length := by simp
    match hrev : (a :: b :: es').reverse with
    | [] | [_] =>
      rw [hrev] at hlength
      simp at hlength
    | c :: d :: cs =>
      rw [hrev] at halike
      exact .seq halike

/-! ### Choices -/

theorem alike_ofBranches (es : List Expr) : Alike (es.foldr .either .never) (.ofBranches es) := by
  match es with
  | [] => exact ⟨by rfl, by rfl, by rfl, fun _ => by rfl, fun _ => by rfl⟩
  | [e] => exact (Alike.seq_either e .never).symm.trans (Alike.seq_never e)
  | a :: b :: es => exact .rfl

theorem alike_either_chain (h : List.Forall₂ Grown es es') :
    Alike (es.foldr .either .never) (es'.foldr .either .never) := by
  induction h with
  | nil => exact .rfl
  | cons hd _ ih => exact hd.toAlike.either ih

/-- **A choice grows with its branches.** -/
theorem grown_ofBranches (h : List.Forall₂ Grown es es') : Grown (.ofBranches es) (.ofBranches es') := by
  have halike := ((alike_ofBranches es).symm.trans (alike_either_chain h)).trans (alike_ofBranches es')
  match h with
  | .nil => exact .rfl
  | .cons he .nil => exact he
  | .cons ha (.cons hb .nil) =>
    refine ⟨halike, fun _ => rfl, nofun, fun hblank => ?_⟩
    have hboth := (Bool.and_eq_true _ _).mp hblank
    exact (Bool.and_eq_true _ _).mpr ⟨ha.isEmpty hboth.1, hb.isEmpty hboth.2⟩
  | .cons ha (.cons hb (.cons hc h)) =>
    refine ⟨halike, fun _ => rfl, nofun, fun hblank => ?_⟩
    -- more than two branches are not blank
    have hboth := (Bool.and_eq_true _ _).mp hblank
    cases hboth.2

end Listfile.Regex
