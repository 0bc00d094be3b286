import Listfile.Proofs.Highlight.Resuming
import Listfile.Proofs.Highlight.Scoping
import Mathlib.Logic.Relation

/-!
# What opens a context and what closes it

Between the match that enters a context and the one that leaves it, other contexts may be entered, left and
replaced above it, on any number of lines.

* `leftBy`: how many contexts a rule leaves, by its events.
* `Spares`: a step of a walk, or the way to the next line, on which the lowest contexts of the stack stay open.
* `Spares.suffix`, `Spares.run_suffix`: one step, and any number of them, keep these contexts as they are.
* `Walk.sparesAlong`: does a walk spare them?
* `Visits.spares`: a text is highlighted by such steps.
* **`frontScopes_closing`**: the match that opens a context and the match that closes it have the same scopes
  in front.
-/

namespace Listfile.Highlight

open Grammar

variable {g : Grammar} {base base' offset height n : Nat} {w v : Walk} {place : Cursor} {hit : Hit}
  {below : Stack}

/-! ### Contexts that stay open -/

/-- How many contexts are left, by the events. -/
def leftBy (events : List Event) : Nat := events.countP fun e => e.kind = .pop

theorem leftBy_leaving_entering (g : Grammar) (offset : Nat) (left entered : List Frame) :
    leftBy (left.map (.leaving g offset) ++ entered.map (.entering g offset)) = left.length := by
  unfold leftBy
  rw [List.countP_append, List.countP_map, List.countP_map]
  have hleft : left.countP ((fun e => decide (e.kind = .pop)) ∘ Event.leaving g offset) = left.length :=
    List.countP_eq_length.2 fun _ _ => rfl
  have hentered : entered.countP ((fun e => decide (e.kind = .pop)) ∘ Event.entering g offset) = 0 :=
    List.countP_eq_zero.2 fun _ _ => Bool.false_ne_true
  rw [hleft, hentered, Nat.add_zero]

/-- The rule keeps so many of the lowest contexts open. -/
def Hit.Spares (g : Grammar) (base height : Nat) (stack : Stack) (hit : Hit) : Prop :=
  height + leftBy (applyAction g (base + hit.whole.span.start) hit.texts stack hit.rule.action).2 ≤ stack.length

instance (stack : Stack) (hit : Hit) : Decidable (hit.Spares g base height stack) :=
  inferInstanceAs (Decidable (_ ≤ _))

/-- The contexts that a rule keeps open stay as they are. -/
theorem Hit.Spares.suffix {stack : Stack} (h : hit.Spares g base below.length stack) (hbelow : below <:+ stack) :
    below <:+ (applyAction g (base + hit.whole.span.start) hit.texts stack hit.rule.action).1 := by
  obtain ⟨left, kept, entered, hstack, -, happly⟩ :=
    exists_of_applyAction g (base + hit.whole.span.start) hit.texts stack hit.rule.action
  unfold Spares at h
  rw [happly] at h ⊢
  dsimp only at h ⊢
  rw [leftBy_leaving_entering, hstack, List.length_append] at h
  have hkept : below <:+ kept := by
    refine List.suffix_of_suffix_length_le hbelow ?_ (by omega)
    rw [hstack]
    exact List.suffix_append left kept
  exact hkept.trans (List.suffix_append _ _)

/-! ### From one match to another -/

/-- One step of a walk on a line with an offset, or the way from the end of a line to another one.  So many of
the lowest contexts stay open. -/
inductive Spares (g : Grammar) (height : Nat) : Nat × Walk → Nat × Walk → Prop
  /-- No rule matches. -/
  | skip {base : Nat} {w : Walk} {place : Cursor} (hplace : w.place = some place)
    (hnone : findMatch g w.stack place = none) : Spares g height (base, w) (base, w.advance g base place)
  /-- A rule matches. -/
  | apply {base : Nat} {w : Walk} {place : Cursor} {hit : Hit} (hplace : w.place = some place)
    (hmatch : findMatch g w.stack place = some hit) (hspares : hit.Spares g base height w.stack) :
    Spares g height (base, w) (base, w.advance g base place)
  /-- The line ends. -/
  | line {base : Nat} {w : Walk} (hend : w.place = none) (base' : Nat) (line : List Char) :
    Spares g height (base, w) (base', .start line w.stack w.findings)

theorem Spares.suffix {s t : Nat × Walk} (h : Spares g below.length s t) (hbelow : below <:+ s.2.stack) :
    below <:+ t.2.stack := by
  cases h with
  | skip hplace hnone =>
    rw [Walk.advance_of_none hnone]
    exact hbelow
  | apply hplace hmatch hspares =>
    rw [Walk.stack_advance_of_some hmatch]
    exact hspares.suffix hbelow
  | line hend base' line => exact hbelow

/-- **What stays open stays as it is**, for any number of steps and lines. -/
theorem Spares.run_suffix {s t : Nat × Walk} (h : Relation.ReflTransGen (Spares g below.length) s t)
    (hbelow : below <:+ s.2.stack) : below <:+ t.2.stack := by
  induction h with
  | refl => exact hbelow
  | tail _ hstep ih => exact hstep.suffix ih

namespace Walk

/-- Do so many of the lowest contexts stay open for `n` steps of a walk? -/
def sparesAlong (g : Grammar) (base height : Nat) : Nat → Walk → Bool
  | 0, _ => true
  | n + 1, w =>
    match w.place with
    | none => true
    | some place =>
      (findMatch g w.stack place).all (fun hit => hit.Spares g base height w.stack) &&
        sparesAlong g base height n (w.advance g base place)

theorem spares_run (h : w.sparesAlong g base height n = true) :
    Relation.ReflTransGen (Spares g height) (base, w) (base, run g base n w) := by
  induction n generalizing w with
  | zero => exact .refl
  | succ n ih =>
    rw [run]
    rw [sparesAlong] at h
    cases hplace : w.place with
    | none => exact .refl
    | some place =>
      rw [hplace] at h
      obtain ⟨hfirst, hrest⟩ := Bool.and_eq_true_iff.1 h
      refine .head ?_ (ih hrest)
      cases hmatch : findMatch g w.stack place with
      | none => exact .skip hplace hmatch
      | some hit =>
        rw [hmatch] at hfirst
        exact .apply hplace hmatch (of_decide_eq_true hfirst)

end Walk

/-! ### Whole texts -/

theorem Hit.spares_zero (g : Grammar) (base : Nat) (stack : Stack) (hit : Hit) : hit.Spares g base 0 stack := by
  obtain ⟨left, kept, entered, hstack, -, happly⟩ :=
    exists_of_applyAction g (base + hit.whole.span.start) hit.texts stack hit.rule.action
  unfold Spares
  rw [happly]
  dsimp only
  rw [leftBy_leaving_entering, hstack, List.length_append]
  omega

theorem Walk.spares_advance (hplace : w.place = some place) :
    Highlight.Spares g 0 (base, w) (base, w.advance g base place) := by
  cases hmatch : findMatch g w.stack place with
  | none => exact .skip hplace hmatch
  | some hit => exact .apply hplace hmatch (hit.spares_zero g base w.stack)

theorem Walk.Reaches.spares (h : w.Reaches g base v) :
    Relation.ReflTransGen (Highlight.Spares g 0) (base, w) (base, v) := by
  induction h with
  | refl => exact .refl
  | step _ hplace ih => exact ih.tail (Walk.spares_advance hplace)

theorem Walk.reaches_run (g : Grammar) (base n : Nat) (w : Walk) : w.Reaches g base (run g base n w) :=
  run_induction (fun _ _ h hplace => h.step hplace) .refl n

/-- **A text is highlighted by such steps**, from its first line on. -/
theorem Visits.spares {text : List Char} (h : Visits g text base w) :
    ∃ line, Relation.ReflTransGen (Spares g 0) (0, .start line (.initial g) ⟨[], []⟩) (base, w) := by
  have hlines : ∀ before line after, splitLines text = before ++ line :: after → ∃ first,
      Relation.ReflTransGen (Spares g 0) (0, .start first (.initial g) ⟨[], []⟩)
        (byteLength before.flatten, .start (lineContent line)
          (highlightLines g 0 before (.initial g) ⟨[], []⟩).1
          (highlightLines g 0 before (.initial g) ⟨[], []⟩).2) := by
    intro before
    induction before using List.reverseRecOn with
    | nil => exact fun line _ _ => ⟨lineContent line, .refl⟩
    | append_singleton before last ih =>
      intro line after hsplit
      rw [List.append_assoc] at hsplit
      obtain ⟨first, hfirst⟩ := ih last (line :: after) hsplit
      refine ⟨first, (hfirst.trans (Walk.reaches_run g _ (maxSteps (lineContent last).length) _).spares).tail ?_⟩
      rw [highlightLines_append, Nat.zero_add]
      exact .line (place_highlightLine _ _ _ _) _ _
  cases h with
  | line hsplit hbase hwalk =>
    obtain ⟨first, hfirst⟩ := hlines _ _ _ hsplit
    subst hbase
    exact ⟨first, hfirst.trans hwalk.spares⟩

/-! ### Opening and closing -/

section
variable {stack : Stack} {top f : Frame} {target : Nat} {opening closing : Hit} {place' : Cursor}

theorem ne_nil_of_findMatch (hmatch : findMatch g stack place = some hit) : stack ≠ [] := by
  rintro rfl
  cases hmatch

/-- What leaves a context that is not alone has the scopes of the contexts below it and its own in front. -/
theorem frontScopes_pop (h : stack ≠ []) :
    frontScopes g (top :: stack) .pop = contentScopes g stack ++ (g.context top.context).metaScope := by
  obtain ⟨below, rest, rfl⟩ := List.exists_cons_of_ne_nil h
  rfl

theorem frontScopes_push (g : Grammar) (stack : Stack) (target : Nat) :
    frontScopes g stack (.push [target]) = contentScopes g stack ++ (g.context target).metaScope := by
  rw [frontScopes, metaScopes, List.flatMap_singleton]

/-- A context that has been entered and stays open is on top of the stack where it was when nothing is left
above it. -/
theorem stack_of_open (hopening : findMatch g w.stack place = some opening)
    (hpush : opening.rule.action = .push [target])
    (hopen : Relation.ReflTransGen (Spares g (w.stack.length + 1)) (base, w.advance g base place) (base', v))
    (htop : v.stack.length = w.stack.length + 1) : v.stack = ⟨target, opening.texts⟩ :: w.stack := by
  have hentered : (w.advance g base place).stack = ⟨target, opening.texts⟩ :: w.stack := by
    rw [Walk.stack_advance_of_some hopening, hpush]
    rfl
  have hbelow : (w.advance g base place).stack <:+ v.stack := by
    rw [← List.length_cons, ← hentered] at hopen
    exact Spares.run_suffix hopen List.suffix_rfl
  rw [hentered] at hbelow
  refine (hbelow.eq_of_length ?_).symm
  rw [htop, List.length_cons]

/-- **What opens a context and what closes it have the same scopes in front.**  A rule enters one context, and
later on, that context having been open all the while, a rule leaves it.  The tokens of both have first the
scopes of the contexts below it, then its own, but not those of its content, and then those of the rule. -/
theorem frontScopes_closing (hopening : findMatch g w.stack place = some opening)
    (hpush : opening.rule.action = .push [target])
    (hopen : Relation.ReflTransGen (Spares g (w.stack.length + 1)) (base, w.advance g base place) (base', v))
    (hclosing : findMatch g v.stack place' = some closing) (hpop : closing.rule.action = .pop)
    (htop : v.stack.length = w.stack.length + 1) :
    frontScopes g v.stack closing.rule.action = frontScopes g w.stack opening.rule.action ∧
      (v.advance g base' place').stack = w.stack ∧
      (∀ t ∈ w.emitted g base opening, ∃ more, t.scopes
        = contentScopes g w.stack ++ (g.context target).metaScope ++ (opening.rule.scope ++ more)) ∧
      ∀ t ∈ v.emitted g base' closing, ∃ more, t.scopes
        = contentScopes g w.stack ++ (g.context target).metaScope ++ (closing.rule.scope ++ more) := by
  have hstack := stack_of_open hopening hpush hopen htop
  have hfront : frontScopes g w.stack opening.rule.action
      = contentScopes g w.stack ++ (g.context target).metaScope := by
    rw [hpush, frontScopes_push]
  have hback : frontScopes g v.stack closing.rule.action
      = contentScopes g w.stack ++ (g.context target).metaScope := by
    rw [hpop, hstack, frontScopes_pop (ne_nil_of_findMatch hopening)]
  refine ⟨hback.trans hfront.symm, ?_, ?_, ?_⟩
  · have hlength := List.length_pos_iff.2 (ne_nil_of_findMatch hopening)
    rw [Walk.stack_advance_of_some hclosing, hpop, applyAction, if_pos (by omega), hstack]
    rfl
  · intro t ht
    rw [← hfront]
    exact exists_scopes_of_mem_emitted ht
  · intro t ht
    rw [← hback]
    exact exists_scopes_of_mem_emitted ht

end

/-- A context that enters and replaces others above itself. -/
def bracketing : Definition :=
  ⟨"", "s", [], false, [], [("group", [.about (some "m.group") (some "m.content") none,
      .rule "a" none [] (some (.named "group")) none false, .rule "b" none [] none none true,
      .rule "c" none [] (some (.named "other")) none false]),
    ("main", [.rule "a" (some "x") [] (some (.named "group")) none false]),
    ("other", [.rule "c" none [] none (some (.named "group")) false])]⟩

/-- A further context is entered and replaced, and left on the next line, before the first one is left. -/
theorem frontScopes_closing_bracketing :
    ∃ (g : Grammar) (opening closing : Hit) (place' : Cursor) (w u v : Walk), bracketing.compile = .ok g ∧
      w = .start "acc".toList (.initial g) ⟨[], []⟩ ∧ u = Walk.run g 0 4 w ∧ u.stack.length = 3 ∧
      v = Walk.run g 4 1 (.start "bb".toList u.stack u.findings) ∧
      findMatch g w.stack (.ofText "acc".toList) = some opening ∧ opening.rule.action = .push [0] ∧
      findMatch g v.stack place' = some closing ∧ closing.rule.action = .pop ∧
      frontScopes g v.stack closing.rule.action = frontScopes g w.stack opening.rule.action := by
  have hrun : bracketing.compile.toOption.map (fun g =>
      let w := Walk.start "acc".toList (.initial g) ⟨[], []⟩
      let entered := w.advance g 0 (.ofText "acc".toList)
      let u := Walk.run g 0 3 entered
      let next := Walk.start "bb".toList u.stack u.findings
      let v := Walk.run g 4 1 next
      ((findMatch g w.stack (.ofText "acc".toList)).map fun opening => opening.rule.action,
        entered.sparesAlong g 0 2 3 && u.place.isNone && next.sparesAlong g 4 2 1,
        (u.stack.length, v.stack.length),
        (v.place.bind fun place => findMatch g v.stack place).map fun closing => closing.rule.action))
      = some (some (.push [0]), true, (3, 2), some .pop) := by decide +kernel
  cases hcompile : bracketing.compile with
  | error f =>
    rw [hcompile] at hrun
    cases hrun
  | ok g =>
    rw [hcompile] at hrun
    obtain ⟨hopening, hrun⟩ := Prod.mk.inj (Option.some.inj hrun)
    obtain ⟨hspares, hrun⟩ := Prod.mk.inj hrun
    obtain ⟨hheights, hclosing⟩ := Prod.mk.inj hrun
    obtain ⟨hthree, htop⟩ := Prod.mk.inj hheights
    obtain ⟨hspares, hsecond⟩ := Bool.and_eq_true_iff.1 hspares
    obtain ⟨hfirst, hend⟩ := Bool.and_eq_true_iff.1 hspares
    obtain ⟨opening, hopening, hpush⟩ := Option.map_eq_some_iff.1 hopening
    obtain ⟨closing, hclosing, hpop⟩ := Option.map_eq_some_iff.1 hclosing
    obtain ⟨place', -, hclosing⟩ := Option.bind_eq_some_iff.1 hclosing
    have hopen := ((Walk.spares_run hfirst).tail
      (.line (Option.isNone_iff_eq_none.1 hend) 4 "bb".toList)).trans (Walk.spares_run hsecond)
    exact ⟨g, opening, closing, place', _, _, _, rfl, rfl, rfl, hthree, rfl, hopening, hpush, hclosing, hpop,
      (frontScopes_closing (w := .start "acc".toList (.initial g) ⟨[], []⟩) hopening hpush hopen hclosing hpop
        htop).1⟩

end Listfile.Highlight
