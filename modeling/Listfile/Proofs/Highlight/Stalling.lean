import Listfile.Proofs.Highlight.Walking

/-!
# Rules that match nothing

Rules that match nothing may follow each other at a place only so often before a character is skipped by
force.  The walk counts them.  It counts afresh when text is matched and when it skips a character by force,
but not when it skips a character because no rule matches: what was counted at earlier places goes on
counting then.

* `Walk.Idled`: how often rules have matched nothing, at the place of a walk and at earlier places.
* `Walk.Idled.stalled_eq`: the walk counts both.
* `Walk.Idles`, `Walk.run_idles`: rules that match nothing one after the other, and how long a walk follows
  them.
* **`forced_by_place_iff`**: a character is skipped for what was matched at its own place exactly if
  nothing was counted at earlier places.
-/

namespace Listfile.Highlight

open Grammar

variable {g : Grammar} {base n here earlier : Nat} {w : Walk} {place : Cursor} {hit : Hit}
  {s t : Stack}

namespace Walk

/-! ### What is counted -/

/-- Rules have matched nothing `here` times at the place of the walk since it came there, and `earlier`
times at places before that since text was matched or a character was skipped by force. -/
inductive Idled (g : Grammar) (base : Nat) : (here earlier : Nat) → Walk → Prop
  | start (lines : List (Nat × List Char)) (line : List Char) :
    Idled g base 0 0 (.start line (stackAfter g lines) ⟨[], []⟩)
  /-- A character is skipped because no rule matches. -/
  | skip {here earlier : Nat} {w : Walk} {place : Cursor} (h : Idled g base here earlier w)
    (hplace : w.place = some place) (hnone : findMatch g w.stack place = none) :
    Idled g base 0 (earlier + here) (w.advance g base place)
  /-- Text is matched. -/
  | forward {here earlier : Nat} {w : Walk} {place : Cursor} {hit : Hit}
    (h : Idled g base here earlier w) (hplace : w.place = some place)
    (hmatch : findMatch g w.stack place = some hit) (hlt : place.offset < hit.whole.last.offset) :
    Idled g base 0 0 (w.advance g base place)
  /-- Nothing is matched, and the walk stays where it is. -/
  | idle {here earlier : Nat} {w : Walk} {place : Cursor} {hit : Hit}
    (h : Idled g base here earlier w) (hplace : w.place = some place)
    (hmatch : findMatch g w.stack place = some hit) (hle : hit.whole.last.offset ≤ place.offset)
    (hstay : (w.advance g base place).place = some place) :
    Idled g base (here + 1) earlier (w.advance g base place)
  /-- Nothing is matched, and the walk leaves the place by force. -/
  | force {here earlier : Nat} {w : Walk} {place : Cursor} {hit : Hit}
    (h : Idled g base here earlier w) (hplace : w.place = some place)
    (hmatch : findMatch g w.stack place = some hit) (hle : hit.whole.last.offset ≤ place.offset)
    (hforced : (w.advance g base place).place ≠ some place) :
    Idled g base 0 0 (w.advance g base place)

theorem offset_lt_of_next? {c : Cursor} (h : c ∈ place.next?.map (·.2)) : place.offset < c.offset := by
  obtain ⟨⟨x, d⟩, hnext, rfl⟩ := Option.map_eq_some_iff.1 h
  rw [(Cursor.offset_next? hnext).1]
  exact Nat.lt_add_of_pos_right x.utf8Size_pos

/-- A walk stays at a place where nothing is matched unless it has counted to the limit. -/
theorem place_advance_of_le (hplace : w.place = some place)
    (hmatch : findMatch g w.stack place = some hit) (hle : hit.whole.last.offset ≤ place.offset) :
    (w.advance g base place).place = some place ↔ w.stalled < maxStalled := by
  rw [advance_of_le hmatch hle]
  split
  · rename_i hstalled
    refine ⟨fun hstay => ?_, fun hlt => absurd hlt (Nat.not_lt.2 hstalled)⟩
    exact absurd (offset_lt_of_next? hstay) (Nat.lt_irrefl _)
  · rename_i hstalled
    exact ⟨fun _ => Nat.lt_of_not_le hstalled, fun _ => hplace⟩

/-- **What a walk counts**: what was matched at its place and at earlier ones. -/
theorem Idled.stalled_eq (h : Idled g base here earlier w) : w.stalled = earlier + here := by
  induction h with
  | start => rfl
  | skip h hplace hnone ih =>
    rw [advance_of_none hnone]
    exact ih
  | forward h hplace hmatch hlt ih => rw [advance_of_lt hmatch hlt]
  | idle h hplace hmatch hle hstay ih =>
    have hlt := (place_advance_of_le hplace hmatch hle).1 hstay
    rw [advance_of_le hmatch hle, if_neg (Nat.not_le.2 hlt), ← Nat.add_assoc]
    exact congrArg (· + 1) ih
  | force h hplace hmatch hle hforced ih =>
    have hlimit := mt (place_advance_of_le hplace hmatch hle).2 hforced
    rw [advance_of_le hmatch hle, if_pos (Nat.le_of_not_lt hlimit)]

/-- No walk counts further than to the limit. -/
theorem Idled.stalled_le (h : Idled g base here earlier w) : w.stalled ≤ maxStalled := by
  induction h with
  | start => exact Nat.zero_le _
  | skip h hplace hnone ih =>
    rw [advance_of_none hnone]
    exact ih
  | forward h hplace hmatch hlt ih =>
    rw [advance_of_lt hmatch hlt]
    exact Nat.zero_le _
  | idle h hplace hmatch hle hstay ih =>
    have hlt := (place_advance_of_le hplace hmatch hle).1 hstay
    rw [advance_of_le hmatch hle, if_neg (Nat.not_le.2 hlt)]
    exact hlt
  | force h hplace hmatch hle hforced ih =>
    have hlimit := mt (place_advance_of_le hplace hmatch hle).2 hforced
    rw [advance_of_le hmatch hle, if_pos (Nat.le_of_not_lt hlimit)]
    exact Nat.zero_le _

/-- One more step: it is one of the four that `Idled` tells apart. -/
theorem Idled.step (h : Idled g base here earlier w) (hplace : w.place = some place) :
    ∃ here earlier, Idled g base here earlier (w.advance g base place) := by
  cases hmatch : findMatch g w.stack place with
  | none => exact ⟨_, _, h.skip hplace hmatch⟩
  | some hit =>
    by_cases hlt : place.offset < hit.whole.last.offset
    · exact ⟨_, _, h.forward hplace hmatch hlt⟩
    · have hle := Nat.le_of_not_lt hlt
      by_cases hstay : (w.advance g base place).place = some place
      · exact ⟨_, _, h.idle hplace hmatch hle hstay⟩
      · exact ⟨_, _, h.force hplace hmatch hle hstay⟩

theorem exists_idled (h : Reachable g base w) : ∃ here earlier, Idled g base here earlier w := by
  induction h with
  | start lines line => exact ⟨0, 0, .start lines line⟩
  | step h hplace ih =>
    obtain ⟨here, earlier, ih⟩ := ih
    exact ih.step hplace

/-! ### Matches of nothing in a row -/

/-- At a place `n` rules match nothing one after the other, which changes the stack `s` into `t`. -/
inductive Idles (g : Grammar) (base : Nat) (place : Cursor) : (n : Nat) → (s t : Stack) → Prop
  | nil (s : Stack) : Idles g base place 0 s s
  | cons {n : Nat} {s t : Stack} {hit : Hit} (hmatch : findMatch g s place = some hit)
    (hle : hit.whole.last.offset ≤ place.offset)
    (h : Idles g base place n
      (applyAction g (base + hit.whole.span.start) hit.texts s hit.rule.action).1 t) :
    Idles g base place (n + 1) s t

/-- A walk that has left a place behind does not return to it. -/
theorem place_run_ne (h : ∀ c ∈ w.place, place.offset < c.offset) (n : Nat) :
    (run g base n w).place ≠ some place := by
  have hkeep : ∀ c ∈ (run g base n w).place, place.offset < c.offset := by
    refine run_induction (I := fun w => ∀ c ∈ w.place, place.offset < c.offset) ?_ h n
    intro w c hw hplace
    have hc := hw c hplace
    cases hmatch : findMatch g w.stack c with
    | none =>
      rw [advance_of_none hmatch]
      exact fun d hd => Nat.lt_trans hc (offset_lt_of_next? hd)
    | some hit =>
      by_cases hlt : c.offset < hit.whole.last.offset
      · rw [advance_of_lt hmatch hlt]
        rintro d ⟨⟩
        exact Nat.lt_trans hc hlt
      · rw [advance_of_le hmatch (Nat.le_of_not_lt hlt)]
        split
        · exact fun d hd => Nat.lt_trans hc (offset_lt_of_next? hd)
        · exact hw
  exact fun hback => absurd (hkeep place hback) (Nat.lt_irrefl _)

/-- **How long a walk follows rules that match nothing**: until it has counted to the limit. -/
theorem run_idles (h : Idles g base place n w.stack t) (hplace : w.place = some place)
    (hw : w.stalled ≤ maxStalled) :
    ((run g base n w).place = some place ↔ w.stalled + n ≤ maxStalled) ∧
      (w.stalled + n ≤ maxStalled → (run g base n w).stack = t) := by
  induction n generalizing w with
  | zero =>
    cases h
    exact ⟨⟨fun _ => hw, fun _ => hplace⟩, fun _ => rfl⟩
  | succ n ih =>
    cases h with
    | @cons _ _ _ hit hmatch hle h =>
      rw [run, hplace]
      dsimp only
      rw [advance_of_le hmatch hle]
      split
      · -- the limit is reached: the place is left now
        rename_i hlimit
        have hleft : (run g base n { w.apply g base hit with
            place := place.next?.map (·.2), stalled := 0 }).place ≠ some place :=
          place_run_ne (fun c hc => offset_lt_of_next? hc) n
        have hfar : ¬w.stalled + (n + 1) ≤ maxStalled := by omega
        exact ⟨⟨fun hback => absurd hback hleft, fun hnear => absurd hnear hfar⟩,
          fun hnear => absurd hnear hfar⟩
      · rename_i hlimit
        have hcount : ∀ m, m + 1 + n = m + (n + 1) := fun m => by omega
        have hnext := ih (w := { w.apply g base hit with stalled := w.stalled + 1 }) h hplace
          (Nat.lt_of_not_le hlimit)
        rw [← hcount]
        exact hnext

/-! ### Characters that are skipped by force -/

/-- **When the limit is one for each place.**  A walk that is reached has counted what was matched at its
place and at earlier ones.  If it skips a character although a rule matches, rules have matched nothing more
often than the limit at this very place exactly if nothing was counted earlier.  It follows `n` more rules
that match nothing exactly if it does not count beyond the limit with them, and then applies the rule that
matches text behind them. -/
theorem forced_by_place_iff (hr : Reachable g base w) (hplace : w.place = some place) :
    (∃ here earlier, Idled g base here earlier w) ∧ ∀ here earlier, Idled g base here earlier w →
      (∀ hit, findMatch g w.stack place = some hit → hit.whole.last.offset ≤ place.offset →
        (w.advance g base place).place ≠ some place → (maxStalled < here + 1 ↔ earlier = 0)) ∧
      ∀ n t, Idles g base place n w.stack t →
        ((run g base n w).place = some place ↔ earlier + here + n ≤ maxStalled) ∧
        ∀ hit, findMatch g t place = some hit → place.offset < hit.whole.last.offset →
          earlier + here + n ≤ maxStalled →
            (run g base (n + 1) w).place = some hit.whole.last ∧
            (run g base (n + 1) w).stack
              = (applyAction g (base + hit.whole.span.start) hit.texts t hit.rule.action).1 := by
  refine ⟨exists_idled hr, fun here earlier h => ⟨?_, ?_⟩⟩
  · intro hit hmatch hle hforced
    have hlimit := mt (place_advance_of_le hplace hmatch hle).2 hforced
    have hcount := h.stalled_eq
    have hmost := h.stalled_le
    omega
  · intro n t hidles
    obtain ⟨hstay, hstack⟩ := run_idles hidles hplace h.stalled_le
    rw [h.stalled_eq] at hstay hstack
    refine ⟨hstay, fun hit hmatch hlt hnear => ?_⟩
    have hlast : run g base (n + 1) w = (run g base n w).advance g base place := by
      rw [run_add, run, hstay.2 hnear]
      rfl
    rw [← hstack hnear] at hmatch
    rw [hlast, advance_of_lt hmatch hlt, ← hstack hnear]
    exact ⟨rfl, rfl⟩

/-- Two contexts that enter and leave each other where nothing is matched yet, and a rule for text. -/
def lookingAhead : Definition :=
  ⟨"", "s", [], false, [], [("main", [.rule "(?=a)" none [] (some (.named "other")) none false]),
    ("other", [.rule "(?=b)" none [] none none true, .rule "ac" (some "t") [] none none false])]⟩

/-- At the start of a line, text is matched behind a rule that matches nothing. -/
theorem forced_by_place_lookingAhead :
    ∃ (g : Grammar) (hit : Hit), lookingAhead.compile = .ok g ∧
      Reachable g 0 (.start "ac".toList (.initial g) ⟨[], []⟩) ∧
      (run g 0 2 (.start "ac".toList (.initial g) ⟨[], []⟩)).place = some hit.whole.last ∧
      hit.whole.last.offset = 2 := by
  have hrun : lookingAhead.compile.toOption.map (fun g =>
      (findMatch g (.initial g) (.ofText "ac".toList)).map fun first =>
        (decide (first.whole.last.offset ≤ 0),
          (findMatch g (applyAction g (0 + first.whole.span.start) first.texts (.initial g)
            first.rule.action).1 (.ofText "ac".toList)).map fun second => second.whole.last.offset))
      = some (some (true, some 2)) := by decide +kernel
  cases hcompile : lookingAhead.compile with
  | error f =>
    rw [hcompile] at hrun
    cases hrun
  | ok g =>
    rw [hcompile] at hrun
    obtain ⟨first, hfirst, hrun⟩ := Option.map_eq_some_iff.1 (Option.some.inj hrun)
    obtain ⟨hle, hrun⟩ := Prod.mk.inj hrun
    obtain ⟨second, hsecond, hlast⟩ := Option.map_eq_some_iff.1 hrun
    have hreach : Reachable g 0 (.start "ac".toList (.initial g) ⟨[], []⟩) := .start [] "ac".toList
    have hidles : Idles g 0 _ 1 _ _ := .cons hfirst (of_decide_eq_true hle) (.nil _)
    have hcounts := ((forced_by_place_iff hreach rfl).2 0 0 (.start [] "ac".toList)).2 1 _ hidles
    have hlt : (Cursor.ofText "ac".toList).offset < second.whole.last.offset := by
      rw [hlast]
      exact Nat.two_pos
    exact ⟨g, second, rfl, hreach, (hcounts.2 second hsecond hlt (by decide)).1, hlast⟩

/-- A line on which every character makes one of these contexts enter or leave the other. -/
def stallingLine : List Char := (List.replicate 16 ['a', 'b']).flatten ++ ['a', 'c']

/-- **Not every limit is one for a place**: what was counted at earlier places goes on counting when no rule
matches.  A character may be skipped for that where a rule has matched nothing only once, and text is not
matched behind it then. -/
theorem not_forall_forced_by_place :
    (¬∀ (d : Definition) (g : Grammar), d.compile = .ok g →
      ∀ base here earlier w place hit, Idled g base here earlier w → w.place = some place →
        findMatch g w.stack place = some hit → hit.whole.last.offset ≤ place.offset →
        (w.advance g base place).place ≠ some place → maxStalled < here + 1) ∧
    ¬∀ (d : Definition) (g : Grammar), d.compile = .ok g →
      ∀ base earlier w place n t hit, Idled g base 0 earlier w → w.place = some place →
        Idles g base place n w.stack t → n ≤ maxStalled → findMatch g t place = some hit →
        place.offset < hit.whole.last.offset → (run g base n w).place = some place := by
  have hrun : lookingAhead.compile.toOption.map (fun g =>
      let w := run g 0 63 (.start stallingLine (.initial g) ⟨[], []⟩)
      (w.stalled, w.place.map fun place => ((findMatch g w.stack place).isNone,
        let v := w.advance g 0 place
        v.place.bind fun place => (findMatch g v.stack place).map fun first =>
          (decide (first.whole.last.offset ≤ place.offset),
            (findMatch g (applyAction g (0 + first.whole.span.start) first.texts v.stack
              first.rule.action).1 place).map fun second =>
                decide (place.offset < second.whole.last.offset)))))
      = some (32, some (true, some (true, some true))) := by decide +kernel
  cases hcompile : lookingAhead.compile with
  | error f =>
    rw [hcompile] at hrun
    cases hrun
  | ok g =>
    rw [hcompile] at hrun
    obtain ⟨hstalled, hrun⟩ := Prod.mk.inj (Option.some.inj hrun)
    obtain ⟨place, hplace, hrun⟩ := Option.map_eq_some_iff.1 hrun
    obtain ⟨hnone, hrun⟩ := Prod.mk.inj hrun
    obtain ⟨next, hnext, hrun⟩ := Option.bind_eq_some_iff.1 hrun
    obtain ⟨first, hfirst, hrun⟩ := Option.map_eq_some_iff.1 hrun
    obtain ⟨hle, hrun⟩ := Prod.mk.inj hrun
    obtain ⟨second, hsecond, hlt⟩ := Option.map_eq_some_iff.1 hrun
    -- the character before was skipped when as many matches of nothing had been counted as there may be
    have hreach : Reachable g 0 (run g 0 63 (.start stallingLine (.initial g) ⟨[], []⟩)) :=
      (Reachable.start [] stallingLine).run 63
    obtain ⟨here, earlier, hidled⟩ := exists_idled hreach
    have hidled' := hidled.skip hplace (Option.isNone_iff_eq_none.1 hnone)
    have hcount := hidled'.stalled_eq
    rw [← hidled.stalled_eq, hstalled] at hidled' hcount
    have hforced : ∀ v : Walk, v.place = some next → v.stalled = maxStalled →
        findMatch g v.stack next = some first → (v.advance g 0 next).place ≠ some next :=
      fun v hv hlimit hmatch => mt (place_advance_of_le hv hmatch (of_decide_eq_true hle)).1
        (Nat.not_lt.2 (Nat.le_of_eq hlimit.symm))
    refine ⟨fun hall => ?_, fun hall => ?_⟩
    · exact absurd (hall _ g hcompile 0 0 32 _ next first hidled' hnext hfirst (of_decide_eq_true hle)
        (hforced _ hnext hcount hfirst)) (by decide)
    · have hidles : Idles g 0 _ 1 _ _ := .cons hfirst (of_decide_eq_true hle) (.nil _)
      have hback := hall _ g hcompile 0 32 _ next 1 _ second hidled' hnext hidles (by decide) hsecond
        (of_decide_eq_true hlt)
      exact absurd ((run_idles hidles hnext hidled'.stalled_le).1.1 hback) (by rw [hcount]; decide)

end Walk

end Listfile.Highlight
