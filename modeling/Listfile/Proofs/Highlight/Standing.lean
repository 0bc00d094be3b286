import Listfile.Proofs.Highlight.Going

/-!
# Where highlighting stands

The rules that match at a place may depend on the character before it, and whether a rule that matches nothing is
applied depends on how many such matches there have been.

* `Stands`: highlighting comes to the rest of a text, and what is known of the way there.
* **`Stands.hits`**, **`Stands.skip`**, **`Stands.matches`**, **`Stands.moves`**, `Comes.nextLine`: how it goes on.
* `Action.contexts`: what an action does to the contexts that are open.
* `Within`: highlighting stands in certain contexts.
-/

namespace Listfile.Grammar

/-- The contexts that are open behind an action, the innermost first. -/
def Action.contexts (ids : List Nat) : Action → List Nat
  | .stay => ids
  | .push targets => targets.reverse ++ ids
  | .pop => if 1 < ids.length then ids.tail else ids
  | .set targets => targets.reverse ++ ids.tail

end Listfile.Grammar

namespace Listfile.Highlight

open Grammar Regex Listfile.Tree

variable {g : Grammar} {text rest u : List Char} {n k : Nat} {last : Option Char} {stack : Stack}
  {events : List Event}

/-- Highlighting the text comes to the offset `n`, with `rest` from there on, the stack and the events so far.  On the
line the character `last` stands before it, and since text was matched there have been at most `k` matches of
nothing. -/
def Stands (g : Grammar) (text : List Char) (n : Nat) (rest : List Char) (last : Option Char) (k : Nat) (stack : Stack)
    (events : List Event) : Prop :=
  ∃ place w, Walked g text n rest place w ∧ place.before.head? = last ∧ w.stalled ≤ k ∧ w.stack = stack ∧
    w.findings.events = events

theorem Stands.mono {k' : Nat} (h : Stands g text n rest last k stack events) (hk : k ≤ k') :
    Stands g text n rest last k' stack events := by
  obtain ⟨place, w, hw, hlast, hstalled, hstack⟩ := h
  exact ⟨place, w, hw, hlast, Nat.le_trans hstalled hk, hstack⟩

theorem Stands.comes (h : Stands g text n rest last k stack events) : Comes g text n rest stack events := by
  obtain ⟨place, w, hw, -, -, hstack, hevents⟩ := h
  exact ⟨place, w.findings.tokens, w, hw, hstack, by rw [← hevents]⟩

theorem Comes.exists_stands (h : Comes g text n rest stack events) :
    ∃ last k, Stands g text n rest last k stack events := by
  obtain ⟨place, tokens, w, hw, hstack, hfindings⟩ := h
  exact ⟨_, _, place, w, hw, rfl, Nat.le_refl _, hstack, by rw [hfindings]⟩

theorem Stands.start (g : Grammar) (htext : text ≠ []) : Stands g text 0 text none 0 (.initial g) [] :=
  ⟨_, _, .start g htext, rfl, Nat.le_refl 0, rfl, rfl⟩

/-- The last character of a text that has been passed stands before the place. -/
theorem head?_before_of_passes {place d : Cursor} (hu : u ≠ []) (h : place.Passes u d) :
    d.before.head? = u.getLast? := by
  rw [h.before, List.head?_append_of_ne_nil _ (by simpa using hu), List.head?_reverse]

/-- **Where a rule matches some text**, highlighting goes on behind it. -/
theorem Stands.hits (h : Stands g text n rest last k stack events) {P : List Char → Hit → Prop}
    (hhits : ∀ place, place.after = restOfLine rest → place.before.head? = last → ∃ u hit, u ≠ [] ∧
      findMatch g stack place = some hit ∧ hit.whole.first = place ∧ place.Passes u hit.whole.last ∧ P u hit) :
    ∃ u hit rest', P u hit ∧ u ≠ [] ∧ u <+: restOfLine rest ∧ rest = u ++ rest' ∧
      Stands g text (n + byteLength u) rest' u.getLast? 0 (applyAction g n hit.texts stack hit.rule.action).1
        ((applyAction g n hit.texts stack hit.rule.action).2.reverse ++ events) := by
  obtain ⟨place, w, hw, hlast, -, rfl, rfl⟩ := h
  obtain ⟨u, hit, hu, hmatch, hfirst, hpasses, hP⟩ := hhits place hw.ahead hlast
  obtain ⟨base, rest', rfl, hrest, hnext⟩ := hw.forward hmatch hu hpasses
  have hspan : hit.whole.span.start = place.offset := by rw [Capture.span, hfirst]
  have hprefix : u <+: restOfLine rest := ⟨_, (hw.ahead.symm.trans hpasses.after).symm⟩
  refine ⟨u, hit, rest', hP, hu, hprefix, hrest, _, _, hnext, head?_before_of_passes hu hpasses, Nat.le_refl 0, ?_, ?_⟩
  · unfold Walk.apply
    rw [hspan]
  · unfold Walk.apply
    rw [hspan]
    rfl

theorem Comes.hits (h : Comes g text n rest stack events) {P : List Char → Hit → Prop}
    (hhits : ∀ place, place.after = restOfLine rest → ∃ u hit, u ≠ [] ∧ findMatch g stack place = some hit ∧
      hit.whole.first = place ∧ place.Passes u hit.whole.last ∧ P u hit) :
    ∃ u hit rest', P u hit ∧ u ≠ [] ∧ u <+: restOfLine rest ∧ rest = u ++ rest' ∧
      Stands g text (n + byteLength u) rest' u.getLast? 0 (applyAction g n hit.texts stack hit.rule.action).1
        ((applyAction g n hit.texts stack hit.rule.action).2.reverse ++ events) := by
  obtain ⟨last, k, hstands⟩ := h.exists_stands
  exact hstands.hits fun place hplace _ => hhits place hplace

/-- **Where no rule matches**, highlighting goes on behind the next character. -/
theorem Stands.skip {c : Char} (h : Stands g text n (c :: rest) last k stack events)
    (hc : restOfLine (c :: rest) = c :: restOfLine rest)
    (hnone : ∀ place, place.after = c :: restOfLine rest → place.before.head? = last →
      findMatch g stack place = none) :
    Stands g text (n + c.utf8Size) rest (some c) k stack events := by
  obtain ⟨place, w, hw, hlast, hstalled, rfl, hevents⟩ := h
  have hahead : place.after = c :: restOfLine rest := hw.ahead.trans hc
  obtain ⟨rest', place', hrest, hpasses, hnext⟩ := hw.skip (hnone place hahead hlast) hahead
  obtain rfl : rest = rest' := (List.cons_eq_cons.1 hrest).2
  exact ⟨place', _, hnext, head?_before_of_passes (List.cons_ne_nil c []) hpasses, hstalled, rfl, hevents⟩

/-- **Where a rule matches, be it nothing**, highlighting goes on behind the match, if nothing has not been matched too
often. -/
theorem Stands.matches (h : Stands g text n rest last k stack events) (hk : k < maxStalled)
    {P : List Char → Hit → Prop} (hmatches : ∀ place, place.after = restOfLine rest → ∃ u hit,
      findMatch g stack place = some hit ∧ hit.whole.first = place ∧ place.Passes u hit.whole.last ∧ P u hit) :
    ∃ u hit rest' last', P u hit ∧ u <+: restOfLine rest ∧ rest = u ++ rest' ∧
      Stands g text (n + byteLength u) rest' last' (k + 1) (applyAction g n hit.texts stack hit.rule.action).1
        ((applyAction g n hit.texts stack hit.rule.action).2.reverse ++ events) := by
  obtain ⟨place, w, hw, hlast, hstalled, rfl, rfl⟩ := h
  obtain ⟨u, hit, hmatch, hfirst, hpasses, hP⟩ := hmatches place hw.ahead
  have hspan : hit.whole.span.start = place.offset := by rw [Capture.span, hfirst]
  have hprefix : u <+: restOfLine rest := ⟨_, (hw.ahead.symm.trans hpasses.after).symm⟩
  by_cases hu : u = []
  · subst hu
    obtain ⟨base, rfl, hnext⟩ :=
      hw.stall hmatch (hpasses.unique (.refl place)) (Nat.lt_of_le_of_lt hstalled hk)
    refine ⟨[], hit, rest, last, hP, hprefix, rfl, place, _, hnext, hlast, Nat.succ_le_succ hstalled, ?_, ?_⟩
    · unfold Walk.apply
      rw [hspan]
    · unfold Walk.apply
      rw [hspan]
      rfl
  · obtain ⟨base, rest', rfl, hrest, hnext⟩ := hw.forward hmatch hu hpasses
    refine ⟨u, hit, rest', _, hP, hprefix, hrest, _, _, hnext, rfl, Nat.zero_le _, ?_, ?_⟩
    · unfold Walk.apply
      rw [hspan]
    · unfold Walk.apply
      rw [hspan]
      rfl

/-- **Where a rule matches that keeps the contexts, or none does**, highlighting goes on behind the match or the next
character. -/
theorem Stands.moves (h : Stands g text n rest last k stack events) (hne : restOfLine rest ≠ []) {P : List Char → Prop}
    (hmoves : ∀ place, place.after = restOfLine rest →
      findMatch g stack place = none ∨ ∃ u, Fires g stack place u .stay ∧ P u) :
    ∃ u rest' last', ((∃ c, u = [c]) ∨ P u) ∧ u ≠ [] ∧ u <+: restOfLine rest ∧ rest = u ++ rest' ∧
      Stands g text (n + byteLength u) rest' last' k stack events := by
  obtain ⟨place, w, hw, hlast, hstalled, rfl, rfl⟩ := h
  rcases hmoves place hw.ahead with hnone | ⟨u, ⟨hu, hit, hmatch, haction, hfirst, hpasses⟩, hP⟩
  · obtain ⟨c, cs, hcs⟩ := List.exists_cons_of_ne_nil hne
    obtain ⟨rest', place', hrest, hpasses, hnext⟩ := hw.skip hnone (hw.ahead.trans hcs)
    rw [hcs]
    refine ⟨[c], rest', _, .inl ⟨c, rfl⟩, List.cons_ne_nil _ _, ⟨cs, rfl⟩, hrest, place',
      { w with place := some place' }, ?_, rfl, hstalled, rfl, rfl⟩
    rw [byteLength_cons, byteLength_nil, Nat.add_zero]
    exact hnext
  · obtain ⟨base, rest', rfl, hrest, hnext⟩ := hw.forward hmatch hu hpasses
    refine ⟨u, rest', _, .inr hP, hu, ⟨_, (hw.ahead.symm.trans hpasses.after).symm⟩, hrest, _, _, hnext, rfl,
      Nat.zero_le _, ?_, ?_⟩
    all_goals
      unfold Walk.apply
      rw [haction]
      rfl

/-- Behind a line on which no rule matches any more, the next one is begun. -/
theorem Comes.nextLine {ending : List Char} (h : Comes g text n (ending ++ rest) stack events)
    (hending : ending = ['\n'] ∨ ending = ['\r', '\n']) (hrest : rest ≠ [])
    (hnone : ∀ place, place.after = [] → findMatch g stack place = none) :
    Stands g text (n + byteLength ending) rest none 0 stack events := by
  obtain ⟨place, tokens, w, hw, rfl, hfindings⟩ := h
  have hend : restOfLine (ending ++ rest) = [] ∧ behindLine (ending ++ rest) = rest := by
    rcases hending with rfl | rfl <;> exact ⟨rfl, rfl⟩
  obtain ⟨ending', -, hsame, hnext⟩ :=
    hw.newline (hnone place (hw.ahead.trans hend.1)) hend.1 (by rw [hend.2]; exact hrest)
  rw [hend.2] at hsame hnext
  rw [← List.append_cancel_right hsame] at hnext
  exact ⟨_, _, hnext, rfl, Nat.le_refl 0, rfl, by show w.findings.events = events; rw [hfindings]⟩

/-- The contexts that are open where no line follows. -/
theorem Comes.openContexts (h : Comes g text n rest stack events) (hend : restOfLine rest = [])
    (hlast : behindLine rest = []) (hnone : ∀ place, place.after = [] → findMatch g stack place = none) :
    (highlight g text).openContexts = stack.contextNames g := by
  obtain ⟨place, tokens, h⟩ := h
  rw [h.finish (hnone place (h.ahead.trans hend)) hend hlast]

/-- What has happened on the way belongs to the events of the whole text. -/
theorem Comes.mem_events (h : Comes g text n rest stack events) {e : Event} (he : e ∈ events) :
    e ∈ (highlight g text).events := by
  obtain ⟨place, tokens, w, hw, -, hfindings⟩ := h
  exact hw.mem_events (by rw [hfindings]; exact he)

/-! ### Contexts -/

theorem map_context_applyAction (g : Grammar) (n : Nat) (texts : List (Option (List Char))) (stack : Stack)
    (action : Action) :
    (applyAction g n texts stack action).1.map Frame.context = action.contexts (stack.map Frame.context) := by
  have hentered (targets : List Nat) : (targets.map fun id => Frame.mk id texts).map Frame.context = targets := by
    rw [List.map_map]
    exact List.map_id targets
  cases action with
  | stay => rfl
  | push targets => simp only [applyAction, pushFrames, Action.contexts, List.map_append, List.map_reverse, hentered]
  | pop =>
    simp only [applyAction, Action.contexts, List.length_map]
    split
    · cases stack <;> rfl
    · rfl
  | set targets =>
    cases stack <;>
      simp [applyAction, popFrame, pushFrames, Action.contexts, List.map_append, List.map_reverse, hentered]

/-- Highlighting stands in the contexts, of which the innermost is the first. -/
def Within (g : Grammar) (text : List Char) (n : Nat) (rest : List Char) (last : Option Char) (k : Nat)
    (ids : List Nat) : Prop :=
  ∃ stack events, stack.map Frame.context = ids ∧ Stands g text n rest last k stack events

theorem Stands.within (h : Stands g text n rest last k stack events) :
    Within g text n rest last k (stack.map Frame.context) :=
  ⟨stack, events, rfl, h⟩

theorem Within.mono {k' : Nat} {ids : List Nat} (h : Within g text n rest last k ids) (hk : k ≤ k') :
    Within g text n rest last k' ids := by
  obtain ⟨stack, events, hids, h⟩ := h
  exact ⟨stack, events, hids, h.mono hk⟩

/-- The innermost context is on top of the stack. -/
theorem Within.exists_frame {id : Nat} {ids : List Nat} (h : Within g text n rest last k (id :: ids)) :
    ∃ captures below events, below.map Frame.context = ids ∧
      Stands g text n rest last k (⟨id, captures⟩ :: below) events := by
  obtain ⟨stack, events, hids, h⟩ := h
  obtain ⟨⟨id', captures⟩, below, rfl, rfl, hbelow⟩ := List.map_eq_cons_iff.1 hids
  exact ⟨captures, below, events, hbelow, h⟩

end Listfile.Highlight
