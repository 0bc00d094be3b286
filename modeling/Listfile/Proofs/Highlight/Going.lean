import Listfile.Proofs.Highlight.Arriving
import Listfile.Proofs.Highlight.Trying

/-!
# Events on the way through a text

Where only events are of interest, highlighting goes from one part of a text to the next.  What stands ahead on
the line decides which rule of the innermost context matches.

* `Fires`: a rule matches some text.
* `Comes`: highlighting comes to the rest of a text with contexts on the stack and events behind it.
* **`Comes.fires`**, `Comes.newline`, `Comes.finish`: how it goes on.
* **`Comes.matchText`**: a certain text is matched next.
* **`Comes.pass`**: text is passed without events up to a character that rules stay off.
-/

namespace Listfile.Highlight

open Grammar Regex Listfile.Tree

variable {g : Grammar} {text rest u : List Char} {n : Nat} {place : Cursor} {stack : Stack} {events : List Event}

/-! ### Steps -/

/-- At the place a rule with the action matches the text. -/
def Fires (g : Grammar) (stack : Stack) (place : Cursor) (u : List Char) (action : Action) : Prop :=
  u ≠ [] ∧ ∃ hit, findMatch g stack place = some hit ∧ hit.rule.action = action ∧ hit.whole.first = place ∧
    place.Passes u hit.whole.last

/-- Highlighting the text comes to the offset `n`, with `rest` from there on, the stack and the events so far, the
newest first. -/
def Comes (g : Grammar) (text : List Char) (n : Nat) (rest : List Char) (stack : Stack) (events : List Event) :
    Prop :=
  ∃ place tokens, Arrived g text n rest place stack ⟨tokens, events⟩

/-- A context above another one can be left. -/
theorem applyAction_pop (g : Grammar) (n : Nat) (texts : List (Option (List Char))) (top below : Frame)
    (stack : Stack) : applyAction g n texts (top :: below :: stack) .pop
      = (below :: stack, [⟨n, .pop, (g.context top.context).name⟩]) := by
  unfold applyAction
  rw [if_pos (by simp)]
  rfl

theorem Comes.start (g : Grammar) (htext : text ≠ []) : Comes g text 0 text (.initial g) [] :=
  ⟨_, _, .start g htext⟩

/-- **Where a rule matches**, highlighting goes on behind the match. -/
theorem Comes.fires (h : Comes g text n rest stack events) {P : List Char → Action → Prop}
    (hfires : ∀ place, place.after = restOfLine rest → ∃ u action, Fires g stack place u action ∧ P u action) :
    ∃ u action rest' texts, P u action ∧ u ≠ [] ∧ rest = u ++ rest' ∧
      Comes g text (n + byteLength u) rest' (applyAction g n texts stack action).1
        ((applyAction g n texts stack action).2.reverse ++ events) := by
  obtain ⟨place, tokens, h⟩ := h
  obtain ⟨u, action, ⟨hu, hit, hmatch, rfl, hfirst, hpasses⟩, hP⟩ := hfires place h.ahead
  obtain ⟨rest', found, hrest, -, hnext⟩ := h.forward hmatch hfirst hu hpasses
  exact ⟨u, _, rest', hit.texts, hP, hu, hrest, _, _, hnext⟩

/-- **Where a rule matches that keeps the contexts, or none does**, highlighting goes on behind the match or the
next character. -/
theorem Comes.moves (h : Comes g text n rest stack events) (hne : restOfLine rest ≠ []) {P : List Char → Prop}
    (hmoves : ∀ place, place.after = restOfLine rest →
      findMatch g stack place = none ∨ ∃ u, Fires g stack place u .stay ∧ P u) :
    ∃ u rest', ((∃ c, u = [c]) ∨ P u) ∧ u ≠ [] ∧ u <+: restOfLine rest ∧ rest = u ++ rest' ∧
      Comes g text (n + byteLength u) rest' stack events := by
  obtain ⟨place, tokens, h⟩ := h
  rcases hmoves place h.ahead with hnone | ⟨u, ⟨hu, hit, hmatch, haction, hfirst, hpasses⟩, hP⟩
  · obtain ⟨c, cs, hcs⟩ := List.exists_cons_of_ne_nil hne
    obtain ⟨rest', place', hrest, -, hnext⟩ := h.skip hnone (h.ahead.trans hcs)
    refine ⟨[c], rest', .inl ⟨c, rfl⟩, List.cons_ne_nil _ _, ?_, hrest, place', tokens, by simpa using hnext⟩
    exact ⟨cs, hcs.symm⟩
  · obtain ⟨rest', found, hrest, -, hnext⟩ := h.forward hmatch hfirst hu hpasses
    rw [haction] at hnext
    exact ⟨u, rest', .inr hP, hu, ⟨_, (h.ahead.symm.trans hpasses.after).symm⟩, hrest, _, _, hnext⟩

/-- Behind a line on which no rule matches any more, the next one follows. -/
theorem Comes.newline {ending : List Char} (h : Comes g text n (ending ++ rest) stack events)
    (hending : ending = ['\n'] ∨ ending = ['\r', '\n']) (hrest : rest ≠ [])
    (hnone : ∀ place, place.after = [] → findMatch g stack place = none) :
    Comes g text (n + byteLength ending) rest stack events := by
  obtain ⟨place, tokens, h⟩ := h
  have hahead : place.after = [] := by
    rw [h.ahead]
    rcases hending with rfl | rfl <;> rfl
  exact ⟨_, tokens, h.nextLine hending hrest (hnone place hahead)⟩

/-- What has been found at the end of the text. -/
theorem Comes.finish (h : Comes g text n [] stack events)
    (hnone : ∀ place, place.after = [] → findMatch g stack place = none) :
    (highlight g text).events = events.reverse ∧ (highlight g text).openContexts = stack.contextNames g := by
  obtain ⟨place, tokens, h⟩ := h
  rw [h.finish (hnone place h.ahead) rfl rfl]
  exact ⟨rfl, rfl⟩

/-! ### Rules that are sketched -/

section
variable {id : Nat} {captures : List (Option (List Char))} {below : Stack} {ks : List Sketch}

variable (place captures below) in
/-- The first rule that is not excluded is one for characters of some sets. -/
theorem fires_of_sets (hrules : List.Forall₂ Obeys ks (g.context id).rules) {ss : List CharSet} {action : Action}
    {groups : List Nat} {more : List Sketch} (hss : ss ≠ [])
    (hks : ks.dropWhile (Sketch.excludes place.after) = ⟨.sets ss, action, groups⟩ :: more) :
    ∃ u, Fires g (⟨id, captures⟩ :: below) place u action ∧ Fits ss u := by
  obtain ⟨rule, u, d, hrule, hfits, hu, hd, hfind⟩ :=
    exists_findSome?_sets ⟨id, captures⟩ hrules hss hks
  exact ⟨u, ⟨hu, _, hfind, hrule.action, rfl, hd⟩, hfits⟩

/-- **A text is matched next** if its rule is the first that is not excluded. -/
theorem Comes.matchText (hrules : List.Forall₂ Obeys ks (g.context id).rules) {s : String} {action : Action}
    {groups : List Nat} (hline : OneLine s.toList) (hs : s.toList ≠ [])
    (h : Comes g text n (s.toList ++ rest) (⟨id, captures⟩ :: below) events)
    (hks : ∀ more, ∃ others,
      ks.dropWhile (Sketch.excludes (s.toList ++ more)) = ⟨.text s, action, groups⟩ :: others) :
    ∃ texts, Comes g text (n + byteLength s.toList) rest
      (applyAction g n texts (⟨id, captures⟩ :: below) action).1
      ((applyAction g n texts (⟨id, captures⟩ :: below) action).2.reverse ++ events) := by
  have hss : s.toList.map CharSet.single ≠ [] := fun hnil => hs (List.map_eq_nil_iff.1 hnil)
  obtain ⟨u, action', rest', texts, ⟨rfl, rfl⟩, -, hrest, hnext⟩ :=
    h.fires (P := fun u action' => u = s.toList ∧ action' = action) (by
      intro place hplace
      rw [restOfLine_append_of_oneLine hline] at hplace
      obtain ⟨others, hks⟩ := hks (restOfLine rest)
      obtain ⟨u, hfires, hfits⟩ := fires_of_sets place captures below hrules hss
        (by rw [hplace]; exact hks)
      exact ⟨u, action, hfires, fits_single.1 hfits, rfl⟩)
  rw [← List.append_cancel_left hrest] at hnext
  exact ⟨texts, hnext⟩

/-- Rules that stay off some characters match without crossing them, or none does. -/
theorem fires_of_staysOff (hrules : List.Forall₂ Obeys ks (g.context id).rules) {xs : List Char} (hxs : xs ≠ [])
    (hks : ks.all (fun k => k.excludes place.after || k.staysOff xs) = true) :
    findMatch g (⟨id, captures⟩ :: below) place = none ∨
      ∃ u, Fires g (⟨id, captures⟩ :: below) place u .stay ∧ ∀ x ∈ xs, x ∉ u := by
  rcases stays_or_none ⟨id, captures⟩ hrules hxs hks with
    hnone | ⟨hit, u, hfind, haction, hfirst, hu, hpasses, hoff⟩
  · exact .inl hnone
  · exact .inr ⟨u, ⟨hu, hit, hfind, haction, hfirst, hpasses⟩, hoff⟩

/-- A text without a character that begins another ends before that character. -/
theorem exists_of_append_eq {c : Char} {v rest' : List Char} (hc : c ∉ u) (h : v ++ c :: rest = u ++ rest') :
    ∃ v', v = u ++ v' ∧ rest' = v' ++ c :: rest := by
  rcases List.append_eq_append_iff.1 h with ⟨w, rfl, hw⟩ | ⟨v', hv, hrest⟩
  · cases w with
    | nil => exact ⟨[], by simp, by simpa using hw.symm⟩
    | cons d w =>
      obtain ⟨rfl, -⟩ := List.cons_eq_cons.1 hw
      exact absurd (List.mem_append_right v List.mem_cons_self) hc
  · exact ⟨v', hv, hrest⟩

/-- **Text is passed without events** up to a character that all rules stay off which may match. -/
theorem Comes.pass (hrules : List.Forall₂ Obeys ks (g.context id).rules) {c : Char} {v : List Char}
    (hline : OneLine v) (hc : c ∉ v)
    (hks : ∀ d ∈ v, ∀ ds, ks.all (fun k => k.excludes (d :: ds) || k.staysOff [c]) = true)
    (h : Comes g text n (v ++ c :: rest) (⟨id, captures⟩ :: below) events) :
    Comes g text (n + byteLength v) (c :: rest) (⟨id, captures⟩ :: below) events := by
  induction hlength : v.length using Nat.strongRecOn generalizing v n with
  | ind length ih =>
    cases v with
    | nil => exact h
    | cons d v =>
      have hahead := restOfLine_append_of_oneLine hline (c :: rest)
      have hne : restOfLine (d :: v ++ c :: rest) ≠ [] := by
        rw [hahead]
        exact List.cons_ne_nil _ _
      obtain ⟨u, rest', hu, hune, -, hrest, hnext⟩ := h.moves hne (P := fun u => ∀ x ∈ [c], x ∉ u) (by
        intro place hplace
        rw [hahead, List.cons_append] at hplace
        exact fires_of_staysOff hrules (List.cons_ne_nil c []) (by rw [hplace]; exact hks d List.mem_cons_self _))
      -- what is passed lies before the character
      have hcu : c ∉ u := by
        rcases hu with ⟨e, rfl⟩ | hu
        · obtain ⟨rfl, -⟩ := List.cons_eq_cons.1 hrest
          exact fun hmem => hc (List.mem_singleton.1 hmem ▸ List.mem_cons_self)
        · exact hu c (List.mem_singleton_self c)
      obtain ⟨v', hv, rfl⟩ := exists_of_append_eq hcu hrest
      rw [hv] at hline hc hks hlength ⊢
      have hfewer : v'.length < length := by
        have hpos := List.length_pos_of_ne_nil hune
        rw [List.length_append] at hlength
        omega
      have hdone := ih _ hfewer hline.right (fun hmem => hc (List.mem_append_right u hmem))
        (fun e he => hks e (List.mem_append_right u he)) hnext rfl
      rwa [Nat.add_assoc, ← byteLength_append] at hdone

end

end Listfile.Highlight
