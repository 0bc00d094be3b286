import Listfile.Highlight.Journal
import Listfile.Proofs.Grammar.Naming
import Listfile.Proofs.Highlight.Resuming
import Listfile.Proofs.Highlight.Walking

/-!
# The journal of events

Whoever reads the events from first to last knows at any time which contexts are open.

* `replay_left`, `replay_entered`: leaving and entering contexts is read back from the events.
* `Journal`: the events so far tell how the stack came about.
* `Walk.LeavesInitial`: a step leaves the context in which the text began.
* **`replay_highlight`**: the events lead from `main` to the contexts that are open at the end.  They are
  nested unless the context in which the text began has itself been left.
-/

namespace Listfile.Highlight

open Grammar

variable {g : Grammar}

/-! ### Reading events -/

theorem replay_append (events more : List Event) (contexts : List String) :
    replay (events ++ more) contexts = (replay events contexts).bind (replay more) :=
  List.foldlM_append

/-- What is open below does not matter to events that only leave what they entered. -/
theorem Event.replay_below {e : Event} {contexts after : List String} (h : e.replay contexts = some after)
    (below : List String) : e.replay (contexts ++ below) = some (after ++ below) := by
  unfold Event.replay at h ⊢
  cases hkind : e.kind with
  | push =>
    rw [hkind] at h
    cases h
    rfl
  | pop =>
    rw [hkind] at h
    cases contexts with
    | nil => cases h
    | cons top contexts =>
      dsimp only at h
      split at h
      · rename_i htop
        cases h
        exact if_pos htop
      · cases h

theorem replay_below {events : List Event} {contexts after : List String}
    (h : replay events contexts = some after) (below : List String) :
    replay events (contexts ++ below) = some (after ++ below) := by
  induction events generalizing contexts with
  | nil =>
    cases h
    rfl
  | cons e events ih =>
    obtain ⟨between, he, hevents⟩ := Option.bind_eq_some_iff.1 h
    exact Option.bind_eq_some_iff.2 ⟨between ++ below, Event.replay_below he below, ih hevents⟩

/-! ### Contexts that are open -/

/-- The names of the contexts on a stack, the innermost first. -/
def Stack.names (g : Grammar) (s : Stack) : List String := s.map fun f => (g.context f.context).name

theorem Stack.names_append (s t : Stack) : names g (s ++ t) = names g s ++ names g t := List.map_append

theorem Stack.contextNames_eq (s : Stack) : s.contextNames g = (s.names g).reverse := by
  unfold contextNames contextIds names
  rw [List.map_reverse, List.map_map]
  rfl

theorem replay_left (offset : Nat) (left : List Frame) (kept : Stack) :
    replay (left.map (.leaving g offset)) (Stack.names g (left ++ kept)) = some (kept.names g) := by
  induction left with
  | nil => rfl
  | cons f left ih =>
    have hf : (Event.leaving g offset f).replay (Stack.names g (f :: left ++ kept))
        = some (Stack.names g (left ++ kept)) := if_pos rfl
    exact Option.bind_eq_some_iff.2 ⟨_, hf, ih⟩

theorem replay_entered (offset : Nat) (entered : List Frame) (kept : Stack) :
    replay (entered.map (.entering g offset)) (kept.names g)
      = some (Stack.names g (entered.reverse ++ kept)) := by
  induction entered generalizing kept with
  | nil => rfl
  | cons f entered ih =>
    rw [List.reverse_cons, List.append_assoc]
    exact ih (f :: kept)

/-! ### The context in which a text begins -/

/-- The context in which a text begins.  No match has entered it, so it captures nothing. -/
def Frame.initial (g : Grammar) : Frame := ⟨g.main, []⟩

/-- A step leaves the context in which the text began. -/
def Walk.LeavesInitial (g : Grammar) (base : Nat) (w : Walk) : Prop :=
  ∃ place, w.place = some place ∧ .initial g ∈ w.stack ∧ .initial g ∉ (w.advance g base place).stack

theorem texts_ne_nil (h : Hit) : h.texts ≠ [] := List.cons_ne_nil _ _

theorem initial_notMem_of_captures {s : List Frame} (h : ∀ f ∈ s, f.captures ≠ []) : .initial g ∉ s :=
  fun hmem => h _ hmem rfl

/-- The context in which the text began is not entered again. -/
theorem initial_notMem_advance {base : Nat} {w : Walk} {place : Cursor} (h : .initial g ∉ w.stack) :
    .initial g ∉ (w.advance g base place).stack := by
  rcases (Walk.moves_advance (g := g) base w place).stack_findings with ⟨hstack, -⟩ | ⟨hit, -, hstack, -⟩
  · rw [hstack]
    exact h
  · obtain ⟨left, kept, entered, hw, hentered, happly⟩ :=
      exists_of_applyAction g (base + hit.whole.span.start) hit.texts w.stack hit.rule.action
    have hnew : ∀ f ∈ entered.reverse, f.captures ≠ [] := by
      intro f hf
      rw [hentered f (List.mem_reverse.1 hf)]
      exact texts_ne_nil hit
    rw [hstack]
    unfold Walk.apply
    dsimp only
    rw [happly]
    rw [hw] at h
    intro hmem
    rcases List.mem_append.1 hmem with hmem | hmem
    · exact initial_notMem_of_captures hnew hmem
    · exact h (List.mem_append_right left hmem)

theorem initial_notMem_highlightLines {base : Nat} {lines : List (List Char)} {stack : Stack}
    {f : Findings} (h : .initial g ∉ stack) : .initial g ∉ (highlightLines g base lines stack f).1 :=
  highlightLines_induction (I := fun stack _ => .initial g ∉ stack)
    (fun _ _ _ h => initial_notMem_advance h) h base lines

/-! ### The events so far -/

/-- The events so far, the oldest first, tell how the stack came about. -/
inductive Journal (g : Grammar) : Stack → List Event → Prop
  /-- The context in which the text began is still open. -/
  | within {above : Stack} {events : List Event} (hnew : ∀ f ∈ above, f.captures ≠ [])
    (hevents : replay events [] = some (above.names g)) : Journal g (above ++ .initial g) events
  /-- It has been left. -/
  | beyond {stack : Stack} {events : List Event} (hnew : ∀ f ∈ stack, f.captures ≠ [])
    (hevents : replay events ((Stack.initial g).names g) = some (stack.names g))
    (hnested : replay events [] = none) : Journal g stack events

namespace Journal

variable {stack : Stack} {events : List Event}

theorem replay_eq (h : Journal g stack events) :
    replay events ((Stack.initial g).names g) = some (stack.names g) := by
  cases h with
  | @within above _ hnew hevents =>
    rw [Stack.names_append]
    exact replay_below hevents _
  | beyond _ hevents => exact hevents

/-- The events are nested as long as the context in which the text began is open. -/
theorem isNested_eq_false_iff (h : Journal g stack events) :
    isNested events = false ↔ .initial g ∉ stack := by
  unfold isNested
  cases h with
  | @within above _ hnew hevents =>
    rw [hevents]
    have hmem : Frame.initial g ∈ above ++ Stack.initial g :=
      List.mem_append_right above List.mem_cons_self
    exact ⟨(by rintro ⟨⟩), fun h => absurd hmem h⟩
  | beyond hnew _ hnested =>
    rw [hnested]
    exact ⟨fun _ => initial_notMem_of_captures hnew, fun _ => rfl⟩

/-- A rule that is applied goes into the journal. -/
theorem applyAction (h : Journal g stack events) (offset : Nat) {texts : List (Option (List Char))}
    (htexts : texts ≠ []) (action : Action) :
    Journal g (Highlight.applyAction g offset texts stack action).1
      (events ++ (Highlight.applyAction g offset texts stack action).2) := by
  obtain ⟨left, kept, entered, hstack, hentered, happly⟩ :=
    exists_of_applyAction g offset texts stack action
  have hnew : ∀ f ∈ entered.reverse, f.captures ≠ [] := by
    intro f hf
    rw [hentered f (List.mem_reverse.1 hf)]
    exact htexts
  -- Reading on from where the events so far led to, whatever that was.
  have hon : ∀ {kept : Stack} {contexts : List String},
      replay events contexts = some (Stack.names g (left ++ kept)) →
      replay (events ++ (left.map (.leaving g offset) ++ entered.map (.entering g offset))) contexts
        = some (Stack.names g (entered.reverse ++ kept)) := by
    intro kept contexts hreplay
    rw [replay_append, hreplay, Option.bind_some, replay_append, replay_left, Option.bind_some,
      replay_entered]
  have hall := h.replay_eq
  rw [happly]
  cases h with
  | @within above _ habove hevents =>
    have hcases : (∃ more, above = left ++ more ∧ kept = more ++ Stack.initial g) ∨
        (left = above ++ Stack.initial g ∧ kept = []) := by
      rcases List.append_eq_append_iff.1 hstack with ⟨last, hleft, hlast⟩ | ⟨more, habove, hkept⟩
      · rcases List.append_eq_singleton_iff.1 hlast.symm with ⟨rfl, hkept⟩ | ⟨rfl, hkept⟩
        · exact .inl ⟨[], by rw [hleft, List.append_nil, List.append_nil], hkept⟩
        · exact .inr ⟨hleft, hkept⟩
      · exact .inl ⟨more, habove, hkept⟩
    rcases hcases with ⟨more, rfl, rfl⟩ | ⟨rfl, rfl⟩
    · rw [← List.append_assoc]
      refine .within ?_ (hon hevents)
      exact List.forall_mem_append.2 ⟨hnew, (List.forall_mem_append.1 habove).2⟩
    · -- the last context to be left is not one that the events have entered
      rw [List.append_nil]
      refine .beyond hnew ?_ ?_
      · rw [hstack] at hall
        have hentered := hon hall
        rwa [List.append_nil] at hentered
      · have hleft := replay_left (g := g) offset above []
        rw [List.append_nil] at hleft
        rw [replay_append, hevents, Option.bind_some, List.map_append, List.append_assoc, replay_append,
          hleft]
        rfl
  | beyond hold hevents hnested =>
    rw [hstack] at hold hevents
    refine .beyond ?_ (hon hevents) ?_
    · exact List.forall_mem_append.2 ⟨hnew, (List.forall_mem_append.1 hold).2⟩
    · rw [replay_append, hnested]
      rfl

/-- The journal is kept at every step. -/
theorem advance {base : Nat} {w : Walk} {place : Cursor} (h : Journal g w.stack w.findings.events.reverse) :
    Journal g (w.advance g base place).stack (w.advance g base place).findings.events.reverse := by
  rcases (Walk.moves_advance (g := g) base w place).stack_findings with
    ⟨hstack, hfindings⟩ | ⟨hit, -, hstack, hfindings⟩
  · rw [hstack, hfindings]
    exact h
  · rw [hstack, hfindings]
    unfold Walk.apply Findings.add
    dsimp only
    rw [List.reverse_append, List.reverse_reverse]
    exact h.applyAction _ (texts_ne_nil hit) _

theorem highlightLines {f : Findings} (h : Journal g stack f.events.reverse) (base : Nat)
    (lines : List (List Char)) :
    Journal g (Highlight.highlightLines g base lines stack f).1
      (Highlight.highlightLines g base lines stack f).2.events.reverse :=
  highlightLines_induction (I := fun stack f => Journal g stack f.events.reverse)
    (fun _ _ _ h => h.advance) h base lines

end Journal

/-! ### Whole texts -/

/-- The context in which the text began is open after any lines unless a step has left it. -/
theorem initial_mem_of_not_leaves {text : List Char}
    (h : ∀ base w, Visits g text base w → ¬w.LeavesInitial g base) {before after : List (List Char)}
    (hlines : splitLines text = before ++ after) :
    .initial g ∈ (highlightLines g 0 before (.initial g) ⟨[], []⟩).1 := by
  induction before using List.reverseRecOn generalizing after with
  | nil => exact List.mem_cons_self
  | append_singleton before line ih =>
    rw [List.append_assoc] at hlines
    have hbegin := ih hlines
    have hkeep : ∀ (w : Walk) (place : Cursor),
        (Visits g text (byteLength before.flatten) w ∧ .initial g ∈ w.stack) → w.place = some place →
        Visits g text (byteLength before.flatten) (w.advance g (byteLength before.flatten) place) ∧
          .initial g ∈ (w.advance g (byteLength before.flatten) place).stack := by
      rintro w place ⟨hvisits, hmem⟩ hplace
      refine ⟨hvisits.step hplace, ?_⟩
      by_contra hleft
      exact h _ w hvisits ⟨place, hplace, hmem, hleft⟩
    rw [highlightLines_append, Nat.zero_add]
    exact (Walk.run_induction hkeep ⟨.line hlines rfl .refl, hbegin⟩ _).2

/-- Once a step has left it, it is not open any more. -/
theorem initial_notMem_of_leaves {text : List Char} {base : Nat} {w : Walk} (hvisits : Visits g text base w)
    (h : w.LeavesInitial g base) :
    .initial g ∉ (highlightLines g 0 (splitLines text) (.initial g) ⟨[], []⟩).1 := by
  obtain ⟨place, hplace, -, hleft⟩ := h
  cases hvisits with
  | @line before after line hlines hbase hwalk =>
    obtain ⟨n, hn⟩ := (hwalk.step hplace).exists_run_eq (place_highlightLine _ _ _ _)
    have hgone : ∀ (w : Walk) (place : Cursor), .initial g ∉ w.stack → w.place = some place →
        .initial g ∉ (w.advance g base place).stack := fun _ _ h _ => initial_notMem_advance h
    have hend := Walk.run_induction hgone hleft n
    rw [hn] at hend
    rw [hlines, highlightLines_append, Nat.zero_add, ← hbase, highlightLines]
    exact initial_notMem_highlightLines hend

/-- **The events are a journal of the stack.**  Read in order from `main` on, no event leaves another
context than the innermost, and the last one leads to the contexts that are open at the end.  The events
are not nested exactly if some step leaves the context in which the text began. -/
theorem replay_highlight {d : Definition} (h : d.compile = .ok g) (text : List Char) :
    replay (highlight g text).events ["main"] = some (highlight g text).openContexts.reverse ∧
      (isNested (highlight g text).events = false ↔
        ∃ base w, Visits g text base w ∧ w.LeavesInitial g base) := by
  have hstart : Journal g (.initial g) [] := @Journal.within g [] [] (List.forall_mem_nil _) rfl
  have hjournal : Journal g (highlightLines g 0 (splitLines text) (.initial g) ⟨[], []⟩).1
      (highlightLines g 0 (splitLines text) (.initial g) ⟨[], []⟩).2.events.reverse :=
    Journal.highlightLines hstart _ _
  have hmain : (Stack.initial g).names g = ["main"] := congrArg ([·]) (name_main h)
  have hfrom : highlight g text = highlightFrom g (.initial g) text := Session.highlight_eq _ _
  rw [hfrom]
  unfold highlightFrom
  dsimp only
  constructor
  · rw [Stack.contextNames_eq, List.reverse_reverse, ← hmain]
    exact hjournal.replay_eq
  · rw [hjournal.isNested_eq_false_iff]
    constructor
    · intro hleft
      by_contra hnone
      have hlines : splitLines text = splitLines text ++ [] := (List.append_nil _).symm
      refine hleft (initial_mem_of_not_leaves ?_ hlines)
      exact fun base w hvisits hleaves => hnone ⟨base, w, hvisits, hleaves⟩
    · rintro ⟨base, w, hvisits, hleaves⟩
      exact initial_notMem_of_leaves hvisits hleaves

/-- The context `main` is entered, left and set anew, and after the last step it is no longer the one in
which the text began. -/
theorem replay_highlight_threeActions :
    ∃ g, threeActions.compile = .ok g ∧
      replay (highlight g ['a', 'b', 'b', '\n', 'c', 'a']).events ["main"]
        = some (highlight g ['a', 'b', 'b', '\n', 'c', 'a']).openContexts.reverse ∧
      ∃ base w, Visits g ['a', 'b', 'b', '\n', 'c', 'a'] base w ∧ w.LeavesInitial g base := by
  have hnested : threeActions.compile.toOption.map
      (fun g => isNested (highlight g ['a', 'b', 'b', '\n', 'c', 'a']).events) = some false := by
    decide +kernel
  cases hcompile : threeActions.compile with
  | error e =>
    rw [hcompile] at hnested
    cases hnested
  | ok g =>
    rw [hcompile] at hnested
    obtain ⟨hreplay, hleft⟩ := replay_highlight hcompile ['a', 'b', 'b', '\n', 'c', 'a']
    exact ⟨g, rfl, hreplay, hleft.1 (Option.some.inj hnested)⟩

end Listfile.Highlight
