import Listfile.Proofs.Highlight.Resuming
import Listfile.Proofs.Highlight.Splitting
import Listfile.Proofs.Highlight.Walking
import Listfile.Proofs.Text.Lines

/-!
# Tokens and events in order

* `Token.WellFormed`: a token covers some text in the content of a line.
* `MatchesOnwards`: what is asked of the patterns of a grammar; `looksAhead` tells grammars that meet it.
* `Findings.Sorted`: what has been found up to an offset is well-formed and in order.
* `Sorted.apply`, `Walk.Sorted.move`, `sorted_highlightLines`: one rule, one step and whole lines keep it so.
* **`inOrder_highlight`**: tokens do not overlap, and tokens and events come in the order of their offsets.
-/

namespace Listfile.Highlight

open Grammar

variable {g : Grammar} {text : List Char}

/-! ### Well-formed tokens -/

/-- The token covers some text in the content of a line.  The scope of the grammar is the first of at least
two scopes. -/
structure Token.WellFormed (g : Grammar) (text : List Char) (t : Token) : Prop where
  nonempty : t.span.start < t.span.stop
  /-- It begins and ends between characters, and covers no line feed. -/
  covered : ∃ covered, t.span.slice? text = some covered ∧ '\n' ∉ covered
  /-- It keeps out of the ends of lines. -/
  line : ∃ before line after, splitLines text = before ++ line :: after ∧
    byteLength before.flatten ≤ t.span.start ∧
    t.span.stop ≤ byteLength before.flatten + byteLength (lineContent line)
  scopes : ∃ scope more, t.scopes = g.scope :: scope :: more

/-- What stands before a place in the content of a line, seen from the whole text. -/
theorem exists_of_line {before after : List (List Char)} {line : List Char}
    (hlines : splitLines text = before ++ line :: after) {c : Cursor} (hc : c.text = lineContent line) :
    ∃ rest, text = before.flatten ++ c.before.reverse ++ rest ∧ '\n' ∉ c.before.reverse := by
  obtain ⟨ending, hending⟩ := exists_lineContent line
  refine ⟨c.after ++ (ending ++ after.flatten), ?_, ?_⟩
  · have hline : line = c.before.reverse ++ c.after ++ ending := by
      rw [← Cursor.text, hc]
      exact hending
    rw [← flatten_splitLines text, hlines, List.flatten_append, List.flatten_cons, hline]
    simp only [List.append_assoc]
  · intro hmem
    have hline : line ∈ splitLines text := by
      rw [hlines]
      exact List.mem_append_right before List.mem_cons_self
    refine feed_notMem_lineContent hline ?_
    rw [← hc]
    exact List.mem_append_left _ hmem

/-- What stands between two places in the content of a line, seen from the whole text. -/
theorem exists_slice?_of_line {before after : List (List Char)} {line : List Char}
    (hlines : splitLines text = before ++ line :: after) {c d : Cursor} (hc : c.text = lineContent line)
    (hd : d.text = lineContent line) (hle : c.offset ≤ d.offset) :
    ∃ covered, (Span.mk (byteLength before.flatten + c.offset)
      (byteLength before.flatten + d.offset)).slice? text = some covered ∧ '\n' ∉ covered := by
  obtain ⟨covered, hbefore, -⟩ := Cursor.exists_between (hd.trans hc.symm) hle
  obtain ⟨rest, htext, hfeed⟩ := exists_of_line hlines hd
  rw [hbefore] at htext hfeed
  have hoffset : d.offset = c.offset + byteLength covered := by
    have hlength := congrArg byteLength hbefore
    rwa [byteLength_append, byteLength_reverse, byteLength_reverse, ← c.offset_eq, ← d.offset_eq]
      at hlength
  refine ⟨covered, slice?_eq_some_iff.2 ⟨before.flatten ++ c.before.reverse, rest, ?_, ?_, ?_⟩,
    fun hmem => hfeed (List.mem_append_right _ hmem)⟩
  · rw [htext]
    simp only [List.append_assoc]
  · rw [byteLength_append, byteLength_reverse, c.offset_eq]
  · rw [byteLength_append, byteLength_reverse, ← c.offset_eq, hoffset, Nat.add_assoc]

/-! ### Patterns that match onwards -/

/-- No match that a pattern of the grammar finds begins before the place where it was searched for. -/
def MatchesOnwards (g : Grammar) : Prop :=
  ∀ c ∈ g.contexts, ∀ rule ∈ c.rules, ∀ captures r, regexFor captures rule.pattern = some r →
    ∀ (place : Cursor) (whole : Capture) (groups : List (Option Capture)),
      r.search place = .found whole groups → place.offset ≤ whole.first.offset

/-- No pattern of the grammar looks at what stands before a place, or refers to what was captured. -/
def looksAhead (g : Grammar) : Bool :=
  g.contexts.all fun c => c.rules.all fun rule =>
    match rule.pattern with
    | .fixed _ r => !r.plan.goesBack
    | .backref _ => false

theorem matchesOnwards_of_looksAhead (h : looksAhead g = true) : MatchesOnwards g := by
  intro c hc rule hrule captures r hr place whole groups hsearch
  have hpattern := List.all_eq_true.1 (Array.all_eq_true'.1 h c hc) rule hrule
  cases hfixed : rule.pattern with
  | fixed source r' =>
    rw [hfixed] at hpattern hr
    cases hr
    exact offset_le_of_search (Bool.not_eq_eq_eq_not.1 hpattern) hsearch
  | backref source =>
    rw [hfixed] at hpattern
    cases hpattern

/-! ### Findings -/

/-- What has been found, the newest first, is well-formed, in order, and does not go beyond an offset. -/
structure Findings.Sorted (g : Grammar) (text : List Char) (bound : Nat) (f : Findings) : Prop where
  tokens : ∀ t ∈ f.tokens, t.WellFormed g text ∧ t.span.stop ≤ bound
  disjoint : f.tokens.Pairwise fun t s => s.span.stop ≤ t.span.start
  events : ∀ e ∈ f.events, e.offset ≤ bound
  ordered : f.events.Pairwise fun e d => d.offset ≤ e.offset

section
variable {f : Findings} {m n : Nat}

theorem Findings.sorted_empty (g : Grammar) (text : List Char) (bound : Nat) :
    Findings.Sorted g text bound ⟨[], []⟩ :=
  ⟨List.forall_mem_nil _, List.Pairwise.nil, List.forall_mem_nil _, List.Pairwise.nil⟩

theorem Findings.Sorted.mono (h : f.Sorted g text m) (hmn : m ≤ n) : f.Sorted g text n :=
  ⟨fun t ht => ⟨(h.tokens t ht).1, Nat.le_trans (h.tokens t ht).2 hmn⟩, h.disjoint,
    fun e he => Nat.le_trans (h.events e he) hmn, h.ordered⟩

/-- Tokens that follow each other and events at one offset are added behind what was found before. -/
theorem Findings.Sorted.add (h : f.Sorted g text m) {tokens : List Token} {events : List Event} {k : Nat}
    (hmk : m ≤ k) (hkn : k ≤ n)
    (htokens : ∀ t ∈ tokens, t.WellFormed g text ∧ m ≤ t.span.start ∧ t.span.stop ≤ n)
    (hdisjoint : tokens.Pairwise fun s t => s.span.stop ≤ t.span.start)
    (hevents : ∀ e ∈ events, e.offset = k) : (f.add tokens events).Sorted g text n := by
  have hmn : m ≤ n := Nat.le_trans hmk hkn
  refine ⟨?_, ?_, ?_, ?_⟩
  · refine List.forall_mem_append.2 ⟨?_, (h.mono hmn).tokens⟩
    intro t ht
    obtain ⟨hformed, -, hstop⟩ := htokens t (List.mem_reverse.1 ht)
    exact ⟨hformed, hstop⟩
  · refine List.pairwise_append.2 ⟨List.pairwise_reverse.2 hdisjoint, h.disjoint, ?_⟩
    intro t ht s hs
    exact Nat.le_trans (h.tokens s hs).2 (htokens t (List.mem_reverse.1 ht)).2.1
  · refine List.forall_mem_append.2 ⟨?_, (h.mono hmn).events⟩
    intro e he
    rw [hevents e (List.mem_reverse.1 he)]
    exact hkn
  · refine List.pairwise_append.2 ⟨List.pairwise_reverse.2 ?_, h.ordered, ?_⟩
    · refine List.pairwise_of_forall_mem_list ?_
      intro d hd e he
      exact Nat.le_of_eq ((hevents d hd).trans (hevents e he).symm)
    · intro e he d hd
      rw [hevents e (List.mem_reverse.1 he)]
      exact Nat.le_trans (h.events d hd) hmk

end

/-! ### One rule -/

theorem offset_of_mem_applyAction {offset : Nat} {texts : List (Option (List Char))} {stack : Stack}
    {action : Action} {e : Event} (h : e ∈ (applyAction g offset texts stack action).2) :
    e.offset = offset := by
  obtain ⟨left, kept, entered, -, -, happly⟩ := exists_of_applyAction g offset texts stack action
  rw [happly] at h
  rcases List.mem_append.1 h with h | h
  · obtain ⟨f, -, rfl⟩ := List.mem_map.1 h
    rfl
  · obtain ⟨f, -, rfl⟩ := List.mem_map.1 h
    rfl

section
variable {before after : List (List Char)} {line : List Char} {w v : Walk} {place : Cursor} {hit : Hit}

/-- A match is cut between characters of its line. -/
theorem exists_of_cutAt (hon : w.On line) (hplace : w.place = some place)
    (hmatch : findMatch g w.stack place = some hit) {n : Nat}
    (h : CutAt hit.whole.span (hit.captures.map fun c => c.map Capture.span) n) :
    ∃ c : Cursor, c.text = line ∧ c.offset = n := by
  obtain ⟨hwhole, -, hgroups⟩ := hon.captures hplace hmatch
  obtain ⟨span, hspan, hn⟩ := h
  have hcapture : ∃ c : Capture, c.In line ∧ span = c.span := by
    rcases hspan with rfl | hmem
    · exact ⟨hit.whole, hwhole, rfl⟩
    · obtain ⟨capture, hcapture, hmap⟩ := List.mem_map.1 hmem
      obtain ⟨c, rfl, rfl⟩ := Option.map_eq_some_iff.1 hmap
      rcases List.mem_cons.1 hcapture with hc | hc
      · cases hc
        exact ⟨hit.whole, hwhole, rfl⟩
      · exact ⟨c, hgroups c hc, rfl⟩
  obtain ⟨c, hc, rfl⟩ := hcapture
  rcases hn with rfl | rfl
  · exact ⟨c.first, hc.first, rfl⟩
  · exact ⟨c.last, hc.last, rfl⟩

/-- The tokens of a match are well-formed and lie within it. -/
theorem wellFormed_of_mem_segments (hlines : splitLines text = before ++ line :: after)
    (hon : w.On (lineContent line)) (hplace : w.place = some place)
    (hmatch : findMatch g w.stack place = some hit) {t : Token}
    (ht : t ∈ segments (byteLength before.flatten) (frontScopes g w.stack hit.rule.action) hit.rule
      hit.whole.span (hit.captures.map fun c => c.map Capture.span)) :
    t.WellFormed g text ∧ byteLength before.flatten + hit.whole.first.offset ≤ t.span.start ∧
      t.span.stop ≤ byteLength before.flatten + hit.whole.last.offset := by
  obtain ⟨hwhole, hle, -⟩ := hon.captures hplace hmatch
  obtain ⟨piece, more, rfl, hlength, hlt, hfirst, hlast, hcutFirst, hcutLast⟩ :=
    exists_of_mem_segments hle ht
  obtain ⟨c, hc, hcoffset⟩ := exists_of_cutAt hon hplace hmatch hcutFirst
  obtain ⟨d, hd, hdoffset⟩ := exists_of_cutAt hon hplace hmatch hcutLast
  refine ⟨⟨Nat.add_lt_add_left hlt _, ?_, ?_, ?_⟩, Nat.add_le_add_left hfirst _, Nat.add_le_add_left hlast _⟩
  · dsimp only
    rw [← hcoffset, ← hdoffset]
    exact exists_slice?_of_line hlines hc hd (by omega)
  · have hend := d.offset_le
    rw [hd, hdoffset] at hend
    exact ⟨before, line, after, hlines, Nat.le_add_right _ _, Nat.add_le_add_left hend _⟩
  · obtain ⟨scopes, hscopes⟩ := exists_frontScopes g w.stack hit.rule.action
    rw [hscopes, List.cons_append] at hlength ⊢
    have hne : scopes ++ more ≠ [] := by
      intro hnil
      rw [hnil] at hlength
      exact Nat.lt_irrefl _ hlength
    obtain ⟨scope, rest, hrest⟩ := List.exists_cons_of_ne_nil hne
    exact ⟨scope, rest, congrArg (g.scope :: ·) hrest⟩

/-- **A rule that is applied** adds its tokens and events behind what was found before its place. -/
theorem Findings.Sorted.apply (hlines : splitLines text = before ++ line :: after)
    (hon : w.On (lineContent line)) (hplace : w.place = some place)
    (hmatch : findMatch g w.stack place = some hit) (hstart : place.offset ≤ hit.whole.first.offset)
    (h : w.findings.Sorted g text (byteLength before.flatten + place.offset)) :
    (w.apply g (byteLength before.flatten) hit).findings.Sorted g text
      (byteLength before.flatten + hit.whole.last.offset) := by
  have hle := (hon.captures hplace hmatch).2.1
  refine h.add (Nat.add_le_add_left hstart _) (Nat.add_le_add_left hle _) ?_
    (pairwise_segments _ _ _ _ _) fun e he => offset_of_mem_applyAction he
  intro t ht
  obtain ⟨hformed, hfirst, hlast⟩ := wellFormed_of_mem_segments hlines hon hplace hmatch ht
  exact ⟨hformed, Nat.le_trans (Nat.add_le_add_left hstart _) hfirst, hlast⟩

/-! ### One step -/

/-- How far the walk has got on its line. -/
def Walk.reached (line : List Char) (w : Walk) : Nat :=
  match w.place with
  | some c => c.offset
  | none => byteLength line

/-- The walk is on its line, which begins at an offset, and what it has found is in order. -/
structure Walk.Sorted (g : Grammar) (text : List Char) (base : Nat) (line : List Char) (w : Walk) :
    Prop where
  on : w.On line
  findings : w.findings.Sorted g text (base + w.reached line)

theorem Walk.reached_le (h : w.On line) : w.reached line ≤ byteLength line := by
  unfold reached
  split
  · rename_i c hc
    rw [← h.text c hc]
    exact c.offset_le
  · exact Nat.le_refl _

/-- Going on by one character gets further. -/
theorem Walk.le_reached_of_next? (hon : w.On line) (hplace : w.place = some place)
    (hnext : v.place = place.next?.map (·.2)) : place.offset ≤ v.reached line := by
  unfold reached
  rw [hnext]
  cases hcase : place.next? with
  | none =>
    dsimp only [Option.map_none]
    rw [← hon.text place hplace]
    exact place.offset_le
  | some p =>
    dsimp only [Option.map_some]
    rw [(Cursor.offset_next? hcase).1]
    exact Nat.le_add_right _ _

/-- **A step of the walk** keeps what was found in order. -/
theorem Walk.Sorted.move (hg : MatchesOnwards g) (hlines : splitLines text = before ++ line :: after)
    (h : w.Sorted g text (byteLength before.flatten) (lineContent line)) (hplace : w.place = some place)
    (hmove : w.Moves g (byteLength before.flatten) place v) :
    v.Sorted g text (byteLength before.flatten) (lineContent line) := by
  have hreached : w.reached (lineContent line) = place.offset := by
    unfold reached
    rw [hplace]
  have hfindings := h.findings
  rw [hreached] at hfindings
  have hstart : ∀ {hit : Hit}, findMatch g w.stack place = some hit →
      place.offset ≤ hit.whole.first.offset := by
    intro hit hmatch
    obtain ⟨c, hc, hrule, captures, r, hr, hsearch⟩ := exists_of_findMatch hmatch
    exact hg c hc _ hrule captures r hr place _ _ hsearch
  refine ⟨h.on.move hplace hmove, ?_⟩
  cases hmove with
  | skip => exact hfindings.mono (Nat.add_le_add_left (le_reached_of_next? h.on hplace rfl) _)
  | forward hmatch => exact hfindings.apply hlines h.on hplace hmatch (hstart hmatch)
  | @stall hit hmatch hle =>
    refine (hfindings.apply hlines h.on hplace hmatch (hstart hmatch)).mono ?_
    have hkeep : reached (lineContent line) { w.apply g (byteLength before.flatten) hit with
        stalled := w.stalled + 1 } = place.offset := hreached
    rw [hkeep]
    exact Nat.add_le_add_left hle _
  | force hmatch hle =>
    refine (hfindings.apply hlines h.on hplace hmatch (hstart hmatch)).mono ?_
    exact Nat.add_le_add_left (Nat.le_trans hle (le_reached_of_next? h.on hplace rfl)) _

end

/-! ### Lines and texts -/

/-- What is found in the lines of a text is in order. -/
theorem sorted_highlightLines (hg : MatchesOnwards g) {before after : List (List Char)} {stack : Stack}
    {f : Findings} (hlines : splitLines text = before ++ after)
    (h : f.Sorted g text (byteLength before.flatten)) :
    (highlightLines g (byteLength before.flatten) after stack f).2.Sorted g text (byteLength text) := by
  induction after generalizing before stack f with
  | nil =>
    rw [List.append_nil] at hlines
    rwa [← hlines, flatten_splitLines] at h
  | cons line after ih =>
    have hstart : (Walk.start (lineContent line) stack f).Sorted g text (byteLength before.flatten)
        (lineContent line) := ⟨Walk.on_start _ _ _, h⟩
    have hrun := Walk.run_induction (g := g)
      (fun w place hw hplace => hw.move hg hlines hplace (Walk.moves_advance _ w place)) hstart
      (maxSteps (lineContent line).length)
    have hlength : byteLength (before ++ [line]).flatten = byteLength before.flatten + byteLength line := by
      rw [List.flatten_append, List.flatten_cons, List.flatten_nil, List.append_nil, byteLength_append]
    have hcontent : byteLength (lineContent line) ≤ byteLength line := by
      obtain ⟨ending, hending⟩ := exists_lineContent line
      rw [congrArg byteLength hending, byteLength_append]
      exact Nat.le_add_right _ _
    have hline := hrun.findings.mono (Nat.add_le_add_left
      (Nat.le_trans (Walk.reached_le hrun.on) hcontent) (byteLength before.flatten))
    rw [highlightLines, ← hlength]
    rw [← hlength] at hline
    refine ih ?_ hline
    rw [List.append_assoc]
    exact hlines

/-- Tokens are well-formed and do not overlap, events lie in the text, and both are in order. -/
structure Highlighted.InOrder (g : Grammar) (text : List Char) (h : Highlighted) : Prop where
  tokens : ∀ t ∈ h.tokens, t.WellFormed g text
  /-- No token begins before the previous one ends. -/
  disjoint : h.tokens.Pairwise fun s t => s.span.stop ≤ t.span.start
  events : ∀ e ∈ h.events, e.offset ≤ byteLength text
  ordered : h.events.Pairwise fun d e => d.offset ≤ e.offset

/-- **Highlighting a text results in well-formed tokens and events in order**, if no pattern of the grammar
matches before the place where it is searched for. -/
theorem inOrder_highlight (h : MatchesOnwards g) (text : List Char) :
    (highlight g text).InOrder g text := by
  have hlines : splitLines text = [] ++ splitLines text := rfl
  have hsorted : (highlightLines g 0 (splitLines text) (.initial g) ⟨[], []⟩).2.Sorted g text
      (byteLength text) := sorted_highlightLines h hlines (Findings.sorted_empty g text _)
  have hfrom : highlight g text = highlightFrom g (.initial g) text := Session.highlight_eq _ _
  rw [hfrom]
  refine ⟨?_, List.pairwise_reverse.2 hsorted.disjoint, ?_, List.pairwise_reverse.2 hsorted.ordered⟩
  · intro t ht
    exact (hsorted.tokens t (List.mem_reverse.1 ht)).1
  · intro e he
    exact hsorted.events e (List.mem_reverse.1 he)

/-- Names between marks, of which the first letter has a scope of its own. -/
def marked : Definition :=
  ⟨"", "source", [], false, [], [("main", [.rule "<" none [] (some (.named "name")) none false]),
    ("name", [.about (some "name") none none, .rule "([a-z])[a-z]*" none [(1, "first")] none none false,
      .rule ">" none [] none none true])]⟩

/-- Tokens on two lines with different ends, behind characters of more than one byte. -/
theorem inOrder_highlight_marked :
    ∃ g, marked.compile = .ok g ∧ MatchesOnwards g ∧
      (highlight g ['é', '<', 'a', 'b', '>', '\r', '\n', '<', 'c']).tokens.length = 6 ∧
      (highlight g ['é', '<', 'a', 'b', '>', '\r', '\n', '<', 'c']).InOrder g
        ['é', '<', 'a', 'b', '>', '\r', '\n', '<', 'c'] := by
  have hchecked : marked.compile.toOption.map (fun g => (looksAhead g,
      (highlight g ['é', '<', 'a', 'b', '>', '\r', '\n', '<', 'c']).tokens.length)) = some (true, 6) := by
    decide +kernel
  cases hcompile : marked.compile with
  | error e =>
    rw [hcompile] at hchecked
    cases hchecked
  | ok g =>
    rw [hcompile] at hchecked
    obtain ⟨hahead, hlength⟩ := Prod.mk.inj (Option.some.inj hchecked)
    have hg := matchesOnwards_of_looksAhead hahead
    exact ⟨g, rfl, hg, hlength, inOrder_highlight hg _⟩

end Listfile.Highlight
