import Listfile.Proofs.Highlight.Emitting
import Listfile.Proofs.Highlight.Reaching
import Listfile.Proofs.Text.Returns

/-!
# How lines end does not matter

Rules only see the content of a line.  So whether lines end with a line feed alone or with a carriage return
before it makes no difference but for offsets.

* `Findings.On`, `on_highlightLine`: what is found in a line by itself lies between its characters.
* `highlightLine_eq_relocate`: what is found in a line behind others is what is found in it by itself.
* `within_highlightLines`: what is found lies between characters, and no token covers the end of a line.
* `Highlighted.mapOffsets`: what was found in a text, at other offsets.
* **`highlight_withReturns`**: the same is found in a text with carriage returns, at other offsets.
-/

namespace Listfile.Highlight

open Grammar

variable {g : Grammar} {text : List Char}

/-! ### Lines by themselves -/

/-- What has been found lies between characters of a line that begins at offset zero. -/
structure Findings.On (line : List Char) (f : Findings) : Prop where
  tokens : ∀ t ∈ f.tokens, ∃ c d : Cursor, c.text = line ∧ d.text = line ∧ c.offset ≤ d.offset ∧
    t.span = ⟨c.offset, d.offset⟩
  events : ∀ e ∈ f.events, ∃ c : Cursor, c.text = line ∧ e.offset = c.offset

section
variable {line : List Char} {w v : Walk} {place : Cursor}

theorem Findings.On.apply (hon : w.On line) (hplace : w.place = some place) {hit : Hit}
    (hmatch : findMatch g w.stack place = some hit) (h : w.findings.On line) :
    (w.apply g 0 hit).findings.On line := by
  obtain ⟨hwhole, hle, -⟩ := hon.captures hplace hmatch
  constructor
  · intro t ht
    rcases List.mem_append.1 ht with ht | ht
    · obtain ⟨piece, more, rfl, -, hlt, -, -, hfirst, hlast⟩ :=
        exists_of_mem_segments hle (List.mem_reverse.1 ht)
      obtain ⟨c, hc, hcoffset⟩ := exists_of_cutAt hon hplace hmatch hfirst
      obtain ⟨d, hd, hdoffset⟩ := exists_of_cutAt hon hplace hmatch hlast
      refine ⟨c, d, hc, hd, by omega, ?_⟩
      rw [hcoffset, hdoffset, Nat.zero_add, Nat.zero_add]
    · exact h.tokens t ht
  · intro e he
    rcases List.mem_append.1 he with he | he
    · refine ⟨hit.whole.first, hwhole.first, ?_⟩
      rw [offset_of_mem_applyAction (List.mem_reverse.1 he), Nat.zero_add]
      rfl
    · exact h.events e he

/-- A step only finds what lies on the line. -/
theorem Findings.On.move (hon : w.On line) (hplace : w.place = some place) (h : w.findings.On line)
    (hmove : w.Moves g 0 place v) : v.findings.On line := by
  cases hmove with
  | skip => exact h
  | forward hmatch => exact h.apply hon hplace hmatch
  | stall hmatch => exact h.apply hon hplace hmatch
  | force hmatch => exact h.apply hon hplace hmatch

end

/-- **What is found in a line by itself** lies between its characters. -/
theorem on_highlightLine (g : Grammar) (line : List Char) (stack : Stack) :
    (highlightLine g 0 line stack ⟨[], []⟩).2.On line := by
  have hstart : (Walk.start line stack ⟨[], []⟩).On line ∧
      (Walk.start line stack ⟨[], []⟩).findings.On line :=
    ⟨Walk.on_start _ _ _, List.forall_mem_nil _, List.forall_mem_nil _⟩
  have hrun := Walk.run_induction (g := g) (I := fun w => w.On line ∧ w.findings.On line)
    (fun w place hw hplace => ⟨hw.1.advance hplace, hw.2.move hw.1 hplace (Walk.moves_advance 0 w place)⟩)
    hstart (maxSteps line.length)
  exact hrun.2

/-- What is found in a line behind others is what is found in it by itself, further on. -/
theorem highlightLine_eq_relocate (base : Nat) (line : List Char) (stack : Stack) (f : Findings) :
    highlightLine g base line stack f
      = ((highlightLine g 0 line stack ⟨[], []⟩).1,
        (highlightLine g 0 line stack ⟨[], []⟩).2.relocate base f) :=
  highlightLine_relocate base f 0 line stack ⟨[], []⟩

/-! ### What tokens cover -/

/-- What has been found lies between characters of the text, and tokens cover no line feed. -/
structure Findings.Within (text : List Char) (f : Findings) : Prop where
  tokens : ∀ t ∈ f.tokens, ∃ covered, t.span.slice? text = some covered ∧ '\n' ∉ covered
  events : ∀ e ∈ f.events, ∃ before, takeBytes e.offset text = some before

theorem Findings.Within.relocate {before after : List (List Char)} {line : List Char} {f old : Findings}
    (hlines : splitLines text = before ++ line :: after) (hf : f.On (lineContent line))
    (hold : old.Within text) : (f.relocate (byteLength before.flatten) old).Within text := by
  constructor
  · intro t ht
    rcases List.mem_append.1 ht with ht | ht
    · obtain ⟨s, hs, rfl⟩ := List.mem_map.1 ht
      obtain ⟨c, d, hc, hd, hle, hspan⟩ := hf.tokens s hs
      rw [Token.shift, hspan]
      exact exists_slice?_of_line hlines hc hd hle
    · exact hold.tokens t ht
  · intro e he
    rcases List.mem_append.1 he with he | he
    · obtain ⟨d, hd, rfl⟩ := List.mem_map.1 he
      obtain ⟨c, hc, hoffset⟩ := hf.events d hd
      obtain ⟨rest, htext, -⟩ := exists_of_line hlines hc
      refine ⟨before.flatten ++ c.before.reverse, takeBytes_eq_some_iff.2 ⟨rest, htext, ?_⟩⟩
      rw [byteLength_append, byteLength_reverse, Event.shift, hoffset, c.offset_eq]
    · exact hold.events e he

/-- What is found in the lines of a text lies between its characters. -/
theorem within_highlightLines {before after : List (List Char)} {stack : Stack} {f : Findings}
    (hlines : splitLines text = before ++ after) (h : f.Within text) :
    (highlightLines g (byteLength before.flatten) after stack f).2.Within text := by
  induction after generalizing before stack f with
  | nil => exact h
  | cons line after ih =>
    have hbase : byteLength before.flatten + byteLength line = byteLength (before ++ [line]).flatten := by
      simp
    rw [highlightLines, highlightLine_eq_relocate, hbase]
    exact ih (by simpa using hlines) (h.relocate hlines (on_highlightLine g _ _))

/-! ### Other offsets -/

/-- The token, with other offsets. -/
def Token.mapOffsets (m : Nat → Nat) (t : Token) : Token := { t with span := ⟨m t.span.start, m t.span.stop⟩ }

/-- The event, with another offset. -/
def Event.mapOffset (m : Nat → Nat) (e : Event) : Event := { e with offset := m e.offset }

/-- The findings, with other offsets. -/
def Findings.mapOffsets (m : Nat → Nat) (f : Findings) : Findings :=
  ⟨f.tokens.map (·.mapOffsets m), f.events.map (·.mapOffset m)⟩

/-- What was found in a text, with other offsets. -/
def Highlighted.mapOffsets (m : Nat → Nat) (h : Highlighted) : Highlighted :=
  ⟨h.tokens.map (·.mapOffsets m), h.events.map (·.mapOffset m), h.openContexts⟩

section
variable {before after : List (List Char)} {line : List Char}

/-- A place in a line is as far behind its start if there are carriage returns before it. -/
theorem behindReturns_of_line (hlines : splitLines text = before ++ line :: after) {c : Cursor}
    (hc : c.text = lineContent line) :
    behindReturns text (byteLength before.flatten + c.offset)
      = byteLength (withReturns before.flatten) + c.offset := by
  obtain ⟨rest, htext, hfeed⟩ := exists_of_line hlines hc
  have hoffset : byteLength before.flatten + c.offset
      = byteLength (before.flatten ++ c.before.reverse) := by
    rw [byteLength_append, byteLength_reverse, c.offset_eq]
  rw [hoffset, htext, behindReturns_append, withReturns_append, withReturns_of_notMem hfeed,
    byteLength_append, byteLength_reverse, ← c.offset_eq]

theorem Findings.relocate_mapOffsets {f : Findings} (hf : f.On (lineContent line))
    (hlines : splitLines text = before ++ line :: after) (old : Findings) :
    f.relocate (byteLength (withReturns before.flatten)) (old.mapOffsets (behindReturns text))
      = (f.relocate (byteLength before.flatten) old).mapOffsets (behindReturns text) := by
  have htokens : f.tokens.map (·.shift (byteLength (withReturns before.flatten)))
      = (f.tokens.map (·.shift (byteLength before.flatten))).map (·.mapOffsets (behindReturns text)) := by
    rw [List.map_map]
    refine List.map_congr_left fun t ht => ?_
    obtain ⟨c, d, hc, hd, -, hspan⟩ := hf.tokens t ht
    show Token.shift _ t = (Token.shift _ t).mapOffsets _
    rw [Token.shift, Token.shift, Token.mapOffsets, hspan, behindReturns_of_line hlines hc,
      behindReturns_of_line hlines hd]
  have hevents : f.events.map (·.shift (byteLength (withReturns before.flatten)))
      = (f.events.map (·.shift (byteLength before.flatten))).map (·.mapOffset (behindReturns text)) := by
    rw [List.map_map]
    refine List.map_congr_left fun e he => ?_
    obtain ⟨c, hc, hoffset⟩ := hf.events e he
    show Event.shift _ e = (Event.shift _ e).mapOffset _
    rw [Event.shift, Event.shift, Event.mapOffset, hoffset, behindReturns_of_line hlines hc]
  rw [relocate, relocate, mapOffsets, mapOffsets, htokens, hevents, List.map_append, List.map_append]

/-- Lines with carriage returns are highlighted like the lines without. -/
theorem highlightLines_withReturns (hreturn : '\r' ∉ text) (hlines : splitLines text = before ++ after)
    (stack : Stack) (f : Findings) :
    highlightLines g (byteLength (withReturns before.flatten)) (after.map withReturns) stack
        (f.mapOffsets (behindReturns text))
      = ((highlightLines g (byteLength before.flatten) after stack f).1,
        (highlightLines g (byteLength before.flatten) after stack f).2.mapOffsets (behindReturns text)) := by
  induction after generalizing before stack f with
  | nil => rfl
  | cons line after ih =>
    have hline : line ∈ splitLines text := by
      rw [hlines]
      exact List.mem_append_right before List.mem_cons_self
    have hno : '\r' ∉ line := by
      intro hmem
      refine hreturn ?_
      rw [← flatten_splitLines text]
      exact List.mem_flatten_of_mem hline hmem
    have hbase : byteLength before.flatten + byteLength line = byteLength (before ++ [line]).flatten := by
      simp
    have hbase' : byteLength (withReturns before.flatten) + byteLength (withReturns line)
        = byteLength (withReturns (before ++ [line]).flatten) := by
      simp
    rw [List.map_cons, highlightLines, highlightLines, lineContent_withReturns hline hno,
      highlightLine_eq_relocate, highlightLine_eq_relocate (byteLength before.flatten),
      Findings.relocate_mapOffsets (on_highlightLine g _ _) hlines, hbase, hbase']
    exact ih (by simpa using hlines) _ _

end

/-! ### Texts -/

/-- **How lines end does not matter.**  Put a carriage return before every line feed of a text that has none.
Then the same tokens and events are found in the same order and the same contexts are open at the end; an offset
only grows by the number of line feeds before it.  Offsets lie between characters, and tokens cover the same. -/
theorem highlight_withReturns (g : Grammar) {text : List Char} (h : '\r' ∉ text) :
    highlight g (withReturns text) = (highlight g text).mapOffsets (behindReturns text) ∧
      (∀ t ∈ (highlight g text).tokens, ∃ covered, t.span.slice? text = some covered ∧
        (t.mapOffsets (behindReturns text)).span.slice? (withReturns text) = some covered) ∧
      ∀ e ∈ (highlight g text).events, ∃ before, takeBytes e.offset text = some before := by
  have hfrom : ∀ s, highlight g s = highlightFrom g (.initial g) s := fun s => Session.highlight_eq _ s
  have hlines : splitLines text = [] ++ splitLines text := rfl
  have hwithin : (highlightLines g 0 (splitLines text) (.initial g) ⟨[], []⟩).2.Within text :=
    within_highlightLines hlines ⟨List.forall_mem_nil _, List.forall_mem_nil _⟩
  refine ⟨?_, ?_, ?_⟩
  · have hreturned : highlightLines g 0 ((splitLines text).map withReturns) (.initial g) ⟨[], []⟩ = _ :=
      highlightLines_withReturns h hlines (.initial g) ⟨[], []⟩
    rw [hfrom, hfrom, highlightFrom, highlightFrom, splitLines_withReturns, hreturned]
    simp [Findings.mapOffsets, Highlighted.mapOffsets, List.map_reverse]
  · intro t ht
    rw [hfrom] at ht
    obtain ⟨covered, hslice, hfeed⟩ := hwithin.tokens t (List.mem_reverse.1 ht)
    exact ⟨covered, hslice, slice?_withReturns hslice hfeed⟩
  · intro e he
    rw [hfrom] at he
    exact hwithin.events e (List.mem_reverse.1 he)

/-- Characters of more than one byte, an empty line, and a name that goes on to the next line. -/
theorem highlight_withReturns_marked :
    ∃ g, marked.compile = .ok g ∧ '\r' ∉ ['é', '<', 'a', 'b', '\n', '\n', 'c', '>', '<', 'd'] ∧
      (highlight g ['é', '<', 'a', 'b', '\n', '\n', 'c', '>', '<', 'd']).tokens.length = 7 ∧
      highlight g ['é', '<', 'a', 'b', '\r', '\n', '\r', '\n', 'c', '>', '<', 'd']
        = (highlight g ['é', '<', 'a', 'b', '\n', '\n', 'c', '>', '<', 'd']).mapOffsets
          (behindReturns ['é', '<', 'a', 'b', '\n', '\n', 'c', '>', '<', 'd']) := by
  have hreturn : '\r' ∉ ['é', '<', 'a', 'b', '\n', '\n', 'c', '>', '<', 'd'] := by decide
  have hchecked : marked.compile.toOption.map (fun g =>
      (highlight g ['é', '<', 'a', 'b', '\n', '\n', 'c', '>', '<', 'd']).tokens.length) = some 7 := by
    decide +kernel
  cases hcompile : marked.compile with
  | error e =>
    rw [hcompile] at hchecked
    cases hchecked
  | ok g =>
    rw [hcompile] at hchecked
    exact ⟨g, rfl, hreturn, Option.some.inj hchecked, (highlight_withReturns g hreturn).1⟩

end Listfile.Highlight
