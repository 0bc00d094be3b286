import Listfile.Highlight.Format
import Listfile.Proofs.Scope.Listing
import Listfile.Proofs.Text.Ahead
import Mathlib.Data.List.Basic

/-!
# Tokens line by line

The formats with a line for each token lose nothing of it.  A line ends where a token ends, because neither names
of scopes nor quoted text hold a line feed; the span stands in front of all that could hold a mark, and tells how
the line ends, because the quoted text is that of the span.

* `Token.Presentable`: the tokens of which lines are made.
* `IsRow`, `splitLines_flatten`: lines that stay apart.
* `Format.row`, `Format.row_injective`: a line tells its span and its names.
* `Format.isRow_line`: no name and no text gets a line feed into a line.
* `Format.map_eq_of_flatMap_line_eq`: what can be read of each line, all lines tell.
* **`Format.write_tells_tokens`**: a line for each token, and what is lost.
-/

namespace Listfile.Highlight

variable {source : List Char} {t : Token}

/-- The token covers some of the text, and has scopes, which can be told apart in a list. -/
structure Token.Presentable (source : List Char) (t : Token) : Prop where
  inside : ∃ text, t.span.slice? source = some text
  hasScopes : t.scopes ≠ []
  named : ∀ s ∈ t.scopes, s.IsWord

theorem Token.Presentable.exists_innermost? (h : t.Presentable source) :
    ∃ s, t.innermost? = some s ∧ t.innermostName = s.name ∧ s.IsWord := by
  have hlast : t.innermost? = some (t.scopes.getLast h.hasScopes) := List.getLast?_eq_some_getLast h.hasScopes
  refine ⟨_, hlast, ?_, h.named _ (List.getLast_mem h.hasScopes)⟩
  rw [Token.innermostName, hlast]
  rfl

/-! ### Lines that stay apart -/

/-- A line with its end, and no other blank than the space before that. -/
def IsRow (row : List Char) : Prop := ∃ body, row = body ++ ['\n'] ∧ SpacesOnly body

/-- Lines that are put one behind the other are cut apart again. -/
theorem splitLines_flatten {rows : List (List Char)} (h : ∀ row ∈ rows, IsRow row) :
    splitLines rows.flatten = rows := by
  induction rows with
  | nil => rfl
  | cons row rows ih =>
    obtain ⟨⟨body, rfl, hbody⟩, hrows⟩ := List.forall_mem_cons.1 h
    rw [List.flatten_cons, splitLines_append (.inr List.getLast?_concat), splitLines_concat hbody.feed_notMem,
      ih hrows, List.singleton_append]

/-! ### Numbers -/

theorem isDigit_of_mem_toString {n : Nat} {c : Char} (h : c ∈ (toString n).toList) : c.isDigit = true := by
  rw [Nat.toString_eq_repr, Nat.toList_repr] at h
  exact Nat.isDigit_of_mem_toDigits (by decide) (by decide) h

theorem spacesOnly_toString (n : Nat) : SpacesOnly (toString n).toList := by
  rw [Nat.toString_eq_repr, Nat.toList_repr]
  exact spacesOnly_toDigits (by decide) (by decide) n

/-- A number ends before what is no digit. -/
theorem toString_append_inj {m n : Nat} {c : Char} (hc : c.isDigit = false) {u v : List Char}
    (h : (toString m).toList ++ c :: u = (toString n).toList ++ c :: v) : m = n ∧ u = v := by
  have hfront (k : Nat) (w : List Char) :
      ((toString k).toList ++ c :: w).takeWhile Char.isDigit = (toString k).toList := by
    rw [List.takeWhile_append_of_pos fun d hd => isDigit_of_mem_toString hd,
      List.takeWhile_cons_of_neg (by simp [hc]), List.append_nil]
  have hdigits := congrArg (List.takeWhile Char.isDigit) h
  rw [hfront, hfront] at hdigits
  have hvalue := congrArg (Nat.ofDigitChars 10 · 0) hdigits
  rw [hdigits] at h
  refine ⟨?_, (List.cons.inj (List.append_cancel_left h)).2⟩
  simpa only [Nat.toString_eq_repr, Nat.toList_repr, Nat.ofDigitChars_toDigits (b := 10) (by decide) (by decide)]
    using hvalue

namespace Format

/-! ### One line -/

/-- The line of a span and of names. -/
def row (source : List Char) (r : Span × String) : List Char := line source r.2 ⟨r.1, []⟩

theorem row_eq (source : List Char) (sp : Span) (names : String) :
    row source (sp, names) = (toString sp.start).toList ++ '.' :: '.' :: ((toString sp.stop).toList ++
      ' ' :: (names.toList ++ (' ' :: quoteText ((sp.slice? source).getD []) ++ ['\n']))) := by
  simp [row, line, Token.text]

/-- A line tells its span, and then its names: what stands behind them is known from the span. -/
theorem row_injective (source : List Char) : Function.Injective (row source) := by
  rintro ⟨⟨start, stop⟩, names⟩ ⟨⟨start', stop'⟩, names'⟩ h
  rw [row_eq, row_eq] at h
  obtain ⟨hstart, hrest⟩ := toString_append_inj (by decide) h
  obtain ⟨hstop, hbehind⟩ := toString_append_inj (by decide) (List.cons.inj hrest).2
  dsimp only at hstart hstop
  subst hstart hstop
  rw [String.toList_inj.1 (List.append_cancel_right hbehind)]

theorem isRow_line {names : String} (hnames : SpacesOnly names.toList) (t : Token) : IsRow (line source names t) := by
  refine ⟨(toString t.span.start).toList ++ ['.', '.'] ++ (toString t.span.stop).toList ++
    ' ' :: names.toList ++ ' ' :: quoteText (t.text source), rfl, ?_⟩
  simp only [spacesOnly_append, spacesOnly_cons, implies_true, true_and]
  exact ⟨⟨⟨⟨spacesOnly_toString _, by decide⟩, spacesOnly_toString _⟩, hnames⟩, spacesOnly_quoteText _⟩

/-! ### All lines -/

variable {h₁ h₂ : Highlighted}

theorem tag_write (source : List Char) (h : Highlighted) :
    tag.write source h = h.tokens.flatMap fun t => line source t.innermostName t := rfl

theorem scopes_write (source : List Char) (h : Highlighted) :
    scopes.write source h = h.tokens.flatMap fun t => line source (Scope.join t.scopes) t := rfl

/-- Each token is on a line of its own. -/
theorem splitLines_flatMap_line {names : Token → String} {tokens : List Token}
    (hrow : ∀ t ∈ tokens, IsRow (line source (names t) t)) :
    splitLines (tokens.flatMap fun t => line source (names t) t) = tokens.map fun t => line source (names t) t := by
  rw [List.flatMap_def, splitLines_flatten (List.forall_mem_map.2 hrow)]

/-- What can be read of each token from its span and its names is the same where the lines are. -/
theorem map_eq_of_flatMap_line_eq {α : Type} {names : Token → String} {tokens tokens' : List Token}
    (read : Span × String → α) (seen : Token → α)
    (hrow : ∀ t ∈ tokens, IsRow (line source (names t) t) ∧ read (t.span, names t) = seen t)
    (hrow' : ∀ t ∈ tokens', IsRow (line source (names t) t) ∧ read (t.span, names t) = seen t)
    (heq : (tokens.flatMap fun t => line source (names t) t) = tokens'.flatMap fun t => line source (names t) t) :
    tokens.map seen = tokens'.map seen := by
  have hrows : tokens.map (fun t => (t.span, names t)) = tokens'.map fun t => (t.span, names t) := by
    have hlines := congrArg splitLines heq
    rw [splitLines_flatMap_line fun t ht => (hrow t ht).1, splitLines_flatMap_line fun t ht => (hrow' t ht).1] at hlines
    refine List.map_injective_iff.2 (row_injective source) ?_
    rw [List.map_map, List.map_map]
    exact hlines
  calc tokens.map seen = (tokens.map fun t => (t.span, names t)).map read := by
        rw [List.map_map]
        exact List.map_congr_left fun t ht => (hrow t ht).2.symm
    _ = (tokens'.map fun t => (t.span, names t)).map read := by rw [hrows]
    _ = tokens'.map seen := by
        rw [List.map_map]
        exact List.map_congr_left fun t ht => (hrow' t ht).2

/-- The line of a token with all its scopes, and the token that is read from it. -/
theorem isRow_and_read_scopes (h : t.Presentable source) : IsRow (line source (Scope.join t.scopes) t) ∧
    Token.mk t.span (Scope.parseList (Scope.join t.scopes)) = t := by
  refine ⟨isRow_line (Scope.spacesOnly_join h.named) t, ?_⟩
  rw [Scope.parseList_join h.named]

/-- The line of a token with its most specific scope, and this scope as it is read from it. -/
theorem isRow_and_read_tag (h : t.Presentable source) : IsRow (line source t.innermostName t) ∧
    (t.span, some (Scope.mk t.innermostName)) = (t.span, t.innermost?) := by
  obtain ⟨s, hlast, hname, hword⟩ := h.exists_innermost?
  rw [hname, hlast]
  exact ⟨isRow_line hword.spacesOnly t, rfl⟩

theorem scopes_write_eq_iff (hw₁ : ∀ t ∈ h₁.tokens, t.Presentable source)
    (hw₂ : ∀ t ∈ h₂.tokens, t.Presentable source) :
    scopes.write source h₁ = scopes.write source h₂ ↔ h₁.tokens = h₂.tokens := by
  rw [scopes_write, scopes_write]
  constructor
  · intro heq
    have hseen := map_eq_of_flatMap_line_eq (fun r => Token.mk r.1 (Scope.parseList r.2)) id
      (fun t ht => isRow_and_read_scopes (hw₁ t ht)) (fun t ht => isRow_and_read_scopes (hw₂ t ht)) heq
    rwa [List.map_id, List.map_id] at hseen
  · intro heq
    rw [heq]

theorem tag_write_eq_iff (hw₁ : ∀ t ∈ h₁.tokens, t.Presentable source)
    (hw₂ : ∀ t ∈ h₂.tokens, t.Presentable source) :
    tag.write source h₁ = tag.write source h₂ ↔
      h₁.tokens.map (fun t => (t.span, t.innermost?)) = h₂.tokens.map fun t => (t.span, t.innermost?) := by
  constructor
  · exact map_eq_of_flatMap_line_eq (fun r => (r.1, some (Scope.mk r.2))) (fun t => (t.span, t.innermost?))
      (fun t ht => isRow_and_read_tag (hw₁ t ht)) fun t ht => isRow_and_read_tag (hw₂ t ht)
  · intro heq
    -- a line is made from the span and the most specific scope alone
    have hwrite : ∀ h : Highlighted, tag.write source h
        = (h.tokens.map fun t => (t.span, t.innermost?)).flatMap fun r =>
            row source (r.1, (r.2.map Scope.name).getD "") := by
      intro h
      rw [tag_write, List.flatMap_map]
      rfl
    rw [hwrite, hwrite, heq]

/-- **Written tokens are told apart.**  Both formats write one line for each token, in order, and nothing else that
could end a line.  With all scopes the lines tell the tokens, and with the most specific scope alone they tell all
but the outer scopes. -/
theorem write_tells_tokens (hw₁ : ∀ t ∈ h₁.tokens, t.Presentable source)
    (hw₂ : ∀ t ∈ h₂.tokens, t.Presentable source) :
    (splitLines (tag.write source h₁) = h₁.tokens.map (fun t => line source t.innermostName t) ∧
      ∀ row ∈ splitLines (tag.write source h₁), IsRow row) ∧
    (splitLines (scopes.write source h₁) = h₁.tokens.map (fun t => line source (Scope.join t.scopes) t) ∧
      ∀ row ∈ splitLines (scopes.write source h₁), IsRow row) ∧
    (scopes.write source h₁ = scopes.write source h₂ ↔ h₁.tokens = h₂.tokens) ∧
    (tag.write source h₁ = tag.write source h₂ ↔
      h₁.tokens.map (fun t => (t.span, t.innermost?)) = h₂.tokens.map fun t => (t.span, t.innermost?)) := by
  have htag : ∀ t ∈ h₁.tokens, IsRow (line source t.innermostName t) := fun t ht => (isRow_and_read_tag (hw₁ t ht)).1
  have hscopes : ∀ t ∈ h₁.tokens, IsRow (line source (Scope.join t.scopes) t) :=
    fun t ht => (isRow_and_read_scopes (hw₁ t ht)).1
  rw [tag_write source h₁, scopes_write source h₁, splitLines_flatMap_line htag, splitLines_flatMap_line hscopes,
    ← tag_write, ← scopes_write]
  exact ⟨⟨rfl, List.forall_mem_map.2 htag⟩, ⟨rfl, List.forall_mem_map.2 hscopes⟩, scopes_write_eq_iff hw₁ hw₂,
    tag_write_eq_iff hw₁ hw₂⟩

/-- A quotation mark, a line feed, a separator of lines and a backslash, under names with marks of their own: two
lines, which differ in the outer scopes only. -/
theorem write_tells_tokens_lineBreaks :
    let source := "\"\n\u2028\\".toList
    let first : Highlighted := ⟨[⟨⟨0, 2⟩, [⟨"s"⟩, ⟨"\"t\""⟩]⟩, ⟨⟨2, 6⟩, [⟨"s"⟩]⟩], [], []⟩
    let second : Highlighted := ⟨[⟨⟨0, 2⟩, [⟨"\"t\""⟩]⟩, ⟨⟨2, 6⟩, [⟨"u"⟩, ⟨"s"⟩]⟩], [], []⟩
    (∀ t ∈ first.tokens, t.Presentable source) ∧ (∀ t ∈ second.tokens, t.Presentable source) ∧
      (splitLines (scopes.write source first)).length = 2 ∧
      scopes.write source first ≠ scopes.write source second ∧ tag.write source first = tag.write source second := by
  intro source first second
  have hfirst : ∀ t ∈ first.tokens, t.Presentable source := by
    refine List.forall_mem_cons.2 ⟨⟨⟨_, rfl⟩, by decide, by decide⟩, List.forall_mem_singleton.2 ?_⟩
    exact ⟨⟨_, rfl⟩, by decide, by decide⟩
  have hsecond : ∀ t ∈ second.tokens, t.Presentable source := by
    refine List.forall_mem_cons.2 ⟨⟨⟨_, rfl⟩, by decide, by decide⟩, List.forall_mem_singleton.2 ?_⟩
    exact ⟨⟨_, rfl⟩, by decide, by decide⟩
  obtain ⟨-, ⟨hlines, -⟩, hscopes, htag⟩ := write_tells_tokens hfirst hsecond
  refine ⟨hfirst, hsecond, by rw [hlines]; rfl, fun heq => ?_, htag.2 rfl⟩
  exact absurd (hscopes.1 heq) (by decide)

end Format

end Listfile.Highlight
