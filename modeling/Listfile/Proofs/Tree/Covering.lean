import Listfile.Proofs.Outcome
import Listfile.Proofs.Text.Spans
import Listfile.Proofs.Tree.Building

/-!
# Trees cover their texts

The nodes of a tree stand where their spans say, and they leave nothing out: at every level the spans
follow each other without a gap and fill the span of what they are parts of.

* `Item.Covers`, `Command.Covers`, `Element.Covers`, `File.Covers`: what is meant by that, level by level.
* `lexemes_tile`: the lexemes of a text leave nothing out.
* `Builder.covers_add`: the next lexeme continues what has been covered so far.
* **`covers_of_parse`**: the tree of a text covers it.
-/

namespace Listfile.Tree

variable {source : List Char}

/-! ### What it means to cover a text -/

/-- The piece stands where it says. -/
def Piece.Stands (source : List Char) (p : Piece) : Prop := p.span.slice? source = some p.text

/-- The span of a parenthesis. -/
def parenSpan (n : Nat) : Span := ⟨n, n + 1⟩

/-- The parentheses stand where they should, and together with the items between them they leave nothing
out. -/
structure Encloses (source : List Char) (openAt : Nat) (items : List Item) (closeAt : Nat) : Prop where
  opening : (parenSpan openAt).slice? source = some ['(']
  closing : (parenSpan closeAt).slice? source = some [')']
  tiles : Tiles openAt (parenSpan openAt :: (items.map Item.span ++ [parenSpan closeAt])) (closeAt + 1)

mutual

/-- The item stands where it says, and so does all that is in it, without a gap. -/
def Item.Covers (source : List Char) : Item → Prop
  | .argument _ p | .space p | .newline p | .comment _ p => p.Stands source
  | .group openAt items closeAt => Encloses source openAt items closeAt ∧ CoversAll source items

/-- All of the items do. -/
def CoversAll (source : List Char) : List Item → Prop
  | [] => True
  | item :: items => item.Covers source ∧ CoversAll source items

end

/-- The span of the blanks between the name of a command and its opening parenthesis. -/
def Command.spaceSpan (c : Command) : Span :=
  ⟨c.name.stop, c.name.stop + byteLength c.spaceBeforeParen⟩

/-- The spans of the parts of a command, in order. -/
def Command.partSpans (c : Command) : List Span :=
  c.name.span :: c.spaceSpan :: parenSpan c.arguments.openAt ::
    (c.arguments.items.map Item.span ++ [parenSpan c.arguments.closeAt])

/-- The parts of the command stand where they say and fill its span. -/
structure Command.Covers (source : List Char) (c : Command) : Prop where
  name : c.name.Stands source
  space : c.spaceSpan.slice? source = some c.spaceBeforeParen
  encloses : Encloses source c.arguments.openAt c.arguments.items c.arguments.closeAt
  items : ∀ i ∈ c.arguments.items, i.Covers source
  tiles : Tiles c.span.start c.partSpans c.span.stop

/-- The element stands where it says, and so do its parts. -/
def Element.Covers (source : List Char) : Element → Prop
  | .command c => c.Covers source
  | .comment _ p | .space p | .newline p => p.Stands source

/-- The elements stand where they say and leave nothing of the text out. -/
structure File.Covers (source : List Char) (f : File) : Prop where
  tiles : Tiles 0 (f.elements.map Element.span) (byteLength source)
  elements : ∀ e ∈ f.elements, e.Covers source

theorem coversAll_iff {items : List Item} :
    CoversAll source items ↔ ∀ i ∈ items, i.Covers source := by
  induction items with
  | nil => simp [CoversAll]
  | cons i items ih => simp [CoversAll, ih]

theorem Piece.start_le_stop (p : Piece) : p.span.start ≤ p.span.stop := Nat.le_add_right _ _

/-! ### Lexemes cover their text -/

/-- **The lexemes of a text leave nothing out**, and each stands where it says. -/
theorem lexemes_tile {before s : List Char} {ls : List Lexeme}
    (h : lexemesFrom (byteLength before) s = .ok ls) (hsource : source = before ++ s) :
    Tiles (byteLength before) (ls.map fun l => l.piece.span) (byteLength source) ∧
      ∀ l ∈ ls, l.piece.Stands source := by
  induction hn : s.length using Nat.strong_induction_on generalizing before s ls with
  | _ n ih =>
    cases s with
    | nil =>
      rw [lexemesFrom] at h
      cases h
      rw [hsource, List.append_nil]
      exact ⟨rfl, List.forall_mem_nil _⟩
    | cons c cs =>
      obtain ⟨k, more, rest, ls', hscan, hls, rfl⟩ := lexemesFrom_cons h
      have hcs : c :: cs = c :: more ++ rest := congrArg (c :: ·) (scan_append hscan)
      rw [← byteLength_append] at hls
      obtain ⟨htiles, hstand⟩ := ih _ (hn ▸ length_lt_of_scan hscan) hls
        (by rw [hsource, hcs, List.append_assoc]) rfl
      rw [byteLength_append] at htiles
      refine ⟨⟨rfl, Nat.le_add_right _ _, htiles⟩, List.forall_mem_cons.2 ⟨?_, hstand⟩⟩
      exact slice?_eq_some_iff.2 ⟨before, rest, by rw [hsource, hcs], rfl, rfl⟩

/-! ### What a builder covers -/

/-- The name of a command and the blanks behind it fill the span. -/
structure Header.Covers (source : List Char) (header : Header) (start stop : Nat) : Prop where
  start_eq : header.name.start = start
  name : header.name.Stands source
  space : (Span.mk header.name.stop stop).slice? source = some header.space
  stop_eq : stop = header.name.stop + byteLength header.space

/-- Parentheses that have not been closed, and the items in them, fill the span from the outermost
parenthesis on. -/
def PendingCovers (source : List Char) (start : Nat) : List Pending → (stop : Nat) → Prop
  | [], stop => start = stop
  | p :: ps, stop =>
    (parenSpan p.openAt).slice? source = some ['('] ∧
      Tiles p.openAt (parenSpan p.openAt :: p.items.reverse.map Item.span) stop ∧
      (∀ i ∈ p.items, i.Covers source) ∧ PendingCovers source start ps p.openAt

/-- What is being read fills the span. -/
def Place.Covers (source : List Char) (start stop : Nat) : Place → Prop
  | .outside => start = stop
  | .named header => header.Covers source start stop
  | .inside header top outer =>
    ∃ n, header.Covers source start n ∧ PendingCovers source n (top :: outer) stop

/-- What a builder holds covers the text up to an offset. -/
def Builder.Covers (source : List Char) (b : Builder) (stop : Nat) : Prop :=
  ∃ n, Tiles 0 (b.elements.reverse.map Element.span) n ∧ (∀ e ∈ b.elements, e.Covers source) ∧
    b.place.Covers source n stop

/-- What a lexeme has to be like to be added. -/
structure Lexeme.Continues (source : List Char) (l : Lexeme) (stop : Nat) : Prop where
  start : l.piece.start = stop
  stands : l.piece.Stands source
  opening : l.kind = .openParen → l.piece.text = ['(']
  closing : l.kind = .closeParen → l.piece.text = [')']

section
variable {es : List Element} {header : Header} {top : Pending} {outer : List Pending}
  {l : Lexeme} {n : Nat}

/-- A parenthesis takes a single byte. -/
theorem Lexeme.Continues.paren {c : Char} (hl : l.Continues source n) (hc : c.utf8Size = 1)
    (htext : l.piece.text = [c]) :
    l.piece.start = n ∧ l.piece.stop = n + 1 ∧ (parenSpan n).slice? source = some [c] := by
  have hspan : l.piece.span = parenSpan n := by
    rw [Piece.span, Piece.stop, htext, hl.start, byteLength_cons, byteLength_nil, hc]
    rfl
  have hstands := hl.stands
  rw [Piece.Stands, hspan, htext] at hstands
  exact ⟨hl.start, congrArg Span.stop hspan, hstands⟩

theorem Lexeme.IsElement.covers {e : Element} (he : l.IsElement e) (hl : l.piece.Stands source) :
    e.Covers source ∧ e.span = l.piece.span := by
  cases he <;> exact ⟨hl, rfl⟩

theorem Lexeme.IsItem.covers {i : Item} (hi : l.IsItem i) (hl : l.piece.Stands source) :
    i.Covers source ∧ i.span = l.piece.span := by
  cases hi <;> exact ⟨by rw [Item.Covers]; exact hl, rfl⟩

theorem Builder.covers_push {e : Element} {start : Nat} (htiles : Tiles 0 (es.reverse.map Element.span) start)
    (hes : ∀ e ∈ es, e.Covers source) (he : e.Covers source) (hstart : e.span.start = start)
    (hle : e.span.start ≤ e.span.stop) :
    (Builder.mk (e :: es) .outside).Covers source e.span.stop := by
  refine ⟨e.span.stop, ?_, List.forall_mem_cons.2 ⟨he, hes⟩, rfl⟩
  rw [List.reverse_cons, List.map_append]
  exact tiles_concat (hstart ▸ htiles) hle

/-- The innermost parentheses with one more item. -/
theorem pendingCovers_add {i : Item} {start : Nat} (h : PendingCovers source start (top :: outer) n)
    (hi : i.Covers source) (hstart : i.span.start = n) (hle : i.span.start ≤ i.span.stop) :
    PendingCovers source start (top.add i :: outer) i.span.stop := by
  obtain ⟨hparen, htiles, hitems, houter⟩ := h
  refine ⟨hparen, ?_, List.forall_mem_cons.2 ⟨hi, hitems⟩, houter⟩
  rw [Pending.add, List.reverse_cons, List.map_append, ← List.cons_append]
  exact tiles_concat (hstart ▸ htiles) hle

/-- Where the items of open parentheses have got to lies behind these. -/
theorem lt_of_pendingCovers {start : Nat} (h : PendingCovers source start (top :: outer) n) :
    top.openAt < n := by
  obtain ⟨-, ⟨-, -, htiles⟩, -⟩ := h
  exact htiles.le

theorem encloses_of_pendingCovers {start : Nat} (h : PendingCovers source start (top :: outer) n)
    (hclose : (parenSpan n).slice? source = some [')']) :
    Encloses source top.openAt top.items.reverse n := by
  refine ⟨h.1, hclose, ?_⟩
  rw [← List.cons_append]
  exact tiles_concat (s := parenSpan n) h.2.1 (Nat.le_succ n)

/-- Closing parentheses makes a group of them, or completes the command. -/
theorem Builder.covers_close (hb : (Builder.mk es (.inside header top outer)).Covers source n)
    (hclose : (parenSpan n).slice? source = some [')']) :
    ((Builder.mk es (.inside header top outer)).close header top outer n).Covers source (n + 1) := by
  obtain ⟨m, htiles, hes, k, hheader, hpending⟩ := hb
  have hencloses := encloses_of_pendingCovers hpending hclose
  have hlt := lt_of_pendingCovers hpending
  have hitems : ∀ i ∈ top.items.reverse, i.Covers source :=
    fun i hi => hpending.2.2.1 i (List.mem_reverse.1 hi)
  cases outer with
  | nil =>
    obtain rfl : k = top.openAt := hpending.2.2.2
    have hspace := hheader.space
    have hopen := hheader.stop_eq
    have hle : header.name.start ≤ top.openAt := by
      rw [hopen, Piece.stop]
      omega
    refine Builder.covers_push
      (e := .command ⟨header.name, header.space, ⟨top.openAt, top.items.reverse, n⟩⟩) htiles hes ?_
      hheader.start_eq ?_
    · refine ⟨hheader.name, ?_, hencloses, hitems, rfl, header.name.start_le_stop, rfl,
        Nat.le_add_right _ _, ?_⟩
      · rw [Command.spaceSpan, ← hopen]
        exact hspace
      · rw [Command.spaceSpan, ← hopen]
        exact hencloses.tiles
    · show header.name.start ≤ n + 1
      omega
  | cons below outer =>
    have hgroup : Item.Covers source (.group top.openAt top.items.reverse n) := by
      rw [Item.Covers]
      exact ⟨hencloses, coversAll_iff.2 hitems⟩
    refine ⟨m, htiles, hes, k, hheader, ?_⟩
    refine pendingCovers_add (i := .group top.openAt top.items.reverse n) hpending.2.2.2 hgroup rfl ?_
    show top.openAt ≤ n + 1
    omega

end

/-- **A lexeme continues what has been covered so far.** -/
theorem Builder.covers_add {b b' : Builder} {l : Lexeme} {n : Nat} (hb : b.Covers source n)
    (hl : l.Continues source n) (h : b.add l = .ok b') : b'.Covers source l.piece.stop := by
  obtain ⟨m, htiles, hes, hplace⟩ := hb
  cases Builder.takes_of_add h with
  | element he =>
    obtain rfl : m = n := hplace
    obtain ⟨hcovers, hspan⟩ := he.covers hl.stands
    have hpushed := Builder.covers_push htiles hes hcovers (by rw [hspan]; exact hl.start)
      (by rw [hspan]; exact l.piece.start_le_stop)
    rw [hspan] at hpushed
    exact hpushed
  | name hname =>
    obtain rfl : m = n := hplace
    exact ⟨m, htiles, hes, hl.start, hl.stands, slice?_empty hl.stands, rfl⟩
  | blanks header p =>
    have hheader : header.Covers source m n := hplace
    have hspace : (Span.mk n p.stop).slice? source = some p.text := by
      rw [← hl.start]
      exact hl.stands
    refine ⟨m, htiles, hes, hheader.start_eq, hheader.name, slice?_append hheader.space hspace, ?_⟩
    have hstop : p.stop = n + byteLength p.text := by rw [← hl.start]; rfl
    rw [hstop, byteLength_append, ← Nat.add_assoc, ← hheader.stop_eq]
  | arguments header p =>
    obtain ⟨hstart, hstop, hparen⟩ := hl.paren (by decide) (hl.opening rfl)
    refine ⟨m, htiles, hes, n, hplace, ?_⟩
    rw [hstart, hstop]
    exact ⟨hparen, ⟨rfl, Nat.le_succ n, rfl⟩, List.forall_mem_nil _, rfl⟩
  | item hi =>
    obtain ⟨k, hheader, hpending⟩ := hplace
    obtain ⟨hcovers, hspan⟩ := hi.covers hl.stands
    have hadded := pendingCovers_add hpending hcovers (by rw [hspan]; exact hl.start)
      (by rw [hspan]; exact l.piece.start_le_stop)
    rw [hspan] at hadded
    exact ⟨m, htiles, hes, k, hheader, hadded⟩
  | nested hroom =>
    obtain ⟨k, hheader, hpending⟩ := hplace
    obtain ⟨hstart, hstop, hparen⟩ := hl.paren (by decide) (hl.opening rfl)
    refine ⟨m, htiles, hes, k, hheader, ?_⟩
    rw [hstart, hstop]
    exact ⟨hparen, ⟨rfl, Nat.le_succ n, rfl⟩, List.forall_mem_nil _, hpending⟩
  | close header top outer p =>
    obtain ⟨hstart, hstop, hparen⟩ := hl.paren (by decide) (hl.closing rfl)
    rw [hstart, hstop]
    exact Builder.covers_close ⟨m, htiles, hes, hplace⟩ hparen

theorem Builder.covers_foldlM {ls : List Lexeme} {b b' : Builder} {start stop : Nat}
    (hb : b.Covers source start) (htiles : Tiles start (ls.map fun l => l.piece.span) stop)
    (hls : ∀ l ∈ ls, l.Continues source l.piece.start) (h : ls.foldlM Builder.add b = .ok b') :
    b'.Covers source stop := by
  induction ls generalizing b start with
  | nil =>
    cases h
    cases htiles
    exact hb
  | cons l ls ih =>
    obtain ⟨b₁, hadd, hfold⟩ := Builder.exists_add_of_foldlM h
    obtain ⟨hstart, -, htiles'⟩ := htiles
    obtain ⟨hl, hls'⟩ := List.forall_mem_cons.1 hls
    have hstart' : l.piece.start = start := hstart
    exact ih (Builder.covers_add hb (hstart' ▸ hl) hadd) htiles' hls' hfold

/-! ### Trees of texts -/

/-- **The tree of a text covers it.**  The elements leave nothing out, nor do the parts of a command, nor
the items between parentheses at any depth.  Every node holds what stands in its span, and all that is
written in the tree, one after the other, is the text. -/
theorem covers_of_parse {f : File} (h : File.parse source = .ok f) :
    f.Covers source ∧ textOf f.words = source := by
  obtain ⟨ls, es, hls, hfold, hf⟩ := parse_steps h
  have hls' : lexemesFrom (byteLength []) source = .ok ls := hls
  obtain ⟨htiles, hstands⟩ := lexemes_tile hls' rfl
  have hcontinues : ∀ l ∈ ls, l.Continues source l.piece.start := by
    intro l hl
    obtain ⟨hopening, hclosing, -⟩ := text_of_standsAlone
      ((words_of_lexemesFrom hls).2.alone l.word (List.mem_map_of_mem hl))
    exact ⟨rfl, hstands l hl, hopening, hclosing⟩
  have hstart : Builder.Covers source .start 0 := ⟨0, rfl, List.forall_mem_nil _, rfl⟩
  obtain ⟨n, hfile, helements, hn⟩ := Builder.covers_foldlM hstart htiles hcontinues hfold
  obtain rfl : n = byteLength source := hn
  refine ⟨⟨?_, ?_⟩, (words_of_parse h).1⟩
  · rw [hf]
    exact hfile
  · rw [hf]
    exact fun e he => helements e (List.mem_reverse.1 he)

/-- A command with a group, a bracket and a quotation, between comments. -/
theorem covers_of_parse_command : ∃ f, File.parse "#é\nif (a (\"b\" [[c]]))# d".toList = .ok f ∧
    f.Covers "#é\nif (a (\"b\" [[c]]))# d".toList ∧
    textOf f.words = "#é\nif (a (\"b\" [[c]]))# d".toList := by
  have hok : (File.parse "#é\nif (a (\"b\" [[c]]))# d".toList).isOk = true := by decide +kernel
  obtain ⟨f, hf⟩ := exists_of_isOk hok
  exact ⟨f, hf, covers_of_parse hf⟩

end Listfile.Tree
