import Listfile.Proofs.Outcome
import Listfile.Proofs.Tree.Words

/-!
# Building trees

Building a tree neither loses nor moves a word, and what it builds keeps to the names and to the nesting
that the language allows.

* `Builder.Takes`, `Builder.takes_of_add`: what the next lexeme does to a builder that takes it.
* `Builder.words`, `Builder.Legal`: the words a builder has taken, and what it may hold.
* `Builder.words_add`, `Builder.legal_add`: what the next lexeme does to them.
* **`words_of_parse`**, **`legal_of_parse`**: the words of a tree are those of the text that it was read
  from, and the tree is legal.
-/

namespace Listfile.Tree

/-! ### The next lexeme -/

/-- What a lexeme outside of commands becomes, unless it is the name of one. -/
inductive Lexeme.IsElement : Lexeme → Element → Prop
  | space (p : Piece) : IsElement ⟨.space, p⟩ (.space p)
  | newline (p : Piece) : IsElement ⟨.newline, p⟩ (.newline p)
  | lineComment (p : Piece) : IsElement ⟨.lineComment, p⟩ (.comment .line p)
  | bracketComment (p : Piece) : IsElement ⟨.bracketComment, p⟩ (.comment .bracket p)

/-- What a lexeme between parentheses becomes, unless it is one of them. -/
inductive Lexeme.IsItem : Lexeme → Item → Prop
  | space (p : Piece) : IsItem ⟨.space, p⟩ (.space p)
  | newline (p : Piece) : IsItem ⟨.newline, p⟩ (.newline p)
  | lineComment (p : Piece) : IsItem ⟨.lineComment, p⟩ (.comment .line p)
  | bracketComment (p : Piece) : IsItem ⟨.bracketComment, p⟩ (.comment .bracket p)
  | quoted (p : Piece) : IsItem ⟨.quoted, p⟩ (.argument .quoted p)
  | bracket (p : Piece) : IsItem ⟨.bracket, p⟩ (.argument .bracket p)
  | squareUnquoted (p : Piece) : IsItem ⟨.squareUnquoted, p⟩ (.argument .unquoted p)
  | unquoted (p : Piece) : IsItem ⟨.unquoted, p⟩ (.argument .unquoted p)

/-- What the next lexeme does to a builder that takes it. -/
inductive Builder.Takes : Builder → Lexeme → Builder → Prop
  | element {es : List Element} {l : Lexeme} {e : Element} (he : l.IsElement e) :
    Takes ⟨es, .outside⟩ l ⟨e :: es, .outside⟩
  | name {es : List Element} {p : Piece} (hname : isCommandName p.text = true) :
    Takes ⟨es, .outside⟩ ⟨.unquoted, p⟩ ⟨es, .named ⟨p, []⟩⟩
  | blanks {es : List Element} (header : Header) (p : Piece) :
    Takes ⟨es, .named header⟩ ⟨.space, p⟩
      ⟨es, .named { header with space := header.space ++ p.text }⟩
  | arguments {es : List Element} (header : Header) (p : Piece) :
    Takes ⟨es, .named header⟩ ⟨.openParen, p⟩ ⟨es, .inside header ⟨p.start, []⟩ []⟩
  | item {es : List Element} {header : Header} {top : Pending} {outer : List Pending} {l : Lexeme}
      {i : Item} (hi : l.IsItem i) :
    Takes ⟨es, .inside header top outer⟩ l ⟨es, .inside header (top.add i) outer⟩
  | nested {es : List Element} {header : Header} {top : Pending} {outer : List Pending} {p : Piece}
      (hroom : outer.length + 1 < maxNesting) :
    Takes ⟨es, .inside header top outer⟩ ⟨.openParen, p⟩ ⟨es, .inside header ⟨p.start, []⟩ (top :: outer)⟩
  | close {es : List Element} (header : Header) (top : Pending) (outer : List Pending) (p : Piece) :
    Takes ⟨es, .inside header top outer⟩ ⟨.closeParen, p⟩
      ((Builder.mk es (.inside header top outer)).close header top outer p.start)

/-- **A builder takes a lexeme in one of these ways**, or reports a fault. -/
theorem Builder.takes_of_add {b b' : Builder} {l : Lexeme} (h : b.add l = .ok b') : b.Takes l b' := by
  obtain ⟨es, place⟩ := b
  obtain ⟨k, p⟩ := l
  cases place with
  | outside =>
    have h' : (Builder.mk es .outside).addOutside ⟨k, p⟩ = .ok b' := h
    cases k with
    | space | newline | lineComment | bracketComment =>
      cases h'
      exact .element (by constructor)
    | unquoted =>
      unfold Builder.addOutside at h'
      dsimp only at h'
      split at h'
      · rename_i hname
        cases h'
        exact .name hname
      · cases h'
    | _ => cases h'
  | named header =>
    have h' : (Builder.mk es (.named header)).addNamed header ⟨k, p⟩ = .ok b' := h
    cases k with
    | space | openParen =>
      cases h'
      constructor
    | _ => cases h'
  | inside header top outer =>
    have h' : (Builder.mk es (.inside header top outer)).addInside header top outer ⟨k, p⟩ = .ok b' := h
    cases k with
    | openParen =>
      unfold Builder.addInside at h'
      dsimp only at h'
      split at h'
      · cases h'
      · rename_i hroom
        cases h'
        exact .nested (Nat.lt_of_not_le hroom)
    | closeParen =>
      cases h'
      exact .close header top outer p
    | _ =>
      cases h'
      exact .item (by constructor)

/-! ### What a builder holds -/

/-- The words of parentheses that are not closed. -/
def Pending.words (p : Pending) : List Word := openWord :: wordsOf p.items.reverse

/-- The words of parentheses that are not closed, the innermost first. -/
def pendingWords : List Pending → List Word
  | [] => []
  | p :: ps => pendingWords ps ++ p.words

/-- The words of what is being read. -/
def Place.words : Place → List Word
  | .outside => []
  | .named header => headerWords header.name.text header.space
  | .inside header top outer =>
    headerWords header.name.text header.space ++ pendingWords (top :: outer)

/-- The words that a builder has taken. -/
def Builder.words (b : Builder) : List Word :=
  b.elements.reverse.flatMap Element.words ++ b.place.words

/-- Each of the open parentheses leaves room for the parentheses in it and around it. -/
def Fits : List Pending → Prop
  | [] => True
  | p :: ps => depthOf p.items + ps.length < maxNesting ∧ Fits ps

/-- What is being read can become a legal command. -/
def Place.Legal : Place → Prop
  | .outside => True
  | .named header => isCommandName header.name.text = true
  | .inside header top outer => isCommandName header.name.text = true ∧ Fits (top :: outer)

/-- What a builder holds is legal. -/
structure Builder.Legal (b : Builder) : Prop where
  elements : Tree.Legal b.elements
  place : b.place.Legal

@[simp] theorem Builder.words_mk_outside (es : List Element) :
    (Builder.mk es .outside).words = es.reverse.flatMap Element.words := by
  simp [Builder.words, Place.words]

theorem Pending.words_add (p : Pending) (i : Item) : (p.add i).words = p.words ++ i.words := by
  simp [Pending.words, Pending.add]

theorem pendingWords_add (p : Pending) (i : Item) (ps : List Pending) :
    pendingWords (p.add i :: ps) = pendingWords (p :: ps) ++ i.words := by
  simp [pendingWords, Pending.words_add]

theorem legal_cons {e : Element} {es : List Element} (he : ∀ c, e = .command c → c.Legal)
    (hes : Legal es) : Legal (e :: es) := by
  intro c hc
  rcases List.mem_cons.1 hc with rfl | hc
  · exact he c rfl
  · exact hes c hc

theorem legal_reverse {es : List Element} (h : Legal es) : Legal es.reverse :=
  fun c hc => h c (List.mem_reverse.1 hc)

/-! ### Words that are taken -/

theorem Lexeme.IsElement.words {l : Lexeme} {e : Element} (he : l.IsElement e) : e.words = [l.word] := by
  cases he <;> rfl

theorem Lexeme.IsItem.words {l : Lexeme} {i : Item} (hi : l.IsItem i) (hl : l.word.trimmed.StandsAlone) :
    i.words = [l.word] := by
  obtain ⟨-, -, hunquoted, hsquare, -⟩ := text_of_standsAlone hl
  cases hi with
  | squareUnquoted p =>
    have hp : p.text.head? = some '[' := hsquare rfl
    simp [Item.words, ArgumentKind.lexemeKind, hp, Lexeme.word]
  | unquoted p =>
    have hp : p.text.head? ≠ some '[' := hunquoted rfl
    simp [Item.words, ArgumentKind.lexemeKind, hp, Lexeme.word]
  | _ => rfl

section
variable {es : List Element} {header : Header} {top : Pending} {outer : List Pending}

theorem Builder.words_item (i : Item) :
    (Builder.mk es (.inside header (top.add i) outer)).words
      = (Builder.mk es (.inside header top outer)).words ++ i.words := by
  simp [Builder.words, Place.words, pendingWords_add]

/-- The words after parentheses were closed, told by the words that were read before. -/
theorem Builder.words_close (closeAt : Nat) :
    ((Builder.mk es (.inside header top outer)).close header top outer closeAt).words
      = (Builder.mk es (.inside header top outer)).words ++ [closeWord] := by
  cases outer with
  | nil => simp [Builder.close, Builder.push, Builder.words, Place.words, Element.words, Command.words,
      pendingWords, Pending.words]
  | cons below outer =>
    show (Builder.mk es (.inside header (below.add (.group top.openAt top.items.reverse closeAt)) outer)).words = _
    rw [Builder.words_item]
    simp [Builder.words, Place.words, pendingWords, Pending.words, Item.words]

/-- Behind a name that blanks have been read of, no more blanks follow. -/
theorem Builder.space_eq_nil {p : Piece}
    (hb : FromText ((Builder.mk es (.named header)).words ++ [⟨.space, p.text⟩])) : header.space = [] := by
  by_contra hne
  have hwords : (Builder.mk es (.named header)).words
      = (es.reverse.flatMap Element.words ++ [⟨.unquoted, header.name.text⟩]) ++ [⟨.space, header.space⟩] := by
    simp [Builder.words, Place.words, headerWords, spaceWords, hne]
  rw [hwords, List.append_assoc] at hb
  have hpair : Kind.mayPrecede .space .space = true := (List.isChain_cons_cons.1 hb.right.chain).1
  cases hpair

end

/-- A builder takes every word, in order. -/
theorem Builder.words_add {b b' : Builder} {l : Lexeme} (hb : FromText (b.words ++ [l.word]))
    (h : b.add l = .ok b') : b'.words = b.words ++ [l.word] := by
  have hl := hb.alone l.word (by simp)
  obtain ⟨hopen, hclose, -, -, hspace⟩ := text_of_standsAlone hl
  cases Builder.takes_of_add h with
  | element he => simp [Builder.words, Place.words, he.words]
  | name hname => simp [Builder.words, Place.words, headerWords, spaceWords, Lexeme.word]
  | blanks header p =>
    have hp : p.text ≠ [] := hspace rfl
    have hnil := Builder.space_eq_nil hb
    simp [Builder.words, Place.words, headerWords, spaceWords, hnil, hp, Lexeme.word]
  | arguments header p =>
    have hp : p.text = ['('] := hopen rfl
    simp [Builder.words, Place.words, pendingWords, Pending.words, wordsOf, openWord, Lexeme.word, hp]
  | item hi => rw [Builder.words_item, hi.words hl]
  | @nested _ _ _ _ p hroom =>
    have hp : p.text = ['('] := hopen rfl
    simp [Builder.words, Place.words, pendingWords, Pending.words, wordsOf, openWord, Lexeme.word, hp]
  | close header top outer p =>
    have hp : p.text = [')'] := hclose rfl
    rw [Builder.words_close]
    simp [closeWord, Lexeme.word, hp]

/-- Lexemes are taken one after the other. -/
theorem Builder.exists_add_of_foldlM {l : Lexeme} {ls : List Lexeme} {b b' : Builder}
    (h : (l :: ls).foldlM Builder.add b = .ok b') :
    ∃ b₁, b.add l = .ok b₁ ∧ ls.foldlM Builder.add b₁ = .ok b' := by
  rw [List.foldlM_cons] at h
  exact bind_eq_ok.1 h

theorem Builder.words_foldlM {ls : List Lexeme} {b b' : Builder}
    (hb : FromText (b.words ++ ls.map Lexeme.word)) (h : ls.foldlM Builder.add b = .ok b') :
    b'.words = b.words ++ ls.map Lexeme.word := by
  induction ls generalizing b with
  | nil =>
    cases h
    simp
  | cons l ls ih =>
    obtain ⟨b₁, hl, hls⟩ := Builder.exists_add_of_foldlM h
    rw [List.map_cons, ← List.singleton_append, ← List.append_assoc] at hb ⊢
    have hw := Builder.words_add hb.left hl
    rw [← hw] at hb ⊢
    exact ih hb hls

/-! ### Legal trees -/

theorem fits_add {p : Pending} {ps : List Pending} {i : Item} (h : Fits (p :: ps))
    (hi : i.depth + ps.length < maxNesting) : Fits (p.add i :: ps) := by
  refine ⟨?_, h.2⟩
  have := h.1
  rw [Pending.add, depthOf]
  omega

theorem Builder.legal_close {es : List Element} {header : Header} {top : Pending}
    {outer : List Pending} (hb : (Builder.mk es (.inside header top outer)).Legal) (closeAt : Nat) :
    ((Builder.mk es (.inside header top outer)).close header top outer closeAt).Legal := by
  obtain ⟨hes, hname, hfits⟩ := hb
  cases outer with
  | nil =>
    refine ⟨legal_cons ?_ hes, trivial⟩
    rintro c ⟨⟩
    exact ⟨hname, by simpa [depthOf_reverse] using hfits.1⟩
  | cons below outer =>
    refine ⟨hes, hname, fits_add hfits.2 ?_⟩
    have := hfits.1
    rw [Item.depth, depthOf_reverse]
    rw [List.length_cons] at this
    omega

theorem Lexeme.IsElement.ne_command {l : Lexeme} {e : Element} (he : l.IsElement e) (c : Command) :
    e ≠ .command c := by
  rintro rfl
  cases he

theorem Lexeme.IsItem.depth {l : Lexeme} {i : Item} (hi : l.IsItem i) : i.depth = 0 := by
  cases hi <;> rfl

/-- A builder holds nothing that is not legal. -/
theorem Builder.legal_add {b b' : Builder} {l : Lexeme} (hb : b.Legal) (h : b.add l = .ok b') :
    b'.Legal := by
  cases Builder.takes_of_add h with
  | element he => exact ⟨legal_cons (fun c hc => absurd hc (he.ne_command c)) hb.elements, trivial⟩
  | name hname => exact ⟨hb.elements, hname⟩
  | blanks header p => exact ⟨hb.elements, hb.place⟩
  | arguments header p =>
    refine ⟨hb.elements, hb.place, ?_, trivial⟩
    show 0 + 0 < maxNesting
    decide
  | item hi =>
    refine ⟨hb.elements, hb.place.1, fits_add hb.place.2 ?_⟩
    have := hb.place.2.1
    have := hi.depth
    omega
  | nested hroom =>
    refine ⟨hb.elements, hb.place.1, ?_, hb.place.2⟩
    rw [depthOf, List.length_cons]
    omega
  | close header top outer p => exact Builder.legal_close hb _

theorem Builder.legal_foldlM {ls : List Lexeme} {b b' : Builder} (hb : b.Legal)
    (h : ls.foldlM Builder.add b = .ok b') : b'.Legal := by
  induction ls generalizing b with
  | nil =>
    cases h
    exact hb
  | cons l ls ih =>
    obtain ⟨b₁, hl, hls⟩ := Builder.exists_add_of_foldlM h
    exact ih (Builder.legal_add hb hl) hls

/-! ### Commands that are read -/

/-- The parenthesis of the command has been read. -/
def Builder.Holds (b : Builder) (header : Header) : Prop :=
  (∃ top outer, b.place = .inside header top outer) ∨
    ∃ arguments, Element.command ⟨header.name, header.space, arguments⟩ ∈ b.elements

/-- What has been read stays. -/
theorem Builder.elements_add {b b' : Builder} {l : Lexeme} (h : b.add l = .ok b') : b.elements <:+ b'.elements := by
  cases Builder.takes_of_add h with
  | element he => exact List.suffix_cons _ _
  | close header top outer p =>
    cases outer with
    | nil => exact List.suffix_cons _ _
    | cons below outer => exact List.suffix_refl _
  | _ => exact List.suffix_refl _

theorem Builder.holds_add {b b' : Builder} {l : Lexeme} {header : Header} (hb : b.Holds header)
    (h : b.add l = .ok b') : b'.Holds header := by
  rcases hb with ⟨top, outer, hplace⟩ | ⟨arguments, hmem⟩
  · cases Builder.takes_of_add h with
    | item hi =>
      cases hplace
      exact .inl ⟨_, _, rfl⟩
    | nested hroom =>
      cases hplace
      exact .inl ⟨_, _, rfl⟩
    | close header' top' outer' p =>
      cases hplace
      cases outer with
      | nil => exact .inr ⟨_, List.mem_cons_self⟩
      | cons below outer => exact .inl ⟨_, _, rfl⟩
    | _ => cases hplace
  · exact .inr ⟨arguments, (Builder.elements_add h).subset hmem⟩

/-- **A command whose parenthesis has been read is read in the end.** -/
theorem Builder.exists_command {b : Builder} {ls : List Lexeme} {es : List Element} {header : Header}
    (hb : b.Holds header) (h : ls.foldlM Builder.add b = .ok ⟨es, .outside⟩) :
    ∃ arguments, Element.command ⟨header.name, header.space, arguments⟩ ∈ es := by
  induction ls generalizing b with
  | nil =>
    cases h
    rcases hb with ⟨top, outer, hplace⟩ | hmem
    · cases hplace
    · exact hmem
  | cons l ls ih =>
    obtain ⟨b₁, hl, hls⟩ := Builder.exists_add_of_foldlM h
    exact ih (Builder.holds_add hb hl) hls

/-! ### Trees of texts -/

/-- The steps in which a text becomes a tree. -/
theorem parse_steps {source : List Char} {f : File} (h : File.parse source = .ok f) :
    ∃ ls es, lexemes source = .ok ls ∧ ls.foldlM Builder.add .start = .ok ⟨es, .outside⟩ ∧
      f.elements = es.reverse := by
  obtain ⟨ls, hls, hread⟩ := bind_eq_ok.1 h
  obtain ⟨⟨es, place⟩, hb, hfinish⟩ := bind_eq_ok.1 hread
  cases place with
  | outside =>
    cases hfinish
    exact ⟨ls, es, hls, hb, rfl⟩
  | named header => cases hfinish
  | inside header top outer => cases hfinish

/-- The words of a tree are the lexemes of its text. -/
theorem lexemes_of_parse {source : List Char} {f : File} (h : File.parse source = .ok f) :
    ∃ ls, lexemes source = .ok ls ∧ f.words = ls.map Lexeme.word := by
  obtain ⟨ls, es, hls, hb, hf⟩ := parse_steps h
  have hwords := Builder.words_foldlM (b := .start) (words_of_lexemesFrom hls).2 hb
  rw [Builder.words_mk_outside, ← hf] at hwords
  exact ⟨ls, hls, hwords⟩

/-- **The words of a tree are those of its text.** -/
theorem words_of_parse {source : List Char} {f : File} (h : File.parse source = .ok f) :
    textOf f.words = source ∧ FromText f.words := by
  obtain ⟨ls, hls, hwords⟩ := lexemes_of_parse h
  rw [hwords]
  exact words_of_lexemesFrom hls

/-- **A tree that was read is legal.** -/
theorem legal_of_parse {source : List Char} {f : File} (h : File.parse source = .ok f) :
    Legal f.elements := by
  obtain ⟨ls, es, -, hb, hf⟩ := parse_steps h
  have hstart : Builder.Legal .start := by
    refine ⟨?_, trivial⟩
    intro c hc
    cases hc
  rw [hf]
  exact legal_reverse (Builder.legal_foldlM hstart hb).elements

end Listfile.Tree
