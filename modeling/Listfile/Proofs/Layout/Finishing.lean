import Listfile.Proofs.Layout.Laying

/-!
# Laying out the end of a file

* `firstLineEnd?`: how the first line of words ends, the same for the ink of a file and for its words.
* `layElements_append`: what follows content is laid out without regard to what stands before.
* `layFile`: a file laid out, with the end that it needs.
* **`fileText_eq_textOf`**: the text of a file in a style is that of the words of the file laid out.
-/

namespace Listfile.Layout

open Listfile.Tree

/-! ### How the first line ends -/

/-- How the first line of words ends. -/
def firstLineEnd? (ws : List Word) : Option (List Char) :=
  (ws.find? fun w => w.kind == .newline).map Word.text

theorem firstLineEnd?_append (vs ws : List Word) :
    firstLineEnd? (vs ++ ws) = (firstLineEnd? vs).or (firstLineEnd? ws) := by
  rw [firstLineEnd?, List.find?_append, Option.map_or]
  rfl

theorem firstLineEnd?_singleton {w : Word} (h : w.kind ≠ .newline) : firstLineEnd? [w] = none := by
  simp [firstLineEnd?, h]

theorem firstLineEnd?_cons {w : Word} (h : w.kind ≠ .newline) (ws : List Word) :
    firstLineEnd? (w :: ws) = firstLineEnd? ws := by
  simp [firstLineEnd?, h]

theorem firstNewline?_append (is js : List Ink) :
    firstNewline? (is ++ js) = (firstNewline? is).or (firstNewline? js) := by
  induction is with
  | nil => rfl
  | cons i is ih =>
    cases i with
    | newline t l => rfl
    | _ => exact ih

theorem firstNewline?_spaceInk (before : Before) (text : List Char) (after : List Item) :
    firstNewline? (spaceInk before text after) = none := by
  unfold spaceInk
  split
  · rfl
  · cases before with
    | other =>
      dsimp only
      split <;> rfl
    | _ => rfl

theorem lexemeKind_argument_ne (kind : ArgumentKind) (text : List Char) :
    kind.lexemeKind text ≠ .newline ∧ kind.lexemeKind text ≠ .space ∧
      kind.lexemeKind text ≠ .lineComment := by
  cases kind with
  | unquoted =>
    rw [ArgumentKind.lexemeKind]
    split <;> exact ⟨by decide, by decide, by decide⟩
  | _ => exact ⟨Kind.noConfusion, Kind.noConfusion, Kind.noConfusion⟩

theorem lexemeKind_comment_ne (kind : CommentKind) :
    kind.lexemeKind ≠ .newline ∧ kind.lexemeKind ≠ .space := by
  cases kind <;> exact ⟨Kind.noConfusion, Kind.noConfusion⟩

mutual

theorem firstNewline?_itemInk (limit : Nat) (before : Before) (after : List Item) (item : Item) :
    firstNewline? (itemInk limit before after item) = firstLineEnd? item.words := by
  cases item with
  | space p => exact firstNewline?_spaceInk before p.text after
  | newline p => rfl
  | comment kind p =>
    rw [itemInk, commentInk_eq, Item.words, firstLineEnd?_singleton (lexemeKind_comment_ne kind).1]
    rfl
  | argument kind p =>
    rw [itemInk, Item.words, firstLineEnd?_singleton (lexemeKind_argument_ne kind p.text).1]
    rfl
  | group openAt items closeAt =>
    rw [itemInk, Item.words, firstNewline?_append, firstLineEnd?_append,
      firstLineEnd?_cons (by decide)]
    show (firstNewline? (itemsInk limit .nothing items)).or _ = _
    rw [firstNewline?_itemsInk limit .nothing items]
    rfl

theorem firstNewline?_itemsInk (limit : Nat) (before : Before) (items : List Item) :
    firstNewline? (itemsInk limit before items) = firstLineEnd? (wordsOf items) := by
  cases items with
  | nil => rfl
  | cons item items =>
    rw [itemsInk, wordsOf, firstNewline?_append, firstLineEnd?_append,
      firstNewline?_itemInk limit before items item, firstNewline?_itemsInk limit _ items]

end

theorem firstLineEnd?_headerWords (name space : List Char) :
    firstLineEnd? (headerWords name space) = none := by
  rw [headerWords, firstLineEnd?_cons Kind.noConfusion]
  unfold spaceWords
  split
  · rfl
  · exact firstLineEnd?_singleton Kind.noConfusion

theorem firstLineEnd?_command (c : Command) :
    firstLineEnd? c.words = firstLineEnd? (wordsOf c.arguments.items) := by
  rw [Command.words, firstLineEnd?_append, firstLineEnd?_headerWords, List.cons_append,
    firstLineEnd?_cons (by decide), firstLineEnd?_append, firstLineEnd?_singleton (by decide)]
  simp

/-- The ink of elements tells how their first line ends. -/
theorem firstNewline?_elementsInk (style : Style) (es : List Element) :
    firstNewline? (elementsInk style es) = firstLineEnd? (es.flatMap Element.words) := by
  induction es with
  | nil => rfl
  | cons e es ih =>
    rw [List.flatMap_cons, firstLineEnd?_append, ← ih]
    cases e with
    | command c =>
      rw [elementsInk, firstNewline?_append, Element.words, firstLineEnd?_command,
        ← firstNewline?_itemsInk style.maxBlankLinesInArguments .nothing]
      show (firstNewline? (itemsInk _ .nothing c.arguments.items ++ [.content [')']])).or _ = _
      rw [firstNewline?_append, show firstNewline? [.content [')']] = none from rfl, Option.or_none]
    | comment kind p =>
      rw [elementsInk, commentInk_eq, Element.words,
        firstLineEnd?_singleton (lexemeKind_comment_ne kind).1]
      rfl
    | space p =>
      rw [elementsInk, Element.words, firstLineEnd?_singleton Kind.noConfusion, Option.none_or]
      split <;> rfl
    | newline p => rfl

/-- How the lines of a file end: like the first, or with a line feed. -/
def lineEndOf (f : File) : List Char := (firstLineEnd? f.words).getD ['\n']

/-! ### Content and what follows it -/

/-- Is this a blank or the end of a line? -/
def isBlankElement : Element → Bool
  | .space _ | .newline _ => true
  | .command _ | .comment _ _ => false

/-- The elements without the blanks and ends of lines behind the last content. -/
def contentOf (es : List Element) : List Element := es.rdropWhile isBlankElement

/-- Either all elements are blank, or there is a last one that is not. -/
theorem contentOf_cases (es : List Element) :
    ((∀ e ∈ es, isBlankElement e = true) ∧ contentOf es = []) ∨
      ∃ as e bs, es = as ++ e :: bs ∧ isBlankElement e = false ∧
        (∀ b ∈ bs, isBlankElement b = true) ∧ contentOf es = as ++ [e] := by
  induction es using List.reverseRecOn with
  | nil => exact .inl ⟨fun e he => (by cases he), rfl⟩
  | append_singleton es e ih =>
    by_cases he : isBlankElement e = true
    · rw [contentOf, List.rdropWhile_concat_pos _ _ _ he]
      rcases ih with ⟨hall, hnil⟩ | ⟨as, e', bs, rfl, he', hbs, hcontent⟩
      · refine .inl ⟨?_, hnil⟩
        intro d hd
        rcases List.mem_append.1 hd with hd | hd
        · exact hall d hd
        · rw [List.mem_singleton.1 hd]
          exact he
      · refine .inr ⟨as, e', bs ++ [e], by simp, he', ?_, hcontent⟩
        intro d hd
        rcases List.mem_append.1 hd with hd | hd
        · exact hbs d hd
        · rw [List.mem_singleton.1 hd]
          exact he
    · rw [contentOf, List.rdropWhile_concat_neg _ _ _ he]
      exact .inr ⟨es, e, [], rfl, by simpa using he, fun b hb => (by cases hb), rfl⟩

theorem endsLine_append {as bs : List Element} (h : endsLine bs = false) (cs : List Element) :
    endsLine (as ++ (bs ++ cs)) = endsLine (as ++ bs) := by
  cases as with
  | nil =>
    cases bs with
    | nil => cases h
    | cons b bs => cases b <;> rfl
  | cons a as => cases a <;> rfl

theorem layElement_append {style : Style} {run : Nat} {as bs : List Element} (h : endsLine bs = false)
    (cs : List Element) (e : Element) :
    layElement style run (as ++ (bs ++ cs)) e = layElement style run (as ++ bs) e := by
  cases e with
  | space p => rw [layElement, layElement, endsLine_append h]
  | _ => rfl

/-- What follows content is laid out without regard to what stands before. -/
theorem layElements_append {style : Style} {run : Nat} {e : Element} (he : isBlankElement e = false)
    (as bs : List Element) :
    layElements style run (as ++ e :: bs)
      = layElements style run (as ++ [e]) ++ layElements style 0 bs := by
  induction as generalizing run with
  | nil =>
    rw [List.nil_append, List.nil_append, layElements, layElements, layElements, List.append_nil]
    cases e with
    | command c => rfl
    | comment kind p => rfl
    | space p => cases he
    | newline p => cases he
  | cons a as ih =>
    have hends : endsLine [e] = false := by
      cases e with
      | newline p => cases he
      | _ => rfl
    rw [List.cons_append, List.cons_append, layElements, layElements, ih, List.append_assoc,
      ← layElement_append hends bs a]
    rfl

/-! ### Files -/

/-- **A file laid out.**  If it has to end with the end of a line, just one is left behind its content. -/
def layFile (style : Style) (f : File) : File :=
  if style.finalNewline && !f.elements.all isBlankElement then
    ⟨layElements style 0 (contentOf f.elements) ++ [.newline ⟨0, lineEndOf f⟩]⟩
  else ⟨layElements style 0 f.elements⟩

/-- Elements that are blank leave only blank words. -/
theorem mem_layElements_of_blank (style : Style) (run : Nat) {es : List Element}
    (hes : ∀ e ∈ es, isBlankElement e = true) : ∀ e ∈ layElements style run es, e ∈ es := by
  induction es generalizing run with
  | nil =>
    intro e he
    cases he
  | cons d es ih =>
    intro e he
    rw [layElements] at he
    rcases List.mem_append.1 he with he | he
    · have hd := hes d (.head _)
      cases d with
      | command c => cases hd
      | comment kind p => cases hd
      | space p =>
        rw [layElement] at he
        split at he
        · cases he
        · rw [List.mem_singleton.1 he]
          exact .head _
      | newline p =>
        rw [layElement] at he
        split at he
        · cases he
        · rw [List.mem_singleton.1 he]
          exact .head _
    · exact .tail _ (ih _ (fun e' he' => hes e' (.tail _ he')) e he)

/-- Of blank elements at the end no blanks are left. -/
theorem newline_of_mem_layElements {style : Style} {run : Nat} {es : List Element}
    (hes : ∀ e ∈ es, isBlankElement e = true) (hchain : (es.flatMap Element.words).IsChain Word.Precedes) :
    ∀ e ∈ layElements style run es, ∃ p, e = .newline p := by
  induction es generalizing run with
  | nil =>
    intro e he
    cases he
  | cons d es ih =>
    intro e he
    rw [List.flatMap_cons] at hchain
    rw [layElements] at he
    rcases List.mem_append.1 he with he | he
    · cases d with
      | command c => cases hes _ (.head _)
      | comment kind p => cases hes _ (.head _)
      | space p =>
        rw [layElement] at he
        split at he
        · cases he
        · rename_i hends
          cases es with
          | nil => exact absurd rfl hends
          | cons e' es =>
            have he' := hes e' (.tail _ (.head _))
            cases e' with
            | command c => cases he'
            | comment kind q => cases he'
            | newline q => exact absurd rfl hends
            | space q => cases (List.isChain_cons_cons.1 hchain).1
      | newline p =>
        rw [layElement] at he
        split at he
        · cases he
        · exact ⟨p, List.mem_singleton.1 he⟩
    · exact ih (fun e' he' => hes e' (.tail _ he')) hchain.right_of_append e he

/-! ### The text of a file laid out -/

theorem isBlank_of_isLineBlank {c : Char} (h : isLineBlank c = true) : isBlank c = true := by
  have hc : c = ' ' ∨ c = '\t' := by simpa [isLineBlank] using h
  rcases hc with rfl | rfl <;> decide

theorem isBlank_of_isLineEnd {c : Char} (h : isLineEnd c = true) : isBlank c = true := by
  have hc : c = '\n' ∨ c = '\r' := by simpa [isLineEnd] using h
  rcases hc with rfl | rfl <;> decide

theorem isLineEnd_of_mem {lineEnd : List Char} (h : lineEnd = ['\n'] ∨ lineEnd = ['\r', '\n']) :
    ∀ c ∈ lineEnd, isLineEnd c = true := by
  rcases h with rfl | rfl <;> simp [isLineEnd]

/-- The text of blank elements is blank. -/
theorem isBlank_of_mem_textOf {es : List Element} (hes : ∀ e ∈ es, isBlankElement e = true)
    (halone : ∀ e ∈ es, ∀ w ∈ e.words, w.trimmed.StandsAlone) :
    ∀ c ∈ textOf (es.flatMap Element.words), isBlank c = true := by
  intro c hc
  rw [textOf, List.flatMap_assoc] at hc
  obtain ⟨e, he, hc⟩ := List.mem_flatMap.1 hc
  have hblank := hes e he
  have hwords := halone e he
  cases e with
  | command c => cases hblank
  | comment kind p => cases hblank
  | space p =>
    have hc' : c ∈ p.text := by simpa [Element.words] using hc
    exact isBlank_of_isLineBlank (text_of_space (hwords ⟨.space, p.text⟩ (.head _)) rfl c hc')
  | newline p =>
    have hc' : c ∈ p.text := by simpa [Element.words] using hc
    have htext := text_of_newline (hwords ⟨.newline, p.text⟩ (.head _)) rfl
    exact isBlank_of_isLineEnd (isLineEnd_of_mem htext c hc')

/-- The text of an element that is not blank does not end with a blank when it is laid out. -/
theorem textOf_layElement (style : Style) (run : Nat) (after : List Element) {e : Element}
    (he : isBlankElement e = false) (halone : ∀ w ∈ e.words, w.trimmed.StandsAlone) :
    ∃ s c, textOf ((layElement style run after e).flatMap Element.words) = s ++ [c] ∧
      isBlank c = false := by
  cases e with
  | space p => cases he
  | newline p => cases he
  | command c =>
    refine ⟨textOf (headerWords c.name.text (parenSpace style c.spaceBeforeParen)) ++ ('(' ::
      textOf (wordsOf (layItems style.maxBlankLinesInArguments .nothing 0 c.arguments.items))), ')',
      ?_, by decide⟩
    simp [layElement, layCommand, Element.words, Command.words, openWord, closeWord]
  | comment kind p =>
    have hw := halone ⟨kind.lexemeKind, p.text⟩ (.head _)
    cases kind with
    | line =>
      obtain ⟨s, c, htext, hc⟩ := text_of_comment hw (.inl rfl)
      refine ⟨s, c, ?_, hc⟩
      rw [← htext]
      simp [layElement, layComment, Element.words, CommentKind.lexemeKind, Word.trimmed]
    | bracket =>
      obtain ⟨s, c, htext, hc⟩ := text_of_comment hw (.inr rfl)
      refine ⟨s, c, ?_, hc⟩
      rw [← htext]
      simp [layElement, layComment, Element.words, CommentKind.lexemeKind, Word.trimmed]

theorem layElements_concat (style : Style) (run : Nat) (es : List Element) (e : Element) :
    ∃ before run', layElements style run (es ++ [e]) = before ++ layElement style run' [] e := by
  induction es generalizing run with
  | nil => exact ⟨[], run, by rw [List.nil_append, layElements, layElements, List.append_nil]; rfl⟩
  | cons d es ih =>
    obtain ⟨before, run', h⟩ := ih (elementRun style run d)
    refine ⟨layElement style run (es ++ [e]) d ++ before, run', ?_⟩
    rw [List.cons_append, layElements, h, List.append_assoc]

theorem alone_of_mem {es : List Element} (h : FromText (es.flatMap Element.words)) :
    ∀ e ∈ es, ∀ w ∈ e.words, w.trimmed.StandsAlone :=
  fun e he w hw => h.alone w (List.mem_flatMap.2 ⟨e, he, hw⟩)

/-- Elements that end with content do not end with a blank when they are laid out. -/
theorem textOf_layElements_concat (style : Style) (run : Nat) (es : List Element) {e : Element}
    (he : isBlankElement e = false) (halone : ∀ w ∈ e.words, w.trimmed.StandsAlone) :
    ∃ s c, textOf ((layElements style run (es ++ [e])).flatMap Element.words) = s ++ [c] ∧
      isBlank c = false := by
  obtain ⟨before, run', hlay⟩ := layElements_concat style run es e
  obtain ⟨s, c, hlast, hc⟩ := textOf_layElement style run' [] he halone
  refine ⟨textOf (before.flatMap Element.words) ++ s, c, ?_, hc⟩
  rw [hlay, List.flatMap_append, textOf_append, hlast, List.append_assoc]

/-- Of blank elements only ends of lines are left. -/
theorem text_of_mem_layElements (style : Style) (run : Nat) {es : List Element}
    (hes : ∀ e ∈ es, isBlankElement e = true) (h : FromText (es.flatMap Element.words)) :
    ∀ w ∈ (layElements style run es).flatMap Element.words, w.text = ['\n'] ∨ w.text = ['\r', '\n'] := by
  intro w hw
  obtain ⟨e, he, hw⟩ := List.mem_flatMap.1 hw
  obtain ⟨p, rfl⟩ := newline_of_mem_layElements hes h.chain e he
  have he' := mem_layElements_of_blank style run hes _ he
  rw [List.mem_singleton.1 hw]
  exact text_of_newline (alone_of_mem h _ he' ⟨.newline, p.text⟩ (.head _)) rfl

/-- Finishing a text cuts off the ends of lines behind its content. -/
theorem finish_append {s t newline : List Char} {c : Char} (hc : isBlank c = false)
    (ht : ∀ d ∈ t, isLineEnd d = true) : finish newline (s ++ [c] ++ t) = s ++ [c] ++ newline := by
  have hall : isAllBlank (s ++ [c] ++ t) = false := by
    simp [isAllBlank, hc]
  have hlast : ∀ d ∈ (s ++ [c]).getLast?, isLineEnd d = false := by
    intro d hd
    rw [List.getLast?_concat] at hd
    cases hd
    by_contra h
    rw [isBlank_of_isLineEnd (by simpa using h)] at hc
    cases hc
  rw [finish, hall, dropEndWhile_append_of_all ht, dropEndWhile_eq_self hlast]
  rfl

/-- **The text of a file in a style is that of the words of the file laid out.** -/
theorem fileText_eq_textOf {style : Style} {f : File} (h : FromText f.words) :
    fileText style f = textOf (layFile style f).words := by
  have hwrite := write_elementsInk style 0 f.elements
  have hend : (firstNewline? (fileInk style f)).getD ['\n'] = lineEndOf f := by
    rw [fileInk, firstNewline?_elementsInk]
    rfl
  unfold fileText layFile
  cases hfinal : style.finalNewline with
  | false => exact hwrite
  | true =>
    show finish _ (write 0 (fileInk style f)) = _
    rw [hend, fileInk, hwrite]
    have halone := alone_of_mem h
    rcases contentOf_cases f.elements with ⟨hall, -⟩ | ⟨as, e, bs, hes, he, hbs, hcontent⟩
    · have hblank : isAllBlank (textOf ((layElements style 0 f.elements).flatMap Element.words))
          = true := by
        have hmem := mem_layElements_of_blank style 0 hall
        exact List.all_eq_true.2 (isBlank_of_mem_textOf (fun e he => hall e (hmem e he))
          (fun e he => halone e (hmem e he)))
      rw [finish, hblank, List.all_eq_true.2 hall]
      rfl
    · have hnot : f.elements.all isBlankElement = false := by
        rw [hes]
        simp [he]
      rw [hnot, hcontent, hes, layElements_append he, List.flatMap_append, textOf_append]
      have hmem : e ∈ f.elements := by
        rw [hes]
        simp
      obtain ⟨s, c, hfront, hc⟩ := textOf_layElements_concat style 0 as he (halone e hmem)
      have hwords : f.words = (as ++ [e]).flatMap Element.words ++ bs.flatMap Element.words := by
        rw [File.words, hes, ← List.flatMap_append]
        simp
      rw [hwords] at h
      have htail : ∀ d ∈ textOf ((layElements style 0 bs).flatMap Element.words), isLineEnd d = true := by
        intro d hd
        obtain ⟨w, hw, hd⟩ := List.mem_flatMap.1 hd
        exact isLineEnd_of_mem (text_of_mem_layElements style 0 hbs h.right w hw) d hd
      rw [hfront, finish_append hc htail, ← hfront]
      simp [File.words, Element.words]

end Listfile.Layout
