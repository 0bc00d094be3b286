import Listfile.Proofs.Layout.Meaning

/-!
# Formatting twice is formatting once

* `layItems_layItems`, `layElements_layElements`: what is left of a layout is left of it again.
* `lineEndOf_content`: a file laid out ends its lines as before.
* **`layFile_layFile`**: a file laid out is not changed by laying it out.
* **`format_format`**: formatting does not change what it has returned.
-/

namespace Listfile.Layout

open Listfile.Tree

/-! ### Items -/

/-- Is this a blank or the end of a line? -/
def isBlankItem : Item → Bool
  | .space _ | .newline _ => true
  | .comment _ _ | .argument _ _ | .group _ _ _ => false

/-- The items do not begin with blanks or the end of a line. -/
def BeginsWithContent (items : List Item) : Prop := ∀ i ∈ items.head?, isBlankItem i = false

/-- What stands before the items in the source, and what stands before them in the layout: they may only
differ where it does not matter. -/
structure Agree (run : Nat) (before before' : Before) (items : List Item) : Prop where
  space : ∀ p rest, items = .space p :: rest → before' = before
  run : 0 < run → before' = .newline ∨ BeginsWithContent items

/-- Only content follows blanks that stay. -/
theorem beginsWithContent_of_space {p : Piece} {after : List Item}
    (hc : ((⟨.space, p.text⟩ : Word) :: wordsOf after).IsChain Word.Precedes)
    (hnext : (after.head?.map isNewline).getD false = false) : BeginsWithContent after := by
  intro i hi
  cases after with
  | nil => cases hi
  | cons item after =>
    cases hi
    cases i with
    | newline q => cases hnext
    | space q => cases (List.isChain_cons_cons.1 hc).1
    | _ => rfl

theorem laySpace_newline {p : Piece} {after : List Item}
    (h : (after.head?.map isNewline).getD false = false) : laySpace .newline p after = [.space p] := by
  unfold laySpace
  rw [h]
  rfl

theorem laySpace_nothing (p : Piece) (after : List Item) : laySpace .nothing p after = [] := by
  unfold laySpace
  split <;> rfl

theorem laySpace_other {p : Piece} {after : List Item}
    (h : (after.head?.map isNewline).getD false = false) :
    laySpace .other p after = if after.isEmpty then [] else [.space ⟨p.start, [' ']⟩] := by
  unfold laySpace
  rw [h]
  rfl

/-- What begins with content still does so in the layout. -/
theorem BeginsWithContent.layItems {items : List Item} (h : BeginsWithContent items) (limit run : Nat)
    (before : Before) :
    ((layItems limit before run items).head?.map isNewline).getD false = false ∧
      ((layItems limit before run items).isEmpty = items.isEmpty) := by
  cases items with
  | nil => exact ⟨rfl, rfl⟩
  | cons item items =>
    have hitem := h item rfl
    cases item with
    | space p => cases hitem
    | newline p => cases hitem
    | comment kind p => exact ⟨rfl, rfl⟩
    | argument kind p => exact ⟨rfl, rfl⟩
    | group openAt items closeAt => exact ⟨rfl, rfl⟩

/-- What holds behind an item that is written. -/
theorem Agree.written {limit run : Nat} {item : Item} {items : List Item}
    (h : ∀ p, item = .space p → BeginsWithContent items) :
    Agree (itemRun limit run item) (beforeNext item) (beforeNext item) items := by
  refine ⟨fun _ _ _ => rfl, ?_⟩
  intro hrun
  cases item with
  | newline p => exact .inl rfl
  | space p => exact .inr (h p rfl)
  | _ => exact absurd hrun (Nat.lt_irrefl 0)

/-- Blanks of a layout are laid out as they are. -/
theorem layItems_laySpace {limit run : Nat} {before before' : Before} {p : Piece} {after : List Item}
    (hagree : Agree run before before' (.space p :: after))
    (hc : ((⟨.space, p.text⟩ : Word) :: wordsOf after).IsChain Word.Precedes)
    (hafter : ∀ before'', Agree run .other before'' after →
      layItems limit before'' run (layItems limit .other run after) = layItems limit .other run after) :
    layItems limit before' run (laySpace before p after ++ layItems limit .other run after)
      = laySpace before p after ++ layItems limit .other run after := by
  obtain rfl := hagree.space p after rfl
  have hnewline : 0 < run → before' = .newline := by
    intro hrun
    rcases hagree.run hrun with h | h
    · exact h
    · cases h _ rfl
  by_cases hnext : (after.head?.map isNewline).getD false = true
  · have hlay : laySpace before' p after = [] := by
      unfold laySpace
      rw [if_pos hnext]
    rw [hlay]
    refine hafter before' ⟨?_, fun hrun => .inl (hnewline hrun)⟩
    intro q rest hq
    rw [hq] at hnext
    cases hnext
  · have hnext' : (after.head?.map isNewline).getD false = false := by simpa using hnext
    have hcontent := beginsWithContent_of_space hc hnext'
    have hagree' : Agree run .other before' after := by
      refine ⟨?_, fun _ => .inr hcontent⟩
      intro q rest hq
      rw [hq] at hcontent
      cases hcontent _ rfl
    obtain ⟨hhead, hempty⟩ := hcontent.layItems limit run .other
    have hkept : ∀ q : Piece, laySpace before' q (layItems limit .other run after) = [.space q] →
        layItems limit before' run ([.space q] ++ layItems limit .other run after)
          = [.space q] ++ layItems limit .other run after := by
      intro q hq
      show laySpace before' q (layItems limit .other run after)
        ++ layItems limit .other run (layItems limit .other run after) = _
      rw [hq, hafter .other ⟨fun _ _ _ => rfl, fun _ => .inr hcontent⟩]
    cases before' with
    | newline =>
      rw [laySpace_newline hnext']
      exact hkept p (laySpace_newline hhead)
    | nothing =>
      rw [laySpace_nothing]
      exact hafter .nothing hagree'
    | other =>
      rw [laySpace_other hnext']
      split
      · exact hafter .other hagree'
      · rename_i hne
        refine hkept ⟨p.start, [' ']⟩ ?_
        rw [laySpace_other hhead, hempty, if_neg hne]

mutual

theorem layItems_layItem_append {limit run : Nat} {before before' : Before} {after : List Item}
    (item : Item) (hagree : Agree run before before' (item :: after))
    (hc : (item.words ++ wordsOf after).IsChain Word.Precedes)
    (hafter : ∀ before'', Agree (itemRun limit run item) (beforeNext item) before'' after →
      layItems limit before'' (itemRun limit run item)
          (layItems limit (beforeNext item) (itemRun limit run item) after)
        = layItems limit (beforeNext item) (itemRun limit run item) after) :
    layItems limit before' run (layItem limit before run after item
        ++ layItems limit (beforeNext item) (itemRun limit run item) after)
      = layItem limit before run after item
        ++ layItems limit (beforeNext item) (itemRun limit run item) after := by
  cases item with
  | space p => exact layItems_laySpace hagree hc hafter
  | newline p =>
    rw [layItem]
    rw [itemRun] at hafter ⊢
    split
    · rename_i hlimit
      rw [if_pos hlimit] at hafter
      have hnewline : before' = .newline := by
        rcases hagree.run (Nat.zero_lt_of_lt hlimit) with h | h
        · exact h
        · cases h _ rfl
      exact hafter before' ⟨fun _ _ _ => hnewline, fun _ => .inl hnewline⟩
    · rename_i hlimit
      rw [if_neg hlimit] at hafter
      rw [List.singleton_append, layItems, layItem, if_neg hlimit, itemRun, if_neg hlimit,
        hafter (beforeNext (.newline p)) ⟨fun _ _ _ => rfl, fun _ => .inl rfl⟩]
      rfl
  | comment kind p =>
    rw [layItem, List.singleton_append, layItems, layItem, layComment_layComment]
    exact congrArg _ (hafter .other (Agree.written (fun _ h => by cases h)))
  | argument kind p =>
    exact congrArg (List.cons _) (hafter .other (Agree.written (fun _ h => by cases h)))
  | group openAt items closeAt =>
    have hinner : (wordsOf items).IsChain Word.Precedes := by
      rw [Item.words] at hc
      exact hc.left_of_append.left_of_append.tail
    have hagree : Agree 0 .nothing .nothing items :=
      ⟨fun _ _ _ => rfl, fun h => absurd h (Nat.lt_irrefl 0)⟩
    have hitems := layItems_layItems limit 0 items hagree hinner
    rw [layItem, List.singleton_append, layItems, layItem, hitems]
    exact congrArg _ (hafter .other (Agree.written (fun _ h => by cases h)))

/-- **Laying items out twice is laying them out once.** -/
theorem layItems_layItems (limit run : Nat) {before before' : Before} (items : List Item)
    (hagree : Agree run before before' items) (hc : (wordsOf items).IsChain Word.Precedes) :
    layItems limit before' run (layItems limit before run items) = layItems limit before run items := by
  cases items with
  | nil => rfl
  | cons item items =>
    rw [wordsOf] at hc
    rw [layItems]
    exact layItems_layItem_append item hagree hc
      fun before'' h => layItems_layItems limit _ items h hc.right_of_append

end

/-! ### Elements -/

theorem parenSpace_parenSpace (style : Style) (space : List Char) :
    parenSpace style (parenSpace style space) = parenSpace style space := by
  unfold parenSpace
  cases style.spaceBeforeParen with
  | preserve => rfl
  | remove => rfl
  | single =>
    dsimp only
    split
    · rfl
    · rfl

theorem layCommand_layCommand {style : Style} {c : Command} (hc : c.words.IsChain Word.Precedes) :
    layCommand style (layCommand style c) = layCommand style c := by
  have hitems : (wordsOf c.arguments.items).IsChain Word.Precedes := by
    rw [Command.words] at hc
    exact hc.right_of_append.left_of_append.tail
  have hagree : Agree 0 .nothing .nothing c.arguments.items :=
    ⟨fun _ _ _ => rfl, fun h => absurd h (Nat.lt_irrefl 0)⟩
  rw [layCommand, layCommand, parenSpace_parenSpace, layItems_layItems _ 0 _ hagree hitems]

/-- Blanks that stay stand before content, in the source and in the layout. -/
theorem endsLine_layElements {style : Style} {run : Nat} {p : Piece} {es : List Element}
    (hc : ((⟨.space, p.text⟩ : Word) :: es.flatMap Element.words).IsChain Word.Precedes)
    (h : endsLine es = false) : endsLine (layElements style run es) = false := by
  cases es with
  | nil => cases h
  | cons e es =>
    cases e with
    | newline q => cases h
    | space q => cases (List.isChain_cons_cons.1 hc).1
    | comment kind q => rfl
    | command c => rfl

/-- **Laying elements out twice is laying them out once.** -/
theorem layElements_layElements {style : Style} {run : Nat} {es : List Element}
    (hc : (es.flatMap Element.words).IsChain Word.Precedes) :
    layElements style run (layElements style run es) = layElements style run es := by
  induction es generalizing run with
  | nil => rfl
  | cons e es ih =>
    rw [List.flatMap_cons] at hc
    have htail := hc.right_of_append
    rw [layElements]
    cases e with
    | command c =>
      rw [layElement, List.singleton_append, layElements, layElement,
        layCommand_layCommand hc.left_of_append]
      exact congrArg _ (ih htail)
    | comment kind p =>
      rw [layElement, List.singleton_append, layElements, layElement, layComment_layComment]
      exact congrArg _ (ih htail)
    | space p =>
      rw [layElement, elementRun]
      split
      · exact ih htail
      · rename_i hends
        have hends' : endsLine es = false := by simpa using hends
        rw [List.singleton_append, layElements, layElement, elementRun,
          endsLine_layElements hc hends', ih htail]
        rfl
    | newline p =>
      rw [layElement, elementRun]
      split
      · exact ih htail
      · rename_i hlimit
        rw [List.singleton_append, layElements, layElement, if_neg hlimit, elementRun, if_neg hlimit,
          ih htail]
        rfl

/-! ### How lines end -/

theorem firstLineEnd?_laySpace (before : Before) (p : Piece) (after : List Item) :
    firstLineEnd? (wordsOf (laySpace before p after)) = none := by
  rcases laySpace_cases before p after with hlay | ⟨q, hlay, -⟩
  all_goals
    rw [hlay]
    rfl

mutual

/-- The first end of a line is never left out. -/
theorem firstLineEnd?_layItem_append {limit : Nat} {before : Before} {after : List Item} (item : Item)
    (hafter : firstLineEnd? (wordsOf (layItems limit (beforeNext item) 0 after))
      = firstLineEnd? (wordsOf after)) :
    firstLineEnd? (wordsOf (layItem limit before 0 after item
        ++ layItems limit (beforeNext item) (itemRun limit 0 item) after))
      = (firstLineEnd? item.words).or (firstLineEnd? (wordsOf after)) := by
  rw [wordsOf_append, firstLineEnd?_append]
  cases item with
  | space p =>
    rw [layItem, firstLineEnd?_laySpace, itemRun, hafter]
    rfl
  | newline p =>
    rw [layItem, if_neg (Nat.not_lt_zero _)]
    rfl
  | comment kind p =>
    rw [layItem, itemRun, hafter, wordsOf_singleton, Item.words, Item.words,
      firstLineEnd?_singleton (lexemeKind_comment_ne kind).1,
      firstLineEnd?_singleton (lexemeKind_comment_ne kind).1]
  | argument kind p => rw [layItem, itemRun, hafter, wordsOf_singleton]
  | group openAt items closeAt =>
    have hopen : ∀ ws, firstLineEnd? (openWord :: ws) = firstLineEnd? ws := firstLineEnd?_cons (by decide)
    rw [layItem, itemRun, hafter, wordsOf_singleton, Item.words, Item.words, firstLineEnd?_append,
      firstLineEnd?_append, hopen, hopen, firstLineEnd?_layItems items]

theorem firstLineEnd?_layItems {limit : Nat} {before : Before} (items : List Item) :
    firstLineEnd? (wordsOf (layItems limit before 0 items)) = firstLineEnd? (wordsOf items) := by
  cases items with
  | nil => rfl
  | cons item items =>
    rw [layItems, firstLineEnd?_layItem_append item (firstLineEnd?_layItems items), wordsOf,
      firstLineEnd?_append]

end

theorem firstLineEnd?_layElements {style : Style} (es : List Element) :
    firstLineEnd? ((layElements style 0 es).flatMap Element.words)
      = firstLineEnd? (es.flatMap Element.words) := by
  induction es with
  | nil => rfl
  | cons e es ih =>
    rw [layElements, List.flatMap_append, List.flatMap_cons, firstLineEnd?_append,
      firstLineEnd?_append]
    cases e with
    | command c =>
      rw [layElement, elementRun, ih, List.flatMap_singleton, Element.words, Element.words,
        firstLineEnd?_command, firstLineEnd?_command, layCommand, firstLineEnd?_layItems]
    | comment kind p =>
      rw [layElement, elementRun, ih, List.flatMap_singleton, Element.words, Element.words,
        firstLineEnd?_singleton (lexemeKind_comment_ne kind).1,
        firstLineEnd?_singleton (lexemeKind_comment_ne kind).1]
    | space p =>
      rw [layElement, elementRun, ih]
      split <;> rfl
    | newline p =>
      rw [layElement, if_neg (Nat.not_lt_zero _)]
      rfl

/-- A file laid out with its end ends its lines as before. -/
theorem lineEndOf_content (style : Style) (f : File) :
    lineEndOf ⟨layElements style 0 (contentOf f.elements) ++ [.newline ⟨0, lineEndOf f⟩]⟩
      = lineEndOf f := by
  obtain ⟨bs, hes, -⟩ := exists_contentOf_append f.elements
  have hwords : firstLineEnd? f.words
      = (firstLineEnd? ((contentOf f.elements).flatMap Element.words)).or
          (firstLineEnd? (bs.flatMap Element.words)) := by
    rw [File.words]
    conv_lhs => rw [hes]
    rw [List.flatMap_append, firstLineEnd?_append]
  rw [lineEndOf, File.words, List.flatMap_append, firstLineEnd?_append, firstLineEnd?_layElements]
  show ((firstLineEnd? ((contentOf f.elements).flatMap Element.words)).or (some (lineEndOf f))).getD _ = _
  cases hfirst : firstLineEnd? ((contentOf f.elements).flatMap Element.words) with
  | none => rfl
  | some t =>
    rw [hfirst] at hwords
    rw [lineEndOf, hwords]
    rfl

/-! ### Files -/

theorem isBlankElement_layElement (style : Style) (run : Nat) (after : List Element) {e : Element}
    (he : isBlankElement e = false) :
    ∃ e', layElement style run after e = [e'] ∧ isBlankElement e' = false := by
  cases e with
  | space p => cases he
  | newline p => cases he
  | command c => exact ⟨_, rfl, rfl⟩
  | comment kind p => exact ⟨_, rfl, rfl⟩

/-- **A file laid out is not changed by laying it out.** -/
theorem layFile_layFile {style : Style} {f : File} (h : FromText f.words) :
    layFile style (layFile style f) = layFile style f := by
  cases hfinal : style.finalNewline with
  | false =>
    have hlay : ∀ g : File, layFile style g = ⟨layElements style 0 g.elements⟩ := by
      intro g
      rw [layFile, hfinal]
      rfl
    rw [hlay, hlay, layElements_layElements h.chain]
  | true =>
    have hlay : ∀ g : File, layFile style g
        = if !g.elements.all isBlankElement then
            ⟨layElements style 0 (contentOf g.elements) ++ [.newline ⟨0, lineEndOf g⟩]⟩
          else ⟨layElements style 0 g.elements⟩ := by
      intro g
      rw [layFile, hfinal]
      rfl
    rcases contentOf_cases f.elements with ⟨hall, -⟩ | ⟨as, e, bs, hes, he, -, hcontent⟩
    · have hblank : f.elements.all isBlankElement = true := List.all_eq_true.2 hall
      have hblank' : (layElements style 0 f.elements).all isBlankElement = true :=
        List.all_eq_true.2 fun e he => hall e (mem_layElements_of_blank style 0 hall e he)
      have hf : layFile style f = ⟨layElements style 0 f.elements⟩ := by
        rw [hlay, hblank]
        rfl
      rw [hf, hlay, hblank']
      exact congrArg File.mk (layElements_layElements h.chain)
    · have hnot : f.elements.all isBlankElement = false := by
        rw [hes]
        simp [he]
      have hf : layFile style f
          = ⟨layElements style 0 (contentOf f.elements) ++ [.newline ⟨0, lineEndOf f⟩]⟩ := by
        rw [hlay, hnot]
        rfl
      obtain ⟨before, run, hconcat⟩ := layElements_concat style 0 as e
      obtain ⟨e', he', hblank⟩ :=
        isBlankElement_layElement style run [] he
      have hlast : layElements style 0 (contentOf f.elements) = before ++ [e'] := by
        rw [hcontent, hconcat, he']
      have hnot' : (layElements style 0 (contentOf f.elements)
          ++ [Element.newline ⟨0, lineEndOf f⟩]).all isBlankElement = false := by
        rw [hlast]
        simp [hblank]
      have hcontent' : contentOf (layElements style 0 (contentOf f.elements)
          ++ [Element.newline ⟨0, lineEndOf f⟩]) = layElements style 0 (contentOf f.elements) := by
        rw [contentOf, List.rdropWhile_concat_pos _ _ _ rfl, hlast,
          List.rdropWhile_concat_neg _ _ _ (by simpa using hblank)]
      rw [hf, hlay, hnot', lineEndOf_content]
      show File.mk (layElements style 0 (contentOf _) ++ _) = _
      rw [hcontent', layElements_layElements (fromText_contentOf h).chain]

/-! ### Formatting -/

mutual

theorem itemInk_unplaced (limit : Nat) (before : Before) (after : List Item) (item : Item) :
    itemInk limit before (unplacedOf after) item.unplaced = itemInk limit before after item := by
  cases item with
  | space p =>
    cases after with
    | nil => rfl
    | cons item after =>
      cases item <;> rfl
  | newline p => rfl
  | comment kind p => rfl
  | argument kind p => rfl
  | group openAt items closeAt =>
    rw [Item.unplaced, itemInk, itemInk, itemsInk_unplaced limit .nothing items]

theorem itemsInk_unplaced (limit : Nat) (before : Before) (items : List Item) :
    itemsInk limit before (unplacedOf items) = itemsInk limit before items := by
  cases items with
  | nil => rfl
  | cons item items =>
    have hnewline : isNewline item.unplaced = isNewline item := by
      cases item <;> rfl
    rw [unplacedOf, itemsInk, itemsInk, itemInk_unplaced limit before items item, hnewline,
      itemsInk_unplaced limit _ items]

end

theorem elementsInk_unplaced (style : Style) (es : List Element) :
    elementsInk style (es.map Element.unplaced) = elementsInk style es := by
  induction es with
  | nil => rfl
  | cons e es ih =>
    cases e with
    | command c =>
      rw [List.map_cons, Element.unplaced, elementsInk, elementsInk, ih, commandInk, commandInk,
        Command.unplaced, itemsInk_unplaced]
      rfl
    | comment kind p =>
      rw [List.map_cons, Element.unplaced, elementsInk, elementsInk, ih]
      rfl
    | space p =>
      have hends : endsLine (es.map Element.unplaced) = endsLine es := by
        cases es with
        | nil => rfl
        | cons e es => cases e <;> rfl
      rw [List.map_cons, Element.unplaced, elementsInk, elementsInk, ih, hends]
      rfl
    | newline p =>
      rw [List.map_cons, Element.unplaced, elementsInk, elementsInk, ih]
      rfl

/-- The text of a file does not depend on the places of its nodes. -/
theorem fileText_unplaced (style : Style) (f : File) : fileText style f.unplaced = fileText style f := by
  unfold fileText
  rw [fileInk, fileInk, File.unplaced, elementsInk_unplaced]

/-- The text of a file in a style is formatted already. -/
theorem format_fileText (style : Style) {source : List Char} {f : File} (h : File.parse source = .ok f) :
    format style (fileText style f) = .ok (fileText style f) := by
  obtain ⟨g, hg, hunplaced⟩ := parse_fileText style h
  have hwords := (words_of_parse h).2
  have htext : fileText style g = fileText style f :=
    calc fileText style g = fileText style (layFile style f) := by
          rw [← fileText_unplaced, hunplaced, fileText_unplaced]
      _ = textOf (layFile style (layFile style f)).words :=
          fileText_eq_textOf (separate_layFile hwords).fromText
      _ = fileText style f := by rw [layFile_layFile hwords, fileText_eq_textOf hwords]
  rw [format_of_parse hg, htext]

/-- What is returned for a text is returned for itself. -/
theorem format_of_format {style : Style} {source text : List Char} (h : format style source = .ok text) :
    format style text = .ok text := by
  obtain ⟨f, hf, rfl⟩ := map_eq_ok.1 h
  exact format_fileText style hf

/-- **Formatting is idempotent.**  What is returned for a text that is accepted is formatted already. -/
theorem format_format (style : Style) {source : List Char} {f : File} (h : File.parse source = .ok f) :
    ∃ out, format style source = .ok out ∧ format style out = .ok out ∧
      isFormatted style out = .ok true := by
  have hagain := format_fileText style h
  refine ⟨fileText style f, format_of_parse h, hagain, ?_⟩
  rw [isFormatted, hagain]
  show Except.ok (fileText style f == fileText style f) = _
  rw [beq_self_eq_true]

/-- Lines that end in two ways, and more of them at the end than may stay. -/
theorem format_format_commands :
    ∃ f, File.parse " if (a\r\n\n\n  b)#c \n\r\n \n".toList = .ok f ∧
      ∃ out, format {} " if (a\r\n\n\n  b)#c \n\r\n \n".toList = .ok out ∧
        format {} out = .ok out ∧ isFormatted {} out = .ok true := by
  have hok : (File.parse " if (a\r\n\n\n  b)#c \n\r\n \n".toList).isOk = true := by decide +kernel
  obtain ⟨f, hf⟩ := exists_of_isOk hok
  exact ⟨f, hf, format_format {} hf⟩

example : format {} "if (a  b )\n\n".toList = .ok "if (a b)\n".toList := by decide +kernel

end Listfile.Layout
