import Listfile.Proofs.Layout.Separation
import Listfile.Proofs.Outcome

/-!
# Formatting keeps the meaning of a file

* `bareFile`: a tree without places, blanks, ends of lines and the blanks that end comments.
* `outlineFile`: the same, with a mark between two neighbours wherever there are blanks between them, and
  another wherever a line ends between them.
* `bareFile_layFile`, `outlineFile_layFile`: laying a file out changes neither.
* **`parse_format`**: the text that formatting returns is accepted, and means what the source means.
-/

namespace Listfile.Layout

open Listfile.Tree

/-! ### Bare trees -/

mutual

/-- What an item says, without places and blanks. -/
def bareItem : Item → List Item
  | .space _ | .newline _ => []
  | .comment kind p => [.comment kind (layComment kind p).unplaced]
  | .argument kind p => [.argument kind p.unplaced]
  | .group _ items _ => [.group 0 (bareItems items) 0]

/-- What items say, without places and blanks. -/
def bareItems : List Item → List Item
  | [] => []
  | item :: items => bareItem item ++ bareItems items

end

/-- What a command says, without places and blanks. -/
def bareCommand (c : Command) : Command :=
  ⟨c.name.unplaced, [], ⟨0, bareItems c.arguments.items, 0⟩⟩

/-- What an element says, without places and blanks. -/
def bareElement : Element → List Element
  | .space _ | .newline _ => []
  | .comment kind p => [.comment kind (layComment kind p).unplaced]
  | .command c => [.command (bareCommand c)]

/-- **What a file says**, without places and blanks. -/
def bareFile (f : File) : File := ⟨f.elements.flatMap bareElement⟩

/-! ### Outlines -/

/-- What has been seen since the last content of a list. -/
inductive Gap
  /-- There was no content yet. -/
  | edge
  | nothing
  | blanks
  /-- The end of a line, and perhaps blanks. -/
  | lineEnd
deriving DecidableEq

namespace Gap

/-- The gap with blanks behind it. -/
def addBlanks : Gap → Gap
  | nothing => blanks
  | g => g

/-- The gap with the end of a line behind it. -/
def addLineEnd : Gap → Gap
  | edge => edge
  | nothing | blanks | lineEnd => lineEnd

/-- The gap behind an item. -/
def afterItem (g : Gap) : Item → Gap
  | .space _ => g.addBlanks
  | .newline _ => g.addLineEnd
  | .comment _ _ | .argument _ _ | .group _ _ _ => nothing

/-- The gap behind an element. -/
def afterElement (g : Gap) : Element → Gap
  | .space _ => g.addBlanks
  | .newline _ => g.addLineEnd
  | .comment _ _ | .command _ => nothing

/-- The mark for a gap between items. -/
def items : Gap → List Item
  | edge | nothing => []
  | blanks => [.space ⟨0, []⟩]
  | lineEnd => [.newline ⟨0, []⟩]

/-- The mark for a gap between elements. -/
def elements : Gap → List Element
  | edge | nothing => []
  | blanks => [.space ⟨0, []⟩]
  | lineEnd => [.newline ⟨0, []⟩]

end Gap

mutual

/-- What an item says, with a mark for the gap before it. -/
def outlineItem (g : Gap) : Item → List Item
  | .space _ | .newline _ => []
  | .comment kind p => g.items ++ [.comment kind (layComment kind p).unplaced]
  | .argument kind p => g.items ++ [.argument kind p.unplaced]
  | .group _ items _ => g.items ++ [.group 0 (outlineItems .edge items) 0]

/-- What items say, with a mark for each gap between them. -/
def outlineItems (g : Gap) : List Item → List Item
  | [] => []
  | item :: items => outlineItem g item ++ outlineItems (g.afterItem item) items

end

/-- What a command says, with a mark for each gap between its items. -/
def outlineCommand (c : Command) : Command :=
  ⟨c.name.unplaced, [], ⟨0, outlineItems .edge c.arguments.items, 0⟩⟩

/-- What an element says, with a mark for the gap before it. -/
def outlineElement (g : Gap) : Element → List Element
  | .space _ | .newline _ => []
  | .comment kind p => g.elements ++ [.comment kind (layComment kind p).unplaced]
  | .command c => g.elements ++ [.command (outlineCommand c)]

/-- What elements say, with a mark for each gap between them. -/
def outlineElements (g : Gap) : List Element → List Element
  | [] => []
  | e :: es => outlineElement g e ++ outlineElements (g.afterElement e) es

/-- **The outline of a file.**  Between two neighbours of a list there is a mark for blanks or for the end
of a line exactly if there are blanks or ends of lines between them. -/
def outlineFile (f : File) : File := ⟨outlineElements .edge f.elements⟩

/-! ### Places do not matter -/

theorem unplaced_layComment (kind : CommentKind) (p : Piece) :
    (layComment kind p.unplaced).unplaced = (layComment kind p).unplaced := by
  cases kind with
  | line => rfl
  | bracket => rfl

mutual

theorem bareItem_unplaced (item : Item) : bareItem item.unplaced = bareItem item := by
  cases item with
  | space p => rfl
  | newline p => rfl
  | comment kind p => rw [Item.unplaced, bareItem, bareItem, unplaced_layComment]
  | argument kind p => rfl
  | group openAt items closeAt => rw [Item.unplaced, bareItem, bareItem, bareItems_unplaced items]

theorem bareItems_unplaced (items : List Item) : bareItems (unplacedOf items) = bareItems items := by
  cases items with
  | nil => rfl
  | cons item items =>
    rw [unplacedOf, bareItems, bareItems, bareItem_unplaced item, bareItems_unplaced items]

end

theorem bareFile_unplaced (f : File) : bareFile f.unplaced = bareFile f := by
  have helement : ∀ e : Element, bareElement e.unplaced = bareElement e := by
    intro e
    cases e with
    | space p => rfl
    | newline p => rfl
    | comment kind p => rw [Element.unplaced, bareElement, bareElement, unplaced_layComment]
    | command c =>
      rw [Element.unplaced, bareElement, bareElement, bareCommand, bareCommand, Command.unplaced,
        bareItems_unplaced]
      rfl
  rw [bareFile, File.unplaced, List.flatMap_map]
  simp only [helement]
  rfl

theorem Gap.afterItem_unplaced (g : Gap) (item : Item) : g.afterItem item.unplaced = g.afterItem item := by
  cases item <;> rfl

theorem Gap.afterElement_unplaced (g : Gap) (e : Element) :
    g.afterElement e.unplaced = g.afterElement e := by
  cases e <;> rfl

mutual

theorem outlineItem_unplaced (g : Gap) (item : Item) :
    outlineItem g item.unplaced = outlineItem g item := by
  cases item with
  | space p => rfl
  | newline p => rfl
  | comment kind p => rw [Item.unplaced, outlineItem, outlineItem, unplaced_layComment]
  | argument kind p => rfl
  | group openAt items closeAt =>
    rw [Item.unplaced, outlineItem, outlineItem, outlineItems_unplaced .edge items]

theorem outlineItems_unplaced (g : Gap) (items : List Item) :
    outlineItems g (unplacedOf items) = outlineItems g items := by
  cases items with
  | nil => rfl
  | cons item items =>
    rw [unplacedOf, outlineItems, outlineItems, outlineItem_unplaced g item, g.afterItem_unplaced,
      outlineItems_unplaced _ items]

end

theorem outlineElement_unplaced (g : Gap) (e : Element) :
    outlineElement g e.unplaced = outlineElement g e := by
  cases e with
  | space p => rfl
  | newline p => rfl
  | comment kind p => rw [Element.unplaced, outlineElement, outlineElement, unplaced_layComment]
  | command c =>
    rw [Element.unplaced, outlineElement, outlineElement, outlineCommand, outlineCommand,
      Command.unplaced, outlineItems_unplaced]
    rfl

theorem outlineFile_unplaced (f : File) : outlineFile f.unplaced = outlineFile f := by
  have helements : ∀ (es : List Element) (g : Gap),
      outlineElements g (es.map Element.unplaced) = outlineElements g es := by
    intro es
    induction es with
    | nil => exact fun _ => rfl
    | cons e es ih =>
      intro g
      rw [List.map_cons, outlineElements, outlineElements, outlineElement_unplaced,
        g.afterElement_unplaced, ih]
  rw [outlineFile, File.unplaced, helements]
  rfl

/-! ### Laying out keeps what a tree says -/

theorem layComment_layComment (kind : CommentKind) (p : Piece) :
    layComment kind (layComment kind p) = layComment kind p := by
  cases kind with
  | line => rw [layComment, layComment, trimEnd_trimEnd]
  | bracket => rfl

theorem bareItems_append (is js : List Item) : bareItems (is ++ js) = bareItems is ++ bareItems js := by
  induction is with
  | nil => rfl
  | cons i is ih => rw [List.cons_append, bareItems, bareItems, ih, List.append_assoc]

theorem bareItems_laySpace (before : Before) (p : Piece) (after : List Item) :
    bareItems (laySpace before p after) = [] := by
  rcases laySpace_cases before p after with hlay | ⟨q, hlay, -⟩
  all_goals
    rw [hlay]
    rfl

mutual

theorem bareItems_layItem (limit : Nat) (before : Before) (run : Nat) (after : List Item) (item : Item) :
    bareItems (layItem limit before run after item) = bareItem item := by
  cases item with
  | space p => exact bareItems_laySpace before p after
  | newline p =>
    rw [layItem]
    split <;> rfl
  | comment kind p =>
    rw [layItem, bareItems, bareItems, bareItem, bareItem, layComment_layComment, List.append_nil]
  | argument kind p => rfl
  | group openAt items closeAt =>
    rw [layItem, bareItems, bareItems, bareItem, bareItem, bareItems_layItems limit .nothing 0 items,
      List.append_nil]

/-- Laying items out keeps what they say. -/
theorem bareItems_layItems (limit : Nat) (before : Before) (run : Nat) (items : List Item) :
    bareItems (layItems limit before run items) = bareItems items := by
  cases items with
  | nil => rfl
  | cons item items =>
    rw [layItems, bareItems_append, bareItems, bareItems_layItem limit before run items item,
      bareItems_layItems limit _ _ items]

end

theorem bareElement_layElements (style : Style) (run : Nat) (es : List Element) :
    (layElements style run es).flatMap bareElement = es.flatMap bareElement := by
  induction es generalizing run with
  | nil => rfl
  | cons e es ih =>
    have he : (layElement style run es e).flatMap bareElement = bareElement e := by
      cases e with
      | command c =>
        rw [layElement, List.flatMap_singleton, bareElement, bareElement, bareCommand, bareCommand,
          layCommand, bareItems_layItems]
      | comment kind p =>
        rw [layElement, List.flatMap_singleton, bareElement, bareElement, layComment_layComment]
      | space p =>
        rw [layElement]
        split <;> rfl
      | newline p =>
        rw [layElement]
        split <;> rfl
    rw [layElements, List.flatMap_append, List.flatMap_cons, he, ih]

/-- All elements are the content and blank elements behind it. -/
theorem exists_contentOf_append (es : List Element) :
    ∃ bs, es = contentOf es ++ bs ∧ ∀ b ∈ bs, isBlankElement b = true := by
  rcases contentOf_cases es with ⟨hall, hnil⟩ | ⟨as, e, bs, hes, -, hbs, hcontent⟩
  · exact ⟨es, by rw [hnil]; rfl, hall⟩
  · exact ⟨bs, by rw [hcontent, hes, List.append_assoc]; rfl, hbs⟩

/-- **A file laid out shows what its elements show when they are laid out**, if blanks and ends of lines behind the last
content do not show. -/
theorem observe_layFile {α : Type} (observe : List Element → α) (change : α → α) {style : Style} {f : File}
    (hlay : ∀ es, es = f.elements ∨ es = contentOf f.elements →
      observe (layElements style 0 es) = change (observe es))
    (hblank : ∀ es bs : List Element, (∀ b ∈ bs, isBlankElement b = true) → observe (es ++ bs) = observe es) :
    observe (layFile style f).elements = change (observe f.elements) := by
  unfold layFile
  split
  · obtain ⟨bs, hes, hbs⟩ := exists_contentOf_append f.elements
    have hend : ∀ b ∈ [Element.newline ⟨0, lineEndOf f⟩], isBlankElement b = true :=
      List.forall_mem_singleton.2 rfl
    calc observe (layElements style 0 (contentOf f.elements) ++ [.newline ⟨0, lineEndOf f⟩])
        = observe (layElements style 0 (contentOf f.elements)) := hblank _ _ hend
      _ = change (observe (contentOf f.elements)) := hlay _ (.inr rfl)
      _ = change (observe (contentOf f.elements ++ bs)) := by rw [hblank _ _ hbs]
      _ = change (observe f.elements) := by rw [← hes]
  · exact hlay _ (.inl rfl)

theorem bareElement_of_blank {bs : List Element} (h : ∀ b ∈ bs, isBlankElement b = true) :
    bs.flatMap bareElement = [] := by
  rw [List.flatMap_eq_nil_iff]
  intro b hb
  have hblank := h b hb
  cases b with
  | command c => cases hblank
  | comment kind p => cases hblank
  | space p => rfl
  | newline p => rfl

/-- **Laying a file out keeps what it says.** -/
theorem bareFile_layFile (style : Style) (f : File) : bareFile (layFile style f) = bareFile f := by
  refine congrArg File.mk
    (observe_layFile (List.flatMap bareElement) id (fun es _ => bareElement_layElements style 0 es) ?_)
  intro es bs hbs
  rw [List.flatMap_append, bareElement_of_blank hbs, List.append_nil]

/-! ### Laying out keeps the outline -/

/-- Nothing but ends of lines, and blanks behind them, can have been counted as such. -/
def Gap.Counts (g : Gap) (run : Nat) : Prop := 0 < run → g = .edge ∨ g = .lineEnd

theorem Gap.addLineEnd_addBlanks (g : Gap) : g.addBlanks.addLineEnd = g.addLineEnd := by
  cases g <;> rfl

theorem Gap.Counts.addLineEnd {g : Gap} {run : Nat} : g.addLineEnd.Counts run := by
  intro _
  cases g with
  | edge => exact .inl rfl
  | _ => exact .inr rfl

theorem Gap.Counts.addBlanks {g : Gap} {run : Nat} (h : g.Counts run) : g.addBlanks.Counts run := by
  intro hrun
  rcases h hrun with rfl | rfl
  · exact .inl rfl
  · exact .inr rfl

theorem Gap.Counts.addLineEnd_eq {g : Gap} {run : Nat} (h : g.Counts run) (hrun : 0 < run) :
    g.addLineEnd = g := by
  rcases h hrun with rfl | rfl <;> rfl

theorem Gap.counts_zero (g : Gap) : g.Counts 0 := fun h => absurd h (Nat.lt_irrefl 0)

/-- Blanks that are left out do not show in the outline. -/
theorem outlineItems_laySpace {limit run : Nat} {before : Before} {g : Gap} {p : Piece}
    {after : List Item} (hedge : before = .nothing → g = .edge)
    (hafter : ∀ g' : Gap, g' = g ∨ g' = g.addBlanks →
      outlineItems g' (layItems limit .other run after) = outlineItems g' after) :
    outlineItems g (laySpace before p after ++ layItems limit .other run after)
      = outlineItems g.addBlanks after := by
  have hkept : ∀ q : Piece, outlineItems g ([.space q] ++ layItems limit .other run after)
      = outlineItems g.addBlanks after := fun q => hafter _ (.inr rfl)
  unfold laySpace
  split
  · rename_i hnext
    rw [List.nil_append, hafter g (.inl rfl)]
    cases after with
    | nil => cases hnext
    | cons item after =>
      cases item with
      | newline q =>
        rw [outlineItems, outlineItems]
        show _ ++ outlineItems g.addLineEnd after = _ ++ outlineItems g.addBlanks.addLineEnd after
        rw [g.addLineEnd_addBlanks]
        rfl
      | _ => cases hnext
  · cases before with
    | newline => exact hkept p
    | nothing =>
      rw [hedge rfl] at hafter ⊢
      exact hafter .edge (.inl rfl)
    | other =>
      dsimp only
      split
      · rename_i hempty
        obtain rfl := List.isEmpty_iff.1 hempty
        rfl
      · exact hkept _

mutual

/-- Laying an item out before others does not change the outline. -/
theorem outlineItems_layItem_append {limit run : Nat} {before : Before} {g : Gap} {after : List Item}
    (item : Item) (hedge : before = .nothing → g = .edge) (hrun : g.Counts run)
    (hafter : ∀ g' : Gap, g'.Counts (itemRun limit run item) →
      outlineItems g' (layItems limit (beforeNext item) (itemRun limit run item) after)
        = outlineItems g' after) :
    outlineItems g (layItem limit before run after item
        ++ layItems limit (beforeNext item) (itemRun limit run item) after)
      = outlineItem g item ++ outlineItems (g.afterItem item) after := by
  cases item with
  | space p =>
    refine outlineItems_laySpace hedge ?_
    intro g' hg'
    rcases hg' with rfl | rfl
    · exact hafter _ hrun
    · exact hafter _ hrun.addBlanks
  | newline p =>
    rw [layItem]
    rw [itemRun] at hafter ⊢
    split
    · rename_i hlimit
      rw [if_pos hlimit] at hafter
      show outlineItems g _ = outlineItems g.addLineEnd after
      rw [hrun.addLineEnd_eq (Nat.zero_lt_of_lt hlimit)]
      exact hafter g hrun
    · rename_i hlimit
      rw [if_neg hlimit] at hafter
      exact hafter g.addLineEnd Gap.Counts.addLineEnd
  | comment kind p =>
    rw [layItem, List.singleton_append, outlineItems, outlineItem, outlineItem, layComment_layComment]
    exact congrArg _ (hafter .nothing (Gap.counts_zero _))
  | argument kind p => exact congrArg _ (hafter .nothing (Gap.counts_zero _))
  | group openAt items closeAt =>
    rw [layItem, List.singleton_append, outlineItems, outlineItem, outlineItem,
      outlineItems_layItems items (fun _ => rfl) (Gap.counts_zero _)]
    exact congrArg _ (hafter .nothing (Gap.counts_zero _))

/-- **Laying items out keeps their outline.** -/
theorem outlineItems_layItems {limit run : Nat} {before : Before} {g : Gap} (items : List Item)
    (hedge : before = .nothing → g = .edge) (hrun : g.Counts run) :
    outlineItems g (layItems limit before run items) = outlineItems g items := by
  cases items with
  | nil => rfl
  | cons item items =>
    have hedge' : ∀ g' : Gap, beforeNext item = .nothing → g' = .edge := by
      intro g' hb
      unfold beforeNext at hb
      split at hb <;> cases hb
    rw [layItems, outlineItems]
    exact outlineItems_layItem_append item hedge hrun
      fun g' hg' => outlineItems_layItems items (hedge' g') hg'

end

/-- **Laying elements out keeps their outline.** -/
theorem outlineElements_layElements {style : Style} {run : Nat} {g : Gap} {es : List Element}
    (hrun : g.Counts run) :
    outlineElements g (layElements style run es) = outlineElements g es := by
  induction es generalizing g run with
  | nil => rfl
  | cons e es ih =>
    rw [layElements]
    cases e with
    | command c =>
      have hc : outlineCommand (layCommand style c) = outlineCommand c := by
        rw [outlineCommand, outlineCommand, layCommand,
          outlineItems_layItems _ (fun _ => rfl) (Gap.counts_zero _)]
      rw [layElement, List.singleton_append, outlineElements, outlineElements, outlineElement,
        outlineElement, hc]
      exact congrArg _ (ih (Gap.counts_zero _))
    | comment kind p =>
      rw [layElement, List.singleton_append, outlineElements, outlineElements, outlineElement,
        outlineElement, layComment_layComment]
      exact congrArg _ (ih (Gap.counts_zero _))
    | space p =>
      rw [layElement, elementRun]
      split
      · rename_i hends
        rw [List.nil_append, ih hrun]
        cases es with
        | nil => rfl
        | cons e' es =>
          cases e' with
          | newline q =>
            show outlineElements g.addLineEnd es = outlineElements g.addBlanks.addLineEnd es
            rw [g.addLineEnd_addBlanks]
          | _ => cases hends
      · exact ih hrun.addBlanks
    | newline p =>
      rw [layElement, elementRun]
      split
      · rename_i hlimit
        show outlineElements g _ = outlineElements g.addLineEnd es
        rw [hrun.addLineEnd_eq (Nat.zero_lt_of_lt hlimit)]
        exact ih hrun
      · exact ih Gap.Counts.addLineEnd

/-- Blanks and ends of lines behind the last content do not show in the outline. -/
theorem outlineElements_append_blank {g : Gap} {es bs : List Element}
    (hbs : ∀ b ∈ bs, isBlankElement b = true) :
    outlineElements g (es ++ bs) = outlineElements g es := by
  induction es generalizing g with
  | cons e es ih => rw [List.cons_append, outlineElements, outlineElements, ih]
  | nil =>
    induction bs generalizing g with
    | nil => rfl
    | cons b bs ih =>
      have hb := hbs b (.head _)
      have hrest := ih (fun b' hb' => hbs b' (.tail _ hb')) (g := g.afterElement b)
      cases b with
      | command c => cases hb
      | comment kind p => cases hb
      | space p => exact hrest
      | newline p => exact hrest

/-- **Laying a file out keeps its outline.** -/
theorem outlineFile_layFile (style : Style) (f : File) : outlineFile (layFile style f) = outlineFile f :=
  congrArg File.mk
    (observe_layFile (outlineElements .edge) id (fun _ _ => outlineElements_layElements (Gap.counts_zero _))
      fun _ _ hbs => outlineElements_append_blank hbs)

/-! ### Formatting -/

theorem format_of_parse {style : Style} {source : List Char} {f : File} (h : File.parse source = .ok f) :
    format style source = .ok (fileText style f) := by
  rw [format, h]
  rfl

/-- **Formatting keeps the meaning of a file.**  What is returned for a text that is accepted is accepted
too.  Both have the same commands, arguments, groups and comments, and between neighbours there are blanks
in one exactly if there are some in the other, and so for ends of lines. -/
theorem parse_format (style : Style) {source : List Char} {f : File} (h : File.parse source = .ok f) :
    ∃ out g, format style source = .ok out ∧ File.parse out = .ok g ∧ bareFile g = bareFile f ∧
      outlineFile g = outlineFile f := by
  obtain ⟨g, hg, hunplaced⟩ := parse_fileText style h
  refine ⟨fileText style f, g, format_of_parse h, hg, ?_, ?_⟩
  · rw [← bareFile_unplaced g, hunplaced, bareFile_unplaced, bareFile_layFile]
  · rw [← outlineFile_unplaced g, hunplaced, outlineFile_unplaced, outlineFile_layFile]

/-- Blanks before parentheses, at the end of comments and between arguments, and too many blank lines. -/
theorem parse_format_commands :
    ∃ f, File.parse "if (a  b (c) ) # d \n\n\n\n\n\nend( )".toList = .ok f ∧
      ∃ out g, format {} "if (a  b (c) ) # d \n\n\n\n\n\nend( )".toList = .ok out ∧
        File.parse out = .ok g ∧ bareFile g = bareFile f ∧ outlineFile g = outlineFile f := by
  have hok : (File.parse "if (a  b (c) ) # d \n\n\n\n\n\nend( )".toList).isOk = true := by
    decide +kernel
  obtain ⟨f, hf⟩ := exists_of_isOk hok
  exact ⟨f, hf, parse_format {} hf⟩

end Listfile.Layout
