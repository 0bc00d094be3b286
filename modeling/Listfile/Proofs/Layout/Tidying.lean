import Listfile.Proofs.Layout.Indenting
import Listfile.Tree.Argument
import Mathlib.Data.List.Forall2

/-!
# Where blanks are left

A text that was formatted has blanks where they begin a line, and single blanks between items.

* `TidyItems`, `SpacesInside`: where blanks may stand in a list, and outside of commands.
* `Tidied`: where they stand in a file that was formatted, given its source.
* `Stays`: laying out leaves items as they are; `Stays.tidy`: then blanks stand where they may.
* `commands_layFile`: laying out keeps the commands of a file.
* **`tidied_format`**: where blanks are left by formatting.
-/

namespace Listfile.Layout

open Listfile.Tree

/-! ### Tidy files -/

/-- Blanks stand neither at the start of the items nor before the end of a line.  They begin a line, or else
they are a single blank and something stands behind it. -/
def TidyItems (items : List Item) : Prop :=
  ∀ front p back, items = front ++ .space p :: back →
    front ≠ [] ∧ (∀ q, back.head? ≠ some (.newline q)) ∧
      ((∃ q, front.getLast? = some (.newline q)) ∨ back ≠ [] ∧ p.text = [' '])

/-- Blanks stand neither before the end of a line nor at the end. -/
def SpacesInside (es : List Element) : Prop :=
  ∀ front p back, es = front ++ .space p :: back → back ≠ [] ∧ ∀ q, back.head? ≠ some (.newline q)

/-- The items between the parentheses of a command of the file, or of a group in such items. -/
inductive ListOf (f : File) : List Item → Prop
  | command {c : Command} : c ∈ f.commands → ListOf f c.arguments.items
  | group {items inner : List Item} {openAt closeAt : Nat} : ListOf f items →
      .group openAt inner closeAt ∈ items → ListOf f inner

/-- What may become of the blanks before a parenthesis. -/
def SpacedBy : SpaceBeforeParen → List Char → List Char → Prop
  | .preserve, source, out => out = source
  | .single, source, out => (source = [] → out = []) ∧ (source ≠ [] → out = [' '])
  | .remove, _, out => out = []

/-- **Where blanks stand in `g` if it is `f` in a style.** -/
structure Tidied (style : Style) (f g : File) : Prop where
  elements : SpacesInside g.elements
  items : ∀ items, ListOf g items → TidyItems items
  parens : List.Forall₂ (fun c d => SpacedBy style.spaceBeforeParen c.spaceBeforeParen d.spaceBeforeParen)
    f.commands g.commands
  indents : fileIndents g = fileIndents f

/-! ### Items that stay -/

/-- Laying out leaves the items as they are, but for places. -/
def Stays (limit : Nat) (before : Before) (run : Nat) (items : List Item) : Prop :=
  unplacedOf (layItems limit before run items) = unplacedOf items

theorem unplacedOf_eq_map (items : List Item) : unplacedOf items = items.map Item.unplaced := by
  induction items with
  | nil => rfl
  | cons item items ih => rw [unplacedOf, ih, List.map_cons]

theorem length_layItem_le (limit : Nat) (before : Before) (run : Nat) (after : List Item) (item : Item) :
    (layItem limit before run after item).length ≤ 1 := by
  cases item with
  | space p =>
    rw [layItem]
    rcases laySpace_cases before p after with hlay | ⟨q, hlay, -⟩
    · rw [hlay]
      exact Nat.zero_le _
    · rw [hlay]
      exact Nat.le_refl _
  | newline p =>
    rw [layItem]
    split
    · exact Nat.zero_le _
    · exact Nat.le_refl _
  | _ => exact Nat.le_refl _

theorem length_layItems_le (limit : Nat) (before : Before) (run : Nat) (items : List Item) :
    (layItems limit before run items).length ≤ items.length := by
  induction items generalizing before run with
  | nil => exact Nat.le_refl _
  | cons item items ih =>
    have hitem := length_layItem_le limit before run items item
    have hitems := ih (beforeNext item) (itemRun limit run item)
    rw [layItems, List.length_append, List.length_cons]
    omega

section
variable {limit run : Nat} {before : Before} {item : Item} {items front back : List Item}

/-- Where items stay, each of them does. -/
theorem Stays.cons (h : Stays limit before run (item :: items)) :
    (layItem limit before run items item).map Item.unplaced = [item.unplaced] ∧
      Stays limit (beforeNext item) (itemRun limit run item) items := by
  rw [Stays, layItems, unplacedOf_eq_map, unplacedOf_eq_map, List.map_append, List.map_cons] at h
  have hlength := congrArg List.length h
  have hitem := length_layItem_le limit before run items item
  have hitems := length_layItems_le limit (beforeNext item) (itemRun limit run item) items
  simp only [List.length_append, List.length_map, List.length_cons] at hlength
  have hone : ((layItem limit before run items item).map Item.unplaced).length = [item.unplaced].length := by
    rw [List.length_map, List.length_singleton]
    omega
  obtain ⟨hfirst, hrest⟩ := List.append_inj h hone
  refine ⟨hfirst, ?_⟩
  rw [Stays, unplacedOf_eq_map, unplacedOf_eq_map]
  exact hrest

/-- Where items stay, those from some place on do. -/
theorem Stays.behind (h : Stays limit before run (front ++ back)) :
    ∃ run', Stays limit ((front.getLast?.map beforeNext).getD before) run' back := by
  induction front generalizing before run with
  | nil => exact ⟨run, h⟩
  | cons item front ih =>
    obtain ⟨run', hback⟩ := ih h.cons.2
    refine ⟨run', ?_⟩
    rw [List.getLast?_cons]
    cases hlast : front.getLast? with
    | none =>
      rw [hlast] at hback
      exact hback
    | some last =>
      rw [hlast] at hback
      exact hback

/-- **Items that stay are tidy.** -/
theorem Stays.tidy (h : Stays limit .nothing run items) : TidyItems items := by
  rintro front p back rfl
  obtain ⟨run', hback⟩ := h.behind
  obtain ⟨hspace, -⟩ := hback.cons
  rw [layItem] at hspace
  unfold laySpace at hspace
  split at hspace
  · cases hspace
  · rename_i hnext
    have hinline : ∀ q, back.head? ≠ some (.newline q) := by
      intro q hq
      rw [hq] at hnext
      exact hnext rfl
    cases hlast : front.getLast? with
    | none =>
      rw [hlast] at hspace
      cases hspace
    | some last =>
      have hfront : front ≠ [] := by
        rintro rfl
        cases hlast
      refine ⟨hfront, hinline, ?_⟩
      rw [hlast] at hspace
      cases last with
      | newline q => exact .inl ⟨q, rfl⟩
      | _ =>
        right
        change List.map _ (if back.isEmpty then [] else _) = _ at hspace
        split at hspace
        · cases hspace
        · rename_i hback
          have htext : Item.space ⟨0, [' ']⟩ = .space ⟨0, p.text⟩ := (List.cons.inj hspace).1
          injection htext with htext
          injection htext with _ htext
          exact ⟨fun hnil => hback (by rw [hnil]; rfl), htext.symm⟩

/-- The items of a group that stays stay. -/
theorem Stays.group {openAt closeAt : Nat} {inner : List Item} (h : Stays limit before run items)
    (hmem : .group openAt inner closeAt ∈ items) : Stays limit .nothing 0 inner := by
  obtain ⟨front, back, rfl⟩ := List.append_of_mem hmem
  obtain ⟨run', hback⟩ := h.behind
  obtain ⟨hgroup, -⟩ := hback.cons
  rw [layItem, List.map_singleton, Item.unplaced, Item.unplaced] at hgroup
  have hitems : Item.group 0 (unplacedOf (layItems limit .nothing 0 inner)) 0 = .group 0 (unplacedOf inner) 0 :=
    (List.cons.inj hgroup).1
  injection hitems

end

/-! ### Commands -/

theorem commands_append (as bs : List Element) :
    (File.mk (as ++ bs)).commands = (File.mk as).commands ++ (File.mk bs).commands := List.filterMap_append

theorem commands_of_blank {bs : List Element} (h : ∀ b ∈ bs, isBlankElement b = true) :
    (File.mk bs).commands = [] := by
  refine List.filterMap_eq_nil_iff.2 fun b hb => ?_
  have hblank := h b hb
  cases b with
  | command c => cases hblank
  | _ => rfl

theorem commands_layElements (style : Style) (run : Nat) (es : List Element) :
    (File.mk (layElements style run es)).commands = (File.mk es).commands.map (layCommand style) := by
  induction es generalizing run with
  | nil => rfl
  | cons e es ih =>
    have he : (File.mk (layElement style run es e)).commands = (File.mk [e]).commands.map (layCommand style) := by
      cases e with
      | command c => rfl
      | comment kind p => rfl
      | space p =>
        rw [layElement]
        split <;> rfl
      | newline p =>
        rw [layElement]
        split <;> rfl
    rw [layElements, commands_append, he, ih, ← List.map_append, ← commands_append, List.singleton_append]

/-- **Laying a file out lays out its commands**, and leaves out none. -/
theorem commands_layFile (style : Style) (f : File) :
    (layFile style f).commands = f.commands.map (layCommand style) := by
  refine observe_layFile (fun es => (File.mk es).commands) (List.map (layCommand style))
    (fun es _ => commands_layElements style 0 es) ?_
  intro es bs hbs
  rw [commands_append, commands_of_blank hbs, List.append_nil]

theorem commands_unplaced (f : File) : f.unplaced.commands = f.commands.map Command.unplaced := by
  rw [File.commands, File.commands, File.unplaced, List.filterMap_map, List.map_filterMap]
  refine List.filterMap_congr fun e _ => ?_
  cases e <;> rfl

/-- Lists of a file that laying out leaves as it is stay, but for places. -/
theorem stays_of_listOf {style : Style} {g : File} (h : (layFile style g).unplaced = g.unplaced) {items : List Item}
    (hitems : ListOf g items) : Stays style.maxBlankLinesInArguments .nothing 0 items := by
  induction hitems with
  | @command c hc =>
    have hcommands := congrArg File.commands h
    rw [commands_unplaced, commands_unplaced, commands_layFile, List.map_map, List.map_inj_left] at hcommands
    exact congrArg (fun c : Command => c.arguments.items) (hcommands c hc)
  | group _ hmem ih => exact ih.group hmem

theorem spacedBy_parenSpace (style : Style) (space : List Char) :
    SpacedBy style.spaceBeforeParen space (parenSpace style space) := by
  unfold parenSpace
  cases style.spaceBeforeParen with
  | preserve => rfl
  | remove => rfl
  | single => exact ⟨fun h => if_pos h, fun h => if_neg h⟩

/-! ### Outside of commands -/

theorem endsLine_eq_false {es : List Element} :
    endsLine es = false ↔ es ≠ [] ∧ ∀ q, es.head? ≠ some (.newline q) := by
  cases es with
  | nil => exact iff_of_false Bool.noConfusion fun h => h.1 rfl
  | cons e es =>
    cases e with
    | newline q => exact iff_of_false Bool.noConfusion fun h => h.2 q rfl
    | _ => exact iff_of_true rfl ⟨List.cons_ne_nil _ _, nofun⟩

theorem spacesInside_nil : SpacesInside [] := by
  intro front p back h
  cases front <;> cases h

theorem spacesInside_cons {e : Element} {es : List Element} :
    SpacesInside (e :: es) ↔ (∀ p, e = .space p → endsLine es = false) ∧ SpacesInside es := by
  constructor
  · intro h
    refine ⟨?_, ?_⟩
    · rintro p rfl
      exact endsLine_eq_false.2 (h [] p es rfl)
    · rintro front p back rfl
      exact h (e :: front) p back rfl
  · rintro ⟨hfirst, hrest⟩ front p back h
    cases front with
    | nil =>
      obtain ⟨rfl, rfl⟩ := List.cons_eq_cons.1 h
      exact endsLine_eq_false.1 (hfirst p rfl)
    | cons e' front =>
      obtain ⟨rfl, rfl⟩ := List.cons_eq_cons.1 h
      exact hrest front p back rfl

theorem spacesInside_unplaced {es : List Element} : SpacesInside (es.map Element.unplaced) ↔ SpacesInside es := by
  induction es with
  | nil => exact Iff.rfl
  | cons e es ih =>
    have hends : endsLine (es.map Element.unplaced) = endsLine es := by
      cases es with
      | nil => rfl
      | cons e es => cases e <;> rfl
    rw [List.map_cons, spacesInside_cons, spacesInside_cons, ih, hends]
    refine and_congr_left' ?_
    cases e with
    | space p => exact ⟨fun h _ _ => h _ rfl, fun h _ _ => h _ rfl⟩
    | _ => exact iff_of_true nofun nofun

/-- Blanks that are left outside of commands stand before content. -/
theorem spacesInside_layElements {style : Style} {run : Nat} {es : List Element}
    (hc : (es.flatMap Element.words).IsChain Word.Precedes) : SpacesInside (layElements style run es) := by
  induction es generalizing run with
  | nil => exact spacesInside_nil
  | cons e es ih =>
    rw [List.flatMap_cons] at hc
    have hrest : ∀ run, SpacesInside (layElements style run es) := fun _ => ih hc.right_of_append
    rw [layElements]
    cases e with
    | command c => exact spacesInside_cons.2 ⟨fun _ => Element.noConfusion, hrest _⟩
    | comment kind p => exact spacesInside_cons.2 ⟨fun _ => Element.noConfusion, hrest _⟩
    | space p =>
      rw [layElement]
      split
      · exact hrest _
      · rename_i hends
        exact spacesInside_cons.2 ⟨fun _ _ => endsLine_layElements hc (by simpa using hends), hrest _⟩
    | newline p =>
      rw [layElement]
      split
      · exact hrest _
      · exact spacesInside_cons.2 ⟨fun _ => Element.noConfusion, hrest _⟩

theorem SpacesInside.append_newline {es : List Element} (h : SpacesInside es) (p : Piece) :
    SpacesInside (es ++ [.newline p]) := by
  induction es with
  | nil => exact spacesInside_cons.2 ⟨nofun, spacesInside_nil⟩
  | cons e es ih =>
    obtain ⟨hfirst, hrest⟩ := spacesInside_cons.1 h
    refine spacesInside_cons.2 ⟨fun q hq => ?_, ih hrest⟩
    have hends := hfirst q hq
    have happend : endsLine ([] ++ (es ++ [.newline p])) = endsLine ([] ++ es) := endsLine_append hends _
    exact happend.trans hends

theorem spacesInside_layFile (style : Style) {f : File} (h : FromText f.words) :
    SpacesInside (layFile style f).elements := by
  unfold layFile
  split
  · exact (spacesInside_layElements (fromText_contentOf h).chain).append_newline _
  · exact spacesInside_layElements h.chain

/-! ### Formatting -/

/-- What is written is laid out already, but for places. -/
theorem unplaced_layFile_of_parse {style : Style} {source : List Char} {f g : File} (h : File.parse source = .ok f)
    (hg : File.parse (fileText style f) = .ok g) : (layFile style g).unplaced = g.unplaced := by
  have htext : fileText style g = fileText style f :=
    Except.ok.inj ((format_of_parse hg).symm.trans (format_fileText style h))
  obtain ⟨g', hg', hunplaced⟩ := parse_fileText style hg
  rw [htext, hg] at hg'
  cases hg'
  exact hunplaced.symm

/-- **Where formatting leaves blanks.**  What is returned for a text that is accepted has no blanks before the
end of a line, behind an opening parenthesis or at the end of the file, and before a closing parenthesis only
where they begin a line.  Elsewhere between items there is a single blank.  Blanks before a parenthesis are as
the style has it, and content that begins a line has the same blanks before it as in the source. -/
theorem tidied_format (style : Style) {source : List Char} {f : File} (h : File.parse source = .ok f) :
    ∃ out g, format style source = .ok out ∧ File.parse out = .ok g ∧ Tidied style f g := by
  obtain ⟨g, hg, hunplaced⟩ := parse_fileText style h
  have hwords := (words_of_parse h).2
  refine ⟨fileText style f, g, format_of_parse h, hg, ?_, ?_, ?_, ?_⟩
  · rw [← spacesInside_unplaced]
    have helements : g.elements.map Element.unplaced = (layFile style f).elements.map Element.unplaced :=
      congrArg File.elements hunplaced
    rw [helements, spacesInside_unplaced]
    exact spacesInside_layFile style hwords
  · intro items hitems
    exact (stays_of_listOf (unplaced_layFile_of_parse h hg) hitems).tidy
  · have hcommands := congrArg File.commands hunplaced
    rw [commands_unplaced, commands_unplaced, commands_layFile] at hcommands
    have hspaces : g.commands.map Command.spaceBeforeParen
        = f.commands.map fun c => parenSpace style c.spaceBeforeParen := by
      simpa [Function.comp_def, Command.unplaced, layCommand] using
        congrArg (List.map Command.spaceBeforeParen) hcommands
    have hspaced : List.Forall₂ (fun (c : Command) space =>
        SpacedBy style.spaceBeforeParen c.spaceBeforeParen space) f.commands
        (g.commands.map Command.spaceBeforeParen) := by
      rw [hspaces, List.forall₂_map_right_iff]
      exact List.forall₂_same.2 fun c _ => spacedBy_parenSpace style c.spaceBeforeParen
    exact List.forall₂_map_right_iff.1 hspaced
  · rw [← fileIndents_unplaced g, hunplaced, fileIndents_unplaced, fileIndents_layFile style hwords]

/-- A text with blanks in all places where they are changed, and in some where they are kept. -/
def messyText : List Char := " if  ( a \tb ( c  d ) \n\n\n  # e \n\t)  #[[f]] \n \n\n\n\n  end( )  ".toList

theorem tidied_format_messyText :
    ∃ f, File.parse messyText = .ok f ∧
      ∃ out g, format {} messyText = .ok out ∧ File.parse out = .ok g ∧ Tidied {} f g := by
  have hok : (File.parse messyText).isOk = true := by decide +kernel
  obtain ⟨f, hf⟩ := exists_of_isOk hok
  exact ⟨f, hf, tidied_format {} hf⟩

example : format {} messyText
    = .ok " if (a b (c d)\n\n  # e\n\t)  #[[f]]\n\n\n\n  end()\n".toList := by
  decide +kernel

end Listfile.Layout
