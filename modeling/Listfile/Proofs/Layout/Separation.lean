import Listfile.Proofs.Layout.Finishing
import Listfile.Proofs.Tree.Rebuilding

/-!
# Words of a layout can be told apart

Leaving out blanks brings words together that were apart in the source.  None of them merge: blanks are
only left out where anything may follow or before something that may follow anything.

* `Kept`, `kept_layFile`: which words a layout has.
* `Follows`: what is known of the word that was written last.
* `isChain_layItems`, `isChain_layElements`: neighbours may stand directly behind each other.
* **`separate_layFile`**: the words of a file laid out can be told apart.
* `legal_layFile`: a file laid out is legal.
-/

namespace Listfile.Layout

open Listfile.Tree

/-! ### Where words come from -/

/-- A single blank, as it stands between items. -/
def blankWord : Word := ⟨.space, [' ']⟩

/-- A word laid out is one of the words `ws`, without the blanks at its end if it is a comment, or a single
blank. -/
def Kept (ws : List Word) (w : Word) : Prop := w = blankWord ∨ ∃ v ∈ ws, w = v.trimmed

theorem Kept.of_mem {ws : List Word} {v : Word} (hv : v ∈ ws) (hk : v.kind ≠ .lineComment) : Kept ws v :=
  .inr ⟨v, hv, (Word.trimmed_of_ne hk).symm⟩

theorem Kept.mono {vs ws : List Word} {w : Word} (h : Kept vs w) (hsub : vs ⊆ ws) : Kept ws w := by
  rcases h with h | ⟨v, hv, h⟩
  · exact .inl h
  · exact .inr ⟨v, hsub hv, h⟩

theorem kept_layComment {ws : List Word} {kind : CommentKind} {p : Piece}
    (h : ⟨kind.lexemeKind, p.text⟩ ∈ ws) : Kept ws ⟨kind.lexemeKind, (layComment kind p).text⟩ := by
  refine .inr ⟨_, h, ?_⟩
  cases kind with
  | line => rfl
  | bracket => rfl

theorem kept_laySpace {before : Before} {p : Piece} {after : List Item} :
    ∀ w ∈ wordsOf (laySpace before p after), Kept [⟨.space, p.text⟩] w := by
  intro w hw
  rcases laySpace_cases before p after with hlay | ⟨q, hlay, hq⟩
  · rw [hlay] at hw
    cases hw
  · rw [hlay, wordsOf_singleton, Item.words] at hw
    rw [List.mem_singleton.1 hw]
    rcases hq with rfl | hq
    · exact Kept.of_mem (.head _) Kind.noConfusion
    · rw [hq]
      exact .inl rfl

mutual

theorem kept_layItem {limit : Nat} {before : Before} {run : Nat} {after : List Item} (item : Item) :
    ∀ w ∈ wordsOf (layItem limit before run after item), Kept item.words w := by
  cases item with
  | space p => exact kept_laySpace
  | newline p =>
    intro w hw
    rw [layItem] at hw
    split at hw
    · cases hw
    · rw [wordsOf_singleton, Item.words] at hw
      rw [List.mem_singleton.1 hw]
      exact Kept.of_mem (.head _) Kind.noConfusion
  | comment kind p =>
    intro w hw
    rw [layItem, wordsOf_singleton, Item.words] at hw
    rw [List.mem_singleton.1 hw]
    exact kept_layComment (.head _)
  | argument kind p =>
    intro w hw
    rw [layItem, wordsOf_singleton, Item.words] at hw
    rw [List.mem_singleton.1 hw]
    exact Kept.of_mem (.head _) (lexemeKind_argument_ne kind p.text).2.2
  | group openAt items closeAt =>
    intro w hw
    rw [layItem, wordsOf_singleton, Item.words] at hw
    rw [Item.words]
    rcases List.mem_append.1 hw with hw | hw
    · rcases List.mem_cons.1 hw with rfl | hw
      · exact Kept.of_mem (.head _) Kind.noConfusion
      · exact (kept_layItems items w hw).mono
          (List.subset_append_of_subset_left _ (List.subset_cons_self _ _))
    · rw [List.mem_singleton.1 hw]
      exact Kept.of_mem (by simp) Kind.noConfusion

/-- Items laid out have words of the items. -/
theorem kept_layItems {limit : Nat} {before : Before} {run : Nat} (items : List Item) :
    ∀ w ∈ wordsOf (layItems limit before run items), Kept (wordsOf items) w := by
  cases items with
  | nil =>
    intro w hw
    cases hw
  | cons item items =>
    intro w hw
    rw [layItems, wordsOf_append] at hw
    rcases List.mem_append.1 hw with hw | hw
    · exact (kept_layItem item w hw).mono (List.subset_append_left _ _)
    · exact (kept_layItems items w hw).mono (List.subset_append_right _ _)

end

theorem kept_parenSpace {style : Style} {space : List Char} :
    ∀ w ∈ spaceWords (parenSpace style space), Kept (spaceWords space) w := by
  intro w hw
  unfold parenSpace at hw
  split at hw
  · refine Kept.of_mem hw ?_
    unfold spaceWords at hw
    split at hw
    · cases hw
    · rw [List.mem_singleton.1 hw]
      exact Kind.noConfusion
  · split at hw
    · cases hw
    · exact .inl (List.mem_singleton.1 hw)
  · cases hw

theorem kept_layCommand {style : Style} {c : Command} :
    ∀ w ∈ (layCommand style c).words, Kept c.words w := by
  intro w hw
  rw [Command.words, headerWords, List.cons_append, List.mem_cons, List.mem_append, List.cons_append,
    List.mem_cons, List.mem_append, List.mem_singleton] at hw
  have hspace : spaceWords c.spaceBeforeParen ⊆ c.words := by
    intro v hv
    simp [Command.words, headerWords, hv]
  have hitems : wordsOf c.arguments.items ⊆ c.words := by
    intro v hv
    simp [Command.words, hv]
  rcases hw with rfl | hw | rfl | hw | rfl
  · exact Kept.of_mem (.head _) Kind.noConfusion
  · exact (kept_parenSpace w hw).mono hspace
  · exact Kept.of_mem (by simp [Command.words]) Kind.noConfusion
  · exact (kept_layItems _ w hw).mono hitems
  · exact Kept.of_mem (by simp [Command.words]) Kind.noConfusion

/-- **Elements laid out have words of the elements.** -/
theorem kept_layElements {style : Style} {run : Nat} {es : List Element} :
    ∀ w ∈ (layElements style run es).flatMap Element.words, Kept (es.flatMap Element.words) w := by
  induction es generalizing run with
  | nil =>
    intro w hw
    cases hw
  | cons e es ih =>
    intro w hw
    rw [List.flatMap_cons]
    rw [layElements, List.flatMap_append] at hw
    rcases List.mem_append.1 hw with hw | hw
    · refine Kept.mono ?_ (List.subset_append_left _ _)
      cases e with
      | command c => exact kept_layCommand w (by simpa [layElement, Element.words] using hw)
      | comment kind p =>
        have hw' : w = ⟨kind.lexemeKind, (layComment kind p).text⟩ := by
          simpa [layElement, Element.words] using hw
        rw [hw']
        exact kept_layComment (.head _)
      | space p =>
        rw [layElement] at hw
        split at hw
        · cases hw
        · have hw' : w = ⟨.space, p.text⟩ := by simpa [Element.words] using hw
          rw [hw']
          exact Kept.of_mem (.head _) Kind.noConfusion
      | newline p =>
        rw [layElement] at hw
        split at hw
        · cases hw
        · have hw' : w = ⟨.newline, p.text⟩ := by simpa [Element.words] using hw
          rw [hw']
          exact Kept.of_mem (.head _) Kind.noConfusion
    · exact (ih w hw).mono (List.subset_append_right _ _)

/-- A file laid out has words of the file, and the end of a line if it has to end with one. -/
theorem kept_layFile {style : Style} {f : File} :
    ∀ w ∈ (layFile style f).words,
      Kept f.words w ∨ style.finalNewline = true ∧ w = ⟨.newline, lineEndOf f⟩ := by
  intro w hw
  unfold layFile at hw
  split at hw
  · rename_i hfinal
    rw [File.words, List.flatMap_append] at hw
    rcases List.mem_append.1 hw with hw | hw
    · refine .inl ((kept_layElements w hw).mono ?_)
      intro v hv
      obtain ⟨e, he, hv⟩ := List.mem_flatMap.1 hv
      exact List.mem_flatMap.2 ⟨e, (List.rdropWhile_prefix isBlankElement f.elements).subset he, hv⟩
    · exact .inr ⟨(Bool.and_eq_true_iff.1 hfinal).1, List.mem_singleton.1 hw⟩
  · exact .inl (kept_layElements w hw)

/-! ### Words that stand alone -/

theorem standsAlone_blank : blankWord.StandsAlone := ⟨' ', [], rfl, rfl⟩

theorem standsAlone_lineFeed : (Word.mk .newline ['\n']).StandsAlone := ⟨'\n', [], rfl, rfl⟩

theorem Kept.standsAlone {ws : List Word} {w : Word} (h : Kept ws w)
    (halone : ∀ v ∈ ws, v.trimmed.StandsAlone) : w.StandsAlone := by
  rcases h with rfl | ⟨v, hv, rfl⟩
  · exact standsAlone_blank
  · exact halone v hv

/-! ### Neighbours -/

/-- What is known of the word `q` that was written last: it may stand directly before the next word of the
source, and if ends of lines were counted behind the last content, it is the last of them unless content
comes next. -/
structure Follows (run : Nat) (q : Word) (next : List Word) : Prop where
  precedes : ∀ w ∈ next.head?, q.Precedes w
  run : 0 < run → q.kind = .newline ∨ ∀ w ∈ next.head?, w.kind ≠ .newline ∧ w.kind ≠ .space

theorem precedes_newline {v w : Word} (h : w.kind = .newline) : v.Precedes w := by
  obtain ⟨k, t⟩ := v
  unfold Word.Precedes
  rw [h]
  cases k <;> rfl

/-- A word that may stand before blanks may stand before a parenthesis that closes. -/
theorem precedes_close_of_space {v w : Word} (h : v.Precedes w) (hw : w.kind = .space) :
    v.Precedes closeWord := by
  obtain ⟨k, t⟩ := v
  unfold Word.Precedes at h ⊢
  rw [hw] at h
  cases k with
  | lineComment => cases h
  | space => cases h
  | _ => rfl

section
variable {run : Nat} {q w : Word} {next : List Word}

/-- Content is written; nothing has been counted behind it. -/
theorem Follows.content (h : (w :: next).IsChain Word.Precedes) : Follows 0 w next :=
  ⟨(List.isChain_cons.1 h).1, fun hrun => absurd hrun (Nat.lt_irrefl 0)⟩

/-- The end of a line is written. -/
theorem Follows.newline (hw : w.kind = .newline) : Follows run w next := by
  refine ⟨?_, fun _ => .inl hw⟩
  intro v _
  unfold Word.Precedes
  rw [hw]
  rfl

/-- The end of a line is left out behind another. -/
theorem Follows.skip_newline (h : Follows run q (w :: next)) (hw : w.kind = .newline) (hrun : 0 < run) :
    Follows run q next := by
  rcases h.run hrun with hq | hno
  · exact Follows.newline hq
  · exact absurd hw (hno w rfl).1

/-- Blanks are written before something that is not the end of a line. -/
theorem Follows.space (hw : w.kind = .space) (h : (w :: next).IsChain Word.Precedes)
    (hnext : ∀ v ∈ next.head?, v.kind ≠ .newline) : Follows run w next := by
  refine ⟨(List.isChain_cons.1 h).1, fun _ => .inr ?_⟩
  intro v hv
  refine ⟨hnext v hv, ?_⟩
  intro hspace
  have hp := (List.isChain_cons.1 h).1 v hv
  unfold Word.Precedes at hp
  rw [hw, hspace] at hp
  cases hp

/-- Blanks are left out. -/
theorem Follows.skip_space (h : Follows run q (w :: next)) (hw : w.kind = .space)
    (hnext : ∀ v ∈ next.head?, q.Precedes v) : Follows run q next := by
  refine ⟨hnext, fun hrun => .inl ?_⟩
  rcases h.run hrun with hq | hno
  · exact hq
  · exact absurd hw (hno w rfl).2

end

theorem isChain_enclosed {vs ws : List Word} :
    (openWord :: (vs ++ closeWord :: ws)).IsChain Word.Precedes ↔
      (openWord :: (vs ++ [closeWord])).IsChain Word.Precedes ∧
        (closeWord :: ws).IsChain Word.Precedes := by
  rw [← List.cons_append, List.isChain_split]
  rfl

/-! ### Items -/

theorem kind_head?_of_not_isNewline {after : List Item}
    (h : (after.head?.map isNewline).getD false = false) :
    ∀ w ∈ (wordsOf after ++ [closeWord]).head?, w.kind ≠ .newline := by
  intro w hw
  cases after with
  | nil =>
    cases hw
    exact Kind.noConfusion
  | cons item after =>
    cases item with
    | newline p => cases h
    | space p =>
      cases hw
      exact Kind.noConfusion
    | group openAt items closeAt =>
      cases hw
      exact Kind.noConfusion
    | comment kind p =>
      cases hw
      exact (lexemeKind_comment_ne kind).1
    | argument kind p =>
      cases hw
      exact (lexemeKind_argument_ne kind p.text).1

/-- Blanks between items are left out where nothing can merge. -/
theorem isChain_laySpace {before : Before} {run : Nat} {p : Piece} {after : List Item} {q : Word}
    (hf : Follows run q (⟨.space, p.text⟩ :: (wordsOf after ++ [closeWord])))
    (hc : ((⟨.space, p.text⟩ : Word) :: (wordsOf after ++ [closeWord])).IsChain Word.Precedes)
    (hedge : before = .nothing → q.kind = .openParen) :
    ∃ q', Follows run q' (wordsOf after ++ [closeWord]) ∧ ∀ ws, (q' :: ws).IsChain Word.Precedes →
      (q :: (wordsOf (laySpace before p after) ++ ws)).IsChain Word.Precedes := by
  have hq := hf.precedes _ rfl
  -- whatever its width, a blank that stays stands between the same neighbours
  have hkept : ∀ t, (after.head?.map isNewline).getD false = false →
      ∃ q', Follows run q' (wordsOf after ++ [closeWord]) ∧ ∀ ws, (q' :: ws).IsChain Word.Precedes →
        (q :: (wordsOf [.space ⟨p.start, t⟩] ++ ws)).IsChain Word.Precedes := by
    intro t hnext
    refine ⟨⟨.space, t⟩, Follows.space rfl ?_ (kind_head?_of_not_isNewline hnext), ?_⟩
    · exact List.isChain_cons.2 ⟨(List.isChain_cons.1 hc).1, hc.tail⟩
    · intro ws hws
      exact List.isChain_cons_cons.2 ⟨hq, hws⟩
  have hskip : (∀ v ∈ (wordsOf after ++ [closeWord]).head?, q.Precedes v) →
      ∃ q', Follows run q' (wordsOf after ++ [closeWord]) ∧ ∀ ws, (q' :: ws).IsChain Word.Precedes →
        (q :: (wordsOf [] ++ ws)).IsChain Word.Precedes :=
    fun hnext => ⟨q, hf.skip_space rfl hnext, fun ws hws => hws⟩
  unfold laySpace
  split
  · rename_i hnext
    refine hskip ?_
    intro v hv
    cases after with
    | nil => cases hnext
    | cons item after =>
      cases item with
      | newline p' =>
        cases hv
        exact precedes_newline rfl
      | _ => cases hnext
  · rename_i hnext
    have hnext' : (after.head?.map isNewline).getD false = false := by simpa using hnext
    cases before with
    | newline => exact hkept p.text hnext'
    | nothing =>
      refine hskip ?_
      intro v _
      unfold Word.Precedes
      rw [hedge rfl]
      rfl
    | other =>
      dsimp only
      split
      · rename_i hempty
        obtain rfl := List.isEmpty_iff.1 hempty
        refine hskip ?_
        intro v hv
        cases hv
        exact precedes_close_of_space hq rfl
      · exact hkept [' '] hnext'

mutual

/-- The words of an item laid out may stand behind `q`, and whatever may stand behind the last word that
is left, `q'`, may stand behind them. -/
theorem isChain_layItem (limit : Nat) {before : Before} {run : Nat} {after : List Item} {q : Word}
    (item : Item) (hf : Follows run q (item.words ++ (wordsOf after ++ [closeWord])))
    (hc : (item.words ++ (wordsOf after ++ [closeWord])).IsChain Word.Precedes)
    (hedge : before = .nothing → q.kind = .openParen) :
    ∃ q', Follows (itemRun limit run item) q' (wordsOf after ++ [closeWord]) ∧
      ∀ ws, (q' :: ws).IsChain Word.Precedes →
        (q :: (wordsOf (layItem limit before run after item) ++ ws)).IsChain Word.Precedes := by
  cases item with
  | space p => exact isChain_laySpace hf hc hedge
  | newline p =>
    rw [itemRun, layItem]
    split
    · rename_i hrun
      exact ⟨q, hf.skip_newline rfl (Nat.zero_lt_of_lt hrun), fun ws hws => hws⟩
    · refine ⟨⟨.newline, p.text⟩, Follows.newline rfl, ?_⟩
      intro ws hws
      exact List.isChain_cons_cons.2 ⟨hf.precedes _ rfl, hws⟩
  | comment kind p =>
    refine ⟨⟨kind.lexemeKind, (layComment kind p).text⟩, ?_, ?_⟩
    · exact Follows.content (List.isChain_cons.2 ⟨(List.isChain_cons.1 hc).1, hc.tail⟩)
    · intro ws hws
      have hq : q.Precedes ⟨kind.lexemeKind, p.text⟩ := hf.precedes _ rfl
      exact List.isChain_cons_cons.2 ⟨hq, hws⟩
  | argument kind p =>
    refine ⟨⟨kind.lexemeKind p.text, p.text⟩, Follows.content hc, ?_⟩
    intro ws hws
    exact List.isChain_cons_cons.2 ⟨hf.precedes _ rfl, hws⟩
  | group openAt items closeAt =>
    rw [Item.words] at hf hc
    simp only [List.cons_append, List.append_assoc, List.nil_append] at hf hc
    obtain ⟨hinner, houter⟩ := isChain_enclosed.1 hc
    refine ⟨closeWord, Follows.content houter, ?_⟩
    intro ws hws
    rw [layItem, wordsOf_singleton, Item.words]
    simp only [List.cons_append, List.append_assoc, List.nil_append]
    refine List.isChain_cons_cons.2 ⟨hf.precedes _ rfl, ?_⟩
    have hitems := isChain_layItems limit .nothing 0 items (Follows.content hinner) hinner.tail
      (fun _ => rfl)
    exact isChain_enclosed.2 ⟨hitems, hws⟩

/-- **Neighbours in a layout of items may stand directly behind each other.** -/
theorem isChain_layItems (limit : Nat) (before : Before) (run : Nat) {q : Word} (items : List Item)
    (hf : Follows run q (wordsOf items ++ [closeWord]))
    (hc : (wordsOf items ++ [closeWord]).IsChain Word.Precedes)
    (hedge : before = .nothing → q.kind = .openParen) :
    (q :: (wordsOf (layItems limit before run items) ++ [closeWord])).IsChain Word.Precedes := by
  cases items with
  | nil => exact List.isChain_pair.2 (hf.precedes _ rfl)
  | cons item items =>
    rw [wordsOf, List.append_assoc] at hf hc
    obtain ⟨q', hf', hws⟩ := isChain_layItem limit item hf hc hedge
    have hedge' : beforeNext item = .nothing → q'.kind = .openParen := by
      intro hb
      unfold beforeNext at hb
      split at hb <;> cases hb
    rw [layItems, wordsOf_append, List.append_assoc]
    exact hws _ (isChain_layItems limit _ _ items hf' hc.right_of_append hedge')

end

/-! ### Elements -/

theorem isChain_layCommand (style : Style) {c : Command} {ws next : List Word}
    (hc : (c.words ++ next).IsChain Word.Precedes) (hws : (closeWord :: ws).IsChain Word.Precedes) :
    ((layCommand style c).words ++ ws).IsChain Word.Precedes := by
  have hc' : (headerWords c.name.text c.spaceBeforeParen
      ++ openWord :: (wordsOf c.arguments.items ++ closeWord :: next)).IsChain Word.Precedes := by
    simpa [Command.words] using hc
  have hparen := (List.isChain_split.1 hc').2
  have hinner := (isChain_enclosed.1 hparen).1
  have hitems := isChain_layItems style.maxBlankLinesInArguments .nothing 0 _ (Follows.content hinner)
    hinner.tail (fun _ => rfl)
  have hlist := isChain_enclosed.2 ⟨hitems, hws⟩
  have hheader : ∀ space : List Char,
      (headerWords c.name.text space ++ [openWord]).IsChain Word.Precedes := by
    intro space
    unfold headerWords spaceWords
    split
    · exact List.isChain_pair.2 rfl
    · exact List.isChain_cons_cons.2 ⟨rfl, List.isChain_pair.2 rfl⟩
  have hall := List.isChain_split.2 ⟨hheader (parenSpace style c.spaceBeforeParen), hlist⟩
  simpa [Command.words, layCommand] using hall

theorem kind_head?_of_not_endsLine {after : List Element} (h : endsLine after = false) :
    ∀ w ∈ (after.flatMap Element.words).head?, w.kind ≠ .newline := by
  intro w hw
  cases after with
  | nil => cases h
  | cons e after =>
    cases e with
    | newline p => cases h
    | space p =>
      cases hw
      exact Kind.noConfusion
    | command c =>
      cases hw
      exact Kind.noConfusion
    | comment kind p =>
      cases hw
      exact (lexemeKind_comment_ne kind).1

theorem precedes_of_endsLine {after : List Element} (h : endsLine after = true) {q : Word} :
    ∀ w ∈ (after.flatMap Element.words).head?, q.Precedes w := by
  intro w hw
  cases after with
  | nil => cases hw
  | cons e after =>
    cases e with
    | newline p =>
      cases hw
      exact precedes_newline rfl
    | _ => cases h

/-- **Neighbours in a layout of elements may stand directly behind each other.** -/
theorem isChain_layElements {style : Style} {run : Nat} {q : Word} {es : List Element}
    (hf : Follows run q (es.flatMap Element.words))
    (hc : (es.flatMap Element.words).IsChain Word.Precedes) :
    (q :: (layElements style run es).flatMap Element.words).IsChain Word.Precedes := by
  induction es generalizing run q with
  | nil => exact List.isChain_singleton q
  | cons e es ih =>
    rw [List.flatMap_cons] at hf hc
    have htail := hc.right_of_append
    rw [layElements, List.flatMap_append]
    cases e with
    | command c =>
      have hlast : (closeWord :: es.flatMap Element.words).IsChain Word.Precedes := by
        have hc' : (headerWords c.name.text c.spaceBeforeParen ++ openWord :: wordsOf c.arguments.items
            ++ closeWord :: es.flatMap Element.words).IsChain Word.Precedes := by
          simpa [Element.words, Command.words] using hc
        exact (List.isChain_split.1 hc').2
      have hrest := isChain_layCommand style hc (ih (Follows.content hlast) htail)
      have hq : q.Precedes ⟨.unquoted, c.name.text⟩ := hf.precedes _ rfl
      rw [layElement, elementRun, List.flatMap_singleton]
      exact List.isChain_cons_cons.2 ⟨hq, hrest⟩
    | comment kind p =>
      have hf' : Follows 0 ⟨kind.lexemeKind, (layComment kind p).text⟩ (es.flatMap Element.words) :=
        Follows.content (List.isChain_cons.2 ⟨(List.isChain_cons.1 hc).1, hc.tail⟩)
      have hq : q.Precedes ⟨kind.lexemeKind, p.text⟩ := hf.precedes _ rfl
      exact List.isChain_cons_cons.2 ⟨hq, ih hf' htail⟩
    | space p =>
      rw [layElement, elementRun]
      split
      · rename_i hends
        exact ih (hf.skip_space rfl (precedes_of_endsLine hends)) htail
      · rename_i hends
        have hends' : endsLine es = false := by simpa using hends
        exact List.isChain_cons_cons.2
          ⟨hf.precedes _ rfl, ih (Follows.space rfl hc (kind_head?_of_not_endsLine hends')) htail⟩
    | newline p =>
      rw [layElement, elementRun]
      split
      · rename_i hrun
        exact ih (hf.skip_newline rfl (Nat.zero_lt_of_lt hrun)) htail
      · exact List.isChain_cons_cons.2 ⟨hf.precedes _ rfl, ih (Follows.newline rfl) htail⟩

/-! ### Files -/

theorem fromText_contentOf {f : File} (h : FromText f.words) :
    FromText ((contentOf f.elements).flatMap Element.words) := by
  obtain ⟨bs, hbs⟩ := List.rdropWhile_prefix isBlankElement f.elements
  rw [File.words, ← hbs, List.flatMap_append] at h
  exact h.left

theorem separate_layElements (style : Style) {es : List Element}
    (h : FromText (es.flatMap Element.words)) :
    Separate ((layElements style 0 es).flatMap Element.words) := by
  refine ⟨fun w hw => (kept_layElements w hw).standsAlone h.alone, ?_⟩
  -- a closing parenthesis may stand before anything, as may the start of the file
  have hstart : Follows 0 closeWord (es.flatMap Element.words) :=
    ⟨fun _ _ => rfl, fun hrun => absurd hrun (Nat.lt_irrefl 0)⟩
  exact (isChain_layElements hstart h.chain).tail

theorem standsAlone_lineEndOf {f : File} (h : FromText f.words) :
    (Word.mk .newline (lineEndOf f)).StandsAlone := by
  unfold lineEndOf firstLineEnd?
  cases hw : f.words.find? (fun w => w.kind == .newline) with
  | none => exact standsAlone_lineFeed
  | some w =>
    have hkind : w.kind = .newline := by simpa using List.find?_some hw
    have halone := h.alone w (List.mem_of_find?_eq_some hw)
    rw [Word.trimmed_of_ne (by rw [hkind]; exact Kind.noConfusion)] at halone
    obtain ⟨k, t⟩ := w
    cases hkind
    exact halone

/-- **The words of a file laid out can be told apart.** -/
theorem separate_layFile {style : Style} {f : File} (h : FromText f.words) :
    Separate (layFile style f).words := by
  unfold layFile
  split
  · obtain ⟨halone, hchain⟩ := separate_layElements style (fromText_contentOf h)
    rw [File.words, List.flatMap_append]
    refine ⟨?_, ?_⟩
    · intro w hw
      rcases List.mem_append.1 hw with hw | hw
      · exact halone w hw
      · rw [List.mem_singleton.1 hw]
        exact standsAlone_lineEndOf h
    · refine List.isChain_append.2 ⟨hchain, List.isChain_singleton _, ?_⟩
      intro v _ w hw
      cases hw
      exact precedes_newline rfl
  · exact separate_layElements style h

theorem depthOf_laySpace (before : Before) (p : Piece) (after : List Item) :
    depthOf (laySpace before p after) = 0 := by
  rcases laySpace_cases before p after with hlay | ⟨q, hlay, -⟩
  all_goals
    rw [hlay]
    rfl

mutual

theorem depthOf_layItem (limit : Nat) (before : Before) (run : Nat) (after : List Item) (item : Item) :
    depthOf (layItem limit before run after item) ≤ item.depth := by
  cases item with
  | space p => rw [layItem, depthOf_laySpace]; exact Nat.zero_le _
  | newline p =>
    rw [layItem]
    split <;> exact Nat.zero_le _
  | comment kind p => exact Nat.zero_le _
  | argument kind p => exact Nat.zero_le _
  | group openAt items closeAt =>
    have := depthOf_layItems limit .nothing 0 items
    rw [layItem, depthOf, depthOf, Item.depth, Item.depth]
    omega

/-- Laying items out does not nest parentheses deeper. -/
theorem depthOf_layItems (limit : Nat) (before : Before) (run : Nat) (items : List Item) :
    depthOf (layItems limit before run items) ≤ depthOf items := by
  cases items with
  | nil => exact Nat.zero_le _
  | cons item items =>
    have hitem := depthOf_layItem limit before run items item
    have hitems := depthOf_layItems limit (beforeNext item) (itemRun limit run item) items
    rw [layItems, depthOf_append, depthOf]
    omega

end

theorem legal_layElements {style : Style} {run : Nat} {es : List Element} (h : Legal es) :
    Legal (layElements style run es) := by
  induction es generalizing run with
  | nil =>
    intro c hc
    cases hc
  | cons e es ih =>
    intro c hc
    rw [layElements] at hc
    rcases List.mem_append.1 hc with hc | hc
    · cases e with
      | command d =>
        rw [layElement, List.mem_singleton] at hc
        cases hc
        obtain ⟨hname, hdepth⟩ := h d (.head _)
        refine ⟨hname, ?_⟩
        exact Nat.lt_of_le_of_lt (depthOf_layItems style.maxBlankLinesInArguments .nothing 0 _) hdepth
      | comment kind p => cases List.mem_singleton.1 hc
      | space p =>
        rw [layElement] at hc
        split at hc
        · cases hc
        · cases List.mem_singleton.1 hc
      | newline p =>
        rw [layElement] at hc
        split at hc
        · cases hc
        · cases List.mem_singleton.1 hc
    · exact ih (fun d hd => h d (.tail _ hd)) c hc

theorem legal_layFile {style : Style} {f : File} (h : Legal f.elements) :
    Legal (layFile style f).elements := by
  unfold layFile
  split
  · have hcontent : Legal (contentOf f.elements) := by
      intro c hc
      exact h c ((List.rdropWhile_prefix isBlankElement f.elements).subset hc)
    intro c hc
    rcases List.mem_append.1 hc with hc | hc
    · exact legal_layElements hcontent c hc
    · cases List.mem_singleton.1 hc
  · exact legal_layElements h

/-- **What is written is read back as the file laid out**, but for places. -/
theorem parse_fileText (style : Style) {source : List Char} {f : File}
    (h : File.parse source = .ok f) :
    ∃ g, File.parse (fileText style f) = .ok g ∧ g.unplaced = (layFile style f).unplaced := by
  have hwords := (words_of_parse h).2
  rw [fileText_eq_textOf hwords]
  exact parse_textOf_words (separate_layFile hwords) (legal_layFile (legal_of_parse h))

end Listfile.Layout
