import Listfile.Proofs.Layout.Idempotence

/-!
# Indentation

Where a line begins with content behind blanks, formatting keeps the blanks as they are, and it begins no
other lines.

* `Lead`: the blanks with which a line has begun.
* `fileIndents`: the content of a file, with the blanks before it where it begins a line.
* `LeadsAgree`: what holds of a line in the source and in the layout.
* `itemsIndents_layItems`, `elementsIndents_layElements`: laying out keeps indentation.
* **`fileIndents_layFile`**: so it does for a file.
-/

namespace Listfile.Layout

open Listfile.Tree

/-! ### Content and its indentation -/

/-- The blanks with which the line has begun, if there was nothing else on it. -/
abbrev Lead := Option (List Char)

/-- What the line has begun with behind an item. -/
def Lead.afterItem (lead : Lead) : Item → Lead
  | .newline _ => some []
  | .space p => lead.map (· ++ p.text)
  | .comment _ _ | .argument _ _ | .group _ _ _ => none

/-- What the line has begun with behind an element. -/
def Lead.afterElement (lead : Lead) : Element → Lead
  | .newline _ => some []
  | .space p => lead.map (· ++ p.text)
  | .comment _ _ | .command _ => none

mutual

/-- The content of an item, each part of it with the blanks before it if it begins a line. -/
def itemIndents (lead : Lead) : Item → List (List Char × Lead)
  | .space _ | .newline _ => []
  | .comment kind p => [((layComment kind p).text, lead)]
  | .argument _ p => [(p.text, lead)]
  | .group _ items _ => (['('], lead) :: itemsIndents none items

/-- The content of the items of a list, and of the parenthesis that closes it. -/
def itemsIndents (lead : Lead) : List Item → List (List Char × Lead)
  | [] => [([')'], lead)]
  | item :: items => itemIndents lead item ++ itemsIndents (lead.afterItem item) items

end

/-- The content of an element.  An opening parenthesis stands on the line of the name before it. -/
def elementIndents (lead : Lead) : Element → List (List Char × Lead)
  | .space _ | .newline _ => []
  | .comment kind p => [((layComment kind p).text, lead)]
  | .command c => (c.name.text, lead) :: itemsIndents none c.arguments.items

/-- The content of elements. -/
def elementsIndents (lead : Lead) : List Element → List (List Char × Lead)
  | [] => []
  | e :: es => elementIndents lead e ++ elementsIndents (lead.afterElement e) es

/-- **The content of a file**: names, arguments, comments without the blanks at their end, and parentheses, each
with the blanks before it where it begins a line. -/
def fileIndents (f : File) : List (List Char × Lead) := elementsIndents (some []) f.elements

/-! ### Places do not matter -/

theorem Lead.afterItem_unplaced (lead : Lead) (item : Item) :
    lead.afterItem item.unplaced = lead.afterItem item := by
  cases item <;> rfl

theorem Lead.afterElement_unplaced (lead : Lead) (e : Element) :
    lead.afterElement e.unplaced = lead.afterElement e := by
  cases e <;> rfl

mutual

theorem itemIndents_unplaced (lead : Lead) (item : Item) :
    itemIndents lead item.unplaced = itemIndents lead item := by
  cases item with
  | space p => rfl
  | newline p => rfl
  | comment kind p =>
    cases kind with
    | line => rfl
    | bracket => rfl
  | argument kind p => rfl
  | group openAt items closeAt =>
    rw [Item.unplaced, itemIndents, itemIndents, itemsIndents_unplaced none items]

theorem itemsIndents_unplaced (lead : Lead) (items : List Item) :
    itemsIndents lead (unplacedOf items) = itemsIndents lead items := by
  cases items with
  | nil => rfl
  | cons item items =>
    rw [unplacedOf, itemsIndents, itemsIndents, itemIndents_unplaced lead item, lead.afterItem_unplaced,
      itemsIndents_unplaced _ items]

end

theorem fileIndents_unplaced (f : File) : fileIndents f.unplaced = fileIndents f := by
  have helement : ∀ (lead : Lead) (e : Element), elementIndents lead e.unplaced = elementIndents lead e := by
    intro lead e
    cases e with
    | space p => rfl
    | newline p => rfl
    | comment kind p =>
      cases kind with
      | line => rfl
      | bracket => rfl
    | command c =>
      rw [Element.unplaced, elementIndents, elementIndents, Command.unplaced, itemsIndents_unplaced]
      rfl
  have helements : ∀ (es : List Element) (lead : Lead),
      elementsIndents lead (es.map Element.unplaced) = elementsIndents lead es := by
    intro es
    induction es with
    | nil => exact fun _ => rfl
    | cons e es ih =>
      intro lead
      rw [List.map_cons, elementsIndents, elementsIndents, helement, lead.afterElement_unplaced, ih]
  rw [fileIndents, File.unplaced, helements]
  rfl

/-! ### Laying out items -/

/-- What the line has begun with in the source, and what it has begun with in the layout.  They may only differ
where blanks at the end of a line were left out, and its end comes next. -/
structure LeadsAgree (run : Nat) (before : Before) (lead lead' : Lead) (items : List Item) : Prop where
  same : (∃ p rest, items = .newline p :: rest) ∨ lead' = lead
  /-- The layout is at the start of a line if ends of lines have been counted, unless content comes next. -/
  run : 0 < run → lead' = some [] ∨ BeginsWithContent items
  /-- The end of a line stands before blanks exactly if they begin a line. -/
  space : ∀ p rest, items = .space p :: rest → before = .newline ∧ lead = some [] ∨ before ≠ .newline ∧ lead = none

section
variable {limit run : Nat} {before : Before} {lead lead' : Lead} {items : List Item}

theorem LeadsAgree.eq_of_content (h : LeadsAgree run before lead lead' items) (hitems : BeginsWithContent items) :
    lead' = lead := by
  rcases h.same with ⟨p, rest, rfl⟩ | h
  · cases hitems _ rfl
  · exact h

/-- What holds before content. -/
theorem LeadsAgree.of_content (hitems : BeginsWithContent items) (run : Nat) (before : Before) (lead : Lead) :
    LeadsAgree run before lead lead items := by
  refine ⟨.inr rfl, fun _ => .inr hitems, ?_⟩
  rintro p rest rfl
  cases hitems _ rfl

/-- What holds behind content. -/
theorem LeadsAgree.behind_content (hbefore : before ≠ .newline) (items : List Item) :
    LeadsAgree 0 before none none items :=
  ⟨.inr rfl, fun h => absurd h (Nat.lt_irrefl 0), fun _ _ _ => .inr ⟨hbefore, rfl⟩⟩

/-- What holds at the start of a line. -/
theorem LeadsAgree.behind_newline (run : Nat) (items : List Item) :
    LeadsAgree run .newline (some []) (some []) items :=
  ⟨.inr rfl, fun _ => .inl rfl, fun _ _ _ => .inl ⟨rfl, rfl⟩⟩

/-- Blanks of a layout begin the lines that they begin in the source. -/
theorem itemsIndents_laySpace {p : Piece} {after : List Item}
    (hagree : LeadsAgree run before lead lead' (.space p :: after))
    (hc : ((⟨.space, p.text⟩ : Word) :: wordsOf after).IsChain Word.Precedes)
    (hafter : ∀ lead', LeadsAgree run .other (lead.map (· ++ p.text)) lead' after →
      itemsIndents lead' (layItems limit .other run after) = itemsIndents (lead.map (· ++ p.text)) after) :
    itemsIndents lead' (laySpace before p after ++ layItems limit .other run after)
      = itemsIndents (lead.map (· ++ p.text)) after := by
  obtain rfl : lead' = lead := by
    rcases hagree.same with ⟨q, rest, hnewline⟩ | h
    · cases hnewline
    · exact h
  by_cases hnext : (after.head?.map isNewline).getD false = true
  · have hlay : laySpace before p after = [] := by
      unfold laySpace
      rw [if_pos hnext]
    rw [hlay]
    cases after with
    | nil => cases hnext
    | cons item after =>
      cases item with
      | newline q =>
        refine hafter _ ⟨.inl ⟨q, after, rfl⟩, fun hrun => ?_, nofun⟩
        rcases hagree.run hrun with h | h
        · exact .inl h
        · cases h _ rfl
      | _ => cases hnext
  · have hnext' : (after.head?.map isNewline).getD false = false := by simpa using hnext
    have hcontent := beginsWithContent_of_space hc hnext'
    have hrest := hafter _ (.of_content hcontent run .other _)
    rcases hagree.space p after rfl with ⟨rfl, rfl⟩ | ⟨hbefore, rfl⟩
    · rw [laySpace_newline hnext']
      exact hrest
    · -- behind content blanks of any width begin no line
      cases before with
      | newline => exact absurd rfl hbefore
      | nothing =>
        rw [laySpace_nothing]
        exact hrest
      | other =>
        rw [laySpace_other hnext']
        split
        · exact hrest
        · exact hrest

end

mutual

theorem itemsIndents_layItem_append {limit run : Nat} {before : Before} {lead lead' : Lead} {after : List Item}
    (item : Item) (hagree : LeadsAgree run before lead lead' (item :: after))
    (hc : (item.words ++ wordsOf after).IsChain Word.Precedes)
    (hafter : ∀ lead', LeadsAgree (itemRun limit run item) (beforeNext item) (lead.afterItem item) lead' after →
      itemsIndents lead' (layItems limit (beforeNext item) (itemRun limit run item) after)
        = itemsIndents (lead.afterItem item) after) :
    itemsIndents lead' (layItem limit before run after item
        ++ layItems limit (beforeNext item) (itemRun limit run item) after)
      = itemIndents lead item ++ itemsIndents (lead.afterItem item) after := by
  cases item with
  | space p => exact itemsIndents_laySpace hagree hc hafter
  | newline p =>
    rw [layItem]
    rw [itemRun] at hafter ⊢
    split
    · rename_i hlimit
      rw [if_pos hlimit] at hafter
      rcases hagree.run (Nat.zero_lt_of_lt hlimit) with rfl | h
      · exact hafter _ (.behind_newline run after)
      · cases h _ rfl
    · rename_i hlimit
      rw [if_neg hlimit] at hafter
      exact hafter _ (.behind_newline _ after)
  | comment kind p =>
    obtain rfl := hagree.eq_of_content fun _ h => by cases h; rfl
    rw [layItem, List.singleton_append, itemsIndents, itemIndents, itemIndents, layComment_layComment]
    exact congrArg _ (hafter none (.behind_content Before.noConfusion after))
  | argument kind p =>
    obtain rfl := hagree.eq_of_content fun _ h => by cases h; rfl
    exact congrArg _ (hafter none (.behind_content Before.noConfusion after))
  | group openAt items closeAt =>
    obtain rfl := hagree.eq_of_content fun _ h => by cases h; rfl
    have hinner : (wordsOf items).IsChain Word.Precedes := by
      rw [Item.words] at hc
      exact hc.left_of_append.left_of_append.tail
    rw [layItem, List.singleton_append, itemsIndents, itemIndents, itemIndents,
      itemsIndents_layItems items (.behind_content Before.noConfusion items) hinner]
    exact congrArg _ (hafter none (.behind_content Before.noConfusion after))

/-- **Laying items out keeps their indentation.** -/
theorem itemsIndents_layItems {limit run : Nat} {before : Before} {lead lead' : Lead} (items : List Item)
    (hagree : LeadsAgree run before lead lead' items) (hc : (wordsOf items).IsChain Word.Precedes) :
    itemsIndents lead' (layItems limit before run items) = itemsIndents lead items := by
  cases items with
  | nil =>
    rw [hagree.eq_of_content nofun]
    rfl
  | cons item items =>
    rw [wordsOf] at hc
    rw [layItems, itemsIndents]
    exact itemsIndents_layItem_append item hagree hc
      fun _ h => itemsIndents_layItems items h hc.right_of_append

end

/-! ### Laying out elements -/

/-- What the line has begun with in the source, and what it has begun with in the layout. -/
structure LineLeadsAgree (run : Nat) (lead lead' : Lead) (es : List Element) : Prop where
  same : (∃ p rest, es = .newline p :: rest) ∨ lead' = lead
  /-- The layout is at the start of a line if ends of lines have been counted, unless content comes next. -/
  run : 0 < run → lead' = some [] ∨ ∀ e ∈ es.head?, isBlankElement e = false

/-- **Laying elements out keeps their indentation.** -/
theorem elementsIndents_layElements {style : Style} {run : Nat} {lead lead' : Lead} {es : List Element}
    (hagree : LineLeadsAgree run lead lead' es) (hc : (es.flatMap Element.words).IsChain Word.Precedes) :
    elementsIndents lead' (layElements style run es) = elementsIndents lead es := by
  induction es generalizing run lead lead' with
  | nil => rfl
  | cons e es ih =>
    rw [List.flatMap_cons] at hc
    have htail := hc.right_of_append
    have hcontent : LineLeadsAgree 0 none none es := ⟨.inr rfl, fun h => absurd h (Nat.lt_irrefl 0)⟩
    have hnewline : ∀ run, LineLeadsAgree run (some []) (some []) es := fun _ => ⟨.inr rfl, fun _ => .inl rfl⟩
    have hsame : (∀ p, e ≠ .newline p) → lead' = lead := by
      intro hne
      rcases hagree.same with ⟨p, rest, h⟩ | h
      · exact absurd (List.cons_eq_cons.1 h).1 (hne p)
      · exact h
    rw [layElements, elementsIndents]
    cases e with
    | command c =>
      obtain rfl := hsame fun _ => Element.noConfusion
      have hitems : (wordsOf c.arguments.items).IsChain Word.Precedes := by
        rw [Element.words, Command.words] at hc
        exact hc.left_of_append.right_of_append.left_of_append.tail
      rw [layElement, List.singleton_append, elementsIndents, elementIndents, elementIndents, layCommand,
        itemsIndents_layItems _ (.behind_content Before.noConfusion _) hitems]
      exact congrArg _ (ih hcontent htail)
    | comment kind p =>
      obtain rfl := hsame fun _ => Element.noConfusion
      rw [layElement, List.singleton_append, elementsIndents, elementIndents, elementIndents, layComment_layComment]
      exact congrArg _ (ih hcontent htail)
    | space p =>
      obtain rfl := hsame fun _ => Element.noConfusion
      rw [layElement, elementRun]
      split
      · rename_i hends
        cases es with
        | nil => rfl
        | cons e es =>
          cases e with
          | newline q =>
            refine ih ⟨.inl ⟨q, es, rfl⟩, fun hrun => ?_⟩ htail
            rcases hagree.run hrun with h | h
            · exact .inl h
            · cases h _ rfl
          | _ => cases hends
      · rename_i hends
        refine ih ⟨.inr rfl, fun _ => .inr ?_⟩ htail
        intro e he
        cases es with
        | nil => cases he
        | cons e' es =>
          cases he
          cases e with
          | newline q => exact absurd rfl hends
          | space q => cases (List.isChain_cons_cons.1 hc).1
          | _ => rfl
    | newline p =>
      rw [layElement, elementRun]
      split
      · rename_i hlimit
        rcases hagree.run (Nat.zero_lt_of_lt hlimit) with rfl | h
        · exact ih (hnewline run) htail
        · cases h _ rfl
      · exact ih (hnewline _) htail

/-- Blanks and ends of lines behind the last content have no indentation. -/
theorem elementsIndents_append_blank {lead : Lead} {es bs : List Element}
    (hbs : ∀ b ∈ bs, isBlankElement b = true) : elementsIndents lead (es ++ bs) = elementsIndents lead es := by
  induction es generalizing lead with
  | cons e es ih => rw [List.cons_append, elementsIndents, elementsIndents, ih]
  | nil =>
    induction bs generalizing lead with
    | nil => rfl
    | cons b bs ih =>
      obtain ⟨hb, hrest⟩ := List.forall_mem_cons.1 hbs
      cases b with
      | command c => cases hb
      | comment kind p => cases hb
      | space p => exact ih hrest
      | newline p => exact ih hrest

/-- **Laying a file out keeps its indentation.** -/
theorem fileIndents_layFile (style : Style) {f : File} (h : FromText f.words) :
    fileIndents (layFile style f) = fileIndents f := by
  have hstart : ∀ es, LineLeadsAgree 0 (some []) (some []) es := fun _ => ⟨.inr rfl, fun _ => .inl rfl⟩
  refine observe_layFile (elementsIndents (some [])) id ?_ fun _ _ hbs => elementsIndents_append_blank hbs
  rintro es (rfl | rfl)
  · exact elementsIndents_layElements (hstart _) h.chain
  · exact elementsIndents_layElements (hstart _) (fromText_contentOf h).chain

end Listfile.Layout
