import Listfile.Proofs.Tree.Building

/-!
# Trees are read back from their words

The words of a legal tree, if they can be told apart, are read back as the same tree.  Only the places of
the nodes may differ.

* `File.unplaced`: a tree without the places of its nodes.
* `Item.rebuild`, `Element.rebuild`: what the words of an item and of an element are built into.
* **`parse_textOf_words`**: the text of the words is accepted, and its tree is the same but for places.
-/

namespace Listfile.Tree

/-! ### Trees without places -/

/-- The piece, as if it stood at the front. -/
def Piece.unplaced (p : Piece) : Piece := ⟨0, p.text⟩

mutual

/-- The item without places. -/
def Item.unplaced : Item → Item
  | .argument kind p => .argument kind p.unplaced
  | .group _ items _ => .group 0 (unplacedOf items) 0
  | .space p => .space p.unplaced
  | .newline p => .newline p.unplaced
  | .comment kind p => .comment kind p.unplaced

/-- The items without places. -/
def unplacedOf : List Item → List Item
  | [] => []
  | item :: items => item.unplaced :: unplacedOf items

end

/-- The command without places. -/
def Command.unplaced (c : Command) : Command :=
  ⟨c.name.unplaced, c.spaceBeforeParen, ⟨0, unplacedOf c.arguments.items, 0⟩⟩

/-- The element without places. -/
def Element.unplaced : Element → Element
  | .command c => .command c.unplaced
  | .comment kind p => .comment kind p.unplaced
  | .space p => .space p.unplaced
  | .newline p => .newline p.unplaced

/-- The tree without places. -/
def File.unplaced (f : File) : File := ⟨f.elements.map Element.unplaced⟩

theorem Piece.unplaced_eq {p q : Piece} (h : p.text = q.text) : p.unplaced = q.unplaced := by
  rw [unplaced, unplaced, h]

/-! ### One lexeme after the other -/

section
variable {es : List Element} {header : Header} {top : Pending} {outer : List Pending}

/-- The pending items with more of them behind. -/
def Pending.addAll (p : Pending) (items : List Item) : Pending :=
  { p with items := items.reverse ++ p.items }

theorem Pending.addAll_add (p : Pending) (i : Item) (items : List Item) :
    (p.add i).addAll items = p.addAll (i :: items) := by
  simp [addAll, add]

theorem foldlM_cons_of_ok {b b₁ : Builder} {l : Lexeme} {ls : List Lexeme} (h : b.add l = .ok b₁) :
    (l :: ls).foldlM Builder.add b = ls.foldlM Builder.add b₁ := by
  rw [List.foldlM_cons, h]
  rfl

theorem foldlM_append_of_ok {b b₁ : Builder} {ls ms : List Lexeme}
    (h : ls.foldlM Builder.add b = .ok b₁) :
    (ls ++ ms).foldlM Builder.add b = ms.foldlM Builder.add b₁ := by
  rw [List.foldlM_append, h]
  rfl

/-- An item that is a single lexeme. -/
theorem rebuild_leaf {k : Kind} {t : List Char} {ls : List Lexeme} (node : Piece → Item)
    (hls : ls.map Lexeme.word = [⟨k, t⟩])
    (hadd : ∀ p, Builder.add ⟨es, .inside header top outer⟩ ⟨k, p⟩
      = .ok ⟨es, .inside header (top.add (node p)) outer⟩) :
    ∃ p : Piece, p.text = t ∧
      ls.foldlM Builder.add ⟨es, .inside header top outer⟩
        = .ok ⟨es, .inside header (top.add (node p)) outer⟩ := by
  obtain ⟨l, rfl, hl⟩ := List.map_eq_singleton_iff.1 hls
  obtain ⟨k', p⟩ := l
  cases hl
  refine ⟨p, rfl, ?_⟩
  rw [foldlM_cons_of_ok (hadd p)]
  rfl

end

mutual

/-- **An item is built from its words.**  There has to be room for the parentheses in it. -/
theorem Item.rebuild (item : Item) (es : List Element) (header : Header) (top : Pending)
    (outer : List Pending) {ls : List Lexeme} (hls : ls.map Lexeme.word = item.words)
    (hroom : item.depth + outer.length < maxNesting) :
    ∃ item', item'.unplaced = item.unplaced ∧
      ls.foldlM Builder.add ⟨es, .inside header top outer⟩
        = .ok ⟨es, .inside header (top.add item') outer⟩ := by
  cases item with
  | argument kind p =>
    have hadd : ∀ q, Builder.add ⟨es, .inside header top outer⟩ ⟨kind.lexemeKind p.text, q⟩
        = .ok ⟨es, .inside header (top.add (.argument kind q)) outer⟩ := by
      intro q
      cases kind with
      | bracket => rfl
      | quoted => rfl
      | unquoted =>
        rw [ArgumentKind.lexemeKind]
        split <;> rfl
    obtain ⟨q, hq, hfold⟩ := rebuild_leaf (Item.argument kind) hls hadd
    exact ⟨.argument kind q, congrArg (Item.argument kind) (Piece.unplaced_eq hq), hfold⟩
  | group openAt items closeAt =>
    rw [Item.words] at hls
    obtain ⟨l, ms, rfl, hl, hms⟩ := List.map_eq_cons_iff.1 hls
    obtain ⟨inner, last, rfl, hinner, hlast⟩ := List.map_eq_append_iff.1 hms
    obtain ⟨l', rfl, hl'⟩ := List.map_eq_singleton_iff.1 hlast
    obtain ⟨k, p⟩ := l
    obtain ⟨k', p'⟩ := l'
    obtain rfl : k = .openParen := congrArg Word.kind hl
    obtain rfl : k' = .closeParen := congrArg Word.kind hl'
    rw [Item.depth] at hroom
    have hopen : Builder.add ⟨es, .inside header top outer⟩ ⟨.openParen, p⟩
        = .ok ⟨es, .inside header ⟨p.start, []⟩ (top :: outer)⟩ := by
      show (if maxNesting ≤ outer.length + 1 then _ else _) = _
      rw [if_neg (by omega)]
    obtain ⟨items', hitems, hfold⟩ := rebuildAll items es header ⟨p.start, []⟩ (top :: outer)
      hinner (by rw [List.length_cons]; omega)
    refine ⟨.group p.start items' p'.start, ?_, ?_⟩
    · rw [Item.unplaced, Item.unplaced, hitems]
    · rw [foldlM_cons_of_ok hopen, foldlM_append_of_ok hfold, List.foldlM_cons]
      show Except.ok _ = Except.ok _
      simp [Pending.addAll, Builder.close]
  | space p =>
    obtain ⟨q, hq, hfold⟩ := rebuild_leaf Item.space hls (fun _ => rfl)
    exact ⟨.space q, congrArg Item.space (Piece.unplaced_eq hq), hfold⟩
  | newline p =>
    obtain ⟨q, hq, hfold⟩ := rebuild_leaf Item.newline hls (fun _ => rfl)
    exact ⟨.newline q, congrArg Item.newline (Piece.unplaced_eq hq), hfold⟩
  | comment kind p =>
    have hadd : ∀ q, Builder.add ⟨es, .inside header top outer⟩ ⟨kind.lexemeKind, q⟩
        = .ok ⟨es, .inside header (top.add (.comment kind q)) outer⟩ := by
      intro q
      cases kind <;> rfl
    obtain ⟨q, hq, hfold⟩ := rebuild_leaf (Item.comment kind) hls hadd
    exact ⟨.comment kind q, congrArg (Item.comment kind) (Piece.unplaced_eq hq), hfold⟩

/-- Items are built from their words. -/
theorem rebuildAll (items : List Item) (es : List Element) (header : Header) (top : Pending)
    (outer : List Pending) {ls : List Lexeme} (hls : ls.map Lexeme.word = wordsOf items)
    (hroom : depthOf items + outer.length < maxNesting) :
    ∃ items', unplacedOf items' = unplacedOf items ∧
      ls.foldlM Builder.add ⟨es, .inside header top outer⟩
        = .ok ⟨es, .inside header (top.addAll items') outer⟩ := by
  cases items with
  | nil =>
    obtain rfl := List.map_eq_nil_iff.1 hls
    exact ⟨[], rfl, rfl⟩
  | cons item items =>
    rw [wordsOf] at hls
    rw [depthOf] at hroom
    obtain ⟨front, back, rfl, hfront, hback⟩ := List.map_eq_append_iff.1 hls
    obtain ⟨item', hitem, hfold⟩ := item.rebuild es header top outer hfront (by omega)
    obtain ⟨items', hitems, hfold'⟩ := rebuildAll items es header (top.add item') outer hback
      (by omega)
    refine ⟨item' :: items', ?_, ?_⟩
    · rw [unplacedOf, unplacedOf, hitem, hitems]
    · rw [foldlM_append_of_ok hfold, hfold', Pending.addAll_add]

end

/-! ### Elements and files -/

theorem foldlM_outside_leaf {es : List Element} {k : Kind} {t : List Char} {ls : List Lexeme}
    (node : Piece → Element) (hls : ls.map Lexeme.word = [⟨k, t⟩])
    (hadd : ∀ p, Builder.add ⟨es, .outside⟩ ⟨k, p⟩ = .ok ⟨node p :: es, .outside⟩) :
    ∃ p : Piece, p.text = t ∧
      ls.foldlM Builder.add ⟨es, .outside⟩ = .ok ⟨node p :: es, .outside⟩ := by
  obtain ⟨l, rfl, hl⟩ := List.map_eq_singleton_iff.1 hls
  obtain ⟨k', p⟩ := l
  cases hl
  refine ⟨p, rfl, ?_⟩
  rw [foldlM_cons_of_ok (hadd p)]
  rfl

/-- The name of a command and the blanks behind it. -/
theorem foldlM_header (es : List Element) {name space : List Char} {ls : List Lexeme}
    (hname : isCommandName name = true) (hls : ls.map Lexeme.word = headerWords name space) :
    ∃ start, ls.foldlM Builder.add ⟨es, .outside⟩ = .ok ⟨es, .named ⟨⟨start, name⟩, space⟩⟩ := by
  rw [headerWords] at hls
  obtain ⟨l, ms, rfl, hl, hms⟩ := List.map_eq_cons_iff.1 hls
  obtain ⟨k, start, t⟩ := l
  cases hl
  have hadd : Builder.add ⟨es, .outside⟩ ⟨.unquoted, ⟨start, t⟩⟩
      = .ok ⟨es, .named ⟨⟨start, t⟩, []⟩⟩ := by
    show (if isCommandName t = true then _ else _) = _
    rw [if_pos hname]
  refine ⟨start, ?_⟩
  rw [foldlM_cons_of_ok hadd]
  unfold spaceWords at hms
  split at hms
  · rename_i hs
    obtain rfl := List.map_eq_nil_iff.1 hms
    rw [hs]
    rfl
  · obtain ⟨l, rfl, hl⟩ := List.map_eq_singleton_iff.1 hms
    obtain ⟨k, p⟩ := l
    cases hl
    rfl

/-- **A command is built from its words.** -/
theorem Command.rebuild {c : Command} (hc : c.Legal) (es : List Element) {ls : List Lexeme}
    (hls : ls.map Lexeme.word = c.words) :
    ∃ c', c'.unplaced = c.unplaced ∧
      ls.foldlM Builder.add ⟨es, .outside⟩ = .ok ⟨.command c' :: es, .outside⟩ := by
  rw [Command.words] at hls
  obtain ⟨front, back, rfl, hfront, hback⟩ := List.map_eq_append_iff.1 hls
  obtain ⟨l, ms, rfl, hl, hms⟩ := List.map_eq_cons_iff.1 hback
  obtain ⟨inner, last, rfl, hinner, hlast⟩ := List.map_eq_append_iff.1 hms
  obtain ⟨l', rfl, hl'⟩ := List.map_eq_singleton_iff.1 hlast
  obtain ⟨k, p⟩ := l
  obtain ⟨k', p'⟩ := l'
  obtain rfl : k = .openParen := congrArg Word.kind hl
  obtain rfl : k' = .closeParen := congrArg Word.kind hl'
  obtain ⟨start, hheader⟩ := foldlM_header es hc.name hfront
  obtain ⟨items', hitems, hfold⟩ := rebuildAll c.arguments.items es
    ⟨⟨start, c.name.text⟩, c.spaceBeforeParen⟩ ⟨p.start, []⟩ [] hinner hc.depth
  refine ⟨⟨⟨start, c.name.text⟩, c.spaceBeforeParen, ⟨p.start, items', p'.start⟩⟩, ?_, ?_⟩
  · rw [Command.unplaced, Command.unplaced, hitems]
    rfl
  · rw [foldlM_append_of_ok hheader, foldlM_cons_of_ok rfl, foldlM_append_of_ok hfold,
      List.foldlM_cons]
    show Except.ok _ = Except.ok _
    simp [Pending.addAll, Builder.close, Builder.push]

theorem Element.rebuild {e : Element} (he : ∀ c, e = .command c → c.Legal) (es : List Element)
    {ls : List Lexeme} (hls : ls.map Lexeme.word = e.words) :
    ∃ e', e'.unplaced = e.unplaced ∧
      ls.foldlM Builder.add ⟨es, .outside⟩ = .ok ⟨e' :: es, .outside⟩ := by
  cases e with
  | command c =>
    obtain ⟨c', hc', hfold⟩ := Command.rebuild (he c rfl) es hls
    exact ⟨.command c', congrArg Element.command hc', hfold⟩
  | comment kind p =>
    have hadd : ∀ q, Builder.add ⟨es, .outside⟩ ⟨kind.lexemeKind, q⟩
        = .ok ⟨.comment kind q :: es, .outside⟩ := by
      intro q
      cases kind <;> rfl
    obtain ⟨q, hq, hfold⟩ := foldlM_outside_leaf (Element.comment kind) hls hadd
    exact ⟨.comment kind q, congrArg (Element.comment kind) (Piece.unplaced_eq hq), hfold⟩
  | space p =>
    obtain ⟨q, hq, hfold⟩ := foldlM_outside_leaf Element.space hls (fun _ => rfl)
    exact ⟨.space q, congrArg Element.space (Piece.unplaced_eq hq), hfold⟩
  | newline p =>
    obtain ⟨q, hq, hfold⟩ := foldlM_outside_leaf Element.newline hls (fun _ => rfl)
    exact ⟨.newline q, congrArg Element.newline (Piece.unplaced_eq hq), hfold⟩

theorem rebuildElements {es : List Element} (done : List Element) (hes : Legal es) {ls : List Lexeme}
    (hls : ls.map Lexeme.word = es.flatMap Element.words) :
    ∃ es' : List Element, es'.map Element.unplaced = es.map Element.unplaced ∧
      ls.foldlM Builder.add ⟨done, .outside⟩ = .ok ⟨es'.reverse ++ done, .outside⟩ := by
  induction es generalizing done ls with
  | nil =>
    obtain rfl := List.map_eq_nil_iff.1 hls
    exact ⟨[], rfl, rfl⟩
  | cons e es ih =>
    rw [List.flatMap_cons] at hls
    obtain ⟨front, back, rfl, hfront, hback⟩ := List.map_eq_append_iff.1 hls
    have he : ∀ c, e = .command c → c.Legal := by
      intro c hc
      exact hes c (hc ▸ List.mem_cons_self)
    obtain ⟨e', he', hfold⟩ := Element.rebuild he done hfront
    obtain ⟨es', hes', hfold'⟩ := ih (e' :: done) (fun c hc => hes c (.tail _ hc)) hback
    refine ⟨e' :: es', ?_, ?_⟩
    · rw [List.map_cons, List.map_cons, he', hes']
    · rw [foldlM_append_of_ok hfold, hfold', List.reverse_cons, List.append_assoc]
      rfl

/-- **Words that can be told apart are read back.**  The tree is the same but for places. -/
theorem parse_textOf_words {t : File} (hwords : Separate t.words) (ht : Legal t.elements) :
    ∃ g, File.parse (textOf t.words) = .ok g ∧ g.unplaced = t.unplaced := by
  obtain ⟨ls, hls, hmap⟩ := lexemesFrom_textOf hwords 0
  obtain ⟨es, hes, hfold⟩ := rebuildElements [] ht hmap
  refine ⟨⟨es⟩, ?_, ?_⟩
  · have hlex : lexemes (textOf t.words) = .ok ls := hls
    rw [File.parse, hlex]
    show File.ofLexemes ls _ = _
    have hstart : ls.foldlM Builder.add .start = .ok ⟨es.reverse ++ [], .outside⟩ := hfold
    rw [File.ofLexemes, hstart, List.append_nil]
    show Except.ok (File.mk es.reverse.reverse) = _
    rw [List.reverse_reverse]
  · rw [File.unplaced, File.unplaced, hes]

end Listfile.Tree
