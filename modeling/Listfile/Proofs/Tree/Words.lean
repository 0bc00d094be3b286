import Listfile.Proofs.Tree.Lexing
import Listfile.Tree.Argument
import Listfile.Tree.Parse

/-!
# The words of a tree

A tree keeps all words of its text, so a tree and a list of lexemes are compared by their words.

* **`words_of_lexemesFrom`**: the words of a text make it up and can be told apart.
* `Item.words`, `Command.words`, `File.words`: the words of a tree, in order.
* `Item.depth`, `Command.Legal`: how deep parentheses are nested, and what the language allows.
-/

namespace Listfile.Tree

/-! ### Words of lexemes -/

/-- The words of a lexeme list follow each other, and each stands alone once it is trimmed. -/
structure FromText (ws : List Word) : Prop where
  alone : ∀ w ∈ ws, w.trimmed.StandsAlone
  chain : ws.IsChain Word.Precedes

theorem FromText.right {vs ws : List Word} (h : FromText (vs ++ ws)) : FromText ws :=
  ⟨fun v hv => h.alone v (List.mem_append_right _ hv), h.chain.right_of_append⟩

theorem FromText.left {vs ws : List Word} (h : FromText (vs ++ ws)) : FromText vs :=
  ⟨fun v hv => h.alone v (List.mem_append_left _ hv), h.chain.left_of_append⟩

/-- Words that can be told apart are the words of a text. -/
theorem Separate.fromText {ws : List Word} (h : Separate ws) : FromText ws := by
  refine ⟨?_, h.chain⟩
  intro w hw
  obtain ⟨c, more, htext, hscan⟩ := h.alone w hw
  obtain ⟨k, t⟩ := w
  cases htext
  exact standsAlone_of_scan hscan

/-- **The lexemes of a text make it up**, and their words can be told apart. -/
theorem words_of_lexemesFrom {s : List Char} {start : Nat} {ls : List Lexeme}
    (h : lexemesFrom start s = .ok ls) :
    textOf (ls.map Lexeme.word) = s ∧ FromText (ls.map Lexeme.word) := by
  induction hn : s.length using Nat.strong_induction_on generalizing start s ls with
  | _ n ih =>
    cases s with
    | nil =>
      rw [lexemesFrom] at h
      cases h
      refine ⟨rfl, ?_, List.IsChain.nil⟩
      intro w hw
      cases hw
    | cons c cs =>
      obtain ⟨k, more, rest, ls', hscan, hls, rfl⟩ := lexemesFrom_cons h
      obtain ⟨htext, halone, hchain⟩ := ih _ (hn ▸ length_lt_of_scan hscan) hls rfl
      refine ⟨?_, ?_, ?_⟩
      · rw [List.map_cons, textOf_cons, htext]
        show c :: more ++ rest = c :: cs
        rw [List.cons_append, ← scan_append hscan]
      · rw [List.map_cons, List.forall_mem_cons]
        exact ⟨standsAlone_of_scan hscan, halone⟩
      · rw [List.map_cons, List.isChain_cons]
        refine ⟨?_, hchain⟩
        intro w hw
        cases rest with
        | nil =>
          rw [lexemesFrom] at hls
          cases hls
          cases hw
        | cons d ds =>
          obtain ⟨k', more', rest', ls'', hscan', -, rfl⟩ := lexemesFrom_cons hls
          cases hw
          exact mayPrecede_of_scan hscan hscan'

/-! ### What the words of each kind look like -/

theorem text_of_standsAlone {w : Word} (h : w.trimmed.StandsAlone) :
    (w.kind = .openParen → w.text = ['(']) ∧ (w.kind = .closeParen → w.text = [')']) ∧
      (w.kind = .unquoted → w.text.head? ≠ some '[') ∧
      (w.kind = .squareUnquoted → w.text.head? = some '[') ∧ (w.kind = .space → w.text ≠ []) := by
  obtain ⟨k, t⟩ := w
  obtain ⟨c, more, htext, hscan⟩ := h
  have hc := beginsWith_of_scan hscan
  rw [Word.kind_trimmed] at hscan hc
  refine ⟨?_, ?_, ?_, ?_, ?_⟩
  · rintro rfl
    have hc' : c = '(' := hc
    subst hc'
    cases hscan
    exact htext
  · rintro rfl
    have hc' : c = ')' := hc
    subst hc'
    cases hscan
    exact htext
  · rintro rfl
    have ht : t = c :: more := htext
    rw [ht]
    rintro ⟨⟩
    exact hc.2 rfl
  · rintro rfl
    have ht : t = c :: more := htext
    rw [ht, show c = '[' from hc]
    rfl
  · rintro rfl
    have ht : t = c :: more := htext
    rw [ht]
    exact List.cons_ne_nil _ _

theorem text_of_newline {w : Word} (h : w.StandsAlone) (hk : w.kind = .newline) :
    w.text = ['\n'] ∨ w.text = ['\r', '\n'] := by
  obtain ⟨c, more, htext, hscan⟩ := h
  rw [hk] at hscan
  rw [htext]
  rcases beginsWith_of_scan hscan with rfl | rfl
  · cases hscan
    exact .inl rfl
  · have happ := scan_append hscan
    rw [List.append_nil] at happ
    unfold scan at hscan
    rw [if_neg (by decide), if_neg (by decide)] at hscan
    split at hscan
    · cases hscan
      exact .inr rfl
    · rw [if_neg (by decide), if_neg (by decide), if_neg (by decide), if_neg (by decide),
        if_neg (by decide)] at hscan
      cases (scanUnquoted_kind hscan).1

theorem text_of_space {w : Word} (h : w.StandsAlone) (hk : w.kind = .space) :
    ∀ c ∈ w.text, isLineBlank c = true := by
  obtain ⟨c, more, htext, hscan⟩ := h
  rw [hk] at hscan
  have hc : isLineBlank c = true := beginsWith_of_scan hscan
  rw [scan, if_pos hc] at hscan
  injection hscan with _ hmore
  rw [htext, ← hmore]
  intro d hd
  rcases List.mem_cons.1 hd with rfl | hd
  · exact hc
  · exact List.mem_takeWhile_imp hd

/-- A comment does not end with a blank once it is trimmed. -/
theorem text_of_comment {w : Word} (h : w.trimmed.StandsAlone)
    (hk : w.kind = .lineComment ∨ w.kind = .bracketComment) :
    ∃ s c, w.trimmed.text = s ++ [c] ∧ isBlank c = false := by
  obtain ⟨c, more, htext, hscan⟩ := h
  rw [Word.kind_trimmed] at hscan
  obtain ⟨k, t⟩ := w
  rcases hk with hk | hk
  · obtain rfl : k = .lineComment := hk
    have ht : trimEnd t = c :: more := htext
    obtain ⟨s, d, hd⟩ := List.eq_nil_or_concat (c :: more) |>.resolve_left (List.cons_ne_nil _ _)
    rw [htext, hd, List.concat_eq_append]
    refine ⟨s, d, rfl, isBlank_of_mem_getLast?_trimEnd (s := t) ?_⟩
    rw [ht, hd, List.concat_eq_append]
    exact List.getLast?_concat
  · obtain rfl : k = .bracketComment := hk
    have hc : c = '#' := beginsWith_of_scan hscan
    subst hc
    rcases scanComment_cases hscan with ⟨es, level, -, -, hs⟩ | ⟨hkind, -⟩
    · unfold scanBracket at hs
      split at hs
      · rename_i text rest hsplit
        obtain ⟨⟨a, b⟩, -, hp⟩ := Option.map_eq_some_iff.1 hsplit
        cases hp
        cases hs
        refine ⟨'#' :: (['['] ++ (signsAnd level '[' ++ a ++ (']' :: List.replicate level '='))), ']',
          ?_, by decide⟩
        rw [htext]
        simp [bracketCloser, signsAnd]
      · cases hs
    · cases hkind

/-! ### Words of trees -/

/-- An opening and a closing parenthesis. -/
def openWord : Word := ⟨.openParen, ['(']⟩

@[inherit_doc openWord]
def closeWord : Word := ⟨.closeParen, [')']⟩

/-- The kind of the lexeme that an argument is. -/
def ArgumentKind.lexemeKind (text : List Char) : ArgumentKind → Kind
  | bracket => .bracket
  | quoted => .quoted
  | unquoted => if text.head? = some '[' then .squareUnquoted else .unquoted

/-- The kind of the lexeme that a comment is. -/
def CommentKind.lexemeKind : CommentKind → Kind
  | line => .lineComment
  | bracket => .bracketComment

mutual

/-- The words of an item. -/
def Item.words : Item → List Word
  | .argument kind p => [⟨kind.lexemeKind p.text, p.text⟩]
  | .group _ items _ => openWord :: wordsOf items ++ [closeWord]
  | .space p => [⟨.space, p.text⟩]
  | .newline p => [⟨.newline, p.text⟩]
  | .comment kind p => [⟨kind.lexemeKind, p.text⟩]

/-- The words of items. -/
def wordsOf : List Item → List Word
  | [] => []
  | item :: items => item.words ++ wordsOf items

end

@[simp] theorem wordsOf_append (is js : List Item) : wordsOf (is ++ js) = wordsOf is ++ wordsOf js := by
  induction is with
  | nil => rfl
  | cons i is ih => rw [List.cons_append, wordsOf, wordsOf, ih, List.append_assoc]

@[simp] theorem wordsOf_singleton (i : Item) : wordsOf [i] = i.words := by
  rw [wordsOf, wordsOf, List.append_nil]

/-- The word that blanks are, if there are any. -/
def spaceWords (space : List Char) : List Word := if space = [] then [] else [⟨.space, space⟩]

/-- The words of what has been read of a command before its parenthesis. -/
def headerWords (name space : List Char) : List Word := ⟨.unquoted, name⟩ :: spaceWords space

/-- The words of a command. -/
def Command.words (c : Command) : List Word :=
  headerWords c.name.text c.spaceBeforeParen
    ++ (openWord :: wordsOf c.arguments.items ++ [closeWord])

/-- The words of an element. -/
def Element.words : Element → List Word
  | .command c => c.words
  | .comment kind p => [⟨kind.lexemeKind, p.text⟩]
  | .space p => [⟨.space, p.text⟩]
  | .newline p => [⟨.newline, p.text⟩]

/-- The words of a file. -/
def File.words (f : File) : List Word := f.elements.flatMap Element.words

/-! ### Nesting -/

mutual

/-- How deep parentheses are nested in an item. -/
def Item.depth : Item → Nat
  | .group _ items _ => depthOf items + 1
  | .argument _ _ | .space _ | .newline _ | .comment _ _ => 0

/-- How deep parentheses are nested in items. -/
def depthOf : List Item → Nat
  | [] => 0
  | item :: items => max item.depth (depthOf items)

end

theorem depthOf_append (is js : List Item) : depthOf (is ++ js) = max (depthOf is) (depthOf js) := by
  induction is with
  | nil => rw [List.nil_append, depthOf, Nat.zero_max]
  | cons i is ih => rw [List.cons_append, depthOf, depthOf, ih, Nat.max_assoc]

theorem depthOf_reverse (is : List Item) : depthOf is.reverse = depthOf is := by
  induction is with
  | nil => rfl
  | cons i is ih =>
    rw [List.reverse_cons, depthOf_append, ih, depthOf, depthOf, depthOf]
    omega

/-- What a command may be called, and how deep its parentheses may be nested. -/
structure Command.Legal (c : Command) : Prop where
  name : isCommandName c.name.text = true
  depth : depthOf c.arguments.items < maxNesting

/-- All commands of the file are legal. -/
def Legal (es : List Element) : Prop := ∀ c, Element.command c ∈ es → c.Legal

end Listfile.Tree
