import Listfile.Proofs.Highlight.Arguing
import Listfile.Proofs.Tree.Building

/-!
# Reading a file and highlighting it

A file is read lexeme by lexeme, and highlighted rule by rule.  Both come to the same places: what has been read tells
which contexts are open.

* `EntersBracket`: arguments without quotes in which highlighting enters a bracket.
* `delimited_of_scan`: what follows an argument without quotes.
* `Follows`: highlighting stands where reading has got to.
* **`Follows.step`**: one lexeme; **`Follows.run`**: all of them.
* **`openContexts_of_parse`**: at the end of a file that is read no context is left open, unless highlighting entered a
  bracket within an argument without quotes.
-/

namespace Listfile.Highlight

open Grammar Regex Listfile.Tree

variable {g : Grammar} {text rest more cs : List Char} {c : Char} {n : Nat} {kind : Kind} {last : Option Char}
  {ids : List Nat} {b b' : Builder} {ls : List Lexeme}

/-! ### Arguments -/

/-- The lexeme is an argument without quotes, and highlighting enters a bracket in its middle. -/
def EntersBracket (g : Grammar) (text : List Char) (l : Lexeme) : Prop :=
  (l.kind = .unquoted ∨ l.kind = .squareUnquoted) ∧ ∃ front level behind, front ≠ [] ∧
    l.piece.text = front ++ '[' :: (signsAnd level '[' ++ behind) ∧
    ⟨l.piece.start + byteLength front, .push, "bracket_argument"⟩ ∈ (highlight g text).events

/-- Behind an argument without quotes something follows that ends it. -/
theorem delimited_of_scan {start : Nat} (hkind : kind = .unquoted ∨ kind = .squareUnquoted)
    (hscan : scan c cs = .found kind more rest) (hls : lexemesFrom start rest = .ok ls) : Delimited rest := by
  cases rest with
  | nil => exact .inl rfl
  | cons d ds =>
    obtain ⟨kind', more', rest', ls', hscan', -, -⟩ := lexemesFrom_cons hls
    have hprecede := mayPrecede_of_scan hscan hscan'
    have hgoes : kind'.goesOn = false := by rcases hkind with rfl | rfl <;> simpa [Kind.mayPrecede] using hprecede
    have hbegins := beginsWith_of_scan hscan'
    have hdelimiter (hd : d ∈ delimiters) : Delimited (d :: ds) := .inr ⟨d, ds, rfl, hd⟩
    cases kind' with
    | space =>
      have hd : d = ' ' ∨ d = '\t' := by simpa [Kind.beginsWith, isLineBlank] using hbegins
      rcases hd with rfl | rfl <;> exact hdelimiter (by decide)
    | newline =>
      have hforms := forms_of_scan hscan'
      obtain rfl := scan_append hscan'
      refine .inl ?_
      rcases hforms with hform | hform
      all_goals
        rw [← List.cons_append, hform]
        rfl
    | openParen | closeParen | lineComment | bracketComment | quoted =>
      obtain rfl := hbegins
      exact hdelimiter (by decide)
    | bracket | squareUnquoted | unquoted => cases hgoes

/-- An argument without quotes does not begin with a bracket. -/
theorem not_isPrefix_of_scan (hkind : kind = .unquoted ∨ kind = .squareUnquoted)
    (hscan : scan c cs = .found kind more rest) (level : Nat) : ¬ '[' :: signsAnd level '[' <+: c :: more := by
  intro hprefix
  obtain ⟨rfl, behind, rfl⟩ := List.cons_prefix_cons.1 hprefix
  rcases hkind with rfl | rfl
  · exact (beginsWith_of_scan hscan).2 rfl
  · have hsquare : scanSquare cs = .found .squareUnquoted (signsAnd level '[' ++ behind) rest := hscan
    unfold scanSquare at hsquare
    rw [scan_append hscan, List.append_assoc, bracketLevel?_signsAnd] at hsquare
    cases scanBracket_kind hsquare

/-- **An argument is passed**, unless highlighting enters a bracket in its middle. -/
theorem Expects.argument (hg : IsListFiles g) (hscan : scan c cs = .found kind more rest)
    (hkind : kind.isArgument = true) {start : Nat} (hls : lexemesFrom start rest = .ok ls) (hfree : '$' ∉ c :: more)
    (h : Expects g text n (c :: cs) last ids) :
    EntersBracket g text ⟨kind, ⟨n, c :: more⟩⟩ ∨
      ∃ last', Within g text (n + byteLength (c :: more)) rest last' 2 (0 :: ids) := by
  have hforms := forms_of_scan hscan
  have hbegins := beginsWith_of_scan hscan
  have hbare (hkind : kind = .unquoted ∨ kind = .squareUnquoted) (hbare : Bare (c :: more)) :
      EntersBracket g text ⟨kind, ⟨n, c :: more⟩⟩ ∨
        ∃ last', Within g text (n + byteLength (c :: more)) rest last' 2 (0 :: ids) := by
    rw [scan_append hscan] at h
    rcases h.bare hg hbare (List.cons_ne_nil _ _) hfree (delimited_of_scan hkind hscan hls)
      (not_isPrefix_of_scan hkind hscan) with hstray | hnext
    · exact .inl ⟨hkind, hstray⟩
    · exact .inr hnext
  cases kind with
  | quoted =>
    obtain ⟨body, hbody, hquotable⟩ := hforms
    obtain ⟨rfl, rfl⟩ := List.cons_eq_cons.1 hbody
    rw [scan_append hscan, List.append_assoc] at h
    have hbodyFree : '$' ∉ body := fun hmem => hfree (List.mem_cons_of_mem _ (List.mem_append_left _ hmem))
    exact .inr ⟨_, h.quoted hg hquotable hbodyFree⟩
  | bracket =>
    obtain rfl : c = '[' := hbegins
    have hsquare : scanSquare cs = .found .bracket more rest := hscan
    unfold scanSquare at hsquare
    split at hsquare
    · rename_i level hlevel
      obtain ⟨body, rfl, rfl, hsplit⟩ := exists_split_of_scanBracket hlevel hsquare
      exact .inr ⟨_, h.bracket hg hsplit⟩
    · cases hsquare
  | squareUnquoted =>
    obtain ⟨line, hline, hmore⟩ := hforms
    exact hbare (.inr rfl) (hline ▸ .plain (by decide) rfl hmore)
  | unquoted => exact hbare (.inl rfl) hforms.2.2
  | _ => cases hkind

/-! ### One lexeme -/

/-- Highlighting stands where reading has got to. -/
def Follows (g : Grammar) (text : List Char) (n : Nat) (rest : List Char) : Place → Prop
  | .outside => ∃ last, Apart last rest ∧ Within g text n rest last 2 [10]
  | .named header => ∃ m last, n = m + byteLength (header.name.text ++ header.space) ∧
      isCommandName header.name.text = true ∧ (∀ c ∈ header.space, isLineBlank c = true) ∧
      last.any isWordChar = false ∧ Within g text m (header.name.text ++ header.space ++ rest) last 2 [10]
  | .inside _ _ outer => ∃ last, Expects g text n rest last (List.replicate outer.length 0 ++ [10])

theorem isFiller_of_isElement {l : Lexeme} {e : Element} (he : l.IsElement e) : isFiller l.kind = true := by
  cases he <;> rfl

/-- A name and the blanks behind it are more than a regex may go back over. -/
def IsTooLong (name space : List Char) : Prop := Machine.maxBranches < name.length + space.length

section
variable {es : List Element} {header : Header} {top : Tree.Pending} {outer : List Tree.Pending}
  (hg : IsListFiles g) (hscan : scan c cs = .found kind more rest)
include hg hscan

theorem Follows.outside (hmore : kind = .newline → rest ≠ [])
    (htakes : (Builder.mk es .outside).Takes ⟨kind, ⟨n, c :: more⟩⟩ b')
    (h : Follows g text n (c :: cs) .outside) : Follows g text (n + byteLength (c :: more)) rest b'.place := by
  obtain ⟨last, hapart, h⟩ := h
  have hcs : c :: cs = c :: more ++ rest := congrArg (c :: ·) (scan_append hscan)
  have hword (hline : OneLine (c :: more)) : last.any isWordChar = false :=
    Apart.of_oneLine (hcs ▸ hapart) (List.cons_ne_nil _ _) hline
  have hfiller (hkind : isFiller kind = true) : Follows g text (n + byteLength (c :: more)) rest .outside := by
    refine h.filler hg (hasFillers_main hg) hscan hkind (fun hspace => skips_main hg (hword ?_)) hmore (by decide)
    subst hspace
    exact (plain_header (List.forall_mem_nil _) (forms_of_scan hscan).2).2
  cases htakes with
  | element he => exact hfiller (isFiller_of_isElement he)
  | name hname =>
    obtain ⟨-, hline⟩ := plain_header (isNameChar_of_isCommandName hname) (List.forall_mem_nil _)
    rw [List.append_nil] at hline
    refine ⟨n, last, by rw [List.append_nil], hname, List.forall_mem_nil _, hword hline, ?_⟩
    rw [List.append_nil, ← hcs]
    exact h

theorem Follows.named (htakes : (Builder.mk es (.named header)).Takes ⟨kind, ⟨n, c :: more⟩⟩ b')
    (h : Follows g text n (c :: cs) (.named header)) :
    Follows g text (n + byteLength (c :: more)) rest b'.place ∨
      (b'.Holds header ∧ IsTooLong header.name.text header.space) := by
  obtain ⟨m, last, hm, hname, hspace, hword, h⟩ := h
  have hcs : c :: cs = c :: more ++ rest := congrArg (c :: ·) (scan_append hscan)
  have hforms := forms_of_scan hscan
  cases htakes with
  | blanks =>
    refine .inl ⟨m, last, ?_, hname, ?_, hword, ?_⟩
    · show n + byteLength (c :: more) = m + byteLength (header.name.text ++ (header.space ++ c :: more))
      rw [← List.append_assoc, byteLength_append _ (c :: more), ← Nat.add_assoc, hm]
    · exact List.forall_mem_append.2 ⟨hspace, hforms.2⟩
    · rw [hcs] at h
      simpa using h
  | arguments =>
    obtain ⟨rfl, rfl⟩ := List.cons_eq_cons.1 (show c :: more = ['('] from hforms)
    by_cases hlength : header.name.text.length + header.space.length ≤ Machine.maxBranches
    · refine .inl ⟨some '(', ?_⟩
      rw [hcs] at h
      rw [hm, Nat.add_assoc, ← byteLength_append]
      exact h.command hg hname hspace hword hlength
    · exact .inr ⟨.inl ⟨_, _, rfl⟩, Nat.lt_of_not_le hlength⟩

theorem Follows.inside (hmore : kind = .newline → rest ≠ []) {start : Nat} (hls : lexemesFrom start rest = .ok ls)
    (hfree : '$' ∉ c :: more)
    (htakes : (Builder.mk es (.inside header top outer)).Takes ⟨kind, ⟨n, c :: more⟩⟩ b')
    (h : Follows g text n (c :: cs) (.inside header top outer)) :
    Follows g text (n + byteLength (c :: more)) rest b'.place ∨ EntersBracket g text ⟨kind, ⟨n, c :: more⟩⟩ := by
  obtain ⟨last, h⟩ := h
  have hforms := forms_of_scan hscan
  have hcs := scan_append hscan
  cases htakes with
  | item hi =>
    cases hi with
    | space | newline | lineComment | bracketComment => exact .inl (h.filler hg hscan rfl hmore)
    | quoted | bracket | squareUnquoted | unquoted =>
      rcases h.argument hg hscan rfl hls hfree with hstray | ⟨last', hnext⟩
      · exact .inr hstray
      · exact .inl ⟨last', .inl hnext⟩
  | nested =>
    obtain ⟨rfl, rfl⟩ := List.cons_eq_cons.1 (show c :: more = ['('] from hforms)
    obtain rfl : cs = rest := hcs
    exact .inl ⟨some '(', .inl (h.openParen hg)⟩
  | close =>
    obtain ⟨rfl, rfl⟩ := List.cons_eq_cons.1 (show c :: more = [')'] from hforms)
    obtain rfl : cs = rest := hcs
    cases outer with
    | nil => exact .inl ⟨some ')', .inl (by decide), h.closeParen hg⟩
    | cons below outer => exact .inl ⟨some ')', .inl (h.closeParen hg)⟩

/-- **Behind the next lexeme highlighting stands where reading has got to again**, unless the name of a command is too
long, or highlighting enters a bracket within an argument without quotes. -/
theorem Follows.step (hmore : kind = .newline → rest ≠ []) {start : Nat} (hls : lexemesFrom start rest = .ok ls)
    (hfree : '$' ∉ c :: more) (hadd : b.add ⟨kind, ⟨n, c :: more⟩⟩ = .ok b')
    (h : Follows g text n (c :: cs) b.place) :
    Follows g text (n + byteLength (c :: more)) rest b'.place ∨ EntersBracket g text ⟨kind, ⟨n, c :: more⟩⟩ ∨
      ∃ header, b'.Holds header ∧ IsTooLong header.name.text header.space := by
  have htakes := Builder.takes_of_add hadd
  obtain ⟨es, place⟩ := b
  cases place with
  | outside => exact .inl (h.outside hg hscan hmore htakes)
  | named header =>
    rcases h.named hg hscan htakes with hnext | hlong
    · exact .inl hnext
    · exact .inr (.inr ⟨header, hlong⟩)
  | inside header top outer =>
    rcases h.inside hg hscan hmore hls hfree htakes with hnext | hstray
    · exact .inl hnext
    · exact .inr (.inl hstray)

end

/-! ### Whole files -/

/-- Where a file ends, no context is left open. -/
theorem Follows.openContexts (hg : IsListFiles g) (hend : restOfLine rest = []) (hlast : behindLine rest = [])
    (h : Follows g text n rest .outside) : (highlight g text).openContexts = ["main"] := by
  obtain ⟨last, -, h⟩ := h
  obtain ⟨captures, below, events, hbelow, hat⟩ := h.exists_frame
  obtain rfl : below = [] := List.map_eq_nil_iff.1 hbelow
  rw [hat.comes.openContexts hend hlast fun place hplace => findMatch_main_of_nil hg captures hplace]
  show [(g.context 10).name] = _
  rw [hg.name rfl]

/-- The end of a line that is the end of a file stands outside of commands. -/
theorem place_of_newline {p : Tree.Piece} {es : List Element} (h : b.add ⟨.newline, p⟩ = .ok ⟨es, .outside⟩) :
    b.place = .outside := by
  cases Builder.takes_of_add h with
  | element he => rfl

/-- **From any lexeme on, highlighting stands where reading has got to**, up to the end of the file. -/
theorem Follows.run (hg : IsListFiles g) {es : List Element} (hls : lexemesFrom n rest = .ok ls) (hfree : '$' ∉ rest)
    (hread : ls.foldlM Builder.add b = .ok ⟨es, .outside⟩) (h : Follows g text n rest b.place) :
    (highlight g text).openContexts = ["main"] ∨ (∃ l ∈ ls, EntersBracket g text l) ∨
      ∃ command, Element.command command ∈ es ∧ IsTooLong command.name.text command.spaceBeforeParen := by
  induction ls generalizing n rest b with
  | nil =>
    cases rest with
    | nil =>
      cases hread
      exact .inl (h.openContexts hg rfl rfl)
    | cons c cs =>
      obtain ⟨k, more, rest', ls', -, -, hnil⟩ := lexemesFrom_cons hls
      cases hnil
  | cons l ls ih =>
    cases rest with
    | nil =>
      rw [lexemesFrom] at hls
      cases hls
    | cons c cs =>
      obtain ⟨kind, more, rest', ls', hscan, hls', hcons⟩ := lexemesFrom_cons hls
      obtain ⟨rfl, rfl⟩ := List.cons_eq_cons.1 hcons
      obtain ⟨b₁, hadd, hmoreRead⟩ := Builder.exists_add_of_foldlM hread
      have hcs : c :: cs = c :: more ++ rest' := congrArg (c :: ·) (scan_append hscan)
      by_cases hfinal : kind = .newline ∧ rest' = []
      · obtain ⟨rfl, rfl⟩ := hfinal
        rw [lexemesFrom] at hls'
        cases hls'
        cases hmoreRead
        rw [place_of_newline hadd] at h
        -- nothing is left of the line, and no other one follows
        have hends : restOfLine (c :: cs) = [] ∧ behindLine (c :: cs) = [] := by
          rw [hcs, List.append_nil]
          rcases forms_of_scan hscan with hform | hform
          all_goals
            rw [hform]
            exact ⟨rfl, rfl⟩
        exact .inl (h.openContexts hg hends.1 hends.2)
      · rw [hcs] at hfree
        rcases h.step hg hscan (not_and.1 hfinal) hls' (fun hmem => hfree (List.mem_append_left _ hmem)) hadd with
          hnext | hstray | ⟨header, hholds, hlong⟩
        · rcases ih hls' (fun hmem => hfree (List.mem_append_right _ hmem)) hmoreRead hnext with
            hmain | ⟨l, hl, hstray⟩ | hlong
          · exact .inl hmain
          · exact .inr (.inl ⟨l, List.mem_cons_of_mem _ hl, hstray⟩)
          · exact .inr (.inr hlong)
        · exact .inr (.inl ⟨_, List.mem_cons_self, hstray⟩)
        · obtain ⟨arguments, hmem⟩ := Builder.exists_command hholds hmoreRead
          exact .inr (.inr ⟨_, hmem, hlong⟩)

/-- Highlighting begins where reading does. -/
theorem Follows.start (hg : IsListFiles g) (htext : text ≠ []) : Follows g text 0 text .outside := by
  have hstart := (Stands.start g htext).within
  rw [Stack.initial, hg.main] at hstart
  exact ⟨none, .inl rfl, hstart.mono (Nat.zero_le 2)⟩

/-- **A file that is read leaves no context open**, if it has no dollar signs: unless highlighting enters a bracket in
the middle of an argument without quotes, or the name of a command is too long to be matched. -/
theorem openContexts_of_parse {source : List Char} {f : File} (hparse : File.parse source = .ok f)
    (hfree : '$' ∉ source) : ∃ g ls, cmake.compile = .ok g ∧ lexemes source = .ok ls ∧
      ((highlight g source).openContexts = ["main"] ∨ (∃ l ∈ ls, EntersBracket g source l) ∨
        ∃ command, Element.command command ∈ f.elements ∧ IsTooLong command.name.text command.spaceBeforeParen) := by
  obtain ⟨g, hg⟩ := exists_isListFiles
  obtain ⟨ls, es, hls, hread, hes⟩ := parse_steps hparse
  refine ⟨g, ls, hg.compile, hls, ?_⟩
  by_cases hempty : source = []
  · subst hempty
    refine .inl ?_
    show (Stack.initial g).contextNames g = _
    rw [Stack.initial, hg.main]
    show [(g.context 10).name] = _
    rw [hg.name rfl]
  · rcases Follows.run hg hls hfree hread (Follows.start hg hempty) with hmain | hstray | ⟨command, hmem, hlong⟩
    · exact .inl hmain
    · exact .inr (.inl hstray)
    · exact .inr (.inr ⟨command, by rw [hes]; exact List.mem_reverse.2 hmem, hlong⟩)

/-- Commands with all kinds of arguments, comments and blanks. -/
def nestedText : List Char := "function(f)\n  set (x \"a b\" [=[c]=] (d;e)) # g\nendfunction()\n".toList

/-- They leave no context open. -/
theorem openContexts_of_parse_nested : ∃ f, File.parse nestedText = .ok f ∧ '$' ∉ nestedText ∧
    ∃ g, cmake.compile = .ok g ∧ (highlight g nestedText).openContexts = ["main"] := by
  obtain ⟨f, hf⟩ := exists_of_isOk (x := File.parse nestedText) (by decide +kernel)
  have hfree : '$' ∉ nestedText := by decide
  have hplain : (lexemes nestedText).toOption.all
      (·.all fun l => l.kind = .quoted || l.kind = .bracket || !l.piece.text.contains '[') = true := by decide +kernel
  have hshort : (File.parse nestedText).toOption.all (·.commands.all fun c =>
      c.name.text.length + c.spaceBeforeParen.length ≤ 20) = true := by decide +kernel
  obtain ⟨g, ls, hcompile, hls, hmain | ⟨l, hl, hkind, front, level, behind, -, htext, -⟩ | ⟨command, hmem, hlong⟩⟩ :=
    openContexts_of_parse hf hfree
  · exact ⟨f, hf, hfree, g, hcompile, hmain⟩
  · rw [hls] at hplain
    have hbracket := List.all_eq_true.1 hplain l hl
    rcases hkind with hkind | hkind <;> simp [hkind, htext] at hbracket
  · rw [hf] at hshort
    have hcommand := List.all_eq_true.1 hshort command (List.mem_filterMap.2 ⟨_, hmem, rfl⟩)
    have hlength := of_decide_eq_true hcommand
    unfold IsTooLong Machine.maxBranches at hlong
    omega

/-- **Not every file that is read leaves no context open**: behind a semicolon within an argument without quotes, what
opens a bracket is matched like a new argument. -/
theorem not_forall_openContexts : ¬ ∀ (source : List Char) (f : File), File.parse source = .ok f → '$' ∉ source →
    ∃ g, cmake.compile = .ok g ∧ (highlight g source).openContexts = ["main"] := by
  intro hall
  obtain ⟨f, hf⟩ := exists_of_isOk (x := File.parse "set(a;[[)".toList) (by decide +kernel)
  obtain ⟨g, hcompile, hmain⟩ := hall "set(a;[[)".toList f hf (by decide)
  obtain ⟨g', hg⟩ := exists_isListFiles
  obtain rfl := Except.ok.inj (hcompile.symm.trans hg.compile)
  have hobeys : List.Forall₂ Obeys argumentsSketches (g.context 0).rules := hg.obeys rfl rfl
  obtain ⟨bracket, others, hbracket, hpush, -, hrules⟩ := exists_bracketRule hg
  obtain ⟨captures, hstart⟩ := Comes.command hg (.inr rfl : Opens "set(") "a;[[)".toList
  have hword : Comes g _ _ (';' :: "[[)".toList) _ _ :=
    hstart.pass (v := ['a']) (c := ';') hobeys (by decide) (by decide) fun d hd ds => by
      rw [List.mem_singleton.1 hd]
      rfl
  obtain ⟨texts, hsemicolon⟩ := hword.matchText (s := ";") hobeys (by decide) (List.cons_ne_nil _ _) fun _ => ⟨_, rfl⟩
  have hbehind : Comes g _ _ (['['] ++ (signsAnd 0 '[' ++ [')'])) (⟨0, captures⟩ :: _) _ := hsemicolon
  obtain ⟨texts', hlevel, hinside⟩ := hbehind.opener hbracket hpush (by decide) ⟨0, captures⟩
    fun place hit hplace htry => by
      rw [hrules captures _ place _ _ hplace (by decide), List.findSome?_cons, htry]
  -- the parenthesis is text within the bracket
  obtain ⟨u, action, rest, texts'', ⟨rfl, hu⟩, hne, hrest, hnext⟩ := hinside.fires
    (P := fun u action => action = .stay ∧ (']' ∉ u ∨ u = [']'])) fun place hplace => by
      have hafter : place.after = [')'] := hplace
      have hno : ¬ bracketCloser 0 <+: place.after := by
        rw [hafter]
        decide
      obtain ⟨hit, u, hfind, haction, -, hfirst, hu, hpasses, hbracket⟩ :=
        (isBracketed_argument hg).exists_filler hlevel _ (by rw [hafter]; exact List.cons_ne_nil _ _) hno
      exact ⟨u, .stay, ⟨hu, hit, hfind, haction, hfirst, hpasses⟩, rfl, hbracket⟩
  obtain ⟨c, v, rfl⟩ := List.exists_cons_of_ne_nil hne
  obtain ⟨-, hnil⟩ := List.cons_eq_cons.1 hrest
  obtain ⟨rfl, rfl⟩ := List.append_eq_nil_iff.1 hnil.symm
  obtain ⟨-, hopen⟩ := hnext.finish fun place hplace => (isBracketed_argument hg).findMatch_of_nil hlevel _ hplace
  have hthree := congrArg List.length (hopen.symm.trans hmain)
  cases hthree

end Listfile.Highlight
