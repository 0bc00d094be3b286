import Listfile.Proofs.Highlight.Enclosing
import Listfile.Proofs.Highlight.Filling

/-!
# Arguments

Where an argument begins as a lexeme, highlighting stands in the context of arguments, or in that for the name of a
function that is defined.  Behind the argument it stands in the context of arguments.  The parenthesis of a command
leads there, if its name is not too long.

* `Comes.passesText`: a text is matched next.
* **`Stands.bare`**: an argument without quotes is passed, unless a bracket is opened in it.
* **`Stands.defines`**, `Expects`: before the first argument of a definition.
* **`Expects.quoted`**, **`Expects.bracket`**, **`Expects.bare`**, `Expects.openParen`, `Expects.closeParen`.
* **`Within.command`**: behind the parenthesis of a command.
-/

namespace Listfile.Highlight

open Grammar Regex Listfile.Tree

variable {g : Grammar} {text rest u v body : List Char} {n k id level : Nat} {last : Option Char}
  {captures : List (Option (List Char))} {below : Stack} {events : List Event} {place : Cursor} {ids : List Nat}

/-! ### Texts -/

/-- **A text is matched next** if its rule is the first that is not excluded. -/
theorem Comes.passesText {ks : List Sketch} (hrules : List.Forall₂ Obeys ks (g.context id).rules) {s : String}
    {action : Action} {groups : List Nat} (hline : OneLine s.toList) (hs : s.toList ≠ [])
    (h : Comes g text n (s.toList ++ rest) (⟨id, captures⟩ :: below) events)
    (hks : ∀ more, ∃ others,
      ks.dropWhile (Sketch.excludes (s.toList ++ more)) = ⟨.text s, action, groups⟩ :: others) :
    Within g text (n + byteLength s.toList) rest s.toList.getLast? 0
      (action.contexts (id :: below.map Frame.context)) := by
  have hss : s.toList.map CharSet.single ≠ [] := fun hnil => hs (List.map_eq_nil_iff.1 hnil)
  obtain ⟨u, hit, rest', ⟨rfl, rfl⟩, -, -, hrest, hnext⟩ := h.hits
    (P := fun u hit => u = s.toList ∧ hit.rule.action = action) fun place hplace => by
      rw [restOfLine_append_of_oneLine hline] at hplace
      obtain ⟨others, hks⟩ := hks (restOfLine rest)
      obtain ⟨u, ⟨hu, hit, hfind, haction, hfirst, hpasses⟩, hfits⟩ :=
        fires_of_sets place captures below hrules hss (by rw [hplace]; exact hks)
      exact ⟨u, hit, hu, hfind, hfirst, hpasses, fits_single.1 hfits, haction⟩
  obtain rfl := List.append_cancel_left hrest
  have hwithin := hnext.within
  rw [map_context_applyAction] at hwithin
  exact hwithin

/-! ### Arguments without quotes -/

/-- The text does not go on with an argument. -/
def Delimited (rest : List Char) : Prop := restOfLine rest = [] ∨ ∃ c cs, rest = c :: cs ∧ c ∈ delimiters

theorem oneLine_of_bare (h : Bare v) : OneLine v := by
  induction h with
  | nil => decide
  | @plain c cs _ he _ ih =>
    refine oneLine_append (u := [c]) |>.2 ⟨⟨fun hmem => ?_, fun hmem => ?_⟩, ih⟩
    all_goals
      rw [← List.mem_singleton.1 hmem] at he
      cases he
  | @escaped c cs hn hr _ ih =>
    refine oneLine_append (u := ['\\', c]) |>.2 ⟨⟨fun hmem => ?_, fun hmem => ?_⟩, ih⟩
    · simp at hmem
      exact hn hmem.symm
    · simp at hmem
      exact hr hmem.symm

theorem plain_of_bare {c : Char} {cs : List Char} (hc : c ≠ '\\') (h : Bare (c :: cs)) :
    endsUnquoted c = false ∧ Bare cs := by
  cases h with
  | plain _ he h => exact ⟨he, h⟩
  | escaped => exact absurd rfl hc

/-- Text without backslashes may be left out. -/
theorem bare_of_append (hu : '\\' ∉ u) (h : Bare (u ++ v)) : Bare v := by
  induction u with
  | nil => exact h
  | cons c u ih =>
    have hc : c ≠ '\\' := fun hc => hu (hc ▸ List.mem_cons_self)
    exact ih (fun hmem => hu (List.mem_cons_of_mem c hmem)) (plain_of_bare hc h).2

/-- What is passed without delimiters belongs to the argument. -/
theorem exists_of_delimited {rest' : List Char} (hv : OneLine v) (hrest : Delimited rest)
    (hu : ∀ x ∈ delimiters, x ∉ u) (hbegins : u <+: restOfLine (v ++ rest)) (hsplit : v ++ rest = u ++ rest') :
    ∃ v', v = u ++ v' ∧ rest' = v' ++ rest := by
  rcases hrest with hend | ⟨c, cs, rfl, hc⟩
  · rw [restOfLine_append_of_oneLine hv, hend, List.append_nil] at hbegins
    obtain ⟨v', rfl⟩ := hbegins
    rw [List.append_assoc] at hsplit
    exact ⟨v', rfl, (List.append_cancel_left hsplit).symm⟩
  · exact exists_of_append_eq (hu c hc) hsplit

theorem isPrefix_of_delimited (hv : OneLine v) (hrest : Delimited rest) (hu : ∀ x ∈ delimiters, x ∉ u)
    (hbegins : u <+: restOfLine (v ++ rest)) : u <+: v := by
  obtain ⟨rest', hrest'⟩ := hbegins.trans (restOfLine_isPrefix _)
  obtain ⟨v', hv', -⟩ := exists_of_delimited hv hrest hu hbegins hrest'.symm
  exact ⟨v', hv'.symm⟩

/-- What opens a bracket has no delimiters. -/
theorem notMem_opener (level : Nat) : ∀ x ∈ delimiters, x ∉ '[' :: signsAnd level '[' := by
  intro x hx hmem
  have hsign : x = '[' ∨ x = '=' := by
    simp only [signsAnd, List.mem_cons, List.mem_append, List.mem_replicate, List.not_mem_nil, or_false] at hmem
    tauto
  rcases hsign with rfl | rfl <;> exact absurd hx (by decide)

/-- The rules that may match where no parenthesis and no comment stands ahead. -/
theorem exists_bracketRule (hg : IsListFiles g) : ∃ bracket others, bracket.Uses (openerBehind ['[']) ∧
    bracket.action = .push [1] ∧ List.Forall₂ Obeys (argumentsSketches.drop 5) others ∧
    ∀ captures below place c cs, place.after = c :: cs → c ∉ [')', '(', '#'] →
      findMatch g (⟨0, captures⟩ :: below) place = (bracket :: others).findSome? (tryRule ⟨0, captures⟩ place) := by
  obtain ⟨close, opening, comment, line, bracket, others, hrules, hclose, hopening, hcomments, hbracket, hpush,
    hothers⟩ := hg.exists_arguments
  refine ⟨bracket, others, hbracket, hpush, hothers, fun captures below place c cs hafter hc => ?_⟩
  have hoff {x : Char} (hx : x ∈ [')', '(', '#']) : place.after.head? ≠ some x := by
    rw [hafter]
    exact fun hcx => hc (Option.some.inj hcx ▸ hx)
  have hcloseOff : tryRule ⟨0, captures⟩ place close = none := tryRule_of_head? hclose rfl (hoff (by decide))
  have hopeningOff : tryRule ⟨0, captures⟩ place opening = none := tryRule_of_head? hopening rfl (hoff (by decide))
  obtain ⟨hcommentOff, hlineOff⟩ := tryRule_of_openComments hcomments ⟨0, captures⟩ (hoff (by decide))
  rw [findMatch_of_rules hrules]
  simp only [List.findSome?_cons, hcloseOff, hopeningOff, hcommentOff, hlineOff]

/-- A bracket is opened within arguments wherever its opening stands. -/
theorem Comes.opensBracket (hg : IsListFiles g)
    (h : Comes g text n ('[' :: (signsAnd level '[' ++ rest)) (⟨0, captures⟩ :: below) events) :
    ⟨n, .push, "bracket_argument"⟩ ∈ (highlight g text).events := by
  obtain ⟨bracket, others, hbracket, hpush, -, hrules⟩ := exists_bracketRule hg
  obtain ⟨texts, -, hinside⟩ := h.opener (s := ['[']) hbracket hpush (by decide) ⟨0, captures⟩
    fun place hit hplace htry => by
      have hafter : place.after = '[' :: restOfLine (signsAnd level '[' ++ rest) :=
        hplace.trans (restOfLine_append_of_oneLine (u := ['[']) (by decide) _)
      rw [hrules captures below place _ _ hafter (by decide), List.findSome?_cons, htry]
  rw [hg.name rfl] at hinside
  exact hinside.mem_events List.mem_cons_self

/-- A backslash is passed together with the character behind it. -/
theorem Comes.escape (hg : IsListFiles g) {c : Char} (hn : c ≠ '\n') (hr : c ≠ '\r')
    (h : Comes g text n ('\\' :: c :: rest) (⟨0, captures⟩ :: below) events) :
    Stands g text (n + byteLength ['\\', c]) rest (some c) 0 (⟨0, captures⟩ :: below) events := by
  have hobeys : List.Forall₂ Obeys argumentsSketches (g.context 0).rules := hg.obeys rfl rfl
  have hline : OneLine ['\\', c] := ⟨by simp [hn.symm], by simp [hr.symm]⟩
  obtain ⟨u, hit, rest', ⟨hlength, hstay⟩, -, hprefix, hrest, hnext⟩ := h.hits
    (P := fun u hit => u.length = 2 ∧ hit.rule.action = .stay) fun place hplace => by
      have hafter : place.after = '\\' :: c :: restOfLine rest :=
        hplace.trans (restOfLine_append_of_oneLine hline rest)
      obtain ⟨s, others, hks⟩ := exists_escape (argumentsSketches.take 11) (argumentsSketches.drop 13) c
        (restOfLine rest) rfl
      obtain ⟨u, ⟨hu, hit, hfind, haction, hfirst, hpasses⟩, hfits⟩ := fires_of_sets place captures below hobeys
        (List.cons_ne_nil _ _) (by rw [hafter]; exact hks)
      exact ⟨u, hit, hu, hfind, hfirst, hpasses, hfits.length_eq, haction⟩
  have hrest : ['\\', c] ++ rest = u ++ rest' := hrest
  obtain ⟨rfl, rfl⟩ := List.append_inj hrest (by rw [hlength]; rfl)
  rw [hstay] at hnext
  exact hnext

/-- Where no bracket is opened, text without delimiters is passed, or a single character. -/
theorem moves_of_plain (hg : IsListFiles g) {c : Char} {cs : List Char} (hb : c ≠ '\\') (he : endsUnquoted c = false)
    (hd : c ≠ '$') (hplace : place.after = c :: cs) (hopen : ∀ level, ¬ '[' :: signsAnd level '[' <+: c :: cs) :
    findMatch g (⟨0, captures⟩ :: below) place = none ∨
      ∃ u, Fires g (⟨0, captures⟩ :: below) place u .stay ∧ ∀ x ∈ delimiters, x ∉ u := by
  obtain ⟨bracket, others, hbracket, -, hothers, hrules⟩ := exists_bracketRule hg
  have hne {x : Char} (hx : endsUnquoted x = true) : c ≠ x := by
    rintro rfl
    rw [he] at hx
    cases hx
  have hbracketOff : tryRule ⟨0, captures⟩ place bracket = none :=
    tryRule_opener_eq_none _ hbracket fun level => by
      rw [hplace]
      exact hopen level
  have hparens : c ∉ [')', '(', '#'] := by
    simp only [List.mem_cons, List.not_mem_nil, or_false, not_or]
    exact ⟨hne rfl, hne rfl, hne rfl⟩
  have hoff : (argumentsSketches.drop 5).all (fun k => k.excludes place.after || k.staysOff delimiters) = true := by
    rw [hplace]
    exact all_of_first? (p := fun x => endsUnquoted x || x == '\\' || x == '$') (by simp [he, hb, hd]) (by decide) cs
  have hfind := hrules captures below place c cs hplace hparens
  rw [List.findSome?_cons, hbracketOff] at hfind
  rcases stays_or_none ⟨0, captures⟩ hothers (List.cons_ne_nil _ _) hoff with
    hnone | ⟨hit, u, hhit, haction, hfirst, hu, hpasses, hxs⟩
  · exact .inl (hfind.trans hnone)
  · exact .inr ⟨u, ⟨hu, hit, hfind.trans hhit, haction, hfirst, hpasses⟩, hxs⟩

/-- **One step** within an argument passes some of it. -/
theorem Stands.bareStep (hg : IsListFiles g) {c : Char} {cs : List Char} (hv : Bare (c :: cs)) (hfree : '$' ∉ c :: cs)
    (hrest : Delimited rest) (hopen : ∀ level, ¬ '[' :: signsAnd level '[' <+: c :: cs)
    (h : Stands g text n (c :: cs ++ rest) last k (⟨0, captures⟩ :: below) events) :
    ∃ u v last', u ≠ [] ∧ c :: cs = u ++ v ∧ Bare v ∧
      Stands g text (n + byteLength u) (v ++ rest) last' k (⟨0, captures⟩ :: below) events := by
  have hline := oneLine_of_bare hv
  have hahead : restOfLine (c :: cs ++ rest) = c :: (cs ++ restOfLine rest) := restOfLine_append_of_oneLine hline rest
  by_cases hb : c = '\\'
  · subst hb
    cases hv with
    | plain hb => exact absurd rfl hb
    | @escaped d ds hn hr hds =>
      exact ⟨['\\', d], ds, some d, List.cons_ne_nil _ _, rfl, hds, (h.comes.escape hg hn hr).mono (Nat.zero_le k)⟩
  · obtain ⟨he, hcs⟩ := plain_of_bare hb hv
    have hd : c ≠ '$' := fun hd => hfree (hd ▸ List.mem_cons_self)
    obtain ⟨u, rest', last', hu, hune, hprefix, hsplit, hnext⟩ := h.moves (by rw [hahead]; exact List.cons_ne_nil _ _)
      (P := fun u => ∀ x ∈ delimiters, x ∉ u) fun place hplace => by
        refine moves_of_plain hg hb he hd (hplace.trans hahead) fun level hprefix => hopen level ?_
        rw [← hahead] at hprefix
        exact isPrefix_of_delimited hline hrest (notMem_opener level) hprefix
    rcases hu with ⟨d, rfl⟩ | hu
    · obtain ⟨rfl, rfl⟩ := List.cons_eq_cons.1 hsplit
      exact ⟨[c], cs, last', hune, rfl, hcs, hnext⟩
    · obtain ⟨v, hv', rfl⟩ := exists_of_delimited hline hrest hu hprefix hsplit
      rw [hv'] at hv
      exact ⟨u, v, last', hune, hv', bare_of_append (hu '\\' (by decide)) hv, hnext⟩

/-- **An argument without quotes is passed, unless a bracket is opened in it.** -/
theorem Stands.bare (hg : IsListFiles g) (hv : Bare v) (hfree : '$' ∉ v) (hrest : Delimited rest)
    (h : Stands g text n (v ++ rest) last k (⟨0, captures⟩ :: below) events) :
    (∃ front level behind, v = front ++ '[' :: (signsAnd level '[' ++ behind) ∧
      ⟨n + byteLength front, .push, "bracket_argument"⟩ ∈ (highlight g text).events) ∨
    ∃ last', Stands g text (n + byteLength v) rest last' k (⟨0, captures⟩ :: below) events := by
  induction hlength : v.length using Nat.strongRecOn generalizing v n last with
  | ind length ih =>
    by_cases hopen : ∃ level, '[' :: signsAnd level '[' <+: v
    · obtain ⟨level, behind, rfl⟩ := hopen
      refine .inl ⟨[], level, behind, by simp, ?_⟩
      rw [List.append_assoc, List.cons_append] at h
      exact h.comes.opensBracket hg
    · cases v with
      | nil => exact .inr ⟨last, h⟩
      | cons c cs =>
        obtain ⟨u, w, last', hu, hsplit, hw, hnext⟩ := h.bareStep hg hv hfree hrest (not_exists.1 hopen)
        have hfewer : w.length < length := by
          have hpos := List.length_pos_of_ne_nil hu
          rw [hsplit, List.length_append] at hlength
          omega
        rw [hsplit] at hfree ⊢
        rcases ih _ hfewer hw (fun hmem => hfree (List.mem_append_right u hmem)) hnext rfl with
          ⟨front, level, behind, rfl, hevent⟩ | ⟨last'', hdone⟩
        · refine .inl ⟨u ++ front, level, behind, by rw [List.append_assoc], ?_⟩
          rwa [byteLength_append, ← Nat.add_assoc]
        · refine .inr ⟨last'', ?_⟩
          rwa [byteLength_append, ← Nat.add_assoc]

/-! ### Names of functions -/

/-- **Behind the name of a function, or before what is none**, highlighting stands in the context of arguments. -/
theorem Stands.defines (hg : IsListFiles g) {c : Char} {cs : List Char} (hblank : isBlank c = false)
    (hclose : c ≠ ')') (hsharp : c ≠ '#') (hk : k < maxStalled)
    (h : Stands g text n (c :: cs) last k (⟨5, captures⟩ :: below) events) :
    ∃ u rest last' texts events', c :: cs = u ++ rest ∧ u <+: restOfLine (c :: cs) ∧ (∀ x ∈ delimiters, x ∉ u) ∧
      (u ≠ [] → firstOfName.contains c = true) ∧
      Stands g text (n + byteLength u) rest last' (k + 1) (⟨0, texts⟩ :: below) events' := by
  obtain ⟨name, close, other, hname, hset, hcloseRule, ⟨source, hother⟩, hset', hrules⟩ := exists_nameRule hg
  have hline : OneLine [c] := by
    constructor
    all_goals
      intro hmem
      rw [← List.mem_singleton.1 hmem] at hblank
      cases hblank
  obtain ⟨u, hit, rest, last', ⟨hoff, hfirst, haction⟩, hprefix, hsplit, hnext⟩ := h.matches hk
    (P := fun u hit => (∀ x ∈ delimiters, x ∉ u) ∧ (u ≠ [] → firstOfName.contains c = true) ∧
      hit.rule.action = .set [0]) fun place hplace => by
      have hafter : place.after = c :: restOfLine cs := hplace.trans (restOfLine_append_of_oneLine hline cs)
      rw [hrules captures below place (by simpa [hafter] using hsharp), List.findSome?_cons]
      cases htry : tryRule ⟨5, captures⟩ place name with
      | some hit =>
        obtain ⟨rfl, hfirst, x, u, hx, hpasses, hoff⟩ := passes_of_tryRule_word hname htry
        obtain ⟨rfl, -⟩ := List.cons_eq_cons.1 (hafter.symm.trans hpasses.after)
        exact ⟨c :: u, hit, rfl, hfirst, hpasses, hoff, fun _ => hx, hset⟩
      | none =>
        have hcloseOff : tryRule ⟨5, captures⟩ place close = none :=
          tryRule_of_head? hcloseRule rfl (by rw [hafter]; exact fun hc => hclose (Option.some.inj hc))
        rcases search_anything_cases place with ⟨-, groups, hfound⟩ | ⟨hnot, -⟩
        · refine ⟨[], ⟨other, ⟨place, place⟩, groups⟩, ?_, rfl, .refl place, fun _ _ => List.not_mem_nil,
            fun hne => absurd rfl hne, hset'⟩
          simp only [List.findSome?_cons, hcloseOff, tryRule_fixed hother, hit?_of_found hfound (by rw [hset']; nofun)]
        · simp [hafter, CharSet.contains, hblank] at hnot
  rw [haction] at hnext
  exact ⟨u, rest, last', hit.texts, _, hsplit, hprefix, hoff, hfirst, hnext⟩

/-! ### Arguments and parentheses -/

/-- Highlighting stands where an argument may follow: among the arguments of a command, or before the first argument of
a definition. -/
def Expects (g : Grammar) (text : List Char) (n : Nat) (rest : List Char) (last : Option Char)
    (ids : List Nat) : Prop :=
  Within g text n rest last 2 (0 :: ids) ∨ Within g text n rest last 1 (5 :: ids)

theorem contexts_pop (id id' : Nat) (ids : List Nat) : Action.contexts (id :: id' :: ids) .pop = id' :: ids := by
  simp [Action.contexts]

/-- **Blanks, the end of a line or a comment.** -/
theorem Expects.filler (hg : IsListFiles g) {c : Char} {cs more : List Char} {kind : Kind}
    (hscan : scan c cs = .found kind more rest) (hkind : isFiller kind = true) (hmore : kind = .newline → rest ≠ [])
    (h : Expects g text n (c :: cs) last ids) :
    ∃ last', Expects g text (n + byteLength (c :: more)) rest last' ids := by
  rcases h with h | h
  · obtain ⟨last', -, hnext⟩ :=
      h.filler hg (hasFillers_arguments hg) hscan hkind (fun _ => skips_arguments hg last) hmore (by decide)
    exact ⟨last', .inl hnext⟩
  · obtain ⟨last', -, hnext⟩ :=
      h.filler hg (hasFillers_definitionName hg) hscan hkind (fun _ => skips_definitionName hg last) hmore (by decide)
    exact ⟨last', .inr hnext⟩

/-- Before an argument that is no name, highlighting gets to the context of arguments. -/
theorem Expects.within (hg : IsListFiles g) {c : Char} {cs : List Char} (hblank : isBlank c = false) (hclose : c ≠ ')')
    (hsharp : c ≠ '#') (hname : firstOfName.contains c = false) (h : Expects g text n (c :: cs) last ids) :
    ∃ last', Within g text n (c :: cs) last' 2 (0 :: ids) := by
  rcases h with h | h
  · exact ⟨last, h⟩
  · obtain ⟨captures, below, events, rfl, hat⟩ := h.exists_frame
    obtain ⟨u, rest, last', texts, events', hsplit, -, -, hfirst, hnext⟩ :=
      hat.defines hg hblank hclose hsharp (by decide)
    obtain rfl : u = [] := by
      by_contra hu
      rw [hfirst hu] at hname
      cases hname
    obtain rfl : c :: cs = rest := hsplit
    exact ⟨last', hnext.within⟩

/-- **A parenthesis that is opened** opens a group. -/
theorem Expects.openParen (hg : IsListFiles g) (h : Expects g text n ('(' :: rest) last ids) :
    Within g text (n + byteLength ['(']) rest (some '(') 2 (0 :: 0 :: ids) := by
  have hobeys : List.Forall₂ Obeys argumentsSketches (g.context 0).rules := hg.obeys rfl rfl
  obtain ⟨last', h⟩ := h.within hg (by decide) (by decide) (by decide) (by decide)
  obtain ⟨captures, below, events, rfl, hat⟩ := h.exists_frame
  exact (hat.comes.passesText (s := "(") hobeys (by decide) (List.cons_ne_nil _ _) fun _ => ⟨_, rfl⟩).mono (by decide)

/-- **A parenthesis that is closed** closes the innermost group, or the arguments. -/
theorem Expects.closeParen (hg : IsListFiles g) {ids : List Nat} (h : Expects g text n (')' :: rest) last (id :: ids)) :
    Within g text (n + byteLength [')']) rest (some ')') 2 (id :: ids) := by
  rcases h with h | h
  · have hobeys : List.Forall₂ Obeys argumentsSketches (g.context 0).rules := hg.obeys rfl rfl
    obtain ⟨captures, below, events, hbelow, hat⟩ := h.exists_frame
    have hnext := hat.comes.passesText (s := ")") hobeys (by decide) (List.cons_ne_nil _ _) fun _ => ⟨_, rfl⟩
    rw [hbelow, contexts_pop] at hnext
    exact hnext.mono (by decide)
  · obtain ⟨captures, below, events, hbelow, hat⟩ := h.exists_frame
    obtain ⟨name, close, other, hname, -, hclose, -, -, hrules⟩ := exists_nameRule hg
    obtain ⟨u, hit, rest', ⟨hu, haction⟩, -, -, hrest, hnext⟩ := hat.comes.hits
      (P := fun u hit => u = [')'] ∧ hit.rule.action = .pop) fun place hplace => by
        have hafter : place.after = ')' :: restOfLine rest :=
          hplace.trans (restOfLine_append_of_oneLine (u := [')']) (by decide) rest)
        have hnameOff : tryRule ⟨5, captures⟩ place name = none := tryRule_word_eq_none hname (by rw [hafter]; rfl)
        have hfits : fitsFront (")".toList.map .single) place.after = true :=
          fitsFront_iff.2 ⟨[')'], fits_single.2 rfl, _, hafter.symm⟩
        obtain ⟨u, d, hu, hne, hd, htry⟩ := exists_tryRule_sets ⟨5, captures⟩ (List.cons_ne_nil _ _) hclose hfits
        refine ⟨u, ⟨close, ⟨place, d⟩, []⟩, hne, ?_, rfl, hd, fits_single.1 hu, hclose.action⟩
        rw [hrules captures below place (by simp [hafter]), List.findSome?_cons, hnameOff, List.findSome?_cons, htry]
    subst hu
    obtain rfl : rest = rest' := (List.cons_eq_cons.1 hrest).2
    have hwithin := hnext.within
    rw [haction, map_context_applyAction, List.map_cons, hbelow, contexts_pop] at hwithin
    exact hwithin.mono (by decide)

/-- **An argument between quotation marks.** -/
theorem Expects.quoted (hg : IsListFiles g) (hbody : Quotable body) (hfree : '$' ∉ body)
    (h : Expects g text n ('"' :: (body ++ '"' :: rest)) last ids) :
    Within g text (n + byteLength ('"' :: (body ++ ['"']))) rest (some '"') 2 (0 :: ids) := by
  have hobeys : List.Forall₂ Obeys argumentsSketches (g.context 0).rules := hg.obeys rfl rfl
  have henclosable : Enclosable body :=
    ⟨hbody, fun front behind hsplit => absurd (hsplit ▸ List.mem_append_right front List.mem_cons_self) hfree⟩
  obtain ⟨last', h⟩ := h.within hg (by decide) (by decide) (by decide) (by decide)
  obtain ⟨captures, below, events, rfl, hat⟩ := h.exists_frame
  have hopen : Within g text (n + byteLength "\"".toList) (body ++ '"' :: rest) (some '"') 0
      (12 :: 0 :: below.map Frame.context) :=
    hat.comes.passesText (s := "\"") hobeys (by decide) (List.cons_ne_nil _ _) fun _ => ⟨_, rfl⟩
  obtain ⟨captures', below', events', hbelow', hinside⟩ := hopen.exists_frame
  have hclose := (hinside.comes.enclosed hg henclosable).passesText (s := "\"") (IsListFiles.quoted hg) (by decide)
    (List.cons_ne_nil _ _) fun _ => ⟨_, rfl⟩
  rw [hbelow', contexts_pop] at hclose
  have hlength : byteLength ('"' :: (body ++ ['"']))
      = byteLength "\"".toList + byteLength body + byteLength "\"".toList := by
    rw [← List.singleton_append, byteLength_append, byteLength_append, ← Nat.add_assoc]
    rfl
  rw [hlength, ← Nat.add_assoc, ← Nat.add_assoc]
  exact hclose.mono (by decide)

/-- **An argument between brackets.** -/
theorem Expects.bracket (hg : IsListFiles g)
    (hsplit : splitOnce? (bracketCloser level) (body ++ (bracketCloser level ++ rest)) = some (body, rest))
    (h : Expects g text n ('[' :: (signsAnd level '[' ++ (body ++ (bracketCloser level ++ rest)))) last ids) :
    Within g text (n + byteLength ('[' :: bracketText level body)) rest (some ']') 2 (0 :: ids) := by
  obtain ⟨bracket, others, hbracket, hpush, -, hrules⟩ := exists_bracketRule hg
  obtain ⟨last', h⟩ := h.within hg (by decide) (by decide) (by decide) (by decide)
  obtain ⟨captures, below, events, rfl, hat⟩ := h.exists_frame
  obtain ⟨events', hnext⟩ := Comes.bracketed (s := ['[']) (isBracketed_argument hg) hbracket hpush (by decide)
    (List.cons_ne_nil _ _) ⟨0, captures⟩ (fun place hit hplace htry => by
      have hafter := hplace.trans (restOfLine_append_of_oneLine (u := ['[']) (by decide) _)
      rw [hrules captures below place _ _ hafter (by decide), List.findSome?_cons, htry]) hsplit hat.comes
  exact hnext.within.mono (by decide)

/-- **An argument without quotes**, if no bracket is opened in its middle. -/
theorem Expects.bare (hg : IsListFiles g) (hv : Bare v) (hne : v ≠ []) (hfree : '$' ∉ v) (hrest : Delimited rest)
    (hopen : ∀ level, ¬ '[' :: signsAnd level '[' <+: v) (h : Expects g text n (v ++ rest) last ids) :
    (∃ front level behind, front ≠ [] ∧ v = front ++ '[' :: (signsAnd level '[' ++ behind) ∧
      ⟨n + byteLength front, .push, "bracket_argument"⟩ ∈ (highlight g text).events) ∨
    ∃ last', Within g text (n + byteLength v) rest last' 2 (0 :: ids) := by
  have hfront {front behind : List Char} {level : Nat} (hsplit : v = front ++ '[' :: (signsAnd level '[' ++ behind)) :
      front ≠ [] := by
    rintro rfl
    exact hopen level ⟨behind, by rw [hsplit]; simp⟩
  rcases h with h | h
  · obtain ⟨captures, below, events, rfl, hat⟩ := h.exists_frame
    rcases hat.bare hg hv hfree hrest with ⟨front, level, behind, hsplit, hevent⟩ | ⟨last', hnext⟩
    · exact .inl ⟨front, level, behind, hfront hsplit, hsplit, hevent⟩
    · exact .inr ⟨last', hnext.within⟩
  · obtain ⟨captures, below, events, rfl, hat⟩ := h.exists_frame
    obtain ⟨c, cs, rfl⟩ := List.exists_cons_of_ne_nil hne
    have he : endsUnquoted c = false := by
      cases hv with
      | plain _ he => exact he
      | escaped => rfl
    simp only [endsUnquoted, Bool.or_eq_false_iff, beq_eq_false_iff_ne] at he
    obtain ⟨⟨⟨⟨hblank, -⟩, hclose⟩, hsharp⟩, -⟩ := he
    obtain ⟨u, rest', last', texts, events', hsplit, hprefix, hoff, -, hnext⟩ :=
      hat.defines hg hblank hclose hsharp (by decide)
    obtain ⟨w, hw, rfl⟩ := exists_of_delimited (oneLine_of_bare hv) hrest hoff hprefix hsplit
    rw [hw] at hv hfree hfront ⊢
    rcases hnext.bare hg (bare_of_append (hoff '\\' (by decide)) hv)
      (fun hmem => hfree (List.mem_append_right u hmem)) hrest with
      ⟨front, level, behind, rfl, hevent⟩ | ⟨last'', hdone⟩
    · have hall := (List.append_assoc u front ('[' :: (signsAnd level '[' ++ behind))).symm
      refine .inl ⟨u ++ front, level, behind, hfront hall, hall, ?_⟩
      rwa [byteLength_append, ← Nat.add_assoc]
    · refine .inr ⟨last'', ?_⟩
      rw [byteLength_append, ← Nat.add_assoc]
      exact hdone.within

/-! ### Commands -/

/-- **Behind the parenthesis of a command an argument may follow**, if the name and the blanks are not too long. -/
theorem Within.command (hg : IsListFiles g) {name space : List Char} (hname : isCommandName name = true)
    (hspace : ∀ c ∈ space, isLineBlank c = true) (hlast : last.any isWordChar = false)
    (hlength : name.length + space.length ≤ Machine.maxBranches)
    (h : Within g text n (name ++ space ++ '(' :: rest) last k [10]) :
    Expects g text (n + byteLength (name ++ space ++ ['('])) rest (some '(') [10] := by
  obtain ⟨captures, below, events, hbelow, hat⟩ := h.exists_frame
  have hline : OneLine (name ++ space ++ ['(']) :=
    oneLine_append.2 ⟨(plain_header (isNameChar_of_isCommandName hname) hspace).2, by decide⟩
  obtain ⟨u, hit, rest', ⟨rfl, haction⟩, -, -, hrest, hnext⟩ := hat.hits
    (P := fun u hit => u = name ++ space ++ ['('] ∧ (hit.rule.action = .push [5] ∨ hit.rule.action = .push [0]))
    fun place hplace hbefore => by
      have hahead : place.after = name ++ space ++ '(' :: restOfLine rest := by
        rw [hplace, List.append_cons, restOfLine_append_of_oneLine hline, ← List.append_cons]
      obtain ⟨hit, hfind, hfirst, hpasses, haction⟩ :=
        exists_commandHit hg captures below hname hspace (hbefore ▸ hlast) hahead hlength
      exact ⟨_, hit, List.append_ne_nil_of_right_ne_nil _ (List.cons_ne_nil _ _), hfind, hfirst, hpasses, rfl,
        haction.imp_left And.left⟩
  rw [List.append_cons] at hrest
  obtain rfl := List.append_cancel_left hrest
  have hwithin := hnext.within
  rw [map_context_applyAction, List.map_cons, hbelow, List.getLast?_concat] at hwithin
  rcases haction with haction | haction
  · rw [haction] at hwithin
    exact .inr (hwithin.mono (by decide))
  · rw [haction] at hwithin
    exact .inl (hwithin.mono (by decide))

end Listfile.Highlight
