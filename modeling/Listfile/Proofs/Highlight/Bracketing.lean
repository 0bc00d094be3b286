import Listfile.Proofs.Highlight.Closing
import Listfile.Proofs.Highlight.Standing
import Listfile.Proofs.Tree.Forming

/-!
# Brackets and comments between other things

What opens a bracket and what closes it are found in any context that has a rule for the opening, and so is a comment up
to the end of its line.

* `splitOnce?_of_append`, `not_isPrefix_of_splitOnce?`: what closes a bracket for the first time.
* `Comes.opener`, **`Comes.bracketed`**: from the opening on highlighting stands behind the closing again.
* `HasComments`, **`Comes.bracketComment`**: comments in brackets.
* `exists_findMatch_lineComment`, `exists_findMatch_lineEnd`, **`Comes.lineComment`**: comments up to the end of their
  line.
-/

namespace Listfile.Highlight

open Grammar Regex Listfile.Tree

/-! ### The first closing -/

section
variable {mark text u a b : List Char}

theorem splitOnce?_of_append (h : splitOnce? mark (u ++ text) = some (u ++ a, b)) :
    splitOnce? mark text = some (a, b) := by
  induction u with
  | nil => exact h
  | cons c u ih =>
    cases hdrop : dropPrefix? mark (c :: (u ++ text)) with
    | some rest => simp [splitOnce?, hdrop] at h
    | none =>
      have hmore : (splitOnce? mark (u ++ text)).map (fun p => (c :: p.1, p.2)) = some (c :: (u ++ a), b) := by
        simpa [splitOnce?, hdrop] using h
      obtain ⟨⟨a', b'⟩, hsplit, hpair⟩ := Option.map_eq_some_iff.1 hmore
      obtain ⟨hcons, rfl⟩ := Prod.mk.inj hpair
      obtain rfl : a' = u ++ a := (List.cons_eq_cons.1 hcons).2
      exact ih hsplit

theorem not_isPrefix_of_splitOnce? (h : splitOnce? mark text = some (a, b)) (ha : a ≠ []) : ¬ mark <+: text := by
  rintro ⟨rest, rfl⟩
  have hdrop : dropPrefix? mark (mark ++ rest) = some rest := dropPrefix?_eq_some_iff.2 rfl
  cases htext : mark ++ rest with
  | nil =>
    obtain ⟨rfl, rfl⟩ := List.append_eq_nil_iff.1 htext
    cases h
    exact ha rfl
  | cons c cs =>
    rw [htext] at h hdrop
    rw [splitOnce?, hdrop] at h
    cases h
    exact ha rfl

end

/-! ### From the opening to the closing -/

section
variable {g : Grammar} {text rest body s : List Char} {n level id target : Nat} {captures : List (Option (List Char))}
  {below stack : Stack} {events : List Event} {closing : String} {fillers : List Rule} {rule : Rule}

/-- **The body of a bracket** is passed up to what closes it for the first time. -/
theorem Comes.throughBody (hid : IsBracketed g id) (hlevel : captures[1]? = some (some (List.replicate level '=')))
    (hsplit : splitOnce? (bracketCloser level) (body ++ (bracketCloser level ++ rest)) = some (body, rest))
    (h : Comes g text n (body ++ (bracketCloser level ++ rest)) (⟨id, captures⟩ :: below) events) :
    Comes g text (n + byteLength body) (bracketCloser level ++ rest) (⟨id, captures⟩ :: below) events := by
  induction hlength : body.length using Nat.strongRecOn generalizing body n with
  | ind length ih =>
    have hgoOn {u v : List Char} (hv : body = u ++ v) (hu : u ≠ [])
        (hnext : Comes g text (n + byteLength u) (v ++ (bracketCloser level ++ rest)) (⟨id, captures⟩ :: below)
          events) :
        Comes g text (n + byteLength body) (bracketCloser level ++ rest) (⟨id, captures⟩ :: below) events := by
      have hpos := List.length_pos_of_ne_nil hu
      rw [hv] at hsplit
      rw [hv, List.length_append] at hlength
      rw [List.append_assoc] at hsplit
      have hdone := ih v.length (by omega) (splitOnce?_of_append hsplit) hnext rfl
      rwa [hv, byteLength_append, ← Nat.add_assoc]
    by_cases hnil : body = []
    · subst hnil
      exact h
    by_cases hend : restOfLine (body ++ (bracketCloser level ++ rest)) = []
    · obtain ⟨ending, v, hending, hv⟩ := exists_ending (by decide : OneLine [']']) hend
      have hne : ending ≠ [] := by rcases hending with rfl | rfl <;> exact List.cons_ne_nil _ _
      rw [hv, List.append_assoc] at h
      refine hgoOn hv hne (h.newline hending (by simp [bracketCloser]) fun place hplace => ?_)
      exact hid.findMatch_of_nil hlevel below hplace
    · have hno : ¬ bracketCloser level <+: restOfLine (body ++ (bracketCloser level ++ rest)) := fun hcloser =>
        not_isPrefix_of_splitOnce? hsplit hnil (hcloser.trans (restOfLine_isPrefix _))
      obtain ⟨u, action, rest', texts, ⟨rfl, hbracket⟩, hu, hrest, hnext⟩ := h.fires
        (P := fun u action => action = .stay ∧ (']' ∉ u ∨ u = [']'])) fun place hplace => by
          obtain ⟨hit, u, hfind, haction, -, hfirst, hu, hpasses, hbracket⟩ :=
            hid.exists_filler hlevel below (by rwa [hplace]) (by rwa [hplace])
          exact ⟨u, .stay, ⟨hu, hit, hfind, haction, hfirst, hpasses⟩, rfl, hbracket⟩
      obtain ⟨v, hv, rfl⟩ : ∃ v, body = u ++ v ∧ rest' = v ++ (bracketCloser level ++ rest) :=
        exists_of_filler hbracket hnil hrest
      exact hgoOn hv hu hnext

/-- **Behind what closes a bracket** highlighting stands where it stood before the bracket. -/
theorem Comes.closer (hid : IsBracketed g id) (hlevel : captures[1]? = some (some (List.replicate level '=')))
    (hbelow : below ≠ [])
    (h : Comes g text n (bracketCloser level ++ rest) (⟨id, captures⟩ :: below) events) : ∃ events',
      Stands g text (n + byteLength (bracketCloser level)) rest (some ']') 0 below events' := by
  have hline := restOfLine_append_of_oneLine (oneLine_bracketCloser level) rest
  obtain ⟨u, hit, rest', ⟨rfl, haction⟩, -, -, hrest, hnext⟩ := h.hits
    (P := fun u hit => u = bracketCloser level ∧ hit.rule.action = .pop) fun place hplace => by
      have hahead : bracketCloser level <+: place.after := ⟨_, (hplace.trans hline).symm⟩
      obtain ⟨hit, hfind, haction, -, hfirst, hpasses⟩ := hid.exists_closer hlevel below hahead
      exact ⟨_, hit, List.cons_ne_nil _ _, hfind, hfirst, hpasses, rfl, haction⟩
  obtain rfl := List.append_cancel_left hrest
  have hlast : (bracketCloser level).getLast? = some ']' := by
    rw [bracketCloser, signsAnd, ← List.cons_append, List.getLast?_concat]
  obtain ⟨frame, below, rfl⟩ := List.exists_cons_of_ne_nil hbelow
  rw [haction, applyAction_pop, hlast] at hnext
  exact ⟨_, hnext⟩

/-- **A bracket is entered where it is opened.** -/
theorem Comes.opener (hrule : rule.Uses (openerBehind s)) (haction : rule.action = .push [target]) (hs : OneLine s)
    (frame : Frame) (hfind : ∀ place hit, place.after = restOfLine (s ++ (signsAnd level '[' ++ rest)) →
      tryRule frame place rule = some hit → findMatch g stack place = some hit)
    (h : Comes g text n (s ++ (signsAnd level '[' ++ rest)) stack events) : ∃ texts,
      texts[1]? = some (some (List.replicate level '=')) ∧
        Comes g text (n + byteLength (s ++ signsAnd level '[')) rest (⟨target, texts⟩ :: stack)
          (⟨n, .push, (g.context target).name⟩ :: events) := by
  have hline : restOfLine (s ++ (signsAnd level '[' ++ rest)) = s ++ (signsAnd level '[' ++ restOfLine rest) := by
    rw [restOfLine_append_of_oneLine hs, restOfLine_append_of_oneLine (oneLine_signsAnd level (by decide))]
  have hne : s ++ signsAnd level '[' ≠ [] := by simp [signsAnd]
  obtain ⟨u, hit, rest', ⟨rfl, hpush, hlevel⟩, -, -, hrest, hnext⟩ := h.hits
    (P := fun u hit => u = s ++ signsAnd level '[' ∧ hit.rule.action = .push [target] ∧
      hit.texts[1]? = some (some (List.replicate level '='))) fun place hplace => by
      obtain ⟨hit, htry, rfl, hfirst, hpasses, hlevel⟩ :=
        exists_tryRule_opener frame hrule (hplace.trans hline)
      exact ⟨_, hit, hne, hfind place hit hplace htry, hfirst, hpasses, rfl, haction, hlevel⟩
  rw [← List.append_assoc] at hrest
  obtain rfl := List.append_cancel_left hrest
  rw [hpush] at hnext
  exact ⟨hit.texts, hlevel, hnext.comes⟩

/-- **A bracket that is opened is left where it is closed.** -/
theorem Comes.bracketed (htarget : IsBracketed g target) (hrule : rule.Uses (openerBehind s))
    (haction : rule.action = .push [target]) (hs : OneLine s) (hstack : stack ≠ []) (frame : Frame)
    (hfind : ∀ place hit,
      place.after = restOfLine (s ++ (signsAnd level '[' ++ (body ++ (bracketCloser level ++ rest)))) →
      tryRule frame place rule = some hit → findMatch g stack place = some hit)
    (hsplit : splitOnce? (bracketCloser level) (body ++ (bracketCloser level ++ rest)) = some (body, rest))
    (h : Comes g text n (s ++ (signsAnd level '[' ++ (body ++ (bracketCloser level ++ rest)))) stack events) :
    ∃ events', Stands g text (n + byteLength (s ++ bracketText level body)) rest (some ']') 0 stack events' := by
  obtain ⟨texts, hlevel, hinside⟩ := h.opener hrule haction hs frame hfind
  obtain ⟨events', hdone⟩ := (hinside.throughBody htarget hlevel hsplit).closer htarget hlevel hstack
  refine ⟨events', ?_⟩
  rw [bracketText, ← List.append_assoc, ← List.append_assoc, byteLength_append, byteLength_append (s ++ _),
    ← Nat.add_assoc, ← Nat.add_assoc]
  exact hdone

/-! ### Comments -/

/-- The first rules of the context that may match at a number sign are those for comments. -/
def HasComments (g : Grammar) (id : Nat) : Prop :=
  ∃ front comment line behind, (g.context id).rules = front ++ comment :: line :: behind ∧ OpenComments comment line ∧
    ∀ rule ∈ front, ∀ frame place, place.after.head? = some '#' → tryRule frame place rule = none

theorem hasComments_main (hg : IsListFiles g) : HasComments g 10 := by
  obtain ⟨comment, line, commands, hrules, hcomments, -⟩ := hg.guards_main
  exact ⟨[], comment, line, commands, hrules, hcomments, List.forall_mem_nil _⟩

theorem hasComments_definitionName (hg : IsListFiles g) : HasComments g 5 := by
  obtain ⟨comment, line, name, close, other, hrules, hcomments, -⟩ := hg.exists_definitionName
  exact ⟨[], comment, line, [name, close, other], hrules, hcomments, List.forall_mem_nil _⟩

theorem hasComments_arguments (hg : IsListFiles g) : HasComments g 0 := by
  obtain ⟨close, opening, comment, line, bracket, others, hrules, hclose, hopening, hcomments, -⟩ := hg.exists_arguments
  refine ⟨[close, opening], comment, line, bracket :: others, hrules, hcomments, ?_⟩
  simp only [List.forall_mem_cons]
  refine ⟨fun frame place hplace => ?_, fun frame place hplace => ?_, List.forall_mem_nil _⟩
  · exact tryRule_of_head? hclose rfl (by rw [hplace]; decide)
  · exact tryRule_of_head? hopening rfl (by rw [hplace]; decide)

/-- At a number sign the rules for comments are tried. -/
theorem HasComments.exists_rules (hid : HasComments g id) : ∃ comment line behind, OpenComments comment line ∧
    ∀ captures below place, place.after.head? = some '#' → findMatch g (⟨id, captures⟩ :: below) place
      = (comment :: line :: behind).findSome? (tryRule ⟨id, captures⟩ place) := by
  obtain ⟨front, comment, line, behind, hrules, hcomments, hfront⟩ := hid
  refine ⟨comment, line, behind, hcomments, fun captures below place hplace => ?_⟩
  have hnone : front.findSome? (tryRule ⟨id, captures⟩ place) = none :=
    List.findSome?_eq_none_iff.2 fun rule hrule => hfront rule hrule _ _ hplace
  rw [findMatch_of_rules hrules, List.findSome?_append, hnone]
  rfl

/-- **Behind a comment in brackets** highlighting stands where it stood before. -/
theorem Comes.bracketComment (hg : IsListFiles g) (hid : HasComments g id)
    (hsplit : splitOnce? (bracketCloser level) (body ++ (bracketCloser level ++ rest)) = some (body, rest))
    (h : Comes g text n ('#' :: '[' :: (signsAnd level '[' ++ (body ++ (bracketCloser level ++ rest))))
      (⟨id, captures⟩ :: below) events) : ∃ events',
      Stands g text (n + byteLength ('#' :: '[' :: bracketText level body)) rest (some ']') 0 (⟨id, captures⟩ :: below)
        events' := by
  obtain ⟨comment, line, behind, hcomments, hrules⟩ := hid.exists_rules
  have hopen : OneLine ['#', '['] := by decide
  refine Comes.bracketed (s := ['#', '[']) (isBracketed_comment hg) hcomments.bracket hcomments.pushes hopen
    (List.cons_ne_nil _ _) ⟨id, captures⟩ (fun place hit hplace htry => ?_) hsplit h
  have hhead : place.after.head? = some '#' := by
    rw [hplace, restOfLine_append_of_oneLine hopen]
    rfl
  rw [hrules captures below place hhead, List.findSome?_cons, htry]

/-- The rule for comments that no bracket opens matches a number sign. -/
theorem HasComments.fires_line (hid : HasComments g id) (captures : List (Option (List Char))) (below : Stack)
    {place : Cursor} {cs : List Char} (hplace : place.after = '#' :: cs)
    (hcs : ∀ level, ¬ '[' :: signsAnd level '[' <+: cs) :
    Fires g (⟨id, captures⟩ :: below) place ['#'] (.push [9]) := by
  obtain ⟨comment, line, behind, hcomments, hrules⟩ := hid.exists_rules
  have hoff : tryRule ⟨id, captures⟩ place comment = none := by
    refine tryRule_opener_eq_none _ hcomments.bracket fun level hprefix => hcs level ?_
    rw [hplace] at hprefix
    exact (List.cons_prefix_cons.1 hprefix).2
  have hfits : fitsFront ("#".toList.map .single) place.after = true :=
    fitsFront_iff.2 ⟨['#'], fits_single.2 rfl, _, hplace.symm⟩
  obtain ⟨u, d, hu, hne, hd, htry⟩ := exists_tryRule_sets ⟨id, captures⟩ (List.cons_ne_nil _ _) hcomments.line hfits
  obtain rfl : u = ['#'] := fits_single.1 hu
  refine ⟨hne, ⟨line, ⟨place, d⟩, []⟩, ?_, hcomments.line.action, rfl, hd⟩
  rw [hrules captures below place (by rw [hplace]; rfl), List.findSome?_cons, hoff, List.findSome?_cons, htry]

/-- In such a comment one rule is tried where the line goes on. -/
theorem exists_lineRule (hg : IsListFiles g) : ∃ more, Obeys ⟨.run (.compl (.single '\n')), .stay, []⟩ more ∧
    ∀ captures below place, place.after ≠ [] →
      findMatch g (⟨9, captures⟩ :: below) place = tryRule ⟨9, captures⟩ place more := by
  obtain ⟨lastRule, more, hrules, ⟨source, hlast⟩, -, hmore⟩ := hg.exists_lineComment
  refine ⟨more, hmore, fun captures below place hplace => ?_⟩
  have hoff : tryRule ⟨9, captures⟩ place lastRule = none := by
    rcases search_lineEnd_cases place with ⟨hnil, -⟩ | ⟨-, hno⟩
    · exact absurd hnil hplace
    · exact tryRule_of_search hlast hno
  rw [findMatch_of_rules hrules, List.findSome?_cons, hoff, List.findSome?_singleton]

/-- Some of the line is passed. -/
theorem exists_findMatch_lineComment (hg : IsListFiles g) (captures : List (Option (List Char))) (below : Stack)
    {place : Cursor} {c : Char} {cs : List Char} (hplace : place.after = c :: cs) (hc : c ≠ '\n') : ∃ hit u,
      findMatch g (⟨9, captures⟩ :: below) place = some hit ∧ hit.rule.action = .stay ∧ hit.rule.captures = [] ∧
        hit.whole.first = place ∧ u ≠ [] ∧ place.Passes u hit.whole.last := by
  obtain ⟨more, hmore, hfind⟩ := exists_lineRule hg
  have hhead : place.after.head?.any (CharSet.compl (.single '\n')).contains = true := by
    rw [hplace]
    simpa [CharSet.contains] using hc
  obtain ⟨u, d, hu, -, hd, htry⟩ := exists_tryRule_run ⟨9, captures⟩ hmore hhead
  refine ⟨⟨more, ⟨place, d⟩, []⟩, u, ?_, hmore.action, List.map_eq_nil_iff.1 hmore.groups, rfl, hu, hd⟩
  rw [hfind captures below place (by rw [hplace]; exact List.cons_ne_nil c cs), htry]

/-- A line feed is not passed. -/
theorem findMatch_lineComment_of_feed (hg : IsListFiles g) (captures : List (Option (List Char))) (below : Stack)
    {place : Cursor} {cs : List Char} (hplace : place.after = '\n' :: cs) :
    findMatch g (⟨9, captures⟩ :: below) place = none := by
  obtain ⟨more, hmore, hfind⟩ := exists_lineRule hg
  rw [hfind captures below place (by rw [hplace]; exact List.cons_ne_nil _ cs)]
  refine tryRule_of_excludes hmore ?_
  rw [hplace]
  rfl

/-- At the end of its line it is left. -/
theorem exists_findMatch_lineEnd (hg : IsListFiles g) (captures : List (Option (List Char))) (below : Stack)
    {place : Cursor} (hplace : place.after = []) : ∃ hit, findMatch g (⟨9, captures⟩ :: below) place = some hit ∧
      hit.whole = ⟨place, place⟩ ∧ hit.rule.action = .pop := by
  obtain ⟨lastRule, more, hrules, ⟨source, hlast⟩, hpop, -⟩ := hg.exists_lineComment
  rcases search_lineEnd_cases place with ⟨-, hfound⟩ | ⟨hne, -⟩
  · refine ⟨⟨lastRule, ⟨place, place⟩, []⟩, ?_, rfl, hpop⟩
    rw [findMatch_of_rules hrules, List.findSome?_cons, tryRule_fixed hlast,
      hit?_of_found hfound (by rw [hpop]; nofun)]
  · exact absurd hplace hne

/-- A comment that no bracket opens is passed up to the end of its line. -/
theorem Stands.toLineEnd (hg : IsListFiles g) {last : Option Char} {cs : List Char}
    (h : Stands g text n cs last 0 (⟨9, captures⟩ :: below) events) : ∃ rest last',
      cs = restOfLine cs ++ rest ∧ restOfLine rest = [] ∧
        Stands g text (n + byteLength (restOfLine cs)) rest last' 0 (⟨9, captures⟩ :: below) events := by
  induction hlength : (restOfLine cs).length using Nat.strongRecOn generalizing cs n last with
  | ind length ih =>
    by_cases hend : restOfLine cs = []
    · refine ⟨cs, last, ?_, hend, ?_⟩
      · rw [hend, List.nil_append]
      · rw [hend]
        exact h
    · obtain ⟨c, ds, rfl⟩ := List.exists_cons_of_ne_nil (fun hnil => hend (by rw [hnil]; rfl) : cs ≠ [])
      obtain ⟨hc, hline, -⟩ := restOfLine_of_cons hend
      obtain ⟨u, hit, rest, ⟨hstay, hune⟩, -, hprefix, hrest, hnext⟩ := h.comes.hits
        (P := fun u hit => hit.rule.action = .stay ∧ u ≠ []) fun place hplace => by
          obtain ⟨hit, u, hfind, haction, -, hfirst, hu, hpasses⟩ :=
            exists_findMatch_lineComment hg captures below (hplace.trans hline) hc
          exact ⟨u, hit, hu, hfind, hfirst, hpasses, haction, hu⟩
      obtain ⟨v, hv⟩ := hprefix
      obtain ⟨rest', hrest', hv', -⟩ := exists_of_restOfLine hv.symm
      obtain rfl : rest = rest' := List.append_cancel_left (hrest.symm.trans hrest')
      have hfewer : (restOfLine rest).length < length := by
        have hpos := List.length_pos_of_ne_nil hune
        rw [← hv, List.length_append] at hlength
        rw [hv']
        omega
      rw [hstay] at hnext
      obtain ⟨rest'', last', hsplit, hnil, hdone⟩ := ih _ hfewer hnext rfl
      refine ⟨rest'', last', ?_, hnil, ?_⟩
      · rw [← hv, List.append_assoc, ← hv', ← hsplit]
        exact hrest
      · rw [← hv, byteLength_append, ← Nat.add_assoc, ← hv']
        exact hdone

/-- **Behind a comment up to the end of its line** highlighting stands where it stood before. -/
theorem Comes.lineComment (hg : IsListFiles g) (hid : HasComments g id) {cs : List Char} (hcs : OpensNoBracket cs)
    (h : Comes g text n ('#' :: cs) (⟨id, captures⟩ :: below) events) : ∃ rest last events',
      cs = restOfLine cs ++ rest ∧ restOfLine rest = [] ∧
        Stands g text (n + byteLength ('#' :: restOfLine cs)) rest last 1 (⟨id, captures⟩ :: below) events' := by
  obtain ⟨u, hit, rest, ⟨rfl, hpush⟩, -, -, hrest, hnext⟩ := h.hits
    (P := fun u hit => u = ['#'] ∧ hit.rule.action = .push [9]) fun place hplace => by
      have hno (level : Nat) : ¬ '[' :: signsAnd level '[' <+: restOfLine cs := by
        intro hprefix
        obtain ⟨more, hmore⟩ := hprefix.trans (restOfLine_isPrefix cs)
        have hlevel : bracketLevel? (signsAnd level '[' ++ more) = none := hcs _ hmore.symm
        rw [bracketLevel?_signsAnd] at hlevel
        cases hlevel
      obtain ⟨hu, hit, hfind, haction, hfirst, hpasses⟩ := hid.fires_line captures below
        (hplace.trans (restOfLine_append_of_oneLine (u := ['#']) (by decide) cs)) hno
      exact ⟨_, hit, hu, hfind, hfirst, hpasses, rfl, haction⟩
  obtain rfl : cs = rest := (List.cons_eq_cons.1 hrest).2
  rw [hpush] at hnext
  have hinside : Stands g text (n + byteLength ['#']) cs _ 0 (⟨9, hit.texts⟩ :: ⟨id, captures⟩ :: below) _ := hnext
  obtain ⟨rest, last, hsplit, hend, hlineEnd⟩ := hinside.toLineEnd hg
  obtain ⟨u, hit, rest', last', ⟨rfl, hleaves⟩, -, hsame, hdone⟩ := hlineEnd.matches (by decide)
    (P := fun u hit => u = [] ∧ hit.rule.action = .pop) fun place hplace => by
      obtain ⟨hit, hfind, hwhole, hpop⟩ := exists_findMatch_lineEnd hg _ _ (hplace.trans hend)
      refine ⟨[], hit, hfind, ?_, ?_, rfl, hpop⟩
      · rw [hwhole]
      · rw [hwhole]
        exact .refl place
  obtain rfl : rest = rest' := hsame
  rw [hleaves, applyAction_pop, byteLength_nil, Nat.add_zero, Nat.add_assoc, ← byteLength_append] at hdone
  exact ⟨rest, last', _, hsplit, hend, hdone⟩

end

end Listfile.Highlight
