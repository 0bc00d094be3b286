import Listfile.Proofs.Grammar.Finding
import Listfile.Proofs.Grammar.Substituting
import Listfile.Proofs.Highlight.Going

/-!
# What opens and closes brackets

A bracket is closed by as many equals signs as it is opened with.  In the context between, one rule is for what closes
it, and others pass over everything else.

* `exists_tryRule_opener`, `tryRule_opener_eq_none`: what opens a bracket.
* **`tryRule_closer`**, `exists_filler`: what closes and fills it.
* **`IsBracketed.exists_closer`**, **`IsBracketed.exists_filler`**, `IsBracketed.findMatch_of_nil`: the context between.
-/

namespace Listfile.Highlight

open Grammar Regex Listfile.Tree

/-! ### Openings -/

section
variable {rule : Rule} {place : Cursor} {s rest : List Char} {level : Nat}

/-- What opens a bracket behind some text. -/
def openerBehind (s : List Char) : Regex :=
  ⟨.seq .searchStart (.unit (.seq (.fenced '=' '[' s) .empty)), 1, true⟩

/-- A rule for openings matches where one stands ahead, and its equals signs are captured. -/
theorem exists_tryRule_opener (frame : Frame) (hrule : rule.Uses (openerBehind s))
    (hahead : place.after = s ++ (signsAnd level '[' ++ rest)) : ∃ hit, tryRule frame place rule = some hit ∧
      hit.rule = rule ∧ hit.whole.first = place ∧ place.Passes (s ++ signsAnd level '[') hit.whole.last ∧
      hit.texts[1]? = some (some (List.replicate level '=')) := by
  obtain ⟨source, hpattern⟩ := hrule
  rw [signsAnd, List.append_assoc] at hahead
  obtain ⟨first, hfirst, hafter⟩ := Cursor.exists_passes hahead
  obtain ⟨last, hlast, hafter⟩ := Cursor.exists_passes hafter
  obtain ⟨d, hd, -⟩ := Cursor.exists_passes hafter
  have hwhole : place.Passes (s ++ signsAnd level '[') d := hfirst.trans (hlast.trans hd)
  have hne : s ++ signsAnd level '[' ≠ [] := by simp [signsAnd]
  have hsearch : (openerBehind s).search place = .found ⟨place, d⟩ [some ⟨first, last⟩] :=
    search_fenced (by decide) hfirst hlast hd
  refine ⟨⟨rule, ⟨place, d⟩, [some ⟨first, last⟩]⟩, ?_, rfl, rfl, hwhole, ?_⟩
  · rw [tryRule_fixed hpattern, hit?_of_passes hne hwhole hsearch]
  · show some (some (first.sliceTo last.offset)) = _
    rw [hlast.sliceTo]

theorem tryRule_opener_eq_none (frame : Frame) (hrule : rule.Uses (openerBehind s))
    (hahead : ∀ level, ¬ s ++ signsAnd level '[' <+: place.after) : tryRule frame place rule = none := by
  obtain ⟨source, hpattern⟩ := hrule
  refine tryRule_of_search hpattern fun whole groups hsearch => ?_
  rcases search_fenced_cases place (by decide : '=' ≠ '[') s with ⟨n, first, last, d, hfirst, hlast, hd, -⟩ | ⟨-, hno⟩
  · exact hahead n ⟨_, (hfirst.trans (hlast.trans hd)).after.symm⟩
  · exact hno _ _ hsearch

end

/-! ### Closings and fillers -/

theorem oneLine_bracketCloser (level : Nat) : OneLine (bracketCloser level) :=
  (oneLine_append (u := [']'])).2 ⟨by decide, oneLine_signsAnd level (by decide)⟩

/-- What closes the bracket is a pattern for one text, which depends on the match that opened it. -/
theorem substituteBackrefs_closer {captures : List (Option (List Char))} {level : Nat}
    (h : captures[1]? = some (some (List.replicate level '='))) :
    substituteBackrefs captures r"\]\1\]".toList = quote (bracketCloser level) :=
  substituteBackrefs_quotedBackref h [']'] [']']

section
variable (frame : Frame) {place : Cursor} {level : Nat}

/-- **The bracket is closed exactly where what closes it stands ahead.** -/
theorem tryRule_closer (hframe : frame.captures[1]? = some (some (List.replicate level '='))) (scope : String) :
    (∃ d, place.Passes (bracketCloser level) d ∧
      tryRule frame place (closerRule scope) = some ⟨closerRule scope, ⟨place, d⟩, []⟩) ∨
      (¬ bracketCloser level <+: place.after ∧ tryRule frame place (closerRule scope) = none) := by
  obtain ⟨r, hr, hcloser⟩ := exists_search_quote (bracketCloser level)
  have htry : tryRule frame place (closerRule scope) = hit? place (closerRule scope) r := by
    show ((compileAnchored (substituteBackrefs frame.captures r"\]\1\]".toList)).toOption).bind _ = _
    rw [substituteBackrefs_closer hframe, hr]
    rfl
  rw [htry]
  rcases hcloser place with ⟨d, hd, hsearch⟩ | ⟨hno, hsearch⟩
  · exact .inl ⟨d, hd, hit?_of_passes (List.cons_ne_nil _ _) hd hsearch⟩
  · exact .inr ⟨hno, hit?_of_notFound hsearch⟩

/-- **The fillers pass one closing square bracket, or text without any.** -/
theorem exists_filler {fillers : List Rule} (h : List.Forall₂ Obeys fillerSketches fillers)
    (hplace : place.after ≠ []) : ∃ rule u d, fillers.findSome? (tryRule frame place) = some ⟨rule, ⟨place, d⟩, []⟩ ∧
      rule.action = .stay ∧ rule.captures = [] ∧ u ≠ [] ∧ place.Passes u d ∧ (']' ∉ u ∨ u = [']']) := by
  obtain ⟨c, cs, hcs⟩ := List.exists_cons_of_ne_nil hplace
  by_cases hc : c = ']'
  · subst hc
    have hbracket : fillerSketches.dropWhile (Sketch.excludes place.after) = [⟨.text "]", .stay, []⟩] := by
      rw [hcs]
      rfl
    obtain ⟨rule, u, d, hrule, hfits, hu, hd, hfind⟩ := exists_findSome?_sets frame h (List.cons_ne_nil _ _) hbracket
    exact ⟨rule, u, d, hfind, hrule.action, List.map_eq_nil_iff.1 hrule.groups, hu, hd,
      .inr (fits_single.1 hfits)⟩
  · obtain _ | ⟨hrun, -⟩ := h
    have hhead : place.after.head?.any (CharSet.compl (.single ']')).contains = true := by
      rw [hcs]
      simpa [CharSet.contains] using hc
    obtain ⟨u, d, hu, hs, hd, htry⟩ := exists_tryRule_run frame hrun hhead
    refine ⟨_, u, d, ?_, hrun.action, List.map_eq_nil_iff.1 hrun.groups, hu, hd, .inl fun hmem => ?_⟩
    · rw [List.findSome?_cons, htry]
    · exact absurd (hs ']' hmem) (by decide)

end

/-! ### The context between -/

/-- The rules of a context between brackets: one closes it, and the others pass over what stands in it. -/
def IsBracketed (g : Grammar) (id : Nat) : Prop :=
  ∃ closing fillers, (g.context id).rules = closerRule closing :: fillers ∧ List.Forall₂ Obeys fillerSketches fillers

section
variable {g : Grammar} {id level : Nat} {captures : List (Option (List Char))} {place : Cursor}

theorem isBracketed_argument (hg : IsListFiles g) : IsBracketed g 1 := by
  obtain ⟨fillers, hrules, hfillers, -⟩ := hg.exists_bracketed (i := 1) rfl
  exact ⟨_, fillers, hrules, hfillers⟩

theorem isBracketed_comment (hg : IsListFiles g) : IsBracketed g 2 := by
  obtain ⟨fillers, hrules, hfillers, -⟩ := hg.exists_bracketed (i := 2) rfl
  exact ⟨_, fillers, hrules, hfillers⟩

variable (hid : IsBracketed g id) (hlevel : captures[1]? = some (some (List.replicate level '='))) (below : Stack)
include hid hlevel

/-- **Where what closes the bracket stands ahead**, the context is left. -/
theorem IsBracketed.exists_closer (hahead : bracketCloser level <+: place.after) : ∃ hit,
    findMatch g (⟨id, captures⟩ :: below) place = some hit ∧ hit.rule.action = .pop ∧ hit.rule.captures = [] ∧
      hit.whole.first = place ∧ place.Passes (bracketCloser level) hit.whole.last := by
  obtain ⟨closing, fillers, hrules, -⟩ := hid
  rcases tryRule_closer ⟨id, captures⟩ hlevel closing with ⟨d, hd, htry⟩ | ⟨hno, -⟩
  · refine ⟨⟨closerRule closing, ⟨place, d⟩, []⟩, ?_, rfl, rfl, rfl, hd⟩
    rw [findMatch_of_rules hrules, List.findSome?_cons, htry]
  · exact absurd hahead hno

/-- **Where it does not**, a closing square bracket or text without any is passed. -/
theorem IsBracketed.exists_filler (hplace : place.after ≠ []) (hahead : ¬ bracketCloser level <+: place.after) :
    ∃ hit u, findMatch g (⟨id, captures⟩ :: below) place = some hit ∧ hit.rule.action = .stay ∧
      hit.rule.captures = [] ∧ hit.whole.first = place ∧ u ≠ [] ∧ place.Passes u hit.whole.last ∧
      (']' ∉ u ∨ u = [']']) := by
  obtain ⟨closing, fillers, hrules, hfillers⟩ := hid
  obtain ⟨rule, u, d, hfind, haction, hcaptures, hu, hd, hbracket⟩ :=
    Highlight.exists_filler ⟨id, captures⟩ hfillers hplace
  rcases tryRule_closer ⟨id, captures⟩ hlevel closing with ⟨e, he, -⟩ | ⟨-, htry⟩
  · exact absurd ⟨_, he.after.symm⟩ hahead
  · refine ⟨⟨rule, ⟨place, d⟩, []⟩, u, ?_, haction, hcaptures, rfl, hu, hd, hbracket⟩
    rw [findMatch_of_rules hrules, List.findSome?_cons, htry]
    exact hfind

/-- No rule matches at the end of a line. -/
theorem IsBracketed.findMatch_of_nil (hplace : place.after = []) :
    findMatch g (⟨id, captures⟩ :: below) place = none := by
  obtain ⟨closing, fillers, hrules, hfillers⟩ := hid
  rcases tryRule_closer ⟨id, captures⟩ hlevel closing with ⟨e, he, -⟩ | ⟨-, htry⟩
  · cases hplace.symm.trans he.after
  · rw [findMatch_of_rules hrules, List.findSome?_cons, htry]
    refine findSome?_of_all hfillers ?_
    rw [hplace]
    rfl

end

/-- What is passed at once belongs to the body of the bracket. -/
theorem exists_of_filler {u body tail rest : List Char} (hu : ']' ∉ u ∨ u = [']']) (hbody : body ≠ [])
    (h : body ++ ']' :: tail = u ++ rest) : ∃ v, body = u ++ v ∧ rest = v ++ ']' :: tail := by
  rcases hu with hu | rfl
  · exact exists_of_append_eq hu h
  · obtain ⟨c, v, rfl⟩ := List.exists_cons_of_ne_nil hbody
    obtain ⟨rfl, hv⟩ := List.cons_eq_cons.1 h
    exact ⟨v, rfl, hv.symm⟩

end Listfile.Highlight
