import Listfile.Grammar.Anchor
import Listfile.Proofs.Regex.Padding

/-!
# Anchored patterns

The anchor and the group around a pattern are written as text, so the pattern has to end where its text
does.

* `closing`: what is written behind a pattern.
* `isAnchorable`: the condition under which the text behind a pattern closes the group around it.
* `parse_anchor_iff`: **the anchored text means the pattern behind an anchor exactly under this
  condition.**
* `anchoring_keeps_meaning`: what an anchored pattern matches.
-/

namespace Listfile.Grammar

open Regex

variable {source : List Char} {e : Expr}

/-! ### The condition -/

/-- What is written behind a pattern. -/
def closing (source : List Char) : List Char :=
  if extendedFromStart source then ['\n', ')'] else [')']

theorem isEnd_closing (source : List Char) : IsEnd (closing source) := by
  unfold closing
  split
  · exact isEnd_lineFeed
  · exact isEnd_paren

theorem anchor_eq (source : List Char) :
    anchor source = ['\\', 'G', '(', '?', ':'] ++ (source ++ closing source) :=
  List.append_assoc _ _ _

/-- Can a pattern be put into the group behind an anchor? It must not be nested as deep as patterns may be,
nor refer to groups by number where groups have names, and behind the blanks and comments at its end
must come the parenthesis that closes the group: a comment must not hide that, and a line feed must not
be a part of the pattern. -/
def isAnchorable (source : List Char) : Bool :=
  match readAll (maxDepth - 1) (source.length + 1) .start source with
  | .error _ => false
  | .ok (r, rest) =>
    !r.mixesReferences && skipFrom r.flags.extended .nothing (rest ++ closing source) == some [')']

/-! ### Reading the anchor -/

/-- The anchor and the opening of the group are read in two steps. -/
theorem readAll_opening (limit k m : Nat) (cs : List Char) :
    readAll (limit + 1) (m + 2) .start (['\\', 'G', '(', '?', ':'] ++ cs)
      = readAll (limit + 1) m (Reading.start.behindAnchor k) cs := by
  have hanchor : readNext (limit + 1) .start (['\\', 'G', '(', '?', ':'] ++ cs)
      = .ok (some (⟨{}, .start, false, Frame.anchor, []⟩, ['(', '?', ':'] ++ cs)) := rfl
  have hgroup : readNext (limit + 1) ⟨{}, .start, false, Frame.anchor, []⟩ (['(', '?', ':'] ++ cs)
      = .ok (some (Reading.start.behindAnchor k, cs)) := rfl
  rw [readAll_step hanchor, readAll_step hgroup]

/-! ### Reading the end -/

theorem parse_anchor (source : List Char) :
    parse (anchor source)
      = readAll (maxDepth - 1 + 1) (source.length + 1 + ((closing source).length + 3))
          (Reading.start.behindAnchor (closing source).length) (source ++ closing source) >>=
        fun p => p.1.finish := by
  have hlen : (anchor source).length + 1 = source.length + 1 + ((closing source).length + 3) + 2 := by
    rw [anchor_eq, List.length_append, List.length_append]
    show 5 + _ + 1 = _
    omega
  unfold parse
  rw [hlen, anchor_eq, ← readAll_opening]
  rfl

theorem parse_anchor_eq {r : Reading} {rest : List Char}
    (h : readAll (maxDepth - 1) (source.length + 1) .start source = .ok (r, rest)) :
    ∃ m, parse (anchor source)
      = readAll maxDepth (m + 3) (r.behindAnchor (closing source).length) (rest ++ closing source) >>=
        fun p => p.1.finish := by
  obtain ⟨m, hm, hrun⟩ := readAll_append (isEnd_closing source) _ h ((closing source).length + 3)
  refine ⟨m - 2, ?_⟩
  rw [parse_anchor, hrun, show m + 1 = m - 2 + 3 by omega]
  rfl

theorem isAnchorable_eq {r : Reading} {rest s : List Char}
    (h : readAll (maxDepth - 1) (source.length + 1) .start source = .ok (r, rest))
    (hs : Regex.skip r.flags.extended (rest ++ closing source) = .ok s) :
    isAnchorable source = (!r.mixesReferences && s == [')']) := by
  unfold isAnchorable
  rw [h]
  unfold Regex.skip at hs
  cases hskip : skipFrom r.flags.extended .nothing (rest ++ closing source) with
  | none =>
    rw [hskip] at hs
    cases hs
  | some s' =>
    rw [hskip] at hs
    cases hs
    simp only [hskip]
    rfl

/-- How the text around a pattern is read: the group is closed behind the pattern or behind a line feed that is
a part of it, or the text is refused. -/
theorem parse_anchor_cases (h : parse source = .ok e) :
    ∃ r : Reading, r.finish = .ok e ∧
      ((isAnchorable source = !r.mixesReferences ∧ parse (anchor source) = r.closeAnchor.finish) ∨
        (isAnchorable source = false ∧
          (parse (anchor source) = r.addLineFeed.closeAnchor.finish ∨
            ∃ f, parse (anchor source) = .error f))) := by
  obtain ⟨⟨r, rest⟩, hread, hfinish⟩ := bind_eq_ok.1 h
  refine ⟨r, hfinish, ?_⟩
  have hend := isEnd_closing source
  have hdepth : readAll (maxDepth - 1 + 1) (source.length + 1) .start source = .ok (r, rest) := hread
  rcases readAll_limit hend _ hdepth with hok | ⟨⟨f, hf⟩, hwithin⟩
  · obtain ⟨m, hparse⟩ := parse_anchor_eq hok
    have hroot := Reading.rooted_start.readAll _ hread
    obtain ⟨houter, hrefs, -, -⟩ := Reading.finish_eq_ok.1 hfinish
    obtain ⟨s, hs, hskip⟩ := skip_append_end (skip_of_readAll _ hread) hend
    rw [hparse, isAnchorable_eq hok hskip]
    rcases isEnd_iff.1 hs with rfl | rfl | rfl
    · rw [readAll_lineFeed hroot houter hrefs hskip]
      exact .inr ⟨Bool.and_false _, .inl rfl⟩
    · rw [readAll_paren hroot houter hrefs hskip]
      exact .inl ⟨Bool.and_true _, rfl⟩
    · have hnext : readNext maxDepth (r.behindAnchor (closing source).length) (rest ++ closing source)
          = .ok none := bind_eq_ok.2 ⟨[], hskip, rfl⟩
      rw [readAll_stop hnext]
      refine .inr ⟨Bool.and_false _, .inr ?_⟩
      cases hfin : (r.behindAnchor (closing source).length).finish with
      | error f => exact ⟨f, hfin⟩
      | ok e' =>
        have hnil := (Reading.finish_eq_ok.1 hfin).1
        have hlen := r.length_outer_behindAnchor (k := (closing source).length)
        rw [hnil] at hlen
        cases hlen
  · obtain ⟨f', hf'⟩ := hwithin (source.length + 1 + ((closing source).length + 3))
    refine .inr ⟨?_, .inr ⟨f', ?_⟩⟩
    · unfold isAnchorable
      rw [hf]
    · rw [parse_anchor, hf']
      rfl

/-- **The text around a pattern puts it behind an anchor exactly under the condition.** -/
theorem parse_anchor_iff (h : parse source = .ok e) :
    parse (anchor source) = .ok e.anchored ↔ isAnchorable source = true := by
  obtain ⟨r, hfinish, ⟨hanchorable, hparse⟩ | ⟨hanchorable, hparse | ⟨f, hparse⟩⟩⟩ := parse_anchor_cases h
  · rw [hparse, hanchorable, Reading.finish_closeAnchor hfinish, Bool.not_eq_true']
  · rw [hparse, hanchorable]
    exact ⟨fun hfin => absurd hfin (finish_addLineFeed hfinish), nofun⟩
  · rw [hparse, hanchorable]
    exact ⟨nofun, nofun⟩

/-! ### Searching -/

theorem startsAtSearch_anchored (e : Expr) : startsAtSearch e.anchored = true := by
  unfold Expr.anchored
  cases e with
  | empty => rfl
  | _ => rfl

/-- What the engine makes of a pattern behind an anchor. -/
theorem compileAnchored_eq (hparse : parse (anchor source) = .ok e.anchored) :
    compileAnchored source = (Plan.ofExpr e.references false e.anchored).map fun p =>
      ⟨p, e.groups.length, true⟩ := by
  unfold compileAnchored Regex.compile
  rw [hparse]
  have hliteral : e.anchored.isLiteral = false := by
    unfold Expr.anchored
    cases e.isEmpty with
    | true => rfl
    | false => cases e <;> rfl
  show (Plan.ofWhole e.anchored.references e.anchored >>= fun p =>
    Except.ok (⟨p, e.anchored.groups.length, startsAtSearch e.anchored⟩ : Regex)) = _
  unfold Plan.ofWhole
  rw [hliteral, Reading.references_anchored, groups_anchored, startsAtSearch_anchored]
  cases Plan.ofExpr e.references false e.anchored with
  | error f => rfl
  | ok p => rfl

/-- Behind an anchor a pattern is searched for at each place by an attempt of `r` there. -/
def MatchesAs (source : List Char) (r : Regex) : Prop :=
  ∃ r', compileAnchored source = .ok r' ∧ ∀ place, r'.search place = r.attempt place

theorem matchesAs_of_ofLast {p : Plan} (hparse : parse (anchor source) = .ok e.anchored)
    (hp : Plan.ofLast e = .ok p) (b : Bool) : MatchesAs source ⟨p, e.groups.length, b⟩ := by
  obtain ⟨q, hq, hsearch⟩ := ofExpr_anchored_attempt hp
  refine ⟨⟨q, e.groups.length, true⟩, ?_, hsearch _ b⟩
  rw [compileAnchored_eq hparse, hq]
  rfl

theorem compileAnchored_tooLarge (hparse : parse (anchor source) = .ok e.anchored)
    (hhard : e.isHard e.references = true) (hlarge : Plan.ofLast e = .error .tooLarge) :
    compileAnchored source = .error .tooLarge := by
  have hne : e.isEmpty = false := by
    cases e with
    | empty => cases hhard
    | _ => rfl
  rw [compileAnchored_eq hparse, Plan.ofExpr_anchored hne, hlarge]
  rfl

/-- **Anchoring keeps the meaning of a pattern exactly where it can be put into the group.** The text is then
read as the expression of the pattern behind an anchor. Behind the anchor, a plain pattern and one that is
planned alike within others match as the pattern itself does at the same place, unless that gives up.
Any pattern is matched there as the last part of a sequence, which can be planned unless an automaton is
too large. -/
theorem anchoring_keeps_meaning {r : Regex} (h : Regex.compile source = .ok r) :
    ∃ e, parse source = .ok e ∧
      (parse (anchor source) = .ok e.anchored ↔ isAnchorable source = true) ∧
      (isAnchorable source = true →
        (e.isHard e.references = false → MatchesAs source r) ∧
        (Plan.ofExpr e.references true e = .ok r.plan →
          ∃ r', compileAnchored source = .ok r' ∧
            ∀ place, r.attempt place ≠ .gaveUp → r'.search place = r.attempt place) ∧
        ((∃ p, Plan.ofLast e = .ok p ∧ MatchesAs source ⟨p, r.groupCount, r.anchored⟩) ∨
          (compileAnchored source = .error .tooLarge ∧ e.isHard e.references = true ∧
            AutomatonSize.limit < e.heaviest + 1000))) := by
  obtain ⟨e, hparse, h⟩ := bind_eq_ok.1 h
  obtain ⟨p, hwhole, h⟩ := bind_eq_ok.1 h
  cases h
  have hp := Plan.ofExpr_of_ofWhole hwhole
  have hiff := parse_anchor_iff hparse
  refine ⟨e, hparse, hiff, fun hanchorable => ?_⟩
  have hplain (hplain : e.isHard e.references = false) :
      MatchesAs source ⟨p, e.groups.length, startsAtSearch e⟩ := by
    obtain ⟨q, hq, hattempt⟩ := attempt_ofLast hplain hp
    obtain ⟨r', hr', hsearch⟩ := matchesAs_of_ofLast (hiff.2 hanchorable) hq false
    exact ⟨r', hr', fun place => (hsearch place).trans (hattempt _ _ _ _)⟩
  refine ⟨hplain, fun halike => ?_, ?_⟩
  · cases hhard : e.isHard e.references with
    | false =>
      obtain ⟨r', hr', hsearch⟩ := hplain hhard
      exact ⟨r', hr', fun place _ => hsearch place⟩
    | true =>
      obtain ⟨r', hr', hsearch⟩ :=
        matchesAs_of_ofLast (hiff.2 hanchorable) (Plan.ofLast_hard hhard halike) false
      exact ⟨r', hr', fun place hgaveUp => (hsearch place).trans (attempt_seq_done hgaveUp)⟩
  · rcases Plan.made_ofLast hp with ⟨q, hq⟩ | ⟨herror, hlarge, hhard⟩
    · exact .inl ⟨q, hq, matchesAs_of_ofLast (hiff.2 hanchorable) hq _⟩
    · exact .inr ⟨compileAnchored_tooLarge (hiff.2 hanchorable) hhard herror, hhard, hlarge⟩

/-- A pattern whose flags allow comments, and that ends with one, is matched behind an anchor as on its own,
and so is one that looks behind. -/
theorem anchoring_keeps_meaning_comment_lookBehind :
    (∃ r, Regex.compile "(?x)a|b # c".toList = .ok r ∧ MatchesAs "(?x)a|b # c".toList r) ∧
      ∃ r r', Regex.compile "(?<!a)b".toList = .ok r ∧ compileAnchored "(?<!a)b".toList = .ok r' ∧
        ∀ place, r.attempt place ≠ .gaveUp → r'.search place = r.attempt place := by
  constructor
  · have hok : (Regex.compile "(?x)a|b # c".toList).isOk = true := by decide +kernel
    obtain ⟨r, hr⟩ := exists_of_isOk hok
    have hanchorable : isAnchorable "(?x)a|b # c".toList = true := by decide +kernel
    have hplain : (parse "(?x)a|b # c".toList).toOption.map (fun e => e.isHard e.references)
        = some false := by decide +kernel
    obtain ⟨e, he, -, hmeaning⟩ := anchoring_keeps_meaning hr
    rw [he] at hplain
    exact ⟨r, hr, (hmeaning hanchorable).1 (Option.some.inj hplain)⟩
  · have hok : (Regex.compile "(?<!a)b".toList).isOk = true := by decide +kernel
    obtain ⟨r, hr⟩ := exists_of_isOk hok
    have hanchorable : isAnchorable "(?<!a)b".toList = true := by decide +kernel
    have halike : (parse "(?<!a)b".toList >>= fun e => Plan.ofExpr e.references true e)
        = (Regex.compile "(?<!a)b".toList).map (·.plan) := rfl
    obtain ⟨e, he, -, hmeaning⟩ := anchoring_keeps_meaning hr
    rw [he, hr] at halike
    obtain ⟨r', hr', hsearch⟩ := (hmeaning hanchorable).2.1 halike
    exact ⟨r, r', hr, hr', hsearch⟩

/-- **Not every pattern keeps its meaning**: where a pattern begins with a group whose name has an `x`, a line
feed is added, and has to be matched. -/
theorem not_forall_matchesAs :
    ¬∀ (source : List Char) (r : Regex), Regex.compile source = .ok r → MatchesAs source r := by
  intro h
  have hmatch : (Regex.compile "(?<x>a)".toList).toOption.map
      (fun r => (r.attempt (.ofText ['a'])).isFound) = some true := by decide +kernel
  have hnone : (compileAnchored "(?<x>a)".toList).toOption.map
      (fun r => (r.search (.ofText ['a'])).isFound) = some false := by decide +kernel
  have hok : (Regex.compile "(?<x>a)".toList).isOk = true := by decide +kernel
  obtain ⟨r, hr⟩ := exists_of_isOk hok
  obtain ⟨r', hr', hsearch⟩ := h _ r hr
  rw [hr] at hmatch
  rw [hr'] at hnone
  have hfound : (r.attempt (.ofText ['a'])).isFound = true := Option.some.inj hmatch
  have hnotFound : (r'.search (.ofText ['a'])).isFound = false := Option.some.inj hnone
  rw [hsearch, hfound] at hnotFound
  cases hnotFound

end Listfile.Grammar
