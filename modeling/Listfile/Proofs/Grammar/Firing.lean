import Listfile.Proofs.Grammar.Anchoring
import Listfile.Proofs.Regex.Returning

/-!
# Where rules fire

The pattern of a rule is put behind an anchor, so it should match only at the place where it is tried.  It does
if the text of the pattern is a pattern by itself.  A text that is not may close the group around it, and put a
bar beside the anchor.

* `infix_anchor`: the text around a pattern adds no `\K`.
* `anchored_of_parse`: what is a pattern by itself stays behind the anchor.
* **`first_of_compileAnchored`**: where anchored patterns match.
-/

namespace Listfile.Grammar

open Regex

variable {source : List Char} {e : Expr} {r : Regex}

/-! ### The text -/

/-- A character behind a text does not complete a pair that ends with another one. -/
theorem infix_of_concat {c d x : Char} {cs : List Char} (hx : d ≠ x) (h : [c, d] <:+: cs ++ [x]) :
    [c, d] <:+: cs := by
  rcases List.infix_concat_iff.1 h with ⟨t, ht⟩ | h
  · have hlast := congrArg List.getLast? ht
    rw [List.getLast?_concat, List.getLast?_append_of_ne_nil t (List.cons_ne_nil c [d])] at hlast
    exact absurd (Option.some.inj hlast) hx
  · exact h

/-- The text around a pattern adds no `\K`. -/
theorem infix_anchor (h : ['\\', 'K'] <:+: anchor source) : ['\\', 'K'] <:+: source := by
  have hfront : ['\\', 'K'] <:+: source ++ closing source := by
    rw [anchor_eq] at h
    simpa [List.infix_cons_iff, List.cons_prefix_cons] using h
  unfold closing at hfront
  split at hfront
  · rw [show source ++ ['\n', ')'] = source ++ ['\n'] ++ [')'] by simp] at hfront
    exact infix_of_concat (by decide) (infix_of_concat (by decide) hfront)
  · exact infix_of_concat (by decide) hfront

/-! ### The anchor -/

/-- What is a pattern by itself stays behind the anchor, whatever is made of it there. -/
theorem anchored_of_parse (hparse : parse source = .ok e) (h : compileAnchored source = .ok r) :
    r.anchored = true := by
  obtain ⟨e', he', h⟩ := bind_eq_ok.1 h
  obtain ⟨p, -, h⟩ := bind_eq_ok.1 h
  cases h
  have hbody {s : Reading} (hs : s.closeAnchor.finish = .ok e') : startsAtSearch e' = true := by
    obtain ⟨-, -, hbody, -⟩ := Reading.finish_eq_ok.1 hs
    rw [← hbody, Reading.body_closeAnchor]
    exact startsAtSearch_anchored _
  obtain ⟨s, -, ⟨-, hread⟩ | ⟨-, hread | ⟨f, hread⟩⟩⟩ := parse_anchor_cases hparse
  · exact hbody (hread.symm.trans he')
  · exact hbody (hread.symm.trans he')
  · rw [hread] at he'
    cases he'

/-- **An anchored pattern without `\K` matches only where the search begins**, unless its text is no pattern by
itself and puts a bar beside the anchor. -/
theorem first_of_compileAnchored (h : compileAnchored source = .ok r) (hK : ¬ ['\\', 'K'] <:+: source) :
    (r.anchored = true → ∀ place whole groups, r.search place = .found whole groups → whole.first = place) ∧
      ((∃ e, parse source = .ok e) → r.anchored = true) := by
  refine ⟨fun hanchored place whole groups hfound => ?_, fun ⟨e, hparse⟩ => anchored_of_parse hparse h⟩
  obtain ⟨e, he, h⟩ := bind_eq_ok.1 h
  obtain ⟨p, hp, h⟩ := bind_eq_ok.1 h
  cases h
  have hkeeps := keepsStart_of_parse (fun hinfix => hK (infix_anchor hinfix)) he
  exact first_of_search hanchored (Plan.keepsStart_ofExpr hkeeps (Plan.ofExpr_of_ofWhole hp)) hfound

/-- A pattern that looks behind, and has a bar of its own. -/
theorem first_of_compileAnchored_lookBehind :
    ∃ r, compileAnchored "(?<=a)b|c".toList = .ok r ∧
      ∀ place whole groups, r.search place = .found whole groups → whole.first = place := by
  have hok : (compileAnchored "(?<=a)b|c".toList).isOk = true := by decide +kernel
  obtain ⟨r, hr⟩ := exists_of_isOk hok
  have hparse : (parse "(?<=a)b|c".toList).isOk = true := by decide +kernel
  obtain ⟨hfirst, hanchored⟩ := first_of_compileAnchored hr (by decide)
  exact ⟨r, hr, hfirst (hanchored (exists_of_isOk hparse))⟩

/-- Where a match begins, if there is one. -/
def offset? : SearchResult → Option Nat
  | .found whole _ => some whole.first.offset
  | _ => none

/-- **Not every pattern matches only there**: a text that closes the group around it, and opens another one for
the parenthesis that is left, puts a bar beside the anchor.  It is no pattern by itself. -/
theorem not_forall_first :
    (¬∀ (source : List Char) (r : Regex), compileAnchored source = .ok r → ¬ ['\\', 'K'] <:+: source →
      ∀ place whole groups, r.search place = .found whole groups → whole.first = place) ∧
    ¬∀ (source : List Char) (r : Regex), compileAnchored source = .ok r → ∃ e, parse source = .ok e := by
  have hok : (compileAnchored "a)|(?:b".toList).isOk = true := by decide +kernel
  obtain ⟨r, hr⟩ := exists_of_isOk hok
  constructor
  · intro hall
    have hfound : (compileAnchored "a)|(?:b".toList).toOption.bind (fun r =>
        offset? (r.search (.ofText "xb".toList))) = some 1 := by
      decide +kernel
    rw [hr] at hfound
    have hone : offset? (r.search (.ofText "xb".toList)) = some 1 := hfound
    cases hsearch : r.search (.ofText "xb".toList) with
    | found whole groups =>
      rw [hsearch, offset?, hall _ r hr (by decide) _ whole groups hsearch] at hone
      cases hone
    | notFound | gaveUp =>
      rw [hsearch] at hone
      cases hone
  · intro hall
    obtain ⟨e, he⟩ := hall _ r hr
    have hrefused : (parse "a)|(?:b".toList).isOk = false := by decide +kernel
    rw [he] at hrefused
    cases hrefused

end Listfile.Grammar
