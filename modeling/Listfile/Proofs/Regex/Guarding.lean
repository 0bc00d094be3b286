import Listfile.Proofs.Regex.Crossing
import Listfile.Proofs.Regex.Runs

/-!
# What stands where a match begins

* `Plan.guards`, **`holds_of_search`**: plans that lead nowhere but where an assertion holds.
* `passes_of_fenced`, **`search_fenced_cases`**: a run of one character between texts is found exactly where it stands.
-/

namespace Listfile

namespace Regex

variable {c d : Cursor}

/-! ### Assertions -/

/-- Does the plan lead nowhere but where the assertion holds? -/
def Plan.guards (a : Assertion) : Plan → Bool
  | assertion b => b == a
  | seq p q => p.guards a || p.stays && q.guards a
  | either p q => p.guards a && q.guards a
  | group _ body | atomic body => body.guards a
  | _ => false

theorem Plan.Leads.guards {a : Assertion} {p : Plan} (h : p.Leads c d) (hp : p.guards a = true) :
    a.holds c = true := by
  fun_induction Plan.guards a p generalizing c d with
  | case1 b =>
    obtain rfl := eq_of_beq hp
    exact h.2
  | case2 p q hpq hqq =>
    obtain ⟨x, hx, hd⟩ := h
    rcases Bool.or_eq_true_iff.1 hp with hp | hq
    · exact hpq hx hp
    · obtain ⟨hstays, hq⟩ := Bool.and_eq_true_iff.1 hq
      obtain rfl := hx.eq_of_stays hstays
      exact hqq hd hq
  | case3 p q hpq hqq =>
    obtain ⟨hp, hq⟩ := Bool.and_eq_true_iff.1 hp
    rcases h with h | h
    · exact hpq h hp
    · exact hqq h hq
  | case4 i body ih => exact ih h hp
  | case5 body ih => exact ih h hp
  | case6 => cases hp

/-! ### Runs between texts -/

theorem CharSet.Takes.passes_single {x : Char} (h : (CharSet.single x).Takes c d) : c.Passes [x] d := by
  obtain ⟨y, hy, hx⟩ := h.passes
  rwa [eq_of_beq hx] at hy

/-- A loop over a character passes some of them. -/
theorem exists_passes_replicate {x : Char} (h : Relation.ReflTransGen (CharSet.single x).Takes c d) :
    ∃ n, c.Passes (List.replicate n x) d := by
  induction h with
  | refl => exact ⟨0, .refl c⟩
  | tail _ hd ih =>
    obtain ⟨n, hn⟩ := ih
    refine ⟨n + 1, ?_⟩
    rw [List.replicate_succ']
    exact hn.trans hd.passes_single

theorem Expr.Leads.passes_of_fenced {x y : Char} {s : List Char} (h : (Expr.fenced x y s).Leads c d) :
    ∃ n, c.Passes (s ++ (List.replicate n x ++ [y])) d := by
  induction s generalizing c with
  | nil =>
    obtain ⟨e, he, e', he', rfl⟩ := h
    obtain ⟨n, hn⟩ := exists_passes_replicate he.2
    exact ⟨n, hn.trans (CharSet.Takes.passes_single he')⟩
  | cons z s ih =>
    obtain ⟨e, he, hd⟩ := h
    obtain ⟨n, hn⟩ := ih hd
    exact ⟨n, (CharSet.Takes.passes_single he).trans hn⟩

end Regex

open Regex

section
variable {r : Regex} {place : Cursor} {whole : Capture} {groups : List (Option Capture)}

/-- **Where a match begins, the assertion holds** that guards its plan. -/
theorem holds_of_search {a : Assertion} (hanchored : r.anchored = true) (hr : r.plan.guards a = true)
    (h : r.search place = .found whole groups) : a.holds place = true :=
  (leads_of_search hanchored h).guards hr

variable (place) in
/-- **A run of one character between a text and another character is found exactly where it stands ahead.** -/
theorem search_fenced_cases {x y : Char} (hxy : x ≠ y) (s : List Char) :
    (∃ n first last d, place.Passes s first ∧ first.Passes (List.replicate n x) last ∧ last.Passes [y] d ∧
      (⟨.seq .searchStart (.unit (.seq (.fenced x y s) .empty)), 1, true⟩ : Regex).search place
        = .found ⟨place, d⟩ [some ⟨first, last⟩]) ∨
      ((∀ n, ¬ s ++ (List.replicate n x ++ [y]) <+: place.after) ∧ ∀ whole groups,
        (⟨.seq .searchStart (.unit (.seq (.fenced x y s) .empty)), 1, true⟩ : Regex).search place
          ≠ .found whole groups) := by
  by_cases hahead : ∃ n, s ++ (List.replicate n x ++ [y]) <+: place.after
  · obtain ⟨n, rest, hrest⟩ := hahead
    rw [List.append_assoc, List.append_assoc] at hrest
    obtain ⟨first, hfirst, hafter⟩ := Cursor.exists_passes hrest.symm
    obtain ⟨last, hlast, hafter⟩ := Cursor.exists_passes hafter
    obtain ⟨d, hd, -⟩ := Cursor.exists_passes hafter
    exact .inl ⟨n, first, last, d, hfirst, hlast, hd, search_fenced hxy hfirst hlast hd⟩
  · refine .inr ⟨not_exists.1 hahead, fun whole groups hfound => ?_⟩
    obtain ⟨_, rfl, _, hlead, rfl⟩ := leads_of_search rfl hfound
    obtain ⟨n, hn⟩ := hlead.passes_of_fenced
    exact hahead ⟨n, _, hn.after.symm⟩

end

end Listfile
