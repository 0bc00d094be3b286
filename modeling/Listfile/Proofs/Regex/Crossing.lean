import Listfile.Proofs.Regex.Tracking

/-!
# What a match crosses

What is computed from a plan alone tells about all that it matches.

* `Plan.avoids`: no match crosses a certain character.
* `Plan.starts`: every match begins with a certain character.
* `Plan.closes`: every match crosses a certain character just once, at its end.
* **`avoids_of_search`**, **`starts_of_search`**, **`closes_of_search`**: what an anchored search finds is as
  its plan says.
-/

namespace Listfile

namespace Regex

open Relation (ReflTransGen TransGen)

variable {x : Char} {c d : Cursor}

/-- The way to a place crosses no such character. -/
def Avoids (x : Char) (c d : Cursor) : Prop := ∃ u, c.Passes u d ∧ x ∉ u

/-- The way to a place crosses such a character just once, at its end. -/
def Meets (x : Char) (c d : Cursor) : Prop := ∃ u, c.Passes (u ++ [x]) d ∧ x ∉ u

theorem Avoids.refl (x : Char) (c : Cursor) : Avoids x c c := ⟨[], .refl c, List.not_mem_nil⟩

theorem Avoids.trans {e : Cursor} (h : Avoids x c d) (h' : Avoids x d e) : Avoids x c e := by
  obtain ⟨u, hu, hxu⟩ := h
  obtain ⟨v, hv, hxv⟩ := h'
  refine ⟨u ++ v, hu.trans hv, fun hmem => ?_⟩
  rcases List.mem_append.1 hmem with hmem | hmem
  · exact hxu hmem
  · exact hxv hmem

theorem Avoids.meets {e : Cursor} (h : Avoids x c d) (h' : Meets x d e) : Meets x c e := by
  obtain ⟨u, hu, hxu⟩ := h
  obtain ⟨v, hv, hxv⟩ := h'
  refine ⟨u ++ v, ?_, fun hmem => ?_⟩
  · rw [List.append_assoc]
    exact hu.trans hv
  · rcases List.mem_append.1 hmem with hmem | hmem
    · exact hxu hmem
    · exact hxv hmem

/-- What avoids a character at each step avoids it on the whole. -/
theorem avoids_of_reflTransGen {R : Cursor → Cursor → Prop} (hR : ∀ {c d}, R c d → Avoids x c d)
    (h : ReflTransGen R c d) : Avoids x c d := by
  induction h with
  | refl => exact .refl x c
  | tail _ hstep ih => exact ih.trans (hR hstep)

/-- What leads no further at each step leads no further on the whole. -/
theorem eq_of_reflTransGen {R : Cursor → Cursor → Prop} (hR : ∀ {d}, R c d → c = d)
    (h : ReflTransGen R c d) : c = d := by
  induction h with
  | refl => rfl
  | tail _ hstep hsame =>
    subst hsame
    exact hR hstep

theorem CharSet.Takes.passes {s : CharSet} (h : s.Takes c d) : ∃ y, c.Passes [y] d ∧ s.contains y = true := by
  obtain ⟨y, hnext, hy⟩ := h
  exact ⟨y, .step hnext, hy⟩

theorem CharSet.Takes.head? {y : Char} (h : (CharSet.single y).Takes c d) : c.after.head? = some y := by
  obtain ⟨z, hz, hs⟩ := h.passes
  rw [hz.after, ← eq_of_beq hs]
  rfl

/-! ### Plain expressions -/

namespace Expr

/-- Does no match cross the character? -/
def avoids (x : Char) : Expr → Bool
  | chars s => !s.contains x
  | seq a b | either a b => a.avoids x && b.avoids x
  | group _ body | repeated body _ _ _ => body.avoids x
  | _ => true

/-- Does no match lead further? -/
def stays : Expr → Bool
  | chars _ => false
  | seq a b | either a b => a.stays && b.stays
  | group _ body | repeated body _ _ _ => body.stays
  | _ => true

/-- Does every match begin with the character? -/
def starts (x : Char) : Expr → Bool
  | chars (.single y) => y == x
  | seq a b => a.starts x || a.stays && b.starts x
  | either a b => a.starts x && b.starts x
  | group _ body => body.starts x
  | repeated body least _ _ => 0 < least && body.starts x
  | never => true
  | _ => false

/-- Does every match cross the character just once, at its end? -/
def closes (x : Char) : Expr → Bool
  | chars (.single y) => y == x
  | seq a b => a.avoids x && b.closes x || a.closes x && b.stays
  | either a b => a.closes x && b.closes x
  | group _ body => body.closes x
  | never => true
  | _ => false

variable {e : Expr}

theorem Leads.avoids (h : e.Leads c d) (he : e.avoids x = true) : Avoids x c d := by
  induction e generalizing c d with
  | empty =>
    cases h
    exact .refl x c
  | chars s =>
    obtain ⟨y, hy, hs⟩ := h.passes
    refine ⟨[y], hy, fun hmem => ?_⟩
    rw [List.mem_singleton.1 hmem, Expr.avoids, hs] at he
    cases he
  | assertion a =>
    obtain ⟨rfl, -⟩ := h
    exact .refl x c
  | seq a b ha hb =>
    obtain ⟨hea, heb⟩ := Bool.and_eq_true_iff.1 he
    obtain ⟨y, hy, hd⟩ := h
    exact (ha hy hea).trans (hb hd heb)
  | either a b ha hb =>
    obtain ⟨hea, heb⟩ := Bool.and_eq_true_iff.1 he
    rcases h with h | h
    · exact ha h hea
    · exact hb h heb
  | group i body ih => exact ih h he
  | repeated body least most greedy ih => exact avoids_of_reflTransGen (fun h => ih h he) h.2
  | _ => cases h

theorem Leads.eq_of_stays (h : e.Leads c d) (he : e.stays = true) : c = d := by
  induction e generalizing c d with
  | empty => exact h
  | chars s => cases he
  | assertion a => exact h.1
  | seq a b ha hb =>
    obtain ⟨hea, heb⟩ := Bool.and_eq_true_iff.1 he
    obtain ⟨y, hy, hd⟩ := h
    obtain rfl := ha hy hea
    exact hb hd heb
  | either a b ha hb =>
    obtain ⟨hea, heb⟩ := Bool.and_eq_true_iff.1 he
    rcases h with h | h
    · exact ha h hea
    · exact hb h heb
  | group i body ih => exact ih h he
  | repeated body least most greedy ih => exact eq_of_reflTransGen (fun h => ih h he) h.2
  | _ => cases h

theorem Leads.starts (h : e.Leads c d) (he : e.starts x = true) : c.after.head? = some x := by
  fun_induction Expr.starts x e generalizing c d with
  | case1 y =>
    obtain rfl := eq_of_beq he
    exact CharSet.Takes.head? h
  | case2 a b ha hb =>
    obtain ⟨y, hy, hd⟩ := h
    rcases Bool.or_eq_true_iff.1 he with hea | heb
    · exact ha hy hea
    · obtain ⟨hstays, heb⟩ := Bool.and_eq_true_iff.1 heb
      obtain rfl := hy.eq_of_stays hstays
      exact hb hd heb
  | case3 a b ha hb =>
    obtain ⟨hea, heb⟩ := Bool.and_eq_true_iff.1 he
    rcases h with h | h
    · exact ha h hea
    · exact hb h heb
  | case4 i body ih => exact ih h he
  | case5 body least most greedy ih =>
    obtain ⟨hleast, hbody⟩ := Bool.and_eq_true_iff.1 he
    obtain ⟨y, hy, -⟩ := TransGen.head'_iff.1 (h.1 hleast)
    exact ih hy hbody
  | case6 => cases h
  | case7 => cases he

theorem Leads.closes (h : e.Leads c d) (he : e.closes x = true) : Meets x c d := by
  fun_induction Expr.closes x e generalizing c d with
  | case1 y =>
    obtain ⟨z, hz, hs⟩ := h.passes
    obtain rfl : z = y := eq_of_beq hs
    obtain rfl := eq_of_beq he
    exact ⟨[], hz, List.not_mem_nil⟩
  | case2 a b hb ha =>
    obtain ⟨y, hy, hd⟩ := h
    rcases Bool.or_eq_true_iff.1 he with he | he
    · obtain ⟨hea, heb⟩ := Bool.and_eq_true_iff.1 he
      exact (hy.avoids hea).meets (hb hd heb)
    · obtain ⟨hea, heb⟩ := Bool.and_eq_true_iff.1 he
      obtain rfl := hd.eq_of_stays heb
      exact ha hy hea
  | case3 a b ha hb =>
    obtain ⟨hea, heb⟩ := Bool.and_eq_true_iff.1 he
    rcases h with h | h
    · exact ha h hea
    · exact hb h heb
  | case4 i body ih => exact ih h he
  | case5 => cases h
  | case6 => cases he

end Expr

/-! ### Plans -/

namespace Plan

/-- Does no match cross the character? -/
def avoids (x : Char) : Plan → Bool
  | unit e => e.avoids x
  | chars s => !s.contains x
  | seq a b | either a b => a.avoids x && b.avoids x
  | group _ body | optional body _ | star body _ | plus body _ | guarded body _ _ | counted body _ _ _
  | atomic body => body.avoids x
  | back _ | backOver _ | sameAs _ _ => false
  | conditional test yes no => test.avoids x && yes.avoids x && no.avoids x
  | _ => true

/-- Does no match lead further? -/
def stays : Plan → Bool
  | unit e => e.stays
  | chars _ => false
  | seq a b | either a b => a.stays && b.stays
  | group _ body | optional body _ | star body _ | plus body _ | guarded body _ _ | counted body _ _ _
  | atomic body => body.stays
  | back _ | backOver _ | sameAs _ _ => false
  | conditional test yes no => test.stays && yes.stays && no.stays
  | _ => true

/-- Does every match begin with the character? -/
def starts (x : Char) : Plan → Bool
  | unit e => e.starts x
  | chars (.single y) => y == x
  | seq a b => a.starts x || a.stays && b.starts x
  | either a b => a.starts x && b.starts x
  | group _ body | plus body _ | atomic body => body.starts x
  | _ => false

/-- Does every match cross the character just once, at its end? -/
def closes (x : Char) : Plan → Bool
  | unit e => e.closes x
  | chars (.single y) => y == x
  | seq a b => a.avoids x && b.closes x || a.closes x && b.stays
  | either a b => a.closes x && b.closes x
  | group _ body | atomic body => body.closes x
  | _ => false

variable {p : Plan}

theorem Leads.avoids (h : p.Leads c d) (hp : p.avoids x = true) : Avoids x c d := by
  induction p generalizing c d with
  | unit e => exact Expr.Leads.avoids h hp
  | chars s => exact Expr.Leads.avoids (e := .chars s) h hp
  | assertion a =>
    obtain ⟨rfl, -⟩ := h
    exact .refl x c
  | seq a b ha hb =>
    obtain ⟨hpa, hpb⟩ := Bool.and_eq_true_iff.1 hp
    obtain ⟨y, hy, hd⟩ := h
    exact (ha hy hpa).trans (hb hd hpb)
  | either a b ha hb =>
    obtain ⟨hpa, hpb⟩ := Bool.and_eq_true_iff.1 hp
    rcases h with h | h
    · exact ha h hpa
    · exact hb h hpb
  | group i body ih | atomic body ih => exact ih h hp
  | optional body greedy ih =>
    rcases h with rfl | h
    · exact .refl x c
    · exact ih h hp
  | star body greedy ih => exact avoids_of_reflTransGen (fun h => ih h hp) h
  | plus body greedy ih => exact avoids_of_reflTransGen (fun h => ih h hp) h.to_reflTransGen
  | guarded body least greedy ih | counted body least most greedy ih =>
    exact avoids_of_reflTransGen (fun h => ih h hp) h.2
  | conditional test yes no ht hy hn =>
    obtain ⟨hp, hpn⟩ := Bool.and_eq_true_iff.1 hp
    obtain ⟨hpt, hpy⟩ := Bool.and_eq_true_iff.1 hp
    rcases h with ⟨y, hty, hd⟩ | h
    · exact (ht hty hpt).trans (hy hd hpy)
    · exact hn h hpn
  | back _ | backOver _ | sameAs _ _ => cases hp
  | done | look _ _ | keepOut | searchStart | groupSet _ =>
    cases h
    exact .refl x c

theorem Leads.eq_of_stays (h : p.Leads c d) (hp : p.stays = true) : c = d := by
  induction p generalizing c d with
  | unit e => exact Expr.Leads.eq_of_stays h hp
  | assertion a => exact h.1
  | seq a b ha hb =>
    obtain ⟨hpa, hpb⟩ := Bool.and_eq_true_iff.1 hp
    obtain ⟨y, hy, hd⟩ := h
    obtain rfl := ha hy hpa
    exact hb hd hpb
  | either a b ha hb =>
    obtain ⟨hpa, hpb⟩ := Bool.and_eq_true_iff.1 hp
    rcases h with h | h
    · exact ha h hpa
    · exact hb h hpb
  | group i body ih | atomic body ih => exact ih h hp
  | optional body greedy ih =>
    rcases h with rfl | h
    · rfl
    · exact ih h hp
  | star body greedy ih => exact eq_of_reflTransGen (fun h => ih h hp) h
  | plus body greedy ih => exact eq_of_reflTransGen (fun h => ih h hp) h.to_reflTransGen
  | guarded body least greedy ih | counted body least most greedy ih =>
    exact eq_of_reflTransGen (fun h => ih h hp) h.2
  | conditional test yes no ht hy hn =>
    obtain ⟨hp, hpn⟩ := Bool.and_eq_true_iff.1 hp
    obtain ⟨hpt, hpy⟩ := Bool.and_eq_true_iff.1 hp
    rcases h with ⟨y, hty, hd⟩ | h
    · obtain rfl := ht hty hpt
      exact hy hd hpy
    · exact hn h hpn
  | chars _ | back _ | backOver _ | sameAs _ _ => cases hp
  | done | look _ _ | keepOut | searchStart | groupSet _ => exact h

theorem Leads.starts (h : p.Leads c d) (hp : p.starts x = true) : c.after.head? = some x := by
  fun_induction Plan.starts x p generalizing c d with
  | case1 e => exact Expr.Leads.starts h hp
  | case2 y =>
    obtain rfl := eq_of_beq hp
    exact CharSet.Takes.head? h
  | case3 a b ha hb =>
    obtain ⟨y, hy, hd⟩ := h
    rcases Bool.or_eq_true_iff.1 hp with hpa | hpb
    · exact ha hy hpa
    · obtain ⟨hstays, hpb⟩ := Bool.and_eq_true_iff.1 hpb
      obtain rfl := hy.eq_of_stays hstays
      exact hb hd hpb
  | case4 a b ha hb =>
    obtain ⟨hpa, hpb⟩ := Bool.and_eq_true_iff.1 hp
    rcases h with h | h
    · exact ha h hpa
    · exact hb h hpb
  | case5 i body ih => exact ih h hp
  | case6 body greedy ih =>
    obtain ⟨y, hy, -⟩ := TransGen.head'_iff.1 h
    exact ih hy hp
  | case7 body ih => exact ih h hp
  | case8 => cases hp

theorem Leads.closes (h : p.Leads c d) (hp : p.closes x = true) : Meets x c d := by
  fun_induction Plan.closes x p generalizing c d with
  | case1 e => exact Expr.Leads.closes h hp
  | case2 y => exact Expr.Leads.closes (e := .chars (.single y)) h hp
  | case3 a b hb ha =>
    obtain ⟨y, hy, hd⟩ := h
    rcases Bool.or_eq_true_iff.1 hp with hp | hp
    · obtain ⟨hpa, hpb⟩ := Bool.and_eq_true_iff.1 hp
      exact (hy.avoids hpa).meets (hb hd hpb)
    · obtain ⟨hpa, hpb⟩ := Bool.and_eq_true_iff.1 hp
      obtain rfl := hd.eq_of_stays hpb
      exact ha hy hpa
  | case4 a b ha hb =>
    obtain ⟨hpa, hpb⟩ := Bool.and_eq_true_iff.1 hp
    rcases h with h | h
    · exact ha h hpa
    · exact hb h hpb
  | case5 i body ih => exact ih h hp
  | case6 body ih => exact ih h hp
  | case7 => cases hp

end Plan

end Regex

open Regex

/-! ### Searches -/

section
variable {r : Regex} {place : Cursor} {whole : Capture} {groups : List (Option Capture)} {x : Char}

/-- **A match crosses no character that its plan avoids.** -/
theorem avoids_of_search (hanchored : r.anchored = true) (hr : r.plan.avoids x = true)
    (h : r.search place = .found whole groups) : Avoids x place whole.last :=
  (leads_of_search hanchored h).avoids hr

/-- **A match begins with the character with which its plan starts.** -/
theorem starts_of_search (hanchored : r.anchored = true) (hr : r.plan.starts x = true)
    (h : r.search place = .found whole groups) : place.after.head? = some x :=
  (leads_of_search hanchored h).starts hr

/-- **A match ends behind the first character with which its plan closes.** -/
theorem closes_of_search (hanchored : r.anchored = true) (hr : r.plan.closes x = true)
    (h : r.search place = .found whole groups) : Meets x place whole.last :=
  (leads_of_search hanchored h).closes hr

end

end Listfile
