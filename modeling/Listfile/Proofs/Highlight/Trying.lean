import Listfile.Proofs.Grammar.Sketching
import Listfile.Proofs.Highlight.Reaching
import Listfile.Proofs.Regex.Returning

/-!
# Trying sketched rules

What is sketched of the rules of a context tells which of them matches first at a place, or at least what such
a match leaves behind.

* `tryRule_of_search`, `tryRule_of_excludes`, `exists_tryRule_sets`, `exists_tryRule_run`: a rule on its own.
* **`findSome?_of_all`**, **`exists_findSome?_sets`**, **`stays_or_none`**: the rules of a context in turn.
-/

namespace Listfile.Highlight

open Grammar Regex

/-! ### One rule -/

section
variable {frame : Frame} {place : Cursor} {k : Sketch} {rule : Rule} {hit : Hit}

theorem tryRule_fixed {source : List Char} {r : Regex} (h : rule.pattern = .fixed source r) :
    tryRule frame place rule = hit? place rule r := by
  unfold tryRule
  rw [h]
  rfl

theorem hit?_of_passes {r : Regex} {u : List Char} {d : Cursor} {groups : List (Option Capture)} (hu : u ≠ [])
    (hd : place.Passes u d) (h : r.search place = .found ⟨place, d⟩ groups) :
    hit? place rule r = some ⟨rule, ⟨place, d⟩, groups⟩ := by
  unfold hit?
  rw [h]
  have hlt := hd.offset_lt hu
  exact if_neg fun hsame => absurd hsame.1 (Nat.ne_of_gt hlt)

theorem hit?_of_found {r : Regex} {whole : Capture} {groups : List (Option Capture)}
    (h : r.search place = .found whole groups) (haction : rule.action ≠ .stay) :
    hit? place rule r = some ⟨rule, whole, groups⟩ := by
  unfold hit?
  rw [h]
  exact if_neg fun hsame => haction hsame.2

theorem hit?_of_notFound {r : Regex} (h : r.search place = .notFound) : hit? place rule r = none := by
  unfold hit?
  rw [h]

/-- A rule whose pattern is not found does not match. -/
theorem tryRule_of_search {source : List Char} {r : Regex} (h : rule.pattern = .fixed source r)
    (hno : ∀ whole groups, r.search place ≠ .found whole groups) : tryRule frame place rule = none := by
  rw [tryRule_fixed h]
  exact Option.eq_none_iff_forall_ne_some.2 fun hit hhit => hno _ _ (hit?_eq_some hhit).2.1

/-- A rule that is excluded does not match. -/
theorem tryRule_of_excludes (h : Obeys k rule) (hk : k.excludes place.after = true) :
    tryRule frame place rule = none := by
  obtain ⟨trait, action, groups⟩ := k
  obtain ⟨source, r, hpattern, htrait⟩ := h.pattern
  have hk : trait.excludes (action == .stay) place.after = true := hk
  rw [tryRule_fixed hpattern]
  refine Option.eq_none_iff_forall_ne_some.2 fun hit hhit => ?_
  obtain ⟨-, hsearch, hstay⟩ := hit?_eq_some hhit
  cases trait with
  | sets ss =>
    rcases search_sets (of_decide_eq_true htrait) place with ⟨u, d, hu, hd, -⟩ | ⟨-, hnot⟩
    · rw [Trait.excludes, fitsFront_iff.2 ⟨u, hu, d.after, hd.after.symm⟩] at hk
      cases hk
    · rw [hnot] at hsearch
      cases hsearch
  | run s =>
    rcases search_run (of_decide_eq_true htrait) place with ⟨u, d, hne, hs, hd, -⟩ | ⟨-, hnot⟩
    · cases u with
      | nil => exact hne rfl
      | cons x u =>
        have hx : s.contains x = true := hs x List.mem_cons_self
        rw [Trait.excludes, hd.after] at hk
        simp [hx] at hk
    · rw [hnot] at hsearch
      cases hsearch
  | loose first others =>
    obtain ⟨hboth, hothers⟩ := Bool.and_eq_true_iff.1 htrait
    obtain ⟨hboth, hfirst⟩ := Bool.and_eq_true_iff.1 hboth
    obtain ⟨hanchored, -⟩ := Bool.and_eq_true_iff.1 hboth
    rcases Bool.or_eq_true_iff.1 hk with hk | hk
    · cases first with
      | none => cases hk
      | some x =>
        have hhead := starts_of_search hanchored hfirst hsearch
        simp [hhead] at hk
    · obtain ⟨haction, hhead⟩ := Bool.and_eq_true_iff.1 hk
      cases hafter : place.after with
      | nil =>
        rw [hafter] at hhead
        cases hhead
      | cons x rest =>
        rw [hafter] at hhead
        have hx : x ∈ others := List.contains_iff_mem.1 hhead
        obtain ⟨u, hu, hxu⟩ := avoids_of_search hanchored (List.all_eq_true.1 hothers x hx) hsearch
        -- the match would have to be empty, since it cannot begin with the character ahead
        cases u with
        | nil => exact hstay (h.action.trans (eq_of_beq haction)) hu.offset
        | cons y u =>
          obtain ⟨rfl, -⟩ := List.cons_eq_cons.1 (hafter.symm.trans hu.after)
          exact hxu List.mem_cons_self
  | closes x =>
    obtain ⟨hboth, hcloses⟩ := Bool.and_eq_true_iff.1 htrait
    obtain ⟨hanchored, -⟩ := Bool.and_eq_true_iff.1 hboth
    obtain ⟨u, hu, -⟩ := closes_of_search hanchored hcloses hsearch
    have hx : x ∈ place.after := by
      rw [hu.after]
      simp
    simp [Trait.excludes, hx] at hk

/-- Nor does one whose first character does not stand ahead. -/
theorem tryRule_of_head? {x : Char} (h : Obeys k rule) (hk : k.first? = some x) (hplace : place.after.head? ≠ some x) :
    tryRule frame place rule = none :=
  tryRule_of_excludes h (excludes_of_head? hk hplace)

variable (frame) in
/-- A rule for characters of some sets matches where they stand ahead. -/
theorem exists_tryRule_sets {ss : List CharSet} {action : Action} {groups : List Nat} (hss : ss ≠ [])
    (h : Obeys ⟨.sets ss, action, groups⟩ rule) (hfits : fitsFront ss place.after = true) :
    ∃ u d, Fits ss u ∧ u ≠ [] ∧ place.Passes u d ∧ tryRule frame place rule = some ⟨rule, ⟨place, d⟩, []⟩ := by
  obtain ⟨source, r, hpattern, htrait⟩ := h.pattern
  rw [tryRule_fixed hpattern]
  rcases search_sets (of_decide_eq_true htrait) place with ⟨u, d, hu, hd, hsearch⟩ | ⟨hno, -⟩
  · have hne : u ≠ [] := by
      rintro rfl
      cases hu
      exact hss rfl
    exact ⟨u, d, hu, hne, hd, hit?_of_passes hne hd hsearch⟩
  · obtain ⟨u, hu, hprefix⟩ := fitsFront_iff.1 hfits
    exact absurd hprefix (hno u hu)

variable (frame) in
/-- A rule for a run of characters matches where one of them stands ahead. -/
theorem exists_tryRule_run {s : CharSet} {action : Action} {groups : List Nat}
    (h : Obeys ⟨.run s, action, groups⟩ rule) (hhead : place.after.head?.any s.contains = true) :
    ∃ u d, u ≠ [] ∧ (∀ x ∈ u, s.contains x = true) ∧ place.Passes u d ∧
      tryRule frame place rule = some ⟨rule, ⟨place, d⟩, []⟩ := by
  obtain ⟨source, r, hpattern, htrait⟩ := h.pattern
  rw [tryRule_fixed hpattern]
  rcases search_run (of_decide_eq_true htrait) place with ⟨u, d, hne, hs, hd, hsearch⟩ | ⟨hno, -⟩
  · exact ⟨u, d, hne, hs, hd, hit?_of_passes hne hd hsearch⟩
  · rw [hno] at hhead
    cases hhead

/-- A rule that closes with a character passes the text up to the first of them. -/
theorem passes_of_closes {x : Char} {action : Action} {groups : List Nat} {u rest : List Char}
    (h : Obeys ⟨.closes x, action, groups⟩ rule) (hx : x ∉ u) (hahead : place.after = u ++ x :: rest)
    (hhit : tryRule frame place rule = some hit) :
    hit.rule.action = action ∧ hit.whole.first = place ∧ place.Passes (u ++ [x]) hit.whole.last := by
  obtain ⟨source, r, hpattern, htrait⟩ := h.pattern
  obtain ⟨hboth, hcloses⟩ := Bool.and_eq_true_iff.1 htrait
  obtain ⟨hanchored, hkeeps⟩ := Bool.and_eq_true_iff.1 hboth
  rw [tryRule_fixed hpattern] at hhit
  obtain ⟨hrule, hsearch, -⟩ := hit?_eq_some hhit
  refine ⟨hrule ▸ h.action, first_of_search hanchored (of_decide_eq_true hkeeps) hsearch, ?_⟩
  obtain ⟨v, hv, hxv⟩ := closes_of_search hanchored hcloses hsearch
  -- both texts end before the first such character
  have hsame : v ++ x :: hit.whole.last.after = u ++ x :: rest := by
    rw [← hahead, hv.after, List.append_assoc, List.singleton_append]
  obtain rfl : v = u := by
    have hcut := congrArg (List.takeWhile (· != x)) hsame
    have htake (w : List Char) (hw : x ∉ w) (more : List Char) :
        (w ++ x :: more).takeWhile (· != x) = w := by
      rw [List.takeWhile_append_of_pos]
      · simp
      · intro y hy
        rw [bne_iff_ne]
        rintro rfl
        exact hw hy
    rwa [htake v hxv, htake u hx] at hcut
  exact hv

/-- A rule that keeps its context passes some text, and none of the characters that it stays off. -/
theorem exists_passes_of_staysOff {xs : List Char} (hxs : xs ≠ []) (h : Obeys k rule)
    (hk : k.staysOff xs = true) (hhit : tryRule frame place rule = some hit) :
    hit.rule.action = .stay ∧ hit.whole.first = place ∧
      ∃ u, u ≠ [] ∧ place.Passes u hit.whole.last ∧ ∀ x ∈ xs, x ∉ u := by
  obtain ⟨trait, action, groups⟩ := k
  obtain ⟨source, r, hpattern, htrait⟩ := h.pattern
  obtain ⟨haction, havoids⟩ := Bool.and_eq_true_iff.1 hk
  rw [tryRule_fixed hpattern] at hhit
  obtain ⟨hrule, hsearch, hstay⟩ := hit?_eq_some hhit
  have haction : rule.action = .stay := h.action.trans (eq_of_beq haction)
  have hmoves := hstay haction
  rw [hrule]
  refine ⟨haction, ?_⟩
  have hne {u : List Char} (hu : place.Passes u hit.whole.last) : u ≠ [] := by
    rintro rfl
    exact hmoves hu.offset
  have hoff : ∀ x ∈ xs, trait.avoids x = true := List.all_eq_true.1 havoids
  cases trait with
  | sets ss =>
    rcases search_sets (of_decide_eq_true htrait) place with ⟨u, d, hu, hd, hfound⟩ | ⟨-, hnot⟩
    · obtain ⟨hwhole, -⟩ := SearchResult.found.inj (hsearch.symm.trans hfound)
      rw [hwhole] at hne ⊢
      refine ⟨rfl, u, hne hd, hd, fun x hx => hu.not_mem fun s hs => ?_⟩
      exact Bool.not_eq_true' _ ▸ List.all_eq_true.1 (hoff x hx) s hs
    · rw [hnot] at hsearch
      cases hsearch
  | run s =>
    rcases search_run (of_decide_eq_true htrait) place with ⟨u, d, -, hs, hd, hfound⟩ | ⟨-, hnot⟩
    · obtain ⟨hwhole, -⟩ := SearchResult.found.inj (hsearch.symm.trans hfound)
      rw [hwhole] at hne ⊢
      refine ⟨rfl, u, hne hd, hd, fun x hx hmem => ?_⟩
      have hout := hoff x hx
      rw [Trait.avoids, hs x hmem] at hout
      cases hout
    · rw [hnot] at hsearch
      cases hsearch
  | loose first others =>
    obtain ⟨hboth, hothers⟩ := Bool.and_eq_true_iff.1 htrait
    obtain ⟨hboth, -⟩ := Bool.and_eq_true_iff.1 hboth
    obtain ⟨hanchored, hkeeps⟩ := Bool.and_eq_true_iff.1 hboth
    have hpasses : ∀ x ∈ xs, Avoids x place hit.whole.last := fun x hx =>
      avoids_of_search hanchored (List.all_eq_true.1 hothers x (List.contains_iff_mem.1 (hoff x hx))) hsearch
    obtain ⟨x, hx⟩ := List.exists_mem_of_ne_nil xs hxs
    obtain ⟨u, hu, -⟩ := hpasses x hx
    refine ⟨first_of_search hanchored (of_decide_eq_true hkeeps) hsearch, u, hne hu, hu, fun y hy => ?_⟩
    obtain ⟨v, hv, hyv⟩ := hpasses y hy
    rwa [hu.unique_text hv]
  | closes x =>
    obtain ⟨y, hy⟩ := List.exists_mem_of_ne_nil xs hxs
    cases hoff y hy

end

/-! ### Rules in turn -/

section
variable {frame : Frame} {place : Cursor} {ks : List Sketch} {rules : List Rule}

/-- The first rule that matches in the context on top of the stack is looked for. -/
theorem findMatch_of_rules {g : Grammar} {id : Nat} (hrules : (g.context id).rules = rules)
    (captures : List (Option (List Char))) (below : Stack) (place : Cursor) :
    findMatch g (⟨id, captures⟩ :: below) place = rules.findSome? (tryRule ⟨id, captures⟩ place) := hrules ▸ rfl

/-- No rule matches if all of them are excluded. -/
theorem findSome?_of_all (h : List.Forall₂ Obeys ks rules)
    (hks : ks.all (Sketch.excludes place.after) = true) : rules.findSome? (tryRule frame place) = none := by
  induction h with
  | nil => rfl
  | cons hrule _ ih =>
    obtain ⟨hk, hks⟩ := Bool.and_eq_true_iff.1 ((List.all_cons ..).symm.trans hks)
    rw [List.findSome?_cons, tryRule_of_excludes hrule hk]
    exact ih hks

variable (frame) in
/-- The rules that are excluded are passed over. -/
theorem exists_findSome?_eq (h : List.Forall₂ Obeys ks rules) {k : Sketch} {more : List Sketch}
    (hks : ks.dropWhile (Sketch.excludes place.after) = k :: more) :
    ∃ rule rules', Obeys k rule ∧ List.Forall₂ Obeys more rules' ∧
      rules.findSome? (tryRule frame place) = (rule :: rules').findSome? (tryRule frame place) := by
  induction h with
  | nil => cases hks
  | @cons k' rule ks rules hrule hrules ih =>
    rw [List.dropWhile_cons] at hks
    split at hks
    · rename_i hk
      obtain ⟨rule', rules', hrule', hrules', hfind⟩ := ih hks
      refine ⟨rule', rules', hrule', hrules', ?_⟩
      rw [List.findSome?_cons, tryRule_of_excludes hrule hk]
      exact hfind
    · cases hks
      exact ⟨rule, rules, hrule, hrules, rfl⟩

variable (frame) in
/-- **The first rule that is not excluded matches**, if it is one for characters of some sets. -/
theorem exists_findSome?_sets (h : List.Forall₂ Obeys ks rules) {ss : List CharSet} {action : Action}
    {groups : List Nat} {more : List Sketch} (hss : ss ≠ [])
    (hks : ks.dropWhile (Sketch.excludes place.after) = ⟨.sets ss, action, groups⟩ :: more) :
    ∃ rule u d, Obeys ⟨.sets ss, action, groups⟩ rule ∧ Fits ss u ∧ u ≠ [] ∧ place.Passes u d ∧
      rules.findSome? (tryRule frame place) = some ⟨rule, ⟨place, d⟩, []⟩ := by
  obtain ⟨rule, rules', hrule, -, hfind⟩ := exists_findSome?_eq frame h hks
  have hfits : fitsFront ss place.after = true := by
    have hhead := List.head?_dropWhile_not (Sketch.excludes place.after) ks
    rw [hks] at hhead
    simpa [Sketch.excludes, Trait.excludes] using hhead
  obtain ⟨u, d, hu, hne, hd, htry⟩ := exists_tryRule_sets frame hss hrule hfits
  refine ⟨rule, u, d, hrule, hu, hne, hd, ?_⟩
  rw [hfind, List.findSome?_cons, htry]

variable (frame) in
/-- **Whatever rule matches, if one does, passes some text that has none of the characters** that the rules
stay off which are not excluded. -/
theorem stays_or_none (h : List.Forall₂ Obeys ks rules) {xs : List Char} (hxs : xs ≠ [])
    (hks : ks.all (fun k => k.excludes place.after || k.staysOff xs) = true) :
    rules.findSome? (tryRule frame place) = none ∨
      ∃ hit u, rules.findSome? (tryRule frame place) = some hit ∧ hit.rule.action = .stay ∧
        hit.whole.first = place ∧ u ≠ [] ∧ place.Passes u hit.whole.last ∧ ∀ x ∈ xs, x ∉ u := by
  induction h with
  | nil => exact .inl rfl
  | @cons k rule ks rules hrule _ ih =>
    obtain ⟨hk, hks⟩ := Bool.and_eq_true_iff.1 ((List.all_cons ..).symm.trans hks)
    rw [List.findSome?_cons]
    cases htry : tryRule frame place rule with
    | none => exact ih hks
    | some hit =>
      rcases Bool.or_eq_true_iff.1 hk with hk | hk
      · rw [tryRule_of_excludes hrule hk] at htry
        cases htry
      · obtain ⟨hstay, hfirst, u, hne, hu, hoff⟩ := exists_passes_of_staysOff hxs hrule hk htry
        exact .inr ⟨hit, u, rfl, hstay, hfirst, hne, hu, hoff⟩

end

end Listfile.Highlight
