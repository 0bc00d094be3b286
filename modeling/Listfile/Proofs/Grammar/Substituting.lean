import Listfile.Grammar.Backrefs
import Listfile.Proofs.Grammar.Quoting

/-!
# Texts of captures in patterns

The text of a capture is quoted where it is put into a pattern, so that nothing in it can be taken for a part of the
pattern or for another reference.

* `hasBackrefs_quote_append`, `substituteBackrefs_quote_append`: quoted text is passed over.
* `substituteBackrefs_of_not_hasBackrefs`, `length_substituteBackrefs_nil`: only references are replaced.
* **`substituteBackrefs_eq_self_iff`**: the patterns with references are those that texts change, and once texts have
  been put in there are none left.
* `exists_search_quote`: what a quoted text matches, even if it is empty.
* **`search_quotedBackref`**: a reference between quoted texts matches just these texts and the one captured.
-/

namespace Listfile.Grammar

open Regex

variable {p : List Char} {c : Char}

/-! ### Quoted text -/

/-- What is quoted behind a backslash refers to no group. -/
theorem referredGroup?_of_isMeta (h : isMeta c = true) : referredGroup? c = none := by
  have hall : ['\\', '.', '+', '*', '?', '(', ')', '|', '[', ']', '\x7B', '\x7D', '^', '$', '#', '&', '-', '~'].all
      (fun c => (referredGroup? c).isNone) = true := by decide
  exact Option.isNone_iff_eq_none.1 (List.all_eq_true.1 hall c (List.contains_iff_mem.1 h))

theorem hasBackrefs_cons (hc : c ≠ '\\') (p : List Char) : hasBackrefs (c :: p) = hasBackrefs p :=
  hasBackrefs.eq_2 c p fun _ _ hback _ => hc hback

theorem substituteBackrefs_cons (hc : c ≠ '\\') (captures : List (Option (List Char))) (p : List Char) :
    substituteBackrefs captures (c :: p) = c :: substituteBackrefs captures p :=
  substituteBackrefs.eq_2 captures c p fun _ _ hback _ => hc hback

theorem ne_backslash_of_isMeta (h : isMeta c = false) : c ≠ '\\' := by
  rintro rfl
  cases h

/-- Quoted text has no references in it, and none begins at its end. -/
theorem hasBackrefs_quote_append (s p : List Char) : hasBackrefs (quote s ++ p) = hasBackrefs p := by
  induction s with
  | nil => rfl
  | cons c s ih =>
    rw [quote_cons]
    cases hc : isMeta c with
    | true =>
      show ((referredGroup? c).isSome || hasBackrefs (quote s ++ p)) = _
      rw [referredGroup?_of_isMeta hc, ih]
      rfl
    | false => exact (hasBackrefs_cons (ne_backslash_of_isMeta hc) _).trans ih

/-- Quoted text stays as it is when texts are put in behind it. -/
theorem substituteBackrefs_quote_append (captures : List (Option (List Char))) (s p : List Char) :
    substituteBackrefs captures (quote s ++ p) = quote s ++ substituteBackrefs captures p := by
  induction s with
  | nil => rfl
  | cons c s ih =>
    rw [quote_cons]
    cases hc : isMeta c with
    | true =>
      have hpair : substituteBackrefs captures ('\\' :: c :: (quote s ++ p))
          = '\\' :: c :: substituteBackrefs captures (quote s ++ p) := by
        rw [substituteBackrefs, referredGroup?_of_isMeta hc]
        rfl
      rw [ih] at hpair
      exact hpair
    | false => exact (substituteBackrefs_cons (ne_backslash_of_isMeta hc) captures _).trans (congrArg (c :: ·) ih)

/-! ### Patterns that texts change -/

/-- **Without references a pattern stays as it is.** -/
theorem substituteBackrefs_of_not_hasBackrefs (h : hasBackrefs p = false) (captures : List (Option (List Char))) :
    substituteBackrefs captures p = p := by
  fun_induction substituteBackrefs captures p with
  | case1 c cs ih =>
    obtain ⟨hgroup, hrest⟩ := Bool.or_eq_false_iff.1 h
    rw [ih hrest, Option.not_isSome_iff_eq_none.1 (Bool.eq_false_iff.1 hgroup)]
    rfl
  | case2 c cs hno ih =>
    rw [hasBackrefs.eq_2 c cs hno] at h
    rw [ih h]
  | case3 => rfl

/-- With nothing in place of references the pattern gets shorter, if there are any. -/
theorem length_substituteBackrefs_nil (p : List Char) :
    (substituteBackrefs [] p).length ≤ p.length ∧
      (hasBackrefs p = true → (substituteBackrefs [] p).length < p.length) := by
  fun_induction hasBackrefs p with
  | case1 c cs ih =>
    obtain ⟨hle, hlt⟩ := ih
    rw [substituteBackrefs]
    cases hgroup : referredGroup? c with
    | some i =>
      have hnothing : quote (capturedText [] i) = [] := rfl
      dsimp only
      rw [hnothing, List.nil_append, List.length_cons, List.length_cons]
      omega
    | none =>
      dsimp only [List.cons_append, List.nil_append, List.length_cons]
      exact ⟨Nat.add_le_add_right hle 2, fun h => Nat.add_lt_add_right (hlt h) 2⟩
  | case2 c cs hno ih =>
    obtain ⟨hle, hlt⟩ := ih
    rw [substituteBackrefs.eq_2 [] c cs hno, List.length_cons, List.length_cons]
    exact ⟨Nat.succ_le_succ hle, fun h => Nat.succ_lt_succ (hlt h)⟩
  | case3 => exact ⟨Nat.le_refl _, nofun⟩

/-- **With texts in it a pattern refers to nothing**, whatever the texts are and wherever they stand. -/
theorem hasBackrefs_substituteBackrefs (captures : List (Option (List Char))) (p : List Char) :
    hasBackrefs (substituteBackrefs captures p) = false := by
  fun_induction substituteBackrefs captures p with
  | case1 c cs ih =>
    cases hgroup : referredGroup? c with
    | some i =>
      dsimp only
      rw [hasBackrefs_quote_append, ih]
    | none =>
      show ((referredGroup? c).isSome || hasBackrefs (substituteBackrefs captures cs)) = false
      rw [hgroup, ih]
      rfl
  | case2 c cs hno ih =>
    by_cases hc : c = '\\'
    · -- a backslash without a character behind it ends the pattern
      subst hc
      cases cs with
      | nil => rfl
      | cons d ds => exact absurd rfl (hno d ds rfl)
    · rw [hasBackrefs_cons hc, ih]
  | case3 => rfl

/-- **References are what texts are put in for.**  A pattern has none exactly if it stays as it is whatever the texts
are.  None are left with texts in it, so that putting texts in once more changes nothing. -/
theorem substituteBackrefs_eq_self_iff (p : List Char) :
    (hasBackrefs p = false ↔ ∀ captures, substituteBackrefs captures p = p) ∧
      ∀ captures, hasBackrefs (substituteBackrefs captures p) = false ∧
        ∀ others, substituteBackrefs others (substituteBackrefs captures p) = substituteBackrefs captures p := by
  refine ⟨⟨substituteBackrefs_of_not_hasBackrefs, fun hkeeps => ?_⟩, fun captures => ?_⟩
  · refine Bool.eq_false_iff.2 fun hrefers => ?_
    have hshorter := (length_substituteBackrefs_nil p).2 hrefers
    rw [hkeeps []] at hshorter
    exact Nat.lt_irrefl _ hshorter
  · have hnone := hasBackrefs_substituteBackrefs captures p
    exact ⟨hnone, substituteBackrefs_of_not_hasBackrefs hnone⟩

-- The text ends with a backslash, and a digit follows behind the reference.
example : substituteBackrefs [none, some ['\\']] r"\11\\1".toList = r"\\1\\1".toList ∧
    hasBackrefs r"\\1\\1".toList = false := by decide

/-! ### What the text of a capture matches -/

/-- What matches wherever it is searched for, and takes nothing. -/
def nothing : Regex := ⟨.searchStart, 0, true⟩

theorem compileAnchored_nil : compileAnchored [] = .ok nothing := by rfl

theorem search_nothing (place : Cursor) : nothing.search place = .found ⟨place, place⟩ [] := by
  have hstart : (⟨[.follow .searchStart, .mark 1], (Thread.start 0 place).mark 0, [], 0⟩ : Machine).step place.offset
      = .goOn ⟨[.mark 1], (Thread.start 0 place).mark 0, [], 0⟩ := by
    show Machine.goOnIf _ _ (place.offset == place.offset) = _
    rw [beq_self_eq_true]
    rfl
  have hverdict : nothing.verdict place = .found (((Thread.start 0 place).mark 0).mark 1) := by
    refine search_of_done ?_
    show (nothing.machine place).run place.offset (4 + 1 + 1) = _
    exact (run_step rfl).trans (run_step hstart)
  have hwhole : (((Thread.start 0 place).mark 0).mark 1).whole? = some ⟨place, place⟩ :=
    congrArg some (if_neg (Nat.lt_irrefl _))
  rw [search_eq, hverdict]
  dsimp only
  rw [hwhole]
  rfl

/-- **A quoted text is a pattern for that text**, which is found exactly where it stands ahead. -/
theorem exists_search_quote (s : List Char) : ∃ r, compileAnchored (quote s) = .ok r ∧ ∀ place : Cursor,
    (∃ d, place.Passes s d ∧ r.search place = .found ⟨place, d⟩ []) ∨
      (¬ s <+: place.after ∧ r.search place = .notFound) := by
  by_cases hs : s = []
  · subst hs
    exact ⟨nothing, compileAnchored_nil, fun place => .inl ⟨place, .refl place, search_nothing place⟩⟩
  · obtain ⟨r, hr, htext⟩ := compileAnchored_quote hs
    exact ⟨r, hr, search_text htext⟩

/-- A reference to the first group between quoted texts becomes quoted text. -/
theorem substituteBackrefs_quotedBackref {captures : List (Option (List Char))} {t : List Char}
    (h : captures[1]? = some (some t)) (a b : List Char) :
    substituteBackrefs captures (quote a ++ ('\\' :: '1' :: quote b)) = quote (a ++ t ++ b) := by
  have htext : capturedText captures 1 = t := by
    rw [capturedText, h]
    rfl
  have hreference : substituteBackrefs captures ('\\' :: '1' :: quote b)
      = quote (capturedText captures 1) ++ substituteBackrefs captures (quote b) := rfl
  have hbehind := substituteBackrefs_quote_append captures b []
  rw [List.append_nil] at hbehind
  rw [substituteBackrefs_quote_append, hreference, htext, hbehind, quote_append, quote_append, List.append_assoc]
  exact congrArg (fun u => quote a ++ (quote t ++ u)) (List.append_nil _)

/-- **A reference between quoted texts stands for the text that was captured, literally.**  With that text in it the
pattern compiles.  It is found at a place of a line exactly if the three texts stand ahead one behind the other, and
then they are what it matches. -/
theorem search_quotedBackref (a b t : List Char) (whole : Option (List Char)) (more : List (Option (List Char))) :
    ∃ r, compileAnchored (substituteBackrefs (whole :: some t :: more) (quote a ++ ('\\' :: '1' :: quote b))) = .ok r ∧
      ∀ place : Cursor,
        (a ++ t ++ b <+: place.after ∧ ∃ c, r.search place = .found c [] ∧
          c.span = ⟨place.offset, place.offset + byteLength (a ++ t ++ b)⟩ ∧ c.text = a ++ t ++ b) ∨
        (¬ a ++ t ++ b <+: place.after ∧ r.search place = .notFound) := by
  rw [substituteBackrefs_quotedBackref rfl]
  obtain ⟨r, hr, hsearch⟩ := exists_search_quote (a ++ t ++ b)
  refine ⟨r, hr, fun place => ?_⟩
  rcases hsearch place with ⟨d, hd, hfound⟩ | hnot
  · refine .inl ⟨⟨d.after, hd.after.symm⟩, ⟨place, d⟩, hfound, ?_, hd.sliceTo⟩
    rw [Capture.span, hd.offset]
  · exact .inr hnot

end Listfile.Grammar
