import Listfile.Proofs.Text.Lines
import Listfile.Proofs.Text.Spans

/-!
# Carriage returns before line feeds

* `FeedsReturned`: every line feed stands behind a carriage return.
* `withReturns`: a text with a carriage return put before every line feed.
* `splitLines_withReturns`, `lineContent_withReturns`: it has the same lines, with the same contents.
* `behindReturns`: where an offset of the text is found again.
* **`slice?_withReturns`**: what stands in a span without a line feed is found again.
-/

namespace Listfile

variable {s t text : List Char}

/-! ### Line feeds behind carriage returns -/

/-- Every line feed stands behind a carriage return. -/
def FeedsReturned (s : List Char) : Prop :=
  ∀ front back, s = front ++ '\n' :: back → front.getLast? = some '\r'

theorem feedsReturned_of_notMem (h : '\n' ∉ s) : FeedsReturned s := by
  rintro front back rfl
  exact absurd (List.mem_append_right front (.head back)) h

theorem FeedsReturned.left (h : FeedsReturned (s ++ t)) : FeedsReturned s := by
  rintro front back rfl
  exact h front (back ++ t) (by simp)

theorem FeedsReturned.right (h : FeedsReturned (s ++ t))
    (hst : s.getLast? = some '\r' → t.head? ≠ some '\n') : FeedsReturned t := by
  rintro front back rfl
  have hlast := h (s ++ front) back (by simp)
  rw [List.getLast?_append] at hlast
  cases front with
  | nil => exact absurd rfl (hst hlast)
  | cons c front =>
    rw [List.getLast?_cons] at hlast ⊢
    exact hlast

theorem FeedsReturned.append (hs : FeedsReturned s) (ht : FeedsReturned t) : FeedsReturned (s ++ t) := by
  intro front back h
  rcases List.append_eq_append_iff.1 h with ⟨between, rfl, hback⟩ | ⟨between, hfront, hback⟩
  · rw [List.getLast?_append, ht between back hback]
    rfl
  · cases between with
    | nil => cases ht [] back hback.symm
    | cons c between =>
      cases hback
      exact hs front between hfront

/-! ### Putting carriage returns before line feeds -/

/-- The text with a carriage return put before every line feed. -/
def withReturns (text : List Char) : List Char := text.flatMap fun c => if c = '\n' then ['\r', '\n'] else [c]

@[simp] theorem withReturns_nil : withReturns [] = [] := rfl

theorem withReturns_cons (c : Char) (text : List Char) :
    withReturns (c :: text) = (if c = '\n' then ['\r', '\n'] else [c]) ++ withReturns text := rfl

@[simp] theorem withReturns_append (s t : List Char) :
    withReturns (s ++ t) = withReturns s ++ withReturns t := List.flatMap_append

theorem withReturns_of_notMem (h : '\n' ∉ text) : withReturns text = text := by
  induction text with
  | nil => rfl
  | cons c text ih =>
    obtain ⟨hc, htext⟩ := not_or.1 (mt List.mem_cons.2 h)
    rw [withReturns_cons, if_neg (Ne.symm hc), ih htext]
    rfl

theorem feedsReturned_withReturns (text : List Char) : FeedsReturned (withReturns text) := by
  induction text with
  | nil => exact feedsReturned_of_notMem List.not_mem_nil
  | cons c text ih =>
    rw [withReturns_cons]
    refine FeedsReturned.append ?_ ih
    split
    · -- the line feed can only be the second of the two
      rintro front back hsplit
      match front, hsplit with
      | [], hsplit => cases hsplit
      | [c], hsplit =>
        cases hsplit
        rfl
      | c :: d :: front, hsplit =>
        have hlength := congrArg List.length hsplit
        simp at hlength
    · rename_i hc
      exact feedsReturned_of_notMem (by simpa using Ne.symm hc)

/-- Each line feed comes with one more byte. -/
theorem byteLength_withReturns (text : List Char) :
    byteLength (withReturns text) = byteLength text + text.count '\n' := by
  induction text with
  | nil => rfl
  | cons c text ih =>
    rw [withReturns_cons, byteLength_append, ih, byteLength_cons, List.count_cons]
    split
    · rename_i hc
      subst hc
      have hends : byteLength ['\r', '\n'] = '\n'.utf8Size + 1 := rfl
      rw [hends, if_pos (beq_self_eq_true _)]
      omega
    · rename_i hc
      rw [if_neg (by simpa using hc), byteLength_cons, byteLength_nil]
      omega

/-! ### Lines -/

theorem splitLinesFrom_withReturns {begun : List Char} (h : '\n' ∉ begun) :
    splitLinesFrom begun (withReturns text) = (splitLinesFrom begun text).map withReturns := by
  induction text generalizing begun with
  | nil =>
    cases begun with
    | nil => rfl
    | cons c begun =>
      have hline : '\n' ∉ (c :: begun).reverse := fun hmem => h (List.mem_reverse.1 hmem)
      rw [withReturns_nil, splitLinesFrom, List.map_singleton, withReturns_of_notMem hline]
      · exact List.cons_ne_nil _ _
  | cons c text ih =>
    rw [withReturns_cons]
    split
    · rename_i hc
      subst hc
      have hbegun : '\n' ∉ begun.reverse := fun hmem => h (List.mem_reverse.1 hmem)
      have hline : withReturns ('\n' :: begun).reverse = ('\n' :: '\r' :: begun).reverse := by
        rw [List.reverse_cons, withReturns_append, withReturns_of_notMem hbegun]
        simp [withReturns]
      calc splitLinesFrom begun ('\r' :: '\n' :: withReturns text)
          = ('\n' :: '\r' :: begun).reverse :: splitLinesFrom [] (withReturns text) := by
            rw [splitLinesFrom, if_neg (by decide), splitLinesFrom, if_pos rfl]
        _ = (splitLinesFrom begun ('\n' :: text)).map withReturns := by
            rw [splitLinesFrom, if_pos rfl, List.map_cons, hline, ih List.not_mem_nil]
    · rename_i hc
      have hcons : '\n' ∉ c :: begun := by
        intro hmem
        rcases List.mem_cons.1 hmem with hfeed | hmem
        · exact hc hfeed.symm
        · exact h hmem
      rw [List.cons_append, List.nil_append, splitLinesFrom, if_neg hc, splitLinesFrom, if_neg hc, ih hcons]

/-- The lines are the same, but for how they end. -/
theorem splitLines_withReturns (text : List Char) :
    splitLines (withReturns text) = (splitLines text).map withReturns :=
  splitLinesFrom_withReturns List.not_mem_nil

theorem lineContent_withReturns {line : List Char} (hline : line ∈ splitLines text) (h : '\r' ∉ line) :
    lineContent (withReturns line) = lineContent line := by
  obtain ⟨body, hbody, rfl | rfl⟩ := exists_of_mem_splitLines hline
  · rw [withReturns_of_notMem hbody]
  · have hreturn : body.getLast? ≠ some '\r' :=
      fun hlast => h (List.mem_append_left _ (List.mem_of_getLast? hlast))
    have hends : withReturns (body ++ ['\n']) = body ++ ['\r'] ++ ['\n'] := by
      rw [withReturns_append, withReturns_of_notMem hbody, List.append_assoc]
      rfl
    rw [hends, lineContent, dropLastIf_concat, dropLastIf_concat, lineContent, dropLastIf_concat,
      dropLastIf_eq_self hreturn]

/-! ### Offsets -/

/-- The number of line feeds before a byte offset that lies between two characters. -/
def feedsBefore (text : List Char) (n : Nat) : Nat := ((takeBytes n text).getD []).count '\n'

/-- Where an offset of the text is found again behind the carriage returns. -/
def behindReturns (text : List Char) (n : Nat) : Nat := n + feedsBefore text n

theorem behindReturns_append (s t : List Char) :
    behindReturns (s ++ t) (byteLength s) = byteLength (withReturns s) := by
  rw [behindReturns, feedsBefore, takeBytes_append, byteLength_withReturns]
  rfl

/-- **What stands in a span without a line feed** is found again. -/
theorem slice?_withReturns {sp : Span} {covered : List Char} (h : sp.slice? text = some covered)
    (hfeed : '\n' ∉ covered) :
    (Span.mk (behindReturns text sp.start) (behindReturns text sp.stop)).slice? (withReturns text)
      = some covered := by
  obtain ⟨before, behind, rfl, hstart, hstop⟩ := slice?_eq_some_iff.1 h
  refine slice?_eq_some_iff.2 ⟨withReturns before, withReturns behind, ?_, ?_, ?_⟩
  · rw [withReturns_append, withReturns_append, withReturns_of_notMem hfeed]
  · rw [hstart]
    exact behindReturns_append before _
  · rw [hstop, ← byteLength_append, ← List.append_assoc]
    show behindReturns _ _ = _
    rw [behindReturns_append, withReturns_append, withReturns_of_notMem hfeed, byteLength_append]

end Listfile
