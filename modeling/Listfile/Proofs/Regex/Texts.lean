import Listfile.Proofs.Regex.Crossing
import Mathlib.Data.List.Forall2

/-!
# Patterns that are matched as a whole

Behind an anchor a plain expression is matched as a whole: the preferred way of matching it is what the
search finds.

* **`search_unit`**: what is found for a plain expression.
* `Expr.sets?`: the sets from which an expression of fixed width takes one character each.
* `Taking`, **`taking_of_sets`**: how such an expression goes on from a way.
* **`search_sets`**: a pattern of fixed width is found exactly where such characters stand ahead.
* `Regex.text?`, **`search_text`**: a pattern for one text is found exactly where the text stands ahead.
-/

namespace Listfile

namespace Regex

variable {e : Expr} {n : Nat} {place : Cursor}

/-! ### Plain expressions behind an anchor -/

/-- The thread that has matched an expression in a certain way. -/
def threadBehind (e : Expr) (n : Nat) (place : Cursor) (a : Arrival) : Thread :=
  ((((Thread.start n place).mark 0).capture e a).moveTo a.place).mark 1

theorem verdict_unit (e : Expr) (n : Nat) (place : Cursor) :
    verdict ⟨.seq .searchStart (.unit e), n, true⟩ place =
      match (e.ways place).head? with
      | none => .notFound
      | some a => .found (threadBehind e n place a) := by
  have hrun : ((⟨.seq .searchStart (.unit e), n, true⟩ : Regex).machine place).run place.offset
      ((Plan.seq .searchStart (.unit e)).effort (place.offset + place.left) + 5)
        = (attemptMachine (.unit e) n place).run place.offset 5 :=
    run_seq_searchStart (.unit e) n 5 place
  have hstep : (attemptMachine (.unit e) n place).step place.offset
      = (attemptMachine (.unit e) n place).goOnWith [.mark 1]
        (((Thread.start n place).mark 0).unit? e) := rfl
  have hhere : ((Thread.start n place).mark 0).here = place := rfl
  unfold verdict
  rw [Machine.search, hrun, Machine.run, hstep, Thread.unit?, hhere]
  cases (e.ways place).head? with
  | none => rfl
  | some a => rfl

/-- **What is found for a plain expression behind an anchor**: the preferred way of matching it. -/
theorem search_unit (he : e.KeepsStart) (n : Nat) (place : Cursor) :
    (⟨.seq .searchStart (.unit e), n, true⟩ : Regex).search place =
      match (e.ways place).head? with
      | none => .notFound
      | some a => .found ⟨place, a.place⟩
        ((List.range n).map fun i => (threadBehind e n place a).capture? (i + 1)) := by
  rw [search_eq, verdict_unit]
  cases hhead : (e.ways place).head? with
  | none => rfl
  | some a =>
    have hway := List.mem_of_mem_head? hhead
    obtain ⟨u, hu⟩ := (leads_of_ways hway).ahead
    have hle : place.offset ≤ a.place.offset := by
      rw [hu.offset]
      exact Nat.le_add_right _ _
    -- the start of the match is not moved, and its end is marked behind the expression
    have hwithin := ways_within (R := .ofText place.text) he.marks rfl a hway
    have hstart := (Thread.keepsStart_start n place).capture he hwithin
    have hsize : 1 < ((((Thread.start n place).mark 0).capture e a).moveTo a.place).marks.size := by
      show 1 < (((Thread.start n place).mark 0).capture e a).marks.size
      rw [Thread.size_capture]
      show 1 < ((Thread.start n place).setMark 0 _).marks.size
      rw [Thread.size_setMark]
      show 1 < (Array.replicate (2 * (n + 1)) none).size
      rw [Array.size_replicate]
      omega
    have hfirst : (threadBehind e n place a).marked? 0 = some place :=
      (Thread.marked?_setMark_ne Nat.one_ne_zero _).trans hstart.first
    have hlast : (threadBehind e n place a).marked? 1 = some a.place := Thread.marked?_mark hsize
    have hwhole : (threadBehind e n place a).whole? = some ⟨place, a.place⟩ := by
      unfold Thread.whole? Thread.capture?
      rw [hfirst, hlast]
      exact congrArg some (if_neg (Nat.not_lt.2 hle))
    dsimp only
    rw [hwhole]

/-! ### Expressions of fixed width -/

/-- The characters are in the sets, one in each. -/
def Fits (sets : List CharSet) (u : List Char) : Prop := List.Forall₂ (fun x s => s.contains x = true) u sets

/-- A character that is in none of the sets is not among the characters. -/
theorem Fits.not_mem {sets : List CharSet} {u : List Char} {x : Char} (h : Fits sets u)
    (hx : ∀ s ∈ sets, s.contains x = false) : x ∉ u := by
  induction h with
  | nil => exact List.not_mem_nil
  | cons hy _ ih =>
    obtain ⟨hs, hx⟩ := List.forall_mem_cons.1 hx
    intro hmem
    rcases List.mem_cons.1 hmem with rfl | hmem
    · rw [hs] at hy
      cases hy
    · exact ih hx hmem

/-- The sets from which an expression takes one character each, if it does nothing else. -/
def Expr.sets? : Expr → Option (List CharSet)
  | chars s => some [s]
  | seq a empty => a.sets?
  | seq a b => a.sets?.bind fun ss => b.sets?.map (ss ++ ·)
  | either a never => a.sets?
  | either a b =>
    match a.sets?, b.sets? with
    | some [s], some [t] => some [.union s t]
    | _, _ => none
  | _ => none

theorem run_nil (e : Expr) (origin : Cursor) : (e.matcher .ahead origin).run [] = [] := by
  refine List.eq_nil_iff_forall_not_mem.2 fun b hb => ?_
  obtain ⟨a, ha, -⟩ := follows_matcher e origin [] (List.forall_mem_nil _) b hb
  cases ha

/-- One character of a set is taken, if it stands ahead. -/
theorem run_ofSet (s : CharSet) (a : Arrival) :
    (∃ x d, a.place.Passes [x] d ∧ s.contains x = true ∧ (Matcher.ofSet .ahead s).run [a] = [a.moveTo d]) ∨
      (a.place.after.head?.any s.contains = false ∧ (Matcher.ofSet .ahead s).run [a] = []) := by
  cases hafter : a.place.after with
  | nil =>
    refine .inr ⟨rfl, ?_⟩
    simp [Matcher.ofSet, Side.step?, Cursor.next?_of_nil hafter]
  | cons x rest =>
    obtain ⟨d, hnext, hd⟩ := Cursor.next?_of_after hafter
    cases hs : s.contains x with
    | true => exact .inl ⟨x, d, hd, hs, by simp [Matcher.ofSet, Side.step?, hnext, hs]⟩
    | false => exact .inr ⟨hs, by simp [Matcher.ofSet, Side.step?, hnext, hs]⟩

/-- How a way goes on that takes one character of each set: behind characters that stand ahead, or nowhere. -/
inductive Taking (sets : List CharSet) (a : Arrival) : List Arrival → Prop
  | taken {u : List Char} {d : Cursor} (hu : Fits sets u) (hd : a.place.Passes u d) : Taking sets a [a.moveTo d]
  | refused (h : ∀ u, Fits sets u → ¬ u <+: a.place.after) : Taking sets a []

theorem fits_singleton {s : CharSet} {u : List Char} :
    Fits [s] u ↔ ∃ x, u = [x] ∧ s.contains x = true := by
  constructor
  · rintro (_ | ⟨hx, _ | _⟩)
    exact ⟨_, rfl, hx⟩
  · rintro ⟨x, rfl, hx⟩
    exact .cons hx .nil

theorem taking_ofSet (s : CharSet) (a : Arrival) : Taking [s] a ((Matcher.ofSet .ahead s).run [a]) := by
  rcases run_ofSet s a with ⟨x, d, hd, hx, hrun⟩ | ⟨hhead, hrun⟩
  · rw [hrun]
    exact .taken (fits_singleton.2 ⟨x, rfl, hx⟩) hd
  · rw [hrun]
    refine .refused ?_
    rintro u hu ⟨rest, hrest⟩
    obtain ⟨x, rfl, hx⟩ := fits_singleton.1 hu
    rw [← hrest] at hhead
    exact absurd hx (Bool.eq_false_iff.1 hhead)

/-- First characters of some sets are taken, and then of others. -/
theorem Taking.append {ss ts : List CharSet} {a : Arrival} {found : List Arrival} (h : Taking ss a found)
    {second : Expr} {origin : Cursor}
    (hsecond : ∀ b, Taking ts b ((second.matcher .ahead origin).run [b])) :
    Taking (ss ++ ts) a ((second.matcher .ahead origin).run found) := by
  cases h with
  | @taken u d hu hd =>
    generalize hfound : (second.matcher .ahead origin).run [a.moveTo d] = found
    have hnext := hsecond (a.moveTo d)
    rw [hfound] at hnext
    cases hnext with
    | taken hv hd' => exact .taken (List.rel_append hu hv) (hd.trans hd')
    | refused hno =>
      refine .refused ?_
      rintro w hw ⟨rest, hrest⟩
      -- what fits the first sets is what was passed
      have hlength : (w.take ss.length).length = u.length := by
        have hw' := hw.length_eq
        rw [List.length_append] at hw'
        rw [List.length_take, hu.length_eq]
        omega
      have hwhole : w.take ss.length ++ (w.drop ss.length ++ rest) = u ++ d.after := by
        rw [← List.append_assoc, List.take_append_drop, hrest, hd.after]
      obtain ⟨-, hmore⟩ := List.append_inj hwhole hlength
      exact hno _ (List.forall₂_drop_append _ _ _ hw) ⟨rest, hmore⟩
  | refused hno =>
    rw [run_nil]
    refine .refused ?_
    rintro w hw ⟨rest, hrest⟩
    refine hno _ (List.forall₂_take_append _ _ _ hw) ⟨w.drop ss.length ++ rest, ?_⟩
    rw [← List.append_assoc, List.take_append_drop, hrest]

theorem firstOfEach_self (a : Arrival) : firstOfEach [a] [a] = [a] := by
  simp [firstOfEach, Found.add, Found.reaches, Found.push, Found.none, Found.toList]

/-- One character of either set is taken. -/
theorem Taking.union {s t : CharSet} {a : Arrival} {found others : List Arrival} (hs : Taking [s] a found)
    (ht : Taking [t] a others) : Taking [.union s t] a (firstOfEach found others) := by
  have hunion {x : Char} (h : s.contains x = true ∨ t.contains x = true) : Fits [.union s t] [x] :=
    fits_singleton.2 ⟨x, rfl, Bool.or_eq_true_iff.2 h⟩
  cases hs with
  | taken hu hd =>
    obtain ⟨x, rfl, hx⟩ := fits_singleton.1 hu
    cases ht with
    | taken hv hd' =>
      obtain ⟨y, rfl, -⟩ := fits_singleton.1 hv
      have hsame : x = y := (List.cons_eq_cons.1 (hd.after.symm.trans hd'.after)).1
      subst hsame
      rw [hd.unique hd', firstOfEach_self]
      exact .taken (hunion (.inl hx)) hd'
    | refused _ => exact .taken (hunion (.inl hx)) hd
  | refused hno =>
    cases ht with
    | taken hv hd =>
      obtain ⟨y, rfl, hy⟩ := fits_singleton.1 hv
      exact .taken (hunion (.inr hy)) hd
    | refused hno' =>
      refine .refused fun u hu hprefix => ?_
      obtain ⟨x, rfl, hx⟩ := fits_singleton.1 hu
      rcases Bool.or_eq_true_iff.1 hx with hx | hx
      · exact hno [x] (fits_singleton.2 ⟨x, rfl, hx⟩) hprefix
      · exact hno' [x] (fits_singleton.2 ⟨x, rfl, hx⟩) hprefix

/-- **An expression of fixed width goes on from a way if characters of its sets stand ahead.** -/
theorem taking_of_sets (origin : Cursor) {sets : List CharSet} (he : e.sets? = some sets) (a : Arrival) :
    Taking sets a ((e.matcher .ahead origin).run [a]) := by
  fun_induction Expr.sets? e generalizing sets a with
  | case1 s =>
    cases he
    exact taking_ofSet s a
  | case2 b ih => exact ih he a
  | case3 first second _ hfirst hsecond =>
    obtain ⟨ss, hss, hrest⟩ := Option.bind_eq_some_iff.1 he
    obtain ⟨ts, hts, rfl⟩ := Option.map_eq_some_iff.1 hrest
    exact (hfirst hss a).append (hsecond hts)
  | case4 first ih => exact ih he a
  | case5 first second hne s t ht hs hfirst hsecond =>
    cases he
    have heither : ((Expr.either first second).matcher .ahead origin).run [a]
        = firstOfEach ((first.matcher .ahead origin).run [a]) ((second.matcher .ahead origin).run [a]) := by
      cases second with
      | never => exact absurd rfl hne
      | _ => rfl
    rw [heither]
    exact (hfirst hs a).union (hsecond ht a)
  | case6 => cases he
  | case7 => cases he

theorem keepsStart_of_sets {sets : List CharSet} (he : e.sets? = some sets) : e.KeepsStart := by
  fun_induction Expr.sets? e generalizing sets with
  | case1 s => trivial
  | case2 b ih => exact ⟨ih he, trivial⟩
  | case3 first second _ hfirst hsecond =>
    obtain ⟨ss, hss, hrest⟩ := Option.bind_eq_some_iff.1 he
    obtain ⟨ts, hts, -⟩ := Option.map_eq_some_iff.1 hrest
    exact ⟨hfirst hss, hsecond hts⟩
  | case4 first ih => exact ⟨ih he, trivial⟩
  | case5 first second _ s t ht hs hfirst hsecond => exact ⟨hfirst hs, hsecond ht⟩
  | case6 => cases he
  | case7 => cases he

/-- The sets from which a pattern behind an anchor takes one character each, if it does nothing else. -/
def sets? (r : Regex) : Option (List CharSet) :=
  match r with
  | ⟨.seq .searchStart (.unit e), 0, true⟩ => e.sets?
  | _ => none

/-- **A pattern of fixed width is found exactly where characters of its sets stand ahead.** -/
theorem search_sets {r : Regex} {sets : List CharSet} (hr : r.sets? = some sets) (place : Cursor) :
    (∃ u d, Fits sets u ∧ place.Passes u d ∧ r.search place = .found ⟨place, d⟩ []) ∨
      ((∀ u, Fits sets u → ¬ u <+: place.after) ∧ r.search place = .notFound) := by
  unfold sets? at hr
  split at hr
  · rename_i e
    rw [search_unit (keepsStart_of_sets hr)]
    generalize hways : e.ways place = ways
    have htaking : Taking sets (.start place) (e.ways place) := taking_of_sets place hr (.start place)
    rw [hways] at htaking
    cases htaking with
    | taken hu hd => exact .inl ⟨_, _, hu, hd, rfl⟩
    | refused hno => exact .inr ⟨hno, rfl⟩
  · cases hr

/-! ### Texts -/

theorem fits_single {s u : List Char} : Fits (s.map .single) u ↔ u = s := by
  unfold Fits
  rw [List.forall₂_map_right_iff]
  have heq : (fun x c : Char => (CharSet.single c).contains x = true) = fun x c => x = c := by
    funext x c
    exact propext beq_iff_eq
  rw [heq]
  constructor
  · intro h
    induction h with
    | nil => rfl
    | cons hx _ ih => rw [hx, ih]
  · rintro rfl
    exact List.forall₂_refl _

/-- The character of a set that holds a single one. -/
def CharSet.single? : CharSet → Option Char
  | .single c => some c
  | _ => .none

/-- The text that a pattern behind an anchor stands for, if it stands for a single one. -/
def text? (r : Regex) : Option (List Char) := r.sets?.bind (·.mapM CharSet.single?)

theorem mapM_single? {sets : List CharSet} {s : List Char} :
    sets.mapM CharSet.single? = some s ↔ sets = s.map .single := by
  induction sets generalizing s with
  | nil =>
    cases s with
    | nil => exact iff_of_true rfl rfl
    | cons c s => exact iff_of_false nofun nofun
  | cons set sets ih =>
    rw [List.mapM_cons]
    cases set with
    | single d =>
      constructor
      · intro h
        obtain ⟨c, hc, h⟩ := Option.bind_eq_some_iff.1 h
        obtain ⟨cs, hcs, h⟩ := Option.bind_eq_some_iff.1 h
        cases hc
        cases h
        rw [ih.1 hcs]
        rfl
      · intro h
        cases s with
        | nil => cases h
        | cons c s =>
          obtain ⟨hd, hsets⟩ := List.cons_eq_cons.1 h
          cases hd
          exact Option.bind_eq_some_iff.2 ⟨d, rfl, Option.bind_eq_some_iff.2 ⟨s, ih.2 hsets, rfl⟩⟩
    | _ =>
      cases s with
      | nil => exact iff_of_false nofun nofun
      | cons c s => exact iff_of_false nofun nofun

theorem text?_eq_some {r : Regex} {s : List Char} :
    r.text? = some s ↔ r.sets? = some (s.map .single) := by
  unfold text?
  rw [Option.bind_eq_some_iff]
  constructor
  · rintro ⟨sets, hsets, hs⟩
    rw [hsets, mapM_single?.1 hs]
  · intro h
    exact ⟨_, h, mapM_single?.2 rfl⟩

/-- **A pattern for one text is found exactly where the text stands ahead.** -/
theorem search_text {r : Regex} {s : List Char} (hr : r.text? = some s) (place : Cursor) :
    (∃ d, place.Passes s d ∧ r.search place = .found ⟨place, d⟩ []) ∨
      (¬ s <+: place.after ∧ r.search place = .notFound) := by
  rcases search_sets (text?_eq_some.1 hr) place with ⟨u, d, hu, hd, hsearch⟩ | ⟨hno, hsearch⟩
  · rw [fits_single.1 hu] at hd
    exact .inl ⟨d, hd, hsearch⟩
  · exact .inr ⟨hno s (fits_single.2 rfl), hsearch⟩

end Regex

end Listfile
