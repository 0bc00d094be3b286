import Listfile.Proofs.Regex.Texts

/-!
# Runs of characters

* `Regex.run?`, **`search_run`**: a pattern for one or more characters of a set is found exactly where one of
  them stands ahead.
* `charRun_eq`: the places along a run of characters; the farthest, where the run ends, is preferred.
* **`search_fenced`**: a text, a run of one character as a group, and another character behind it.
-/

namespace Listfile

namespace Regex

variable {s : CharSet} {c d : Cursor}

/-! ### The places along a run -/

/-- The places along a run of characters: the farthest is the one where the run ends, and at each of the others
a character of the set stands ahead. -/
theorem charRun_eq {u : List Char} (hu : c.Passes u d) (hs : ∀ x ∈ u, s.contains x = true)
    (hend : d.after.head?.any s.contains = false) {n : Nat} (hn : u.length ≤ n) (done : List Cursor) :
    ∃ nearer, charRun .ahead s .none n c done = d :: nearer ++ done ∧
      ∀ x ∈ nearer, x.after.head?.any s.contains = true := by
  induction u generalizing c n done with
  | nil =>
    obtain rfl : c = d := Cursor.ext' hu.before.symm hu.after
    refine ⟨[], ?_, List.forall_mem_nil _⟩
    cases n with
    | zero => simp [charRun]
    | succ n =>
      cases hafter : c.after with
      | nil => simp [charRun, Side.step?, Cursor.next?_of_nil hafter]
      | cons x rest =>
        obtain ⟨b, hnext, -⟩ := Cursor.next?_of_after hafter
        rw [hafter] at hend
        simp [charRun, Side.step?, hnext, show s.contains x = false from hend]
  | cons x u ih =>
    obtain ⟨hx, hs⟩ := List.forall_mem_cons.1 hs
    obtain ⟨b, hnext, hb⟩ := Cursor.next?_of_after hu.after
    obtain ⟨n, rfl⟩ := Nat.exists_eq_succ_of_ne_zero (Nat.ne_of_gt (Nat.lt_of_lt_of_le (Nat.zero_lt_succ _) hn))
    have hrest : b.Passes u d := by
      obtain ⟨e, he, hafter⟩ := Cursor.exists_passes (u := u) (List.cons_eq_cons.1 (hb.after.symm.trans hu.after)).2
      rwa [(hb.trans he).unique hu] at he
    obtain ⟨nearer, hrun, hnearer⟩ := ih hrest hs (Nat.le_of_succ_le_succ hn) (c :: done)
    refine ⟨nearer ++ [c], ?_, List.forall_mem_append.2 ⟨hnearer, List.forall_mem_singleton.2 ?_⟩⟩
    · simp [charRun, Side.step?, hnext, hx, hrun]
    · rw [hu.after]
      exact hx

/-- There is a longest run of characters of a set. -/
theorem exists_run (s : CharSet) (c : Cursor) : ∃ u d, c.Passes u d ∧ (∀ x ∈ u, s.contains x = true) ∧
    d.after.head?.any s.contains = false := by
  obtain ⟨d, hd, hafter⟩ := Cursor.exists_passes
    (List.takeWhile_append_dropWhile (p := s.contains) (l := c.after)).symm
  refine ⟨_, d, hd, fun x hx => List.mem_takeWhile_imp hx, ?_⟩
  rw [hafter]
  cases hdrop : c.after.dropWhile s.contains with
  | nil => rfl
  | cons x rest =>
    have hx := List.head?_dropWhile_not s.contains c.after
    rw [hdrop] at hx
    simpa using hx

/-- The ways along a run of characters, the one to its end first. -/
theorem charStar_eq {u : List Char} {a : Arrival} (hu : a.place.Passes u d) (hs : ∀ x ∈ u, s.contains x = true)
    (hend : d.after.head?.any s.contains = false) :
    ∃ nearer, Matcher.charStar .ahead s true [a] = (d :: nearer).map a.moveTo ∧
      ∀ x ∈ nearer, x.after.head?.any s.contains = true := by
  have hroom : u.length ≤ Side.ahead.room a.place := by
    show u.length ≤ a.place.left
    rw [a.place.left_eq, hu.after, List.length_append]
    exact Nat.le_add_right _ _
  obtain ⟨nearer, hrun, hnearer⟩ := charRun_eq hu hs hend hroom []
  refine ⟨nearer, ?_, hnearer⟩
  show (charRun .ahead s .none _ a.place []).map a.moveTo = _
  rw [hrun, List.append_nil]

/-! ### One or more characters -/

/-- The set from which a pattern behind an anchor takes one or more characters, if it does nothing else. -/
def run? (r : Regex) : Option CharSet :=
  match r with
  | ⟨.seq .searchStart (.unit (.seq (.repeated (.chars s) 1 none true) .empty)), 0, true⟩ => some s
  | _ => none

theorem exactly_zero (m : Matcher) (as : List Arrival) : m.exactly 0 as = as := by
  cases as <;> rfl

/-- **A pattern for a run of characters is found exactly where one of them stands ahead.** -/
theorem search_run {r : Regex} (hr : r.run? = some s) (place : Cursor) :
    (∃ u d, u ≠ [] ∧ (∀ x ∈ u, s.contains x = true) ∧ place.Passes u d ∧
      r.search place = .found ⟨place, d⟩ []) ∨
      (place.after.head?.any s.contains = false ∧ r.search place = .notFound) := by
  unfold run? at hr
  split at hr
  · cases hr
    have hways : (Expr.seq (.repeated (.chars s) 1 none true) .empty).ways place
        = Matcher.charStar .ahead s true
          ((Matcher.ofSet .ahead s).exactly 0 ((Matcher.ofSet .ahead s).run [.start place])) := rfl
    rw [search_unit (e := .seq (.repeated (.chars s) 1 none true) .empty) ⟨trivial, trivial⟩, hways,
      exactly_zero]
    rcases run_ofSet s (.start place) with ⟨x, b, hb, hx, hrun⟩ | ⟨hhead, hrun⟩
    · obtain ⟨u, d, hu, hs, hend⟩ := exists_run s b
      obtain ⟨nearer, hstar, -⟩ := charStar_eq (a := (Arrival.start place).moveTo b) hu hs hend
      refine .inl ⟨x :: u, d, List.cons_ne_nil x u, List.forall_mem_cons.2 ⟨hx, hs⟩, hb.trans hu, ?_⟩
      rw [hrun, hstar]
      rfl
    · refine .inr ⟨hhead, ?_⟩
      rw [hrun]
      rfl
  · cases hr

/-! ### A run between texts -/

/-- A text, any number of one character as a group, and another character. -/
def Expr.fenced (x y : Char) : List Char → Expr
  | [] => .seq (.group 1 (.repeated (.chars (.single x)) 0 none true)) (.seq (.chars (.single y)) .empty)
  | c :: cs => .seq (.chars (.single c)) (fenced x y cs)

theorem keepsStart_fenced (x y : Char) (s : List Char) : (Expr.fenced x y s).KeepsStart := by
  induction s with
  | nil => exact ⟨⟨Nat.one_ne_zero, trivial⟩, trivial, trivial⟩
  | cons c s ih => exact ⟨trivial, ih⟩

theorem groups_fenced (x y : Char) (s : List Char) : (Expr.fenced x y s).groups = [1] := by
  induction s with
  | nil => rfl
  | cons c s ih => exact ih

/-- A single character is taken where it stands ahead. -/
theorem run_single {x : Char} {a : Arrival} (h : a.place.Passes [x] d) :
    (Matcher.ofSet .ahead (.single x)).run [a] = [a.moveTo d] := by
  rcases run_ofSet (.single x) a with ⟨y, b, hb, hy, hrun⟩ | ⟨hhead, -⟩
  · rw [eq_of_beq hy] at hb
    rw [hrun, hb.unique h]
  · rw [h.after] at hhead
    simp [CharSet.contains] at hhead

/-- Of the ways along a run only the one to its end goes on behind it. -/
theorem run_fenced {x y : Char} (hxy : x ≠ y) {origin first last : Cursor} {s : List Char} {n : Nat}
    {a : Arrival} (hfirst : a.place.Passes s first) (hlast : first.Passes (List.replicate n x) last)
    (hd : last.Passes [y] d) :
    ((Expr.fenced x y s).matcher .ahead origin).run [a]
      = [((((a.moveTo first).mark 2).moveTo last).mark 3).moveTo d] := by
  induction s generalizing a with
  | nil =>
    obtain rfl : a.place = first := Cursor.ext' hfirst.before.symm hfirst.after
    have hend : last.after.head?.any (CharSet.single x).contains = false := by
      rw [hd.after]
      exact beq_eq_false_iff_ne.2 (Ne.symm hxy)
    have hxs : ∀ z ∈ List.replicate n x, (CharSet.single x).contains z = true := by
      intro z hz
      rw [List.eq_of_mem_replicate hz]
      exact beq_self_eq_true x
    obtain ⟨nearer, hstar, hnearer⟩ := charStar_eq (a := a.mark 2) hlast hxs hend
    have hrun : ((Expr.fenced x y []).matcher .ahead origin).run [a]
        = (Matcher.ofSet .ahead (.single y)).run
          ((Matcher.charStar .ahead (.single x) true [a.mark 2]).map (·.mark 3)) := rfl
    -- at the nearer places stands what the run is made of
    have hstuck : (Matcher.ofSet .ahead (.single y)).run
        ((nearer.map (a.mark 2).moveTo).map (·.mark 3)) = [] := by
      refine List.filterMap_eq_nil_iff.2 fun b hb => ?_
      obtain ⟨b', hb', rfl⟩ := List.mem_map.1 hb
      obtain ⟨place, hplace, rfl⟩ := List.mem_map.1 hb'
      have hx := hnearer place hplace
      cases hafter : place.after with
      | nil =>
        rw [hafter] at hx
        cases hx
      | cons z rest =>
        rw [hafter] at hx
        obtain rfl : z = x := eq_of_beq hx
        obtain ⟨e, hnext, -⟩ := Cursor.next?_of_after hafter
        have hzy : (z == y) = false := beq_eq_false_iff_ne.2 hxy
        simp [Side.step?, Arrival.mark, Arrival.moveTo, hnext, CharSet.contains, hzy]
    have hfront := run_single (a := (((a.mark 2).moveTo last).mark 3)) hd
    rw [hrun, hstar, List.map_cons, List.map_cons]
    show (Matcher.ofSet .ahead (.single y)).run ([_] ++ _) = _
    rw [show ∀ as bs, (Matcher.ofSet .ahead (.single y)).run (as ++ bs)
      = (Matcher.ofSet .ahead (.single y)).run as ++ (Matcher.ofSet .ahead (.single y)).run bs
      from fun as bs => List.filterMap_append, hfront, hstuck]
    rfl
  | cons c s ih =>
    have hahead : a.place.after = [c] ++ (s ++ first.after) := hfirst.after
    obtain ⟨b, hb, hrest⟩ := Cursor.exists_passes hahead
    have hs : b.Passes s first := by
      obtain ⟨e, he, hafter⟩ := Cursor.exists_passes hrest
      have hsame : a.place.Passes (c :: s) e := hb.trans he
      rwa [hsame.unique hfirst] at he
    have hrun : ((Expr.fenced x y (c :: s)).matcher .ahead origin).run [a]
        = ((Expr.fenced x y s).matcher .ahead origin).run ((Matcher.ofSet .ahead (.single c)).run [a]) := rfl
    rw [hrun, run_single hb]
    exact ih hs

/-- **A text, a run of one character and another character behind it** are found where they stand ahead, and the
group captures the run. -/
theorem search_fenced {x y : Char} (hxy : x ≠ y) {place first last : Cursor} {s : List Char} {n : Nat}
    (hfirst : place.Passes s first) (hlast : first.Passes (List.replicate n x) last)
    (hd : last.Passes [y] d) :
    (⟨.seq .searchStart (.unit (.seq (.fenced x y s) .empty)), 1, true⟩ : Regex).search place
      = .found ⟨place, d⟩ [some ⟨first, last⟩] := by
  rw [search_unit (e := .seq (.fenced x y s) .empty) ⟨keepsStart_fenced x y s, trivial⟩]
  have hways : (Expr.seq (.fenced x y s) .empty).ways place
      = ((Expr.fenced x y s).matcher .ahead place).run [.start place] := rfl
  have hgroups : (Expr.seq (.fenced x y s) .empty).groups = [1] :=
    (List.append_nil _).trans (groups_fenced x y s)
  rw [hways, run_fenced hxy hfirst hlast hd]
  unfold threadBehind Thread.capture
  rw [hgroups]
  rfl

end Regex

end Listfile
