import Listfile.Proofs.Regex.Stepping
import Listfile.Proofs.Text.Spans
import Listfile.Regex.Search

/-!
# Where matches can be

Whatever a search does, it only moves from one character to a neighbour.  So all that it finds are places of
the text in which it began, and without going back it finds none before the place where it began.

* `Region`: places that are not left by moving ahead.
* `Arrival.Within`, `Matcher.Stays`: ways of matching plain expressions, and the marks that they set.
* `Plan.goesBack`: a plan goes back to look at what stands before a place.
* `Thread.Within`, `SearchWithin`: the search with backtracking.
* **`text_of_search`**: what a search captures lies in the text.
* **`offset_le_of_search`**: without going back, it does not begin before the place of the search.
-/

namespace Listfile

namespace Regex

/-! ### Regions -/

/-- Places that are not left by moving ahead. -/
structure Region where
  Has : Cursor → Prop
  ahead : ∀ {c d : Cursor} {x : Char}, Has c → c.next? = some (x, d) → Has d

variable {R : Region} {S : Nat → Prop}

namespace Region

/-- The places of a text. -/
def ofText (t : List Char) : Region :=
  ⟨fun c => c.text = t, fun hc h => (Cursor.text_next? h).trans hc⟩

/-- The places from an offset on. -/
def fromOffset (origin : Nat) : Region :=
  ⟨fun c => origin ≤ c.offset, fun hc h => by
    rw [(Cursor.offset_next? h).1]
    exact Nat.le_add_right_of_le hc⟩

/-- The region is not left by moving to a side. -/
def Keeps (R : Region) (side : Side) : Prop :=
  ∀ {c d : Cursor} {x : Char}, R.Has c → side.step? c = some (x, d) → R.Has d

theorem keeps_ahead (R : Region) : R.Keeps .ahead := R.ahead

theorem keeps_ofText (t : List Char) (side : Side) : (ofText t).Keeps side := by
  intro c d x hc h
  cases side with
  | ahead => exact (Cursor.text_next? h).trans hc
  | behind => exact (Cursor.text_prev? h).trans hc

theorem has_back? (hback : R.Keeps .behind) {n : Nat} {c d : Cursor} (hc : R.Has c)
    (h : c.back? n = some d) : R.Has d := by
  induction n generalizing c with
  | zero =>
    cases h
    exact hc
  | succ n ih =>
    obtain ⟨⟨x, b⟩, hprev, hrest⟩ := Option.bind_eq_some_iff.1 h
    exact ih (hback hc hprev) hrest

theorem has_seekFrom {target fuel : Nat} {c d : Cursor} (hc : R.Has c)
    (h : Cursor.seekFrom target fuel c = some d) : R.Has d := by
  induction fuel generalizing c with
  | zero =>
    unfold Cursor.seekFrom at h
    split at h
    · cases h
      exact hc
    · cases h
  | succ fuel ih =>
    unfold Cursor.seekFrom at h
    split at h
    · cases h
      exact hc
    split at h
    · cases h
    · obtain ⟨⟨x, b⟩, hnext, hseek⟩ := Option.bind_eq_some_iff.1 h
      exact ih (R.ahead hc hnext) hseek

end Region

/-! ### Ways of matching -/

/-- The way leads through the region, and sets no other marks than those in `S`. -/
structure Arrival.Within (R : Region) (S : Nat → Prop) (a : Arrival) : Prop where
  place : R.Has a.place
  marks : ∀ m ∈ a.marks, S m.1 ∧ R.Has m.2

/-- All of the ways do. -/
def AllWithin (R : Region) (S : Nat → Prop) (as : List Arrival) : Prop := ∀ a ∈ as, a.Within R S

/-- What is found at any place of the region leads through it. -/
def FindsWithin (R : Region) (S : Nat → Prop) (find : Cursor → List Arrival) : Prop :=
  ∀ c, R.Has c → AllWithin R S (find c)

/-- Ways through the region go on through the region. -/
def Matcher.Stays (R : Region) (S : Nat → Prop) (m : Matcher) : Prop :=
  ∀ as, AllWithin R S as → AllWithin R S (m.run as)

section
variable {a b : Arrival} {as bs : List Arrival}

theorem Arrival.within_start {c : Cursor} (h : R.Has c) : (Arrival.start c).Within R S :=
  ⟨h, List.forall_mem_nil _⟩

theorem Arrival.Within.followedBy (ha : a.Within R S) (hb : b.Within R S) : (a.followedBy b).Within R S := by
  refine ⟨hb.place, ?_⟩
  intro m hm
  rcases List.mem_append.1 hm with hm | hm
  · exact hb.marks m hm
  · exact ha.marks m hm

theorem Arrival.Within.moveTo (ha : a.Within R S) {c : Cursor} (hc : R.Has c) :
    (a.moveTo c).Within R S := ⟨hc, ha.marks⟩

theorem Arrival.Within.mark (ha : a.Within R S) {slot : Nat} (hslot : S slot) :
    (a.mark slot).Within R S :=
  ⟨ha.place, List.forall_mem_cons.2 ⟨⟨hslot, ha.place⟩, ha.marks⟩⟩

theorem AllWithin.append (ha : AllWithin R S as) (hb : AllWithin R S bs) : AllWithin R S (as ++ bs) :=
  List.forall_mem_append.2 ⟨ha, hb⟩

theorem AllWithin.reverse (ha : AllWithin R S as) : AllWithin R S as.reverse :=
  fun a h => ha a (List.mem_reverse.1 h)

theorem AllWithin.map (ha : AllWithin R S as) {f : Arrival → Arrival}
    (hf : ∀ a, a.Within R S → (f a).Within R S) : AllWithin R S (as.map f) :=
  List.forall_mem_map.2 fun a h => hf a (ha a h)

theorem Matcher.Stays.runAt {m : Matcher} (hm : m.Stays R S) : FindsWithin R S m.runAt :=
  fun c hc => hm [.start c] (List.forall_mem_singleton.2 (Arrival.within_start hc))

end

/-! ### First ways to places -/

/-- All ways that were found lead through the region. -/
def Found.Within (R : Region) (S : Nat → Prop) (f : Found) : Prop := AllWithin R S f.ways

section
variable {f : Found} {a : Arrival} {as bs : List Arrival}

theorem Found.within_none : Found.none.Within R S := List.forall_mem_nil _

theorem Found.Within.push (hf : f.Within R S) (ha : a.Within R S) : (f.push a).Within R S :=
  List.forall_mem_cons.2 ⟨ha, hf⟩

theorem Found.Within.add (hf : f.Within R S) (ha : a.Within R S) : (f.add a).Within R S := by
  unfold Found.add
  split
  · exact hf
  · exact hf.push ha

theorem Found.Within.foldl_add (hf : f.Within R S) (has : AllWithin R S as) :
    (as.foldl Found.add f).Within R S :=
  List.foldlRecOn as Found.add hf fun _ hf a ha => hf.add (has a ha)

theorem Found.Within.foldl_push (hf : f.Within R S) (has : AllWithin R S as) :
    (as.foldl Found.push f).Within R S :=
  List.foldlRecOn as Found.push hf fun _ hf a ha => hf.push (has a ha)

theorem Found.Within.addFrom (hf : f.Within R S) (ha : a.Within R S) (has : AllWithin R S as) :
    (Found.addFrom a f as).Within R S := by
  refine List.foldlRecOn as _ hf ?_
  intro f hf b hb
  split
  · exact hf
  · exact hf.push (ha.followedBy (has b hb))

theorem Found.Within.toList (hf : f.Within R S) : AllWithin R S f.toList := AllWithin.reverse hf

theorem firstOfEach_within (ha : AllWithin R S as) (hb : AllWithin R S bs) :
    AllWithin R S (firstOfEach as bs) := by
  unfold firstOfEach
  split
  · exact ha
  · exact hb
  · exact ((Found.within_none.foldl_add ha).foldl_add hb).toList

theorem thenAll_within {next : Cursor → List Arrival} (hnext : FindsWithin R S next)
    (ha : AllWithin R S as) : AllWithin R S (thenAll next as) := by
  unfold thenAll
  split
  · exact List.forall_mem_nil _
  · rename_i a
    have ha' := ha a List.mem_cons_self
    exact (hnext _ ha'.place).map fun b hb => ha'.followedBy hb
  · refine Found.Within.toList (List.foldlRecOn _ _ Found.within_none ?_)
    intro f hf a hmem
    exact hf.addFrom (ha a hmem) (hnext _ (ha a hmem).place)

end

/-! ### Tables -/

/-- All that a table holds leads through the region. -/
def TableWithin (R : Region) (S : Nat → Prop) (table : Array (Thunk (List Arrival))) : Prop :=
  ∀ found ∈ table, AllWithin R S found.get

theorem TableWithin.push {table : Array (Thunk (List Arrival))} (h : TableWithin R S table)
    (found : Thunk (List Arrival)) (hfound : AllWithin R S found.get) :
    TableWithin R S (table.push found) := by
  intro f hf
  rcases Array.mem_push.1 hf with hf | rfl
  · exact h f hf
  · exact hfound

theorem tableWithin_empty : TableWithin R S #[] := fun _ h => absurd h (Array.not_mem_empty _)

theorem tableFrom_within {side : Side} (hside : R.Keeps side) {find : Cursor → List Arrival}
    (hfind : FindsWithin R S find) (n : Nat) {c : Cursor} (hc : R.Has c) {done : Array (Thunk (List Arrival))}
    (hdone : TableWithin R S done) : TableWithin R S (Matcher.tableFrom side find n c done) := by
  induction n generalizing c done with
  | zero => exact hdone.push _ (hfind c hc)
  | succ n ih =>
    rw [Matcher.tableFrom]
    have hpush := hdone.push (Thunk.mk fun _ => find c) (hfind c hc)
    split
    · rename_i x d hstep
      refine ih (hside hc hstep) ?_
      intro f hf
      rcases Array.mem_append.1 hf with hf | hf
      · exact hpush f hf
      · rw [(Array.mem_replicate.1 hf).2]
        exact List.forall_mem_nil _
    · exact hpush

theorem lookUp_within {side : Side} {origin : Cursor} {table : Thunk (Array (Thunk (List Arrival)))}
    (h : TableWithin R S table.get) : FindsWithin R S (Matcher.lookUp side origin table) := by
  intro c _
  unfold Matcher.lookUp
  split
  · rename_i found hfound
    exact h found (Array.mem_of_getElem? hfound)
  · exact List.forall_mem_nil _

/-! ### Matchers -/

namespace Matcher

variable {side : Side} {origin : Cursor} {m first second : Matcher}

theorem stays_ofSet (hside : R.Keeps side) (s : CharSet) : (ofSet side s).Stays R S := by
  intro as has b hb
  obtain ⟨a, ha, hab⟩ := List.mem_filterMap.1 hb
  split at hab
  · rename_i x d hstep
    split at hab
    · cases hab
      exact (has a ha).moveTo (hside (has a ha).place hstep)
    · cases hab
  · cases hab

theorem stays_either (hside : R.Keeps side) (ho : R.Has origin) (hfirst : first.Stays R S)
    (hsecond : second.Stays R S) : (either side origin first second).Stays R S := by
  have hfind : FindsWithin R S fun c => firstOfEach (first.runAt c) (second.runAt c) :=
    fun c hc => firstOfEach_within (hfirst.runAt c hc) (hsecond.runAt c hc)
  have htable := tableFrom_within hside hfind (side.room origin) ho tableWithin_empty
  intro as has
  unfold either
  dsimp only
  split
  · exact firstOfEach_within (hfirst _ has) (hsecond _ has)
  · split
    · exact thenAll_within (lookUp_within htable) has
    · exact thenAll_within hfind has

theorem stays_group (hm : m.Stays R S) {i : Nat} (hi : S (2 * i) ∧ S (2 * i + 1)) :
    (m.group i).Stays R S :=
  fun _ has => (hm _ (has.map fun _ ha => ha.mark hi.1)).map fun _ ha => ha.mark hi.2

theorem exactly_within (hm : m.Stays R S) (n : Nat) {as : List Arrival} (has : AllWithin R S as) :
    AllWithin R S (m.exactly n as) := by
  induction n generalizing as with
  | zero => cases as <;> exact has
  | succ n ih =>
    cases as with
    | nil => exact has
    | cons a as => exact ih (hm _ has)

theorem charRun_within (hside : R.Keeps side) (s : CharSet) (reached : Places) (n : Nat) {c : Cursor}
    (hc : R.Has c) {done : List Cursor} (hdone : ∀ d ∈ done, R.Has d) :
    ∀ d ∈ charRun side s reached n c done, R.Has d := by
  have hcons : ∀ d ∈ c :: done, R.Has d := List.forall_mem_cons.2 ⟨hc, hdone⟩
  induction n generalizing c done with
  | zero =>
    unfold charRun
    split
    · exact hdone
    · exact hcons
  | succ n ih =>
    unfold charRun
    split
    · exact hdone
    split
    · rename_i x d hstep
      have hd := hside hc hstep
      split
      · exact ih hd hcons (List.forall_mem_cons.2 ⟨hd, hcons⟩)
      · exact hcons
    · exact hcons

theorem charWays_within (hside : R.Keeps side) {s : CharSet} {greedy : Bool} {n : Nat}
    {reached : Places} {a : Arrival} (ha : a.Within R S) :
    AllWithin R S (charWays side s greedy n reached a) := by
  have hrun := charRun_within hside s reached n ha.place (List.forall_mem_nil _)
  refine List.forall_mem_map.2 fun c hc => ha.moveTo ?_
  split at hc
  · exact hrun c hc
  · exact hrun c (List.mem_reverse.1 hc)

theorem charStar_within (hside : R.Keeps side) {s : CharSet} {greedy : Bool} {as : List Arrival}
    (has : AllWithin R S as) : AllWithin R S (charStar side s greedy as) := by
  unfold charStar
  split
  · exact charWays_within hside (has _ List.mem_cons_self)
  · refine Found.Within.toList (List.foldlRecOn _ _ Found.within_none ?_)
    intro f hf a ha
    exact hf.foldl_push (charWays_within hside (has a ha))

theorem charUpTo_within (hside : R.Keeps side) {s : CharSet} {greedy : Bool} {n : Nat} {as : List Arrival}
    (has : AllWithin R S as) : AllWithin R S (charUpTo side s greedy n as) := by
  unfold charUpTo
  split
  · exact charWays_within hside (has _ List.mem_cons_self)
  · refine Found.Within.toList (List.foldlRecOn _ _ Found.within_none ?_)
    intro f hf a ha
    exact hf.foldl_add (charWays_within hside (has a ha))

theorem stays_ofChars (hside : R.Keeps side) (s : CharSet) (least : Nat) (most : Option Nat) (greedy : Bool) :
    (ofChars side s least most greedy).Stays R S := by
  intro as has
  have hexactly := exactly_within (stays_ofSet hside s) least has
  cases most with
  | none => exact charStar_within hside hexactly
  | some most => exact charUpTo_within hside hexactly

end Matcher

/-! ### Loops -/

/-- The way that remains to be gone on with leads through the region. -/
def Pending.Within (R : Region) (S : Nat → Prop) : Pending → Prop
  | .head _ a | .body _ a | .leave a => a.Within R S

namespace Loop

variable {l : Loop}

theorem choice_within {again leave : List Pending} (hagain : ∀ p ∈ again, p.Within R S)
    (hleave : ∀ p ∈ leave, p.Within R S) : ∀ p ∈ l.choice again leave, p.Within R S := by
  unfold choice
  split
  · exact List.forall_mem_append.2 ⟨hagain, hleave⟩
  · exact List.forall_mem_append.2 ⟨hleave, hagain⟩

theorem run_within (hnext : FindsWithin R S l.next) (fuel : Nat) {todo : List Pending} {s : LoopState}
    (htodo : ∀ p ∈ todo, p.Within R S) (hs : s.found.Within R S) : (l.run fuel todo s).Within R S := by
  induction fuel generalizing todo s with
  | zero => exact hs
  | succ fuel ih =>
    cases todo with
    | nil => exact hs
    | cons p rest =>
      obtain ⟨hp, hrest⟩ := List.forall_mem_cons.1 htodo
      cases p with
      | leave a => exact ih hrest (hs.add hp)
      | head n a =>
        rw [run]
        split
        · exact ih hrest hs
        · refine ih (List.forall_mem_append.2 ⟨choice_within ?_ ?_, hrest⟩) hs
          · intro p hp'
            split at hp'
            · rw [List.mem_singleton.1 hp']
              exact hp
            · cases hp'
          · exact List.forall_mem_singleton.2 hp
      | body n a =>
        rw [run]
        split
        · exact ih hrest hs
        · refine ih (List.forall_mem_append.2 ⟨List.forall_mem_map.2 ?_, hrest⟩) hs
          intro b hb
          exact Arrival.Within.followedBy hp (hnext _ (Arrival.Within.place hp) b hb)

theorem ways_within (hnext : FindsWithin R S l.next) (room : Nat) {todo : List Pending}
    (htodo : ∀ p ∈ todo, p.Within R S) : AllWithin R S (l.ways room todo) :=
  (run_within hnext _ htodo Found.within_none).toList

end Loop

namespace Matcher

variable {side : Side} {origin : Cursor} {body : Matcher}

theorem atLeast_within (hbody : body.Stays R S) {l : Loop} (hnext : FindsWithin R S l.next) (room least : Nat)
    {as : List Arrival} (has : AllWithin R S as) : AllWithin R S (atLeast room body l least as) := by
  cases least with
  | zero =>
    refine Loop.ways_within hnext room ?_
    intro p hp
    obtain ⟨a, ha, hpa⟩ := List.mem_flatMap.1 hp
    have hbody : (Pending.body 0 a).Within R S := has a ha
    have hleave : (Pending.leave a).Within R S := has a ha
    exact Loop.choice_within (List.forall_mem_singleton.2 hbody) (List.forall_mem_singleton.2 hleave) p
      hpa
  | succ least =>
    exact Loop.ways_within hnext room (List.forall_mem_map.2 (exactly_within hbody least has))

theorem stays_repeated (hside : R.Keeps side) (ho : R.Has origin) (hbody : body.Stays R S)
    (least : Nat) (most : Option Nat) (greedy : Bool) :
    (repeated side origin body least most greedy).Stays R S := by
  have htable := tableFrom_within hside hbody.runAt (side.room origin) ho tableWithin_empty
  have hnext : FindsWithin R S (if body.loops then
      lookUp side origin (Thunk.mk fun _ => tableFrom side body.runAt (side.room origin) origin #[])
      else body.runAt) := by
    split
    · exact lookUp_within htable
    · exact hbody.runAt
  intro as has
  cases most with
  | none => exact atLeast_within hbody hnext _ least has
  | some most =>
    exact Loop.ways_within hnext _ (List.forall_mem_map.2 (exactly_within hbody least has))

end Matcher

/-! ### Plain expressions -/

/-- The marks of the groups of the expression are in `S`. -/
def Expr.Marks (S : Nat → Prop) (e : Expr) : Prop := ∀ i ∈ e.groups, S (2 * i) ∧ S (2 * i + 1)

/-- What is said of the groups of two expressions together is said of both. -/
theorem marks_of_append {is js : List Nat} (h : ∀ i ∈ is ++ js, S (2 * i) ∧ S (2 * i + 1)) :
    (∀ i ∈ is, S (2 * i) ∧ S (2 * i + 1)) ∧ ∀ i ∈ js, S (2 * i) ∧ S (2 * i + 1) :=
  List.forall_mem_append.1 h

/-- **A plain expression is matched within a region** that is not left to the side, and sets the marks of its
groups only. -/
theorem stays_matcher {origin : Cursor} {side : Side} (hside : R.Keeps side) (ho : R.Has origin)
    {e : Expr} (he : e.Marks S) : (e.matcher side origin).Stays R S := by
  fun_induction Expr.matcher side origin e with
  | case1 => exact fun _ has => has
  | case2 s => exact Matcher.stays_ofSet hside s
  | case3 a => exact fun as has x hx => has x (List.mem_filter.1 hx).1
  | case4 a b first second ha hb =>
    obtain ⟨hea, heb⟩ := marks_of_append he
    cases side with
    | ahead => exact fun as has => hb heb _ (ha hea _ has)
    | behind => exact fun as has => ha hea _ (hb heb _ has)
  | case5 a ha => exact ha (marks_of_append he).1
  | case6 a b _ ha hb =>
    obtain ⟨hea, heb⟩ := marks_of_append he
    exact Matcher.stays_either hside ho (ha hea) (hb heb)
  | case7 i body hbody =>
    obtain ⟨hi, hrest⟩ := List.forall_mem_cons.1 he
    exact Matcher.stays_group (hbody hrest) hi
  | case8 s least most greedy => exact Matcher.stays_ofChars hside s least most greedy
  | case9 body least most greedy _ m htakes hbody =>
    exact Matcher.stays_repeated hside ho (hbody he) _ _ _
  | case10 body least most greedy _ m htakes hbody =>
    exact Matcher.stays_repeated hside ho (hbody he) _ _ _
  | case11 => exact fun _ _ => List.forall_mem_nil _

theorem ways_within {e : Expr} (he : e.Marks S) {c : Cursor} (hc : R.Has c) : AllWithin R S (e.ways c) :=
  (stays_matcher R.keeps_ahead hc he).runAt c hc

/-- Any marks may be set. -/
theorem Expr.marks_true (e : Expr) : e.Marks fun _ => True := fun _ _ => ⟨trivial, trivial⟩

theorem has_beginning? (hback : R.Keeps .behind) {e : Expr} {c d : Cursor} (hc : R.Has c)
    (h : e.beginning? c = some d) : R.Has d := by
  obtain ⟨a, ha, rfl⟩ := Option.map_eq_some_iff.1 h
  exact ((stays_matcher hback hc e.marks_true).runAt c hc a (List.mem_of_mem_head? ha)).place

/-! ### Moves -/

/-- A thread may take what is allowed to move to a place of the region. -/
theorem exists_of_take? {th u : Thread} {s : CharSet} (hhere : R.Has th.here) (hu : th.take? s = some u) :
    ∃ c, R.Has c ∧ u = th.moveTo c := by
  unfold Thread.take? at hu
  split at hu
  · rename_i x c hnext
    split at hu
    · cases hu
      exact ⟨c, R.ahead hhere hnext, rfl⟩
    · cases hu
  · cases hu

theorem exists_of_unit? {th u : Thread} {e : Expr} (he : e.Marks S) (hhere : R.Has th.here)
    (hu : th.unit? e = some u) : ∃ a, a.Within R S ∧ u = (th.capture e a).moveTo a.place := by
  obtain ⟨a, ha, rfl⟩ := Option.map_eq_some_iff.1 hu
  exact ⟨a, ways_within he hhere a (List.mem_of_mem_head? ha), rfl⟩

theorem exists_of_backOver? (hback : R.Keeps .behind) {th u : Thread} {e : Expr} (he : e.Marks S)
    (hhere : R.Has th.here) (hu : th.backOver? e = some u) :
    ∃ c, R.Has c ∧ (u = th.moveTo c ∨ ∃ a, a.Within R S ∧ u = (th.capture e a).moveTo c) := by
  obtain ⟨first, hfirst, hu⟩ := Option.bind_eq_some_iff.1 hu
  have hplace := has_beginning? hback hhere hfirst
  refine ⟨first, hplace, ?_⟩
  cases hu
  split
  · rename_i a ha
    split
    · exact .inl rfl
    · exact .inr ⟨a, ways_within he hplace a (List.mem_of_find?_eq_some ha), rfl⟩
  · exact .inl rfl

theorem has_repeatText? {fold : Bool} {captured : List Char} {c d : Cursor} (hc : R.Has c)
    (h : repeatText? fold captured c = some d) : R.Has d := by
  obtain ⟨last, hlast, hd⟩ := Option.bind_eq_some_iff.1 h
  split at hd
  · cases hd
    exact R.has_seekFrom hc hlast
  · cases hd

/-! ### Threads -/

/-- The thread is at a place of the region, and so are its marks. -/
structure Thread.Within (R : Region) (th : Thread) : Prop where
  here : R.Has th.here
  marks : ∀ c, some c ∈ th.marks → R.Has c

section
variable {th : Thread}

theorem Thread.within_start {groupCount : Nat} {c : Cursor} (hc : R.Has c) :
    (Thread.start groupCount c).Within R := by
  refine ⟨hc, ?_⟩
  intro d hd
  cases (Array.mem_replicate.1 hd).2

theorem Thread.Within.moveTo (h : th.Within R) {c : Cursor} (hc : R.Has c) :
    (th.moveTo c).Within R := ⟨hc, h.marks⟩

theorem Thread.Within.setMark (h : th.Within R) (slot : Nat) {c : Option Cursor}
    (hc : ∀ d ∈ c, R.Has d) : (th.setMark slot c).Within R := by
  refine ⟨h.here, ?_⟩
  intro d hd
  rcases Array.mem_or_eq_of_mem_setIfInBounds hd with hd | hd
  · exact h.marks d hd
  · exact hc d hd.symm

theorem Thread.Within.mark (h : th.Within R) (slot : Nat) : (th.mark slot).Within R := by
  refine h.setMark slot ?_
  rintro d ⟨⟩
  exact h.here

theorem Thread.Within.forget (h : th.Within R) (group : Nat) : (th.forget group).Within R :=
  (h.setMark _ fun _ hd => by cases hd).setMark _ fun _ hd => by cases hd

theorem Thread.Within.capture {S : Nat → Prop} (h : th.Within R) (e : Expr) {a : Arrival}
    (ha : a.Within R S) : (th.capture e a).Within R := by
  have hforget : (e.groups.foldl Thread.forget th).Within R :=
    List.foldlRecOn _ _ h fun _ h group _ => h.forget group
  refine List.foldrRecOn _ _ hforget ?_
  intro u hu m hm
  refine hu.setMark _ ?_
  rintro d ⟨⟩
  exact (ha.marks m hm).2

theorem Thread.Within.marked? (h : th.Within R) {slot : Nat} {c : Cursor}
    (hc : th.marked? slot = some c) : R.Has c :=
  h.marks c (Array.mem_of_getElem? (Option.join_eq_some_iff.1 hc))

theorem Thread.Within.take? (h : th.Within R) {s : CharSet} : ∀ u ∈ th.take? s, u.Within R := by
  intro u hu
  obtain ⟨c, hc, rfl⟩ := exists_of_take? h.here hu
  exact h.moveTo hc

theorem Thread.Within.unit? (h : th.Within R) {e : Expr} : ∀ u ∈ th.unit? e, u.Within R := by
  intro u hu
  obtain ⟨a, ha, rfl⟩ := exists_of_unit? e.marks_true h.here hu
  exact (h.capture e ha).moveTo ha.place

theorem Thread.Within.backOver? (hback : R.Keeps .behind) (h : th.Within R) {e : Expr} :
    ∀ u ∈ th.backOver? e, u.Within R := by
  intro u hu
  obtain ⟨c, hc, rfl | ⟨a, ha, rfl⟩⟩ := exists_of_backOver? hback e.marks_true h.here hu
  · exact h.moveTo hc
  · exact (h.capture e ha).moveTo hc

end

/-! ### The machine -/

/-- The plan goes back to look at what stands before a place. -/
def Plan.goesBack : Plan → Bool
  | back _ | backOver _ => true
  | seq a b | either a b => a.goesBack || b.goesBack
  | group _ body | optional body _ | star body _ | plus body _ | guarded body _ _ | counted body _ _ _
  | look _ body | atomic body => body.goesBack
  | conditional test yes no => test.goesBack || (yes.goesBack || no.goesBack)
  | _ => false

/-- If the plan goes back, that does not leave the region. -/
def Plan.Within (R : Region) (p : Plan) : Prop := p.goesBack = true → R.Keeps .behind

/-- What is required of two plans together is required of both. -/
theorem within_of_or {a b : Bool} {K : Prop} (h : (a || b) = true → K) :
    (a = true → K) ∧ (b = true → K) :=
  ⟨fun ha => h (Bool.or_eq_true_iff.2 (.inl ha)), fun hb => h (Bool.or_eq_true_iff.2 (.inr hb))⟩

/-- The plan that is part of the task stays in the region, and so does the place to return to. -/
def Task.Within (R : Region) : Task → Prop
  | .follow p | .star p _ | .guarded p _ _ _ _ | .counted p _ _ _ _ | .scan p | .skip p => p.Within R
  | .moveTo c => R.Has c
  | .mark _ | .commit | .refuse _ => True

/-- The tasks and the thread stay in the region. -/
structure SearchWithin (R : Region) (tasks : List Task) (th : Thread) : Prop where
  tasks : ∀ task ∈ tasks, task.Within R
  thread : th.Within R

section
variable {m : Machine} {tasks : List Task}

/-- One more task in front of others that stay in the region. -/
theorem forall_within_cons {task : Task} (htask : task.Within R) (htasks : ∀ task ∈ tasks, task.Within R) :
    ∀ u ∈ task :: tasks, u.Within R := List.forall_mem_cons.2 ⟨htask, htasks⟩

/-- Following a plan stays in the region. -/
theorem within_follow (hth : m.thread.Within R)
    (hbranches : ∀ b ∈ m.branches, SearchWithin R b.tasks b.thread)
    (htasks : ∀ task ∈ tasks, task.Within R) (origin : Nat) {p : Plan} (hp : p.Within R) :
    (m.follow origin tasks p).Holds (SearchWithin R) := by
  cases p with
  | done => exact ⟨⟨htasks, hth⟩, hbranches⟩
  | unit e => exact Machine.holds_goOnWith hbranches fun u hu => ⟨htasks, hth.unit? u hu⟩
  | chars s => exact Machine.holds_goOnWith hbranches fun u hu => ⟨htasks, hth.take? u hu⟩
  | assertion a => exact Machine.holds_goOnIf hbranches ⟨htasks, hth⟩
  | seq a b =>
    obtain ⟨ha, hb⟩ := within_of_or hp
    exact ⟨⟨forall_within_cons ha (forall_within_cons hb htasks), hth⟩, hbranches⟩
  | either a b =>
    obtain ⟨ha, hb⟩ := within_of_or hp
    exact Machine.holds_choose hbranches ⟨forall_within_cons ha htasks, hth⟩
      ⟨forall_within_cons hb htasks, hth⟩
  | group i body =>
    exact ⟨⟨forall_within_cons hp (forall_within_cons trivial htasks), hth.mark _⟩, hbranches⟩
  | optional body greedy =>
    exact Machine.holds_chooseLoop hbranches ⟨forall_within_cons hp htasks, hth⟩ ⟨htasks, hth⟩
  | star body greedy => exact ⟨⟨forall_within_cons hp htasks, hth⟩, hbranches⟩
  | plus body greedy =>
    exact ⟨⟨forall_within_cons hp (forall_within_cons hp htasks), hth⟩, hbranches⟩
  | guarded body least greedy => exact ⟨⟨forall_within_cons hp htasks, hth⟩, hbranches⟩
  | counted body least most greedy => exact ⟨⟨forall_within_cons hp htasks, hth⟩, hbranches⟩
  | look negative body =>
    cases negative with
    | false =>
      exact ⟨⟨forall_within_cons hp (forall_within_cons hth.here htasks), hth⟩, hbranches⟩
    | true =>
      exact Machine.holds_choose hbranches
        ⟨forall_within_cons hp (forall_within_cons trivial (List.forall_mem_nil _)), hth⟩ ⟨htasks, hth⟩
  | back size =>
    refine Machine.holds_goOnWith hbranches fun u hu => ⟨htasks, ?_⟩
    obtain ⟨c, hc, rfl⟩ := Option.map_eq_some_iff.1 hu
    exact hth.moveTo (R.has_back? (hp rfl) hth.here hc)
  | backOver e =>
    exact Machine.holds_goOnWith hbranches fun u hu => ⟨htasks, hth.backOver? (hp rfl) u hu⟩
  | atomic body =>
    exact ⟨⟨forall_within_cons hp (forall_within_cons trivial htasks), ⟨hth.here, hth.marks⟩⟩, hbranches⟩
  | sameAs i fold =>
    exact Machine.holds_sameAs hbranches fun _ c hc => ⟨htasks, hth.moveTo (has_repeatText? hth.here hc)⟩
  | keepOut => exact ⟨⟨htasks, hth.mark 0⟩, hbranches⟩
  | searchStart => exact Machine.holds_goOnIf hbranches ⟨htasks, hth⟩
  | groupSet i => exact Machine.holds_goOnIf hbranches ⟨htasks, hth⟩
  | conditional test yes no =>
    obtain ⟨htest, hno⟩ := within_of_or hp
    obtain ⟨hyes, hno⟩ := within_of_or hno
    have hholding : Thread.Within R { m.thread with held := m.depth :: m.thread.held } :=
      ⟨hth.here, hth.marks⟩
    exact Machine.holds_choose (m := { m with thread := _ }) hbranches
      ⟨forall_within_cons htest (forall_within_cons trivial (forall_within_cons hyes htasks)), hholding⟩
      ⟨forall_within_cons hno htasks, hholding⟩

/-- **A step of the machine stays in the region.** -/
theorem within_step (h : m.Holds (SearchWithin R)) (origin : Nat) :
    (m.step origin).Holds (SearchWithin R) := by
  obtain ⟨todo, th, branches, depth⟩ := m
  obtain ⟨⟨htodo, hth⟩, hbranches⟩ := h
  cases todo with
  | nil => exact ⟨htodo, hth⟩
  | cons task tasks =>
    obtain ⟨htask, htasks⟩ := List.forall_mem_cons.1 htodo
    cases task with
    | follow p => exact within_follow hth hbranches htasks origin htask
    | star body greedy =>
      exact Machine.holds_chooseLoop hbranches
        ⟨forall_within_cons htask (forall_within_cons htask htasks), hth⟩ ⟨htasks, hth⟩
    | guarded body least greedy count last =>
      exact Machine.holds_guarded hbranches (fun _ => ⟨htasks, hth⟩)
        fun _ => ⟨forall_within_cons htask (forall_within_cons htask htasks), hth⟩
    | counted body least most greedy count =>
      exact Machine.holds_counted hbranches (fun _ => ⟨htasks, hth⟩)
        ⟨forall_within_cons htask (forall_within_cons htask htasks), hth⟩
    | mark slot => exact ⟨⟨htasks, hth.mark slot⟩, hbranches⟩
    | moveTo c => exact ⟨⟨htasks, hth.moveTo htask⟩, hbranches⟩
    | commit => exact Machine.holds_commit hbranches fun _ => ⟨htasks, hth.here, hth.marks⟩
    | refuse depth' => exact Machine.holds_cutTo hbranches depth'
    | scan p =>
      have hhere : ∀ task ∈ [.mark 0, .follow p, .mark 1], Task.Within R task :=
        forall_within_cons trivial (forall_within_cons htask
          (forall_within_cons trivial (List.forall_mem_nil _)))
      exact Machine.holds_choose hbranches ⟨hhere, hth⟩
        ⟨forall_within_cons htask (List.forall_mem_nil _), hth⟩
    | skip p =>
      have hscan : ∀ task ∈ [Task.scan p], task.Within R :=
        forall_within_cons htask (List.forall_mem_nil _)
      refine Machine.holds_goOnWith hbranches fun u hu => ⟨hscan, ?_⟩
      obtain ⟨⟨x, c⟩, hc, rfl⟩ := Option.map_eq_some_iff.1 hu
      exact hth.moveTo (R.ahead hth.here hc)

end

end Regex

/-! ### Captures -/

open Regex

/-- The capture lies in the region. -/
structure Capture.Within (R : Region) (c : Capture) : Prop where
  first : R.Has c.first
  last : R.Has c.last

theorem Regex.Thread.Within.capture? {R : Region} {th : Thread} (h : th.Within R) {i : Nat}
    {c : Capture} (hc : th.capture? i = some c) : c.Within R := by
  obtain ⟨first, hfirst, hc⟩ := Option.bind_eq_some_iff.1 hc
  obtain ⟨last, hlast, hc⟩ := Option.bind_eq_some_iff.1 hc
  cases hc
  exact ⟨h.marked? hfirst, h.marked? hlast⟩

/-- The whole match begins no later than it ends. -/
theorem Regex.Thread.Within.whole? {R : Region} {th : Thread} (h : th.Within R) {c : Capture}
    (hc : th.whole? = some c) : c.Within R ∧ c.first.offset ≤ c.last.offset := by
  obtain ⟨d, hd, hc⟩ := Option.bind_eq_some_iff.1 hc
  have hd' := h.capture? hd
  split at hc
  · cases hc
    exact ⟨⟨hd'.last, hd'.last⟩, Nat.le_refl _⟩
  · cases hc
    exact ⟨hd', by omega⟩

/-- What a search captures lies in a region that its plan does not leave, and the whole match begins no
later than it ends. -/
theorem within_of_search {R : Region} {r : Regex} (hr : r.plan.Within R) {place : Cursor}
    (hplace : R.Has place) {whole : Capture} {groups : List (Option Capture)}
    (h : r.search place = .found whole groups) :
    whole.Within R ∧ whole.first.offset ≤ whole.last.offset ∧ ∀ c, some c ∈ groups → c.Within R := by
  have hstart : (r.machine place).Holds (SearchWithin R) := by
    refine ⟨⟨?_, Thread.within_start hplace⟩, List.forall_mem_nil _⟩
    unfold Regex.machine
    dsimp only
    split
    · exact forall_within_cons trivial (forall_within_cons hr
        (forall_within_cons trivial (List.forall_mem_nil _)))
    · exact forall_within_cons hr (List.forall_mem_nil _)
  have hstep : ∀ m : Machine, m.Holds (SearchWithin R) → (m.step place.offset).Holds (SearchWithin R) :=
    fun m hm => within_step hm place.offset
  obtain ⟨th, hth, hfound, rfl⟩ := exists_of_search hstep (hstep _ hstart) h
  obtain ⟨hwhole, hle⟩ := hth.thread.whole? hfound
  refine ⟨hwhole, hle, ?_⟩
  intro c hc
  obtain ⟨i, -, hi⟩ := List.mem_map.1 hc
  exact hth.thread.capture? hi

/-- The capture lies in the text. -/
structure Capture.In (t : List Char) (c : Capture) : Prop where
  first : c.first.text = t
  last : c.last.text = t

/-- **What a search captures lies in the text**, and the whole match begins no later than it ends. -/
theorem text_of_search {r : Regex} {place : Cursor} {whole : Capture} {groups : List (Option Capture)}
    (h : r.search place = .found whole groups) :
    whole.In place.text ∧ whole.first.offset ≤ whole.last.offset ∧
      ∀ c, some c ∈ groups → c.In place.text := by
  obtain ⟨hwhole, hle, hgroups⟩ := within_of_search (R := .ofText place.text)
    (fun _ => Region.keeps_ofText _ _) rfl h
  exact ⟨⟨hwhole.first, hwhole.last⟩, hle, fun c hc => ⟨(hgroups c hc).first, (hgroups c hc).last⟩⟩

/-- **Without going back, a match does not begin before the place of the search.** -/
theorem offset_le_of_search {r : Regex} (hr : r.plan.goesBack = false) {place : Cursor} {whole : Capture}
    {groups : List (Option Capture)} (h : r.search place = .found whole groups) :
    place.offset ≤ whole.first.offset := by
  have hplan : r.plan.Within (.fromOffset place.offset) := by
    intro hback
    rw [hr] at hback
    cases hback
  have hplace : (Region.fromOffset place.offset).Has place := Nat.le_refl place.offset
  exact (within_of_search hplan hplace h).1.first

end Listfile
