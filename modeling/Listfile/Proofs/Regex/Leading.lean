import Listfile.Proofs.Regex.Attempting
import Listfile.Proofs.Regex.Staying
import Listfile.Proofs.Text.Passing
import Mathlib.Logic.Relation

/-!
# Where matches can lead

An expression leads from the place where it is matched to some places further on, and so does a plan.  What
is said here of an expression is said part by part, whatever way of matching is preferred.

* `Expr.Leads`, `Plan.Leads`: the places to which an expression, or a plan, can lead.
* `Matcher.Follows`, **`leads_of_ways`**: the ways of matching a plain expression end at such places.
* `TasksLead`, **`leads_of_search`**: so does an anchored search.
-/

namespace Listfile

namespace Regex

open Relation (ReflTransGen TransGen)

/-! ### Relations between places -/

/-- The next character is in the set, and stands before the place `d`. -/
def CharSet.Takes (s : CharSet) (c d : Cursor) : Prop := ∃ x, c.next? = some (x, d) ∧ s.contains x = true

/-- Something is repeated, at least once if `some` says so. -/
def Repeats (R : Cursor → Cursor → Prop) (some : Bool) (c d : Cursor) : Prop :=
  (some = true → TransGen R c d) ∧ ReflTransGen R c d

section
variable {R : Cursor → Cursor → Prop} {b : Bool} {c d x : Cursor}

theorem Repeats.none : Repeats R false c c := ⟨nofun, .refl⟩

theorem Repeats.of_transGen (h : TransGen R c d) : Repeats R b c d := ⟨fun _ => h, h.to_reflTransGen⟩

theorem Repeats.head (h : R c x) (hd : ReflTransGen R x d) : Repeats R b c d :=
  .of_transGen (.head' h hd)

end

/-- The places to which a plain expression can lead. -/
def Expr.Leads : Expr → Cursor → Cursor → Prop
  | empty, c, d => c = d
  | chars s, c, d => s.Takes c d
  | assertion a, c, d => c = d ∧ a.holds c = true
  | seq a b, c, d => ∃ x, a.Leads c x ∧ b.Leads x d
  | either a b, c, d => a.Leads c d ∨ b.Leads c d
  | group _ body, c, d => body.Leads c d
  | repeated body least _ _, c, d => Repeats body.Leads (0 < least) c d
  | _, _, _ => False

/-- The places ahead of a place. -/
def Ahead (c d : Cursor) : Prop := ∃ u, c.Passes u d

theorem Ahead.refl (c : Cursor) : Ahead c c := ⟨[], .refl c⟩

theorem Ahead.trans {c d e : Cursor} (h : Ahead c d) (h' : Ahead d e) : Ahead c e := by
  obtain ⟨u, hu⟩ := h
  obtain ⟨v, hv⟩ := h'
  exact ⟨u ++ v, hu.trans hv⟩

theorem ahead_of_reflTransGen {R : Cursor → Cursor → Prop} (hR : ∀ {c d}, R c d → Ahead c d) {c d : Cursor}
    (h : ReflTransGen R c d) : Ahead c d := by
  induction h with
  | refl => exact .refl c
  | tail _ hstep ih => exact ih.trans (hR hstep)

/-- A plain expression leads ahead. -/
theorem Expr.Leads.ahead {e : Expr} {c d : Cursor} (h : e.Leads c d) : Ahead c d := by
  induction e generalizing c d with
  | empty =>
    cases h
    exact .refl c
  | chars s =>
    obtain ⟨x, hnext, -⟩ := h
    exact ⟨[x], .step hnext⟩
  | assertion a =>
    obtain ⟨rfl, -⟩ := h
    exact .refl c
  | seq a b ha hb =>
    obtain ⟨x, hx, hd⟩ := h
    exact (ha hx).trans (hb hd)
  | either a b ha hb =>
    rcases h with h | h
    · exact ha h
    · exact hb h
  | group i body ih => exact ih h
  | repeated body least most greedy ih => exact ahead_of_reflTransGen ih h.2
  | _ => cases h

/-! ### Ways that were found -/

section
variable {f : Found} {a b : Arrival} {as bs : List Arrival}

/-- What is found after adding for one thing after another was added for one of them. -/
theorem Found.mem_foldl {α : Type} {add : Found → α → Found} {P : α → Arrival → Prop}
    (hadd : ∀ f x, ∀ b ∈ (add f x).ways, P x b ∨ b ∈ f.ways) {xs : List α}
    (h : b ∈ (xs.foldl add f).ways) : (∃ x ∈ xs, P x b) ∨ b ∈ f.ways := by
  induction xs generalizing f with
  | nil => exact .inr h
  | cons x xs ih =>
    rcases ih h with ⟨y, hy, hP⟩ | h
    · exact .inl ⟨y, List.mem_cons_of_mem x hy, hP⟩
    · rcases hadd f x b h with hP | h
      · exact .inl ⟨x, List.mem_cons_self, hP⟩
      · exact .inr h

theorem Found.mem_foldl_push (h : b ∈ (as.foldl Found.push f).ways) : b ∈ as ∨ b ∈ f.ways := by
  rcases mem_foldl (fun f x b hb => List.mem_cons.1 hb) h with ⟨a, ha, rfl⟩ | h
  · exact .inl ha
  · exact .inr h

theorem Found.mem_foldl_add (h : b ∈ (as.foldl Found.add f).ways) : b ∈ as ∨ b ∈ f.ways := by
  have hadd : ∀ (f : Found) (x b : Arrival), b ∈ (f.add x).ways → b = x ∨ b ∈ f.ways := by
    intro f x b hb
    unfold Found.add at hb
    split at hb
    · exact .inr hb
    · exact List.mem_cons.1 hb
  rcases mem_foldl hadd h with ⟨a, ha, rfl⟩ | h
  · exact .inl ha
  · exact .inr h

theorem Found.mem_addFrom (h : b ∈ (Found.addFrom a f as).ways) :
    (∃ x ∈ as, b = a.followedBy x) ∨ b ∈ f.ways := by
  refine mem_foldl (P := fun x b => b = a.followedBy x) ?_ h
  intro f x b hb
  split at hb
  · exact .inr hb
  · exact List.mem_cons.1 hb

theorem mem_firstOfEach (h : b ∈ firstOfEach as bs) : b ∈ as ∨ b ∈ bs := by
  unfold firstOfEach at h
  split at h
  · exact .inl h
  · exact .inr h
  · rcases Found.mem_foldl_add (List.mem_reverse.1 h) with h | h
    · exact .inr h
    · rcases Found.mem_foldl_add h with h | h
      · exact .inl h
      · cases h

/-- Each way is one of those that go on from some place. -/
theorem mem_thenAll {next : Cursor → List Arrival} (h : b ∈ thenAll next as) :
    ∃ a ∈ as, ∃ x ∈ next a.place, b = a.followedBy x := by
  unfold thenAll at h
  split at h
  · cases h
  · rename_i a
    obtain ⟨x, hx, rfl⟩ := List.mem_map.1 h
    exact ⟨a, List.mem_cons_self, x, hx, rfl⟩
  · have hway : b ∈ (as.foldl (fun f a => Found.addFrom a f (next a.place)) Found.none).ways :=
      List.mem_reverse.1 h
    rcases Found.mem_foldl (P := fun a b => ∃ x ∈ next a.place, b = a.followedBy x)
      (fun f a b hb => Found.mem_addFrom hb) hway with h | h
    · exact h
    · cases h

end

/-! ### Tables -/

theorem exists_tableFrom (find : Cursor → List Arrival) (n : Nat) (c : Cursor)
    (done : Array (Thunk (List Arrival))) : ∃ more, Matcher.tableFrom .ahead find n c done
      = done.push (Thunk.mk fun _ => find c) ++ more := by
  induction n generalizing c done with
  | zero => exact ⟨#[], Array.append_empty.symm⟩
  | succ n ih =>
    rw [Matcher.tableFrom]
    split
    · rename_i x d _
      obtain ⟨more, hmore⟩ := ih d (done.push (Thunk.mk fun _ => find c)
        ++ Array.replicate (x.utf8Size - 1) (Thunk.mk fun _ => []))
      rw [hmore, ← Array.append_push, Array.append_assoc]
      exact ⟨_, rfl⟩
    · exact ⟨#[], Array.append_empty.symm⟩

/-- A table holds what is found at the places ahead, each at its distance. -/
theorem getElem?_tableFrom {find : Cursor → List Arrival} {u : List Char} (n : Nat) {c d : Cursor}
    {done : Array (Thunk (List Arrival))} {found : Thunk (List Arrival)} (hd : c.Passes u d)
    (h : (Matcher.tableFrom .ahead find n c done)[done.size + byteLength u]? = some found) :
    found.get = find d := by
  induction u generalizing n c done with
  | nil =>
    obtain rfl : c = d := Cursor.ext' hd.before.symm hd.after
    have hfirst : ∀ more, (done.push (Thunk.mk fun _ => find c) ++ more)[done.size + byteLength []]?
        = some found → found.get = find c := by
      intro more hmore
      have hlt : done.size < (done.push (Thunk.mk fun _ => find c)).size := by simp
      rw [byteLength_nil, Nat.add_zero, Array.getElem?_append_left hlt, Array.getElem?_push_size] at hmore
      cases hmore
      rfl
    obtain ⟨more, hmore⟩ := exists_tableFrom find n c done
    rw [hmore] at h
    exact hfirst more h
  | cons x u ih =>
    obtain ⟨b, hnext, hb⟩ := Cursor.next?_of_after hd.after
    have hrest : b.Passes u d := by
      obtain ⟨e, he, hafter⟩ := Cursor.exists_passes (u := u) (List.cons_eq_cons.1 (hb.after.symm.trans hd.after)).2
      rwa [(hb.trans he).unique hd] at he
    cases n with
    | zero =>
      rw [Matcher.tableFrom, Array.getElem?_eq_none] at h
      · cases h
      · rw [Array.size_push, byteLength_cons]
        have hpos := x.utf8Size_pos
        omega
    | succ n =>
      rw [Matcher.tableFrom, Side.step?, hnext] at h
      have hsize : (done.push (Thunk.mk fun _ => find c)
          ++ Array.replicate (x.utf8Size - 1) (Thunk.mk fun _ => [])).size + byteLength u
            = done.size + byteLength (x :: u) := by
        have hpos := x.utf8Size_pos
        rw [Array.size_append, Array.size_push, Array.size_replicate, byteLength_cons]
        omega
      rw [← hsize] at h
      exact ih n hrest h

/-! ### Matchers -/

/-- Every way ends where one of the ways up to it leads, if these are ways ahead of `origin`. -/
def Matcher.Follows (origin : Cursor) (R : Cursor → Cursor → Prop) (m : Matcher) : Prop :=
  ∀ as, (∀ a ∈ as, Ahead origin a.place) → ∀ b ∈ m.run as, ∃ a ∈ as, R a.place b.place

/-- What is found at any place ahead of `origin` is where the place leads. -/
def FindsAt (origin : Cursor) (R : Cursor → Cursor → Prop) (find : Cursor → List Arrival) : Prop :=
  ∀ c, Ahead origin c → ∀ b ∈ find c, R c b.place

/-- What is looked up at a place ahead is what is found there. -/
theorem FindsAt.lookUp {find : Cursor → List Arrival} {origin : Cursor} {R : Cursor → Cursor → Prop}
    (hfind : FindsAt origin R find) (n : Nat) :
    FindsAt origin R (Matcher.lookUp .ahead origin
      (Thunk.mk fun _ => Matcher.tableFrom .ahead find n origin #[])) := by
  intro c hc b hb
  refine hfind c hc b ?_
  obtain ⟨u, hu⟩ := hc
  unfold Matcher.lookUp Matcher.distance at hb
  dsimp only at hb
  rw [hu.offset, Nat.add_sub_cancel_left] at hb
  split at hb
  · rename_i found hfound
    have hempty : (#[] : Array (Thunk (List Arrival))).size + byteLength u = byteLength u :=
      Nat.zero_add _
    rw [← hempty] at hfound
    rw [← getElem?_tableFrom n hu hfound]
    exact hb
  · cases hb

namespace Matcher

variable {origin : Cursor} {R R' : Cursor → Cursor → Prop} {m first second : Matcher}

theorem Follows.runAt (h : m.Follows origin R) : FindsAt origin R m.runAt := by
  intro c hc b hb
  obtain ⟨a, ha, hR⟩ := h [.start c] (List.forall_mem_singleton.2 hc) b hb
  rw [List.mem_singleton.1 ha] at hR
  exact hR

theorem follows_thenAll {find : Cursor → List Arrival} (hfind : FindsAt origin R find) {as : List Arrival}
    (has : ∀ a ∈ as, Ahead origin a.place) : ∀ b ∈ thenAll find as, ∃ a ∈ as, R a.place b.place := by
  intro b hb
  obtain ⟨a, ha, x, hx, rfl⟩ := mem_thenAll hb
  exact ⟨a, ha, hfind _ (has a ha) x hx⟩

theorem follows_ofSet (s : CharSet) :
    (ofSet .ahead s).Follows origin s.Takes := by
  intro as _ b hb
  obtain ⟨a, ha, hab⟩ := List.mem_filterMap.1 hb
  split at hab
  · rename_i x d hstep
    split at hab
    · rename_i hs
      cases hab
      exact ⟨a, ha, x, hstep, hs⟩
    · cases hab
  · cases hab

theorem follows_seq (hfirst : first.Follows origin R) (hsecond : second.Follows origin R')
    (hR : ∀ {c d}, R c d → Ahead c d) (loops : Bool) :
    (⟨second.run ∘ first.run, loops⟩ : Matcher).Follows origin fun c d => ∃ x, R c x ∧ R' x d := by
  intro as has b hb
  have hmiddle : ∀ a ∈ first.run as, Ahead origin a.place := by
    intro a ha
    obtain ⟨x, hx, hxa⟩ := hfirst as has a ha
    exact (has x hx).trans (hR hxa)
  obtain ⟨x, hx, hxb⟩ := hsecond _ hmiddle b hb
  obtain ⟨a, ha, hax⟩ := hfirst as has x hx
  exact ⟨a, ha, x.place, hax, hxb⟩

theorem follows_either (hfirst : first.Follows origin R) (hsecond : second.Follows origin R') :
    (either .ahead origin first second).Follows origin fun c d => R c d ∨ R' c d := by
  have hfind : FindsAt origin (fun c d => R c d ∨ R' c d)
      fun c => firstOfEach (first.runAt c) (second.runAt c) := by
    intro c hc b hb
    rcases mem_firstOfEach hb with hb | hb
    · exact .inl (hfirst.runAt c hc b hb)
    · exact .inr (hsecond.runAt c hc b hb)
  intro as has b hb
  unfold either at hb
  dsimp only at hb
  split at hb
  · rename_i a
    rcases mem_firstOfEach hb with hb | hb
    · obtain ⟨x, hx, hR⟩ := hfirst [a] has b hb
      exact ⟨x, hx, .inl hR⟩
    · obtain ⟨x, hx, hR⟩ := hsecond [a] has b hb
      exact ⟨x, hx, .inr hR⟩
  · split at hb
    · exact follows_thenAll (hfind.lookUp _) has b hb
    · exact follows_thenAll hfind has b hb

theorem follows_group (h : m.Follows origin R) (i : Nat) : (m.group i).Follows origin R := by
  intro as has b hb
  obtain ⟨b', hb', rfl⟩ := List.mem_map.1 hb
  have hmarked : ∀ a ∈ as.map (·.mark (2 * i)), Ahead origin a.place := List.forall_mem_map.2 has
  obtain ⟨a', ha', hR⟩ := h _ hmarked b' hb'
  obtain ⟨a, ha, rfl⟩ := List.mem_map.1 ha'
  exact ⟨a, ha, hR⟩

/-! ### Repetitions -/

theorem follows_exactly (h : m.Follows origin R) (hR : ∀ {c d}, R c d → Ahead c d) (n : Nat)
    {as : List Arrival} (has : ∀ a ∈ as, Ahead origin a.place) :
    ∀ b ∈ m.exactly n as, ∃ a ∈ as, Repeats R (0 < n) a.place b.place := by
  induction n generalizing as with
  | zero =>
    intro b hb
    refine ⟨b, ?_, .none⟩
    cases as with
    | nil => cases hb
    | cons a as => exact hb
  | succ n ih =>
    cases as with
    | nil => nofun
    | cons a as =>
      intro b hb
      have hmiddle : ∀ x ∈ m.run (a :: as), Ahead origin x.place := by
        intro x hx
        obtain ⟨y, hy, hyx⟩ := h _ has x hx
        exact (has y hy).trans (hR hyx)
      obtain ⟨x, hx, hxb⟩ := ih hmiddle b hb
      obtain ⟨y, hy, hyx⟩ := h _ has x hx
      exact ⟨y, hy, .head hyx hxb.2⟩

/-- The places along a run of characters are reached by taking them one by one. -/
theorem mem_charRun {s : CharSet} {reached : Places} (n : Nat) {c d : Cursor} {done : List Cursor}
    (h : d ∈ charRun .ahead s reached n c done) : d ∈ done ∨
      ReflTransGen s.Takes c d := by
  induction n generalizing c done with
  | zero =>
    unfold charRun at h
    split at h
    · exact .inl h
    · rcases List.mem_cons.1 h with rfl | h
      · exact .inr .refl
      · exact .inl h
  | succ n ih =>
    have hcons : d ∈ c :: done → d ∈ done ∨ ReflTransGen s.Takes c d := by
      intro h
      rcases List.mem_cons.1 h with rfl | h
      · exact .inr .refl
      · exact .inl h
    unfold charRun at h
    split at h
    · exact .inl h
    · split at h
      · rename_i x b hstep
        split at h
        · rename_i hs
          rcases ih h with h | h
          · exact hcons h
          · exact .inr (.head ⟨x, hstep, hs⟩ h)
        · exact hcons h
      · exact hcons h

theorem mem_charWays {s : CharSet} {greedy : Bool} {n : Nat} {reached : Places} {a b : Arrival}
    (h : b ∈ charWays .ahead s greedy n reached a) :
    ReflTransGen s.Takes a.place b.place := by
  obtain ⟨d, hd, rfl⟩ := List.mem_map.1 h
  have hrun : d ∈ charRun .ahead s reached n a.place [] := by
    split at hd
    · exact hd
    · exact List.mem_reverse.1 hd
  rcases mem_charRun n hrun with hd | hd
  · cases hd
  · exact hd

theorem mem_charStar {s : CharSet} {greedy : Bool} {as : List Arrival} {b : Arrival}
    (h : b ∈ charStar .ahead s greedy as) : ∃ a ∈ as,
      ReflTransGen s.Takes a.place b.place := by
  unfold charStar at h
  split at h
  · exact ⟨_, List.mem_cons_self, mem_charWays h⟩
  · have hway := List.mem_reverse.1 h
    rcases Found.mem_foldl (P := fun a b => ReflTransGen s.Takes a.place b.place)
      (fun f a b hb => (Found.mem_foldl_push hb).imp_left mem_charWays) hway with h | h
    · exact h
    · cases h

theorem mem_charUpTo {s : CharSet} {greedy : Bool} {n : Nat} {as : List Arrival} {b : Arrival}
    (h : b ∈ charUpTo .ahead s greedy n as) : ∃ a ∈ as,
      ReflTransGen s.Takes a.place b.place := by
  unfold charUpTo at h
  split at h
  · exact ⟨_, List.mem_cons_self, mem_charWays h⟩
  · have hway := List.mem_reverse.1 h
    rcases Found.mem_foldl (P := fun a b => ReflTransGen s.Takes a.place b.place)
      (fun f a b hb => (Found.mem_foldl_add hb).imp_left mem_charWays) hway with h | h
    · exact h
    · cases h

theorem follows_ofChars (s : CharSet) (least : Nat) (most : Option Nat) (greedy : Bool) :
    (ofChars .ahead s least most greedy).Follows origin
      (Repeats s.Takes (0 < least)) := by
  intro as has b hb
  have hmore : ∃ x ∈ exactly (ofSet .ahead s) least as,
      ReflTransGen s.Takes x.place b.place := by
    cases most with
    | none => exact mem_charStar hb
    | some most => exact mem_charUpTo hb
  obtain ⟨x, hx, hxb⟩ := hmore
  have hstep : ∀ {c d : Cursor}, s.Takes c d → Ahead c d :=
    fun ⟨x, hnext, _⟩ => ⟨[x], .step hnext⟩
  obtain ⟨a, ha, hax⟩ := follows_exactly (follows_ofSet s) hstep least has x hx
  exact ⟨a, ha, fun hleast => (hax.1 hleast).trans_left hxb, hax.2.trans hxb⟩

end Matcher

/-! ### Loops -/

namespace Loop

variable {l : Loop} {inside left : Arrival → Prop}

/-- What remains to be done goes on from ways into the body, or from ways that may leave. -/
def Waits (inside left : Arrival → Prop) : Pending → Prop
  | .head _ a | .leave a => left a
  | .body _ a => inside a

theorem mem_choice {again leave : List Pending} {p : Pending} (h : p ∈ l.choice again leave) :
    p ∈ again ∨ p ∈ leave := by
  unfold choice at h
  split at h
  · exact List.mem_append.1 h
  · exact (List.mem_append.1 h).symm

/-- What one repetition makes of ways into the body, and leaves with, is all that a loop finds. -/
theorem mem_run (hnext : ∀ a, inside a → ∀ b ∈ l.next a.place, left (a.followedBy b))
    (hagain : ∀ a, left a → inside a) (fuel : Nat) {todo : List Pending} {s : LoopState}
    (htodo : ∀ p ∈ todo, Waits inside left p) (hs : ∀ b ∈ s.found.ways, left b) :
    ∀ b ∈ (l.run fuel todo s).ways, left b := by
  induction fuel generalizing todo s with
  | zero => exact hs
  | succ fuel ih =>
    cases todo with
    | nil => exact hs
    | cons p rest =>
      obtain ⟨hp, hrest⟩ := List.forall_mem_cons.1 htodo
      cases p with
      | leave a =>
        refine ih hrest ?_
        intro b hb
        have hb : b ∈ ([a].foldl Found.add _).ways := hb
        rcases Found.mem_foldl_add hb with hb | hb
        · rw [List.mem_singleton.1 hb]
          exact hp
        · exact hs b hb
      | head n a =>
        rw [run]
        split
        · exact ih hrest hs
        · refine ih (List.forall_mem_append.2 ⟨?_, hrest⟩) hs
          intro q hq
          rcases mem_choice hq with hq | hq
          · split at hq
            · rw [List.mem_singleton.1 hq]
              exact hagain a hp
            · cases hq
          · rw [List.mem_singleton.1 hq]
            exact hp
      | body n a =>
        rw [run]
        split
        · exact ih hrest hs
        · refine ih (List.forall_mem_append.2 ⟨List.forall_mem_map.2 ?_, hrest⟩) hs
          exact fun b hb => hnext a hp b hb

theorem mem_ways (hnext : ∀ a, inside a → ∀ b ∈ l.next a.place, left (a.followedBy b))
    (hagain : ∀ a, left a → inside a) (room : Nat) {todo : List Pending}
    (htodo : ∀ p ∈ todo, Waits inside left p) : ∀ b ∈ l.ways room todo, left b := by
  intro b hb
  exact mem_run hnext hagain _ htodo (List.forall_mem_nil _) b (List.mem_reverse.1 hb)

end Loop

namespace Matcher

variable {origin : Cursor} {R : Cursor → Cursor → Prop} {body : Matcher}

/-- From one of the given ways the body was repeated, at least once if `some` says so. -/
def Repeated (origin : Cursor) (R : Cursor → Cursor → Prop) (as : List Arrival) (some : Bool) (b : Arrival) :
    Prop :=
  Ahead origin b.place ∧ ∃ a ∈ as, Repeats R some a.place b.place

theorem Repeated.next (hR : ∀ {c d}, R c d → Ahead c d) {as : List Arrival} {some some' : Bool}
    {a x : Arrival} (ha : Repeated origin R as some a) (hx : R a.place x.place) :
    Repeated origin R as some' (a.followedBy x) := by
  obtain ⟨hahead, b, hb, hrepeats⟩ := ha
  exact ⟨hahead.trans (hR hx), b, hb, .of_transGen (.tail' hrepeats.2 hx)⟩

theorem Repeated.weaken {as : List Arrival} {some : Bool} {a : Arrival} (ha : Repeated origin R as some a) :
    Repeated origin R as false a := by
  obtain ⟨hahead, b, hb, hrepeats⟩ := ha
  exact ⟨hahead, b, hb, nofun, hrepeats.2⟩

theorem repeated_exactly (hbody : body.Follows origin R) (hR : ∀ {c d}, R c d → Ahead c d) (n : Nat)
    {as : List Arrival} (has : ∀ a ∈ as, Ahead origin a.place) :
    ∀ b ∈ body.exactly n as, Repeated origin R as (0 < n) b := by
  intro b hb
  obtain ⟨a, ha, hrepeats⟩ := follows_exactly hbody hR n has b hb
  exact ⟨(has a ha).trans (ahead_of_reflTransGen hR hrepeats.2), a, ha, hrepeats⟩

theorem follows_repeated (hbody : body.Follows origin R) (hR : ∀ {c d}, R c d → Ahead c d) (least : Nat)
    (most : Option Nat) (greedy : Bool) :
    (repeated .ahead origin body least most greedy).Follows origin (Repeats R (0 < least)) := by
  intro as has b hb
  unfold repeated at hb
  dsimp only at hb
  -- what the body finds, whether it is looked up or not
  have hfind : FindsAt origin R (if body.loops then lookUp .ahead origin
      (Thunk.mk fun _ => tableFrom .ahead body.runAt (Side.ahead.room origin) origin #[])
      else body.runAt) := by
    split
    · exact hbody.runAt.lookUp _
    · exact hbody.runAt
  have hnext {some some' : Bool} (a : Arrival) (ha : Repeated origin R as some a) :
      ∀ x ∈ (if body.loops then lookUp .ahead origin
        (Thunk.mk fun _ => tableFrom .ahead body.runAt (Side.ahead.room origin) origin #[])
        else body.runAt) a.place, Repeated origin R as some' (a.followedBy x) :=
    fun x hx => ha.next hR (hfind _ ha.1 x hx)
  have hmandatory := repeated_exactly hbody hR least has
  suffices h : Repeated origin R as (0 < least) b from h.2
  cases most with
  | some most =>
    refine Loop.mem_ways (fun a ha => hnext a ha) (fun a ha => ha.weaken) _ ?_ b hb
    exact List.forall_mem_map.2 hmandatory
  | none =>
    cases least with
    | zero =>
      refine Loop.mem_ways (fun a ha => hnext a ha) (fun a ha => ha.weaken) _ ?_ b hb
      intro p hp
      obtain ⟨a, ha, hp⟩ := List.mem_flatMap.1 hp
      have hstart : Repeated origin R as false a := ⟨has a ha, a, ha, .none⟩
      rcases Loop.mem_choice hp with hp | hp
      · rw [List.mem_singleton.1 hp]
        exact hstart
      · rw [List.mem_singleton.1 hp]
        exact hstart
    | succ least =>
      have hlast := repeated_exactly hbody hR least has
      refine Loop.mem_ways (fun a ha => hnext a ha) (fun a ha => ha.weaken) _ ?_ b hb
      exact List.forall_mem_map.2 fun a ha => (hlast a ha).weaken

end Matcher

/-! ### Plain expressions -/

/-- What is repeated at least once is repeated at least once if fewer repetitions are asked for. -/
theorem follows_bounded {m : Matcher} {origin : Cursor} {R : Cursor → Cursor → Prop} {least : Nat}
    (h : m.Follows origin (Repeats R (0 < min least 1))) : m.Follows origin (Repeats R (0 < least)) := by
  have hsame : decide (0 < min least 1) = decide (0 < least) := by
    apply decide_eq_decide.2
    omega
  rwa [hsame] at h

/-- **A plain expression is matched on the way to places where it leads.** -/
theorem follows_matcher (e : Expr) (origin : Cursor) : (e.matcher .ahead origin).Follows origin e.Leads := by
  fun_induction Expr.matcher .ahead origin e with
  | case1 => exact fun as _ b hb => ⟨b, hb, rfl⟩
  | case2 s => exact Matcher.follows_ofSet s
  | case3 a =>
    intro as _ b hb
    obtain ⟨hb, hholds⟩ := List.mem_filter.1 hb
    exact ⟨b, hb, rfl, hholds⟩
  | case4 a b first second ha hb => exact Matcher.follows_seq ha hb Expr.Leads.ahead _
  | case5 a ha =>
    intro as has b hb
    obtain ⟨x, hx, hleads⟩ := ha as has b hb
    exact ⟨x, hx, .inl hleads⟩
  | case6 a b _ ha hb => exact Matcher.follows_either ha hb
  | case7 i body hbody => exact Matcher.follows_group hbody i
  | case8 s least most greedy => exact Matcher.follows_ofChars s least most greedy
  | case9 body least most greedy _ m htakes hbody =>
    exact follows_bounded (Matcher.follows_repeated hbody Expr.Leads.ahead _ _ _)
  | case10 body least most greedy _ m htakes hbody =>
    exact Matcher.follows_repeated hbody Expr.Leads.ahead _ _ _
  | case11 =>
    intro as _ b hb
    cases hb

/-- Every way of matching a plain expression ends where the expression leads. -/
theorem leads_of_ways {e : Expr} {c : Cursor} {a : Arrival} (h : a ∈ e.ways c) : e.Leads c a.place :=
  (follows_matcher e c).runAt c (.refl c) a h

end Regex

end Listfile
