import Listfile.Proofs.Regex.Escaping
import Listfile.Regex.Parse.Pattern

/-!
# Patterns within groups

A pattern that is put into a group behind an anchor is read in the same steps as alone, with one frame
more below the groups that are open.

* `Reading.behindAnchor`: what has been read of a pattern, as a part of what has been read of the group.
* `readMarkedGroup_append`, `readGroup_append`: a group is opened in the same way.
* `readAtom_append`, `close_behindAnchor`: characters are read and groups are closed in the same way.
* `readNext_append`: **one step of reading a pattern is one step of reading it within a group.**
* `readAll_append`, `readAll_limit`: whole runs, and how deep groups may be nested for them.
-/

namespace Listfile.Regex

variable {cs rest t w : List Char} {k : Nat}

/-! ### Frames -/

/-- The kind of a group when `k` characters more stand behind the pattern, which is a group itself. -/
def GroupKind.within (k : Nat) : GroupKind → GroupKind
  | .pattern => .plain {}
  | .branches e left => .branches e (left + k)
  | kind => kind

/-- A frame of a pattern that is a group itself. -/
def Frame.within (k : Nat) (f : Frame) : Frame := { f with kind := f.kind.within k }

/-- What has been read of an anchor. -/
def Frame.anchor : Frame := ⟨.pattern, [], [.searchStart]⟩

namespace Reading

/-- What has been read of a group behind an anchor, given what has been read of the pattern in it. -/
def behindAnchor (k : Nat) (r : Reading) : Reading :=
  { r with frame := r.frame.within k, outer := r.outer.map (·.within k) ++ [Frame.anchor] }

variable (r : Reading)

theorem length_outer_behindAnchor : (r.behindAnchor k).outer.length = r.outer.length + 1 := by
  simp [behindAnchor]

theorem behindAnchor_push (e : Expr) : (r.push e).behindAnchor k = (r.behindAnchor k).push e := by
  unfold behindAnchor push Frame.push Frame.within
  split
  · rfl
  · rfl

end Reading

/-! ### Flags -/

theorem take_two_append {start : List Char} {c : Char} (hdash : start ≠ ['-']) (hne : start ≠ [])
    (h : (start ++ t).take 2 = ['-', c]) : start.take 2 = ['-', c] := by
  match start with
  | [] => exact absurd rfl hne
  | [a] =>
    have ha : a = '-' := (List.cons.inj h).1
    exact absurd (by rw [ha]) hdash
  | a :: b :: more => exact h

/-- The text of flags that can be read is more than a dash. -/
theorem readFlags_before {start : List Char} (hne : start ≠ []) (hdash : start ≠ ['-']) (k : Nat) :
    ∀ {m : Nat} {flags flags' : Flags} {on opens : Bool} {cs rest : List Char},
      readFlags start k flags on cs = .ok (flags', opens, rest) → k ≤ m →
      readFlags (start ++ w) m flags on (cs ++ w) = .ok (flags', opens, rest ++ w) := by
  induction k with
  | zero =>
    intro m flags flags' on opens cs rest h _
    cases h
  | succ k ih =>
    intro m flags flags' on opens cs rest h hle
    obtain ⟨m, rfl⟩ : ∃ j, m = j + 1 := ⟨m - 1, by omega⟩
    have hle := Nat.le_of_succ_le_succ hle
    obtain ⟨ds, hs, h⟩ := bind_eq_ok.1 h
    cases ds with
    | nil => cases h
    | cons c ds =>
      have hc : c ≠ '(' := by
        rintro rfl
        simp [Flags.set?] at h
      refine bind_eq_ok.2 ⟨c :: ds ++ w, skip_append_cons hs (fun he => absurd (List.cons.inj he).1 hc)
        (fun he => hc (List.cons.inj he).1), ?_⟩
      rw [List.cons_append]
      split at h
      · rename_i heq
        cases heq
        split at h
        · cases h
        · rename_i hno
          cases h
          show (if _ then _ else _) = _
          have hhead : (start ++ w).head? = start.head? := List.head?_append_of_ne_nil _ hne
          rw [hhead, if_neg fun hstart => hno (hstart.imp_right (take_two_append hdash hne))]
          rfl
      · rename_i heq
        cases heq
        split at h
        · cases h
        · rename_i hno
          cases h
          show (if _ then _ else _) = _
          rw [if_neg fun hstart => hno (take_two_append hdash hne hstart)]
          rfl
      · rename_i heq
        cases heq
        split at h
        · rename_i hon
          show (if on = true then _ else _) = _
          rw [if_pos hon]
          exact ih h hle
        · cases h
      · rename_i hparen hcolon hminus heq
        cases heq
        cases hset : flags.set? on c with
        | none =>
          rw [hset] at h
          cases h
        | some flags'' =>
          rw [hset] at h
          have hrec := ih h hle
          split
          · rename_i he
            exact absurd (List.cons.inj he).1 hparen
          · rename_i he
            exact absurd (List.cons.inj he).1 hcolon
          · rename_i he
            exact absurd (List.cons.inj he).1 hminus
          · rename_i he
            cases he
            rw [hset]
            exact hrec
          · rename_i he
            cases he
      · cases h

/-! ### Conditions -/

theorem namedCondition_append {g : GroupTable} {close : Char} {o : Option (Nat × List Char)}
    (h : namedCondition g close cs = .ok o) (w : List Char) :
    namedCondition g close (cs ++ w) = .ok (o.map fun p => (p.1, p.2 ++ w)) := by
  obtain ⟨⟨i, ds⟩, hi, h⟩ := bind_eq_ok.1 h
  refine bind_eq_ok.2 ⟨(i, ds ++ w), closed_groupReference g true close cs i ds hi w, ?_⟩
  split at h
  · rename_i heq
    cases heq
    cases h
    rfl
  · cases h

theorem closedCondition_append {p o : Option (Nat × List Char)} (h : closedCondition p = .ok o)
    (t : List Char) :
    closedCondition (p.map fun q => (q.1, q.2 ++ t)) = .ok (o.map fun q => (q.1, q.2 ++ t)) := by
  unfold closedCondition at h
  split at h
  · cases h
    rfl
  · cases h
  · rename_i hparen hnil
    cases h
    cases p with
    | none => rfl
    | some q =>
      obtain ⟨i, ds⟩ := q
      cases ds with
      | nil => exact absurd rfl (hnil i)
      | cons d ds =>
        have hd : d ≠ ')' := fun he => hparen i ds (by rw [he])
        simp [closedCondition, hd]

theorem conditionGroup_append {g : GroupTable} {o : Option (Nat × List Char)}
    (h : conditionGroup? g cs = .ok o) (ht : IsEnd t) :
    conditionGroup? g (cs ++ t) = .ok (o.map fun p => (p.1, p.2 ++ t)) := by
  fun_cases conditionGroup? g cs with
  | case1 name => exact namedCondition_append h t
  | case2 name => exact namedCondition_append h t
  | case3 ds =>
    show closedCondition (distance? g.opened ('+' :: ds ++ t)) = _
    rw [local_distance g.opened _ t ht]
    exact closedCondition_append h t
  | case4 ds =>
    show closedCondition (distance? g.opened ('-' :: ds ++ t)) = _
    rw [local_distance g.opened _ t ht]
    exact closedCondition_append h t
  | case5 cs back heq hangle hquote hplus hminus =>
    rw [conditionGroup?.eq_5 g cs hangle hquote hplus hminus, heq] at h
    rw [conditionGroup?.eq_5 g (cs ++ t) (ht.ne_cons_append (by decide) hangle)
      (ht.ne_cons_append (by decide) hquote) (ht.ne_cons_append (by decide) hplus)
      (ht.ne_cons_append (by decide) hminus), span_append (not_isDigit_end ht), heq]
    cases h
    rfl
  | case6 cs digits back hne heq hangle hquote hplus hminus =>
    rw [conditionGroup?.eq_5 g cs hangle hquote hplus hminus, heq] at h
    rw [conditionGroup?.eq_5 g (cs ++ t) (ht.ne_cons_append (by decide) hangle)
      (ht.ne_cons_append (by decide) hquote) (ht.ne_cons_append (by decide) hplus)
      (ht.ne_cons_append (by decide) hminus), span_append (not_isDigit_end ht), heq]
    cases digits with
    | nil => exact absurd rfl hne
    | cons d ds =>
      have hmap := closedCondition_append h t
      rw [Option.map_map] at hmap
      exact hmap

/-! ### Groups -/

namespace Reading

theorem enterNamed_append {r r' : Reading} {close : Char} {whole : Option Expr}
    (h : r.enterNamed close cs = .ok (r', whole, rest)) (w : List Char) :
    (r.behindAnchor k).enterNamed close (cs ++ w) = .ok (r'.behindAnchor k, whole, rest ++ w) := by
  unfold enterNamed at h ⊢
  cases hn : name? close cs with
  | none =>
    rw [hn] at h
    cases h
  | some p =>
    rw [hn] at h
    rw [name_before hn w]
    cases h
    rfl

end Reading

theorem readFlags_nil (start : List Char) (n : Nat) (flags : Flags) (on : Bool)
    (p : Flags × Bool × List Char) : readFlags start n flags on [] ≠ .ok p := by
  cases n with
  | zero => exact fun h => by cases h
  | succ n => exact fun h => by cases h

theorem readFlags_dash (start : List Char) (n : Nat) (flags : Flags) (p : Flags × Bool × List Char) :
    readFlags start n flags true ['-'] ≠ .ok p := by
  cases n with
  | zero => exact fun h => by cases h
  | succ n =>
    intro h
    have hskip : skip flags.extended ['-'] = .ok ['-'] := by
      unfold skip skipFrom
      cases flags.extended with
      | false => rfl
      | true => rfl
    unfold readFlags at h
    rw [hskip] at h
    exact readFlags_nil start n flags false p h

theorem readMarkedGroup_append {r r' : Reading} {whole : Option Expr}
    (h : readMarkedGroup r cs = .ok (r', whole, rest)) (ht : IsEnd t) :
    readMarkedGroup (r.behindAnchor t.length) (cs ++ t)
      = .ok (r'.behindAnchor t.length, whole, rest ++ t) := by
  fun_cases readMarkedGroup r cs with
  | case1 ds =>
    cases h
    rfl
  | case2 ds =>
    cases h
    rfl
  | case3 ds =>
    cases h
    rfl
  | case4 ds =>
    cases h
    rfl
  | case5 ds hequal hbang =>
    rw [readMarkedGroup.eq_5 r ds hequal hbang] at h
    rw [List.cons_append, readMarkedGroup.eq_5 _ (ds ++ t) (ht.ne_cons_append (by decide) hequal)
      (ht.ne_cons_append (by decide) hbang)]
    exact Reading.enterNamed_append h t
  | case6 ds => exact Reading.enterNamed_append h t
  | case7 ds => exact Reading.enterNamed_append h t
  | case8 ds =>
    obtain ⟨⟨i, es⟩, hi, h⟩ := bind_eq_ok.1 h
    cases h
    exact bind_eq_ok.2 ⟨(i, rest ++ t), closed_groupReference _ _ _ _ _ _ hi t, rfl⟩
  | case9 ds =>
    cases h
    rfl
  | case10 ds =>
    obtain ⟨o, ho, h⟩ := bind_eq_ok.1 h
    refine bind_eq_ok.2 ⟨_, conditionGroup_append ho ht, ?_⟩
    cases o with
    | none =>
      cases h
      rfl
    | some p =>
      cases h
      show pure (Reading.enter _ (.branches _ (p.2 ++ t).length), _, _) = _
      rw [List.length_append]
      rfl
  | case11 cs h1 h2 h3 h4 h5 h6 h7 h8 h9 h10 =>
    rw [readMarkedGroup.eq_11 r cs h1 h2 h3 h4 h5 h6 h7 h8 h9 h10] at h
    obtain ⟨⟨flags, opens, es⟩, hflags, h⟩ := bind_eq_ok.1 h
    have hne : cs ≠ [] := by
      rintro rfl
      exact readFlags_nil _ _ _ _ _ hflags
    have hdash : cs ≠ ['-'] := by
      rintro rfl
      exact readFlags_dash _ _ _ _ hflags
    have hflags' := readFlags_before (w := t) hne hdash _ hflags
      (Nat.succ_le_succ (List.sublist_append_left cs t).length_le)
    rw [readMarkedGroup.eq_11 _ (cs ++ t) (ht.ne_cons_append (by decide) h1)
      (ht.ne_cons_append (by decide) h2) (ht.ne_cons_cons_append (by decide) (by decide) h3)
      (ht.ne_cons_cons_append (by decide) (by decide) h4) (ht.ne_cons_append (by decide) h5)
      (ht.ne_cons_append (by decide) h6) (ht.ne_cons_cons_append (by decide) (by decide) h7)
      (ht.ne_cons_cons_append (by decide) (by decide) h8) (ht.ne_cons_append (by decide) h9)
      (ht.ne_cons_append (by decide) h10)]
    refine bind_eq_ok.2 ⟨_, hflags', ?_⟩
    cases opens with
    | false =>
      cases h
      rfl
    | true =>
      cases h
      rfl

theorem readGroup_append {limit : Nat} {r r' : Reading} {whole : Option Expr}
    (h : readGroup limit r cs = .ok (r', whole, rest)) (ht : IsEnd t) :
    readGroup (limit + 1) (r.behindAnchor t.length) (cs ++ t)
      = .ok (r'.behindAnchor t.length, whole, rest ++ t) := by
  unfold readGroup at h ⊢
  split at h
  · cases h
  · rename_i hlimit
    rw [Reading.length_outer_behindAnchor, if_neg (by omega)]
    obtain ⟨ds, hs, h⟩ := bind_eq_ok.1 h
    cases ds with
    | nil =>
      cases h
      obtain ⟨s, hend, hs⟩ := skip_append_end hs ht
      refine bind_eq_ok.2 ⟨s, hs, ?_⟩
      rcases isEnd_iff.1 hend with rfl | rfl | rfl
      all_goals rfl
    | cons c ds =>
      refine bind_eq_ok.2 ⟨c :: ds ++ t, skip_append hs ht, ?_⟩
      split at h
      · rename_i heq
        cases heq
        exact readMarkedGroup_append h ht
      · rename_i hno
        cases h
        split
        · rename_i he
          exact absurd (congrArg (· :: ds) (List.cons.inj he).1) (hno ds)
        · rfl

/-! ### Parts -/

theorem readAtom_append {r r' : Reading} {e : Expr} (h : readAtom r cs = .ok (r', e, rest))
    (ht : IsEnd t) :
    readAtom (r.behindAnchor k) (cs ++ t) = .ok (r'.behindAnchor k, e, rest ++ t) := by
  fun_cases readAtom r cs with
  | case1 ds =>
    cases h
    rfl
  | case2 ds =>
    cases h
    rfl
  | case3 ds =>
    cases h
    rfl
  | case4 ds => cases h
  | case5 ds => cases h
  | case6 ds => cases h
  | case7 ds =>
    obtain ⟨⟨tokens, es⟩, htokens, h⟩ := bind_eq_ok.1 h
    obtain ⟨set, hset, h⟩ := bind_eq_ok.1 h
    cases h
    exact bind_eq_ok.2 ⟨_, closed_classTokens _ _ _ _ _ htokens t, bind_eq_ok.2 ⟨set, hset, rfl⟩⟩
  | case8 ds =>
    obtain ⟨⟨escaped, es⟩, hescape, h⟩ := bind_eq_ok.1 h
    refine bind_eq_ok.2 ⟨_, local_escape _ _ _ _ _ _ hescape t ht, ?_⟩
    cases escaped with
    | char c fold =>
      cases h
      rfl
    | set s =>
      cases h
      rfl
    | hexDigits negated =>
      cases h
      rfl
    | reference i numbered =>
      cases h
      rfl
    | other e =>
      cases h
      rfl
  | case9 c ds h1 h2 h3 h4 h5 h6 h7 h8 =>
    rw [readAtom.eq_9 r c ds h1 h2 h3 h4 h5 h6 h7 h8] at h
    rw [List.cons_append, readAtom.eq_9 _ c (ds ++ t) h1 h2 h3 h4 h5 h6 h7 h8]
    cases h
    rfl
  | case10 => cases h

namespace Reading

theorem add_append {r r' : Reading} {whole : Option Expr} (h : r.add whole cs = .ok (r', rest))
    (ht : IsEnd t) :
    (r.behindAnchor k).add whole (cs ++ t) = .ok (r'.behindAnchor k, rest ++ t) := by
  cases whole with
  | none =>
    cases h
    rfl
  | some e =>
    obtain ⟨⟨e', ds⟩, hquantify, h⟩ := bind_eq_ok.1 h
    cases h
    refine bind_eq_ok.2 ⟨(e', rest ++ t), local_quantify _ _ _ _ _ hquantify t ht, ?_⟩
    rw [behindAnchor_push]
    rfl

/-- Groups are closed in the same way when `k` characters more are left behind the pattern. -/
theorem close_behindAnchor {r r' : Reading} {whole : Option Expr} {left : Nat} (hleft : 1 ≤ left)
    (h : r.close left = .ok (r', whole)) :
    (r.behindAnchor k).close (left + k) = .ok (r'.behindAnchor k, whole) := by
  obtain ⟨flags, groups, numbered, ⟨kind, branches, parts⟩, outer⟩ := r
  cases outer with
  | nil => cases h
  | cons frame outer =>
    obtain ⟨_, hrefs, h⟩ := bind_eq_ok.1 h
    refine bind_eq_ok.2 ⟨(), hrefs, ?_⟩
    cases kind with
    | pattern => cases h
    | plain outside =>
      cases h
      rfl
    | capture i =>
      cases h
      rfl
    | look side negative =>
      cases h
      rfl
    | atomic =>
      cases h
      rfl
    | test =>
      cases h
      have hk : left + k - 1 = left - 1 + k := by omega
      show Except.ok (Reading.enter _ (.branches _ (left + k - 1)), _) = _
      rw [hk]
      rfl
    | branches e start =>
      have h : (if start = left && !asksForGroup e then _ else _) = _ := h
      show (if start + k = left + k && !asksForGroup e then _ else _) = _
      simp only [Nat.add_right_cancel_iff]
      split at h
      · cases h
      · rename_i hempty
        rw [if_neg hempty]
        cases h
        rfl

end Reading

/-- **One step of reading a pattern is one step of reading it within a group behind an anchor.** -/
theorem readNext_append {limit : Nat} {r r' : Reading} (h : readNext limit r cs = .ok (some (r', rest)))
    (ht : IsEnd t) :
    readNext (limit + 1) (r.behindAnchor t.length) (cs ++ t)
      = .ok (some (r'.behindAnchor t.length, rest ++ t)) := by
  obtain ⟨ds, hs, h⟩ := bind_eq_ok.1 h
  cases ds with
  | nil => cases h
  | cons c ds =>
    refine bind_eq_ok.2 ⟨c :: ds ++ t, skip_append hs ht, ?_⟩
    split at h
    · rename_i heq
      cases heq
    · rename_i heq
      cases heq
      cases h
      rfl
    · rename_i es heq
      cases heq
      obtain ⟨⟨r₁, whole⟩, hclose, h⟩ := bind_eq_ok.1 h
      obtain ⟨⟨r₂, fs⟩, hadd, h⟩ := bind_eq_ok.1 h
      cases h
      have hclose' := Reading.close_behindAnchor (k := t.length) (Nat.le_add_left 1 _) hclose
      refine bind_eq_ok.2 ⟨(r₁.behindAnchor t.length, whole), ?_,
        bind_eq_ok.2 ⟨_, Reading.add_append hadd ht, rfl⟩⟩
      rw [Nat.add_right_comm, ← List.length_append] at hclose'
      exact hclose'
    · rename_i es heq
      cases heq
      obtain ⟨⟨r₁, whole, es⟩, hgroup, h⟩ := bind_eq_ok.1 h
      obtain ⟨⟨r₂, fs⟩, hadd, h⟩ := bind_eq_ok.1 h
      cases h
      exact bind_eq_ok.2 ⟨_, readGroup_append hgroup ht, bind_eq_ok.2 ⟨_, Reading.add_append hadd ht, rfl⟩⟩
    · rename_i _ hbar hclose hopen
      obtain ⟨⟨r₁, e, es⟩, hatom, h⟩ := bind_eq_ok.1 h
      obtain ⟨⟨r₂, fs⟩, hadd, h⟩ := bind_eq_ok.1 h
      cases h
      split
      · rename_i he
        cases he
      · rename_i he
        exact absurd (congrArg (· :: ds) (List.cons.inj he).1) (hbar ds)
      · rename_i he
        exact absurd (congrArg (· :: ds) (List.cons.inj he).1) (hclose ds)
      · rename_i he
        exact absurd (congrArg (· :: ds) (List.cons.inj he).1) (hopen ds)
      · exact bind_eq_ok.2 ⟨_, readAtom_append hatom ht, bind_eq_ok.2 ⟨_, Reading.add_append hadd ht, rfl⟩⟩

/-- A greater limit only matters where a group is opened at that depth. -/
theorem readNext_limit {limit : Nat} {r : Reading} {o : Option (Reading × List Char)}
    (h : readNext (limit + 1) r cs = .ok o) :
    readNext limit r cs = .ok o ∨
      limit ≤ r.outer.length ∧ ∃ ds, skip r.flags.extended cs = .ok ('(' :: ds) := by
  obtain ⟨ds, hs, h⟩ := bind_eq_ok.1 h
  by_cases hopen : ∃ es, ds = '(' :: es
  · obtain ⟨es, rfl⟩ := hopen
    by_cases hdeep : limit ≤ r.outer.length
    · exact .inr ⟨hdeep, es, hs⟩
    · left
      refine bind_eq_ok.2 ⟨_, hs, ?_⟩
      obtain ⟨p, hgroup, h⟩ := bind_eq_ok.1 h
      refine bind_eq_ok.2 ⟨p, ?_, h⟩
      unfold readGroup at hgroup ⊢
      rw [if_neg (by omega)] at hgroup
      rw [if_neg hdeep]
      exact hgroup
  · left
    refine bind_eq_ok.2 ⟨_, hs, ?_⟩
    split at h
    · exact h
    · exact h
    · exact h
    · rename_i es
      exact absurd ⟨es, rfl⟩ hopen
    · exact h

/-- Where a group is opened at the limit, reading fails. -/
theorem readNext_tooDeep {limit : Nat} {r : Reading} {ds : List Char} (hdeep : limit ≤ r.outer.length)
    (hs : skip r.flags.extended cs = .ok ('(' :: ds)) :
    readNext limit r cs = .error .nestingTooDeep := by
  have hgroup : readGroup limit r ds = .error .nestingTooDeep := by
    unfold readGroup
    rw [if_pos hdeep]
    rfl
  unfold readNext
  rw [hs]
  show readGroup _ _ ds >>= _ = _
  rw [hgroup]
  rfl

/-! ### Runs -/

theorem readAll_step {limit m : Nat} {r r' : Reading} (h : readNext limit r cs = .ok (some (r', rest))) :
    readAll limit (m + 1) r cs = readAll limit m r' rest := by
  show readNext limit r cs >>= _ = _
  rw [h]
  rfl

theorem readAll_stop {limit m : Nat} {r : Reading} (h : readNext limit r cs = .ok none) :
    readAll limit (m + 1) r cs = .ok (r, cs) := by
  show readNext limit r cs >>= _ = _
  rw [h]
  rfl

theorem readAll_fail {limit m : Nat} {r : Reading} {f : Fault} (h : readNext limit r cs = .error f) :
    ∃ f', readAll limit m r cs = .error f' := by
  cases m with
  | zero => exact ⟨_, rfl⟩
  | succ m =>
    refine ⟨f, ?_⟩
    show readNext limit r cs >>= _ = _
    rw [h]
    rfl

/-- A run that reads a pattern can be repeated within a group behind an anchor, and then goes on. -/
theorem readAll_append {limit : Nat} (ht : IsEnd t) (n : Nat) :
    ∀ {r r' : Reading} {cs rest : List Char}, readAll limit n r cs = .ok (r', rest) → ∀ m,
      ∃ m', m ≤ m' ∧ readAll (limit + 1) (n + m) (r.behindAnchor t.length) (cs ++ t)
        = readAll (limit + 1) (m' + 1) (r'.behindAnchor t.length) (rest ++ t) := by
  induction n with
  | zero =>
    intro r r' cs rest h
    cases h
  | succ n ih =>
    intro r r' cs rest h m
    obtain ⟨o, ho, h⟩ := bind_eq_ok.1 h
    cases o with
    | none =>
      cases h
      exact ⟨n + m, by omega, by rw [Nat.add_right_comm]⟩
    | some p =>
      obtain ⟨m', hm', heq⟩ := ih h m
      refine ⟨m', hm', ?_⟩
      rw [← heq, Nat.add_right_comm]
      exact readAll_step (readNext_append ho ht)

/-- A pattern that can be read can be read with a smaller limit in the same way, or it is nested too deep
to be read within a group. -/
theorem readAll_limit {limit : Nat} (ht : IsEnd t) (n : Nat) :
    ∀ {r : Reading} {cs : List Char} {p : Reading × List Char}, readAll (limit + 1) n r cs = .ok p →
      readAll limit n r cs = .ok p ∨
      (∃ f, readAll limit n r cs = .error f) ∧
        ∀ m, ∃ f, readAll (limit + 1) m (r.behindAnchor t.length) (cs ++ t) = .error f := by
  induction n with
  | zero =>
    intro r cs p h
    cases h
  | succ n ih =>
    intro r cs p h
    obtain ⟨o, ho, h⟩ := bind_eq_ok.1 h
    rcases readNext_limit ho with hsame | ⟨hdeep, ds, hs⟩
    · cases o with
      | none => exact .inl (bind_eq_ok.2 ⟨none, hsame, h⟩)
      | some q =>
        rcases ih h with hok | ⟨⟨f, hf⟩, hwithin⟩
        · exact .inl (bind_eq_ok.2 ⟨some q, hsame, hok⟩)
        · refine .inr ⟨⟨f, (readAll_step hsame).trans hf⟩, fun m => ?_⟩
          cases m with
          | zero => exact ⟨_, rfl⟩
          | succ m =>
            obtain ⟨f', hf'⟩ := hwithin m
            exact ⟨f', (readAll_step (readNext_append hsame ht)).trans hf'⟩
    · refine .inr ⟨readAll_fail (readNext_tooDeep hdeep hs), fun m => ?_⟩
      refine readAll_fail (readNext_tooDeep ?_ (skip_append hs ht))
      rw [Reading.length_outer_behindAnchor]
      omega

end Listfile.Regex
