import Listfile.Proofs.Grammar.Quoting
import Listfile.Proofs.Regex.Inserting

/-!
# Patterns that are cut into pieces

A pattern may be cut where one part ends and another begins.  Quoted texts can be put in at such a place: the
pieces are read as before, and the characters of the texts are parts of their own.  A quantifier behind the place
belongs to the last of these characters instead of the part before them.

* `Leads`: reading on from one place of a text comes to another place.
* `Cut`: what has been read of a pattern, and whether the last part may still be given a quantifier.
* `readPiece`, `readPieces`: read pieces one after the other, each by itself.
* `Awaits`: a reading of a text with texts put in comes to such a place.
* `Awaits.quote`: **a quoted text can be put in at any place.**
* `splice`, **`Awaits.splice`**: pieces that can be read one by one are read in the same way with texts between them.
-/

namespace Listfile.Regex

variable {limit : Nat} {r r' s s' u : Reading} {e e' : Expr} {cs ds es rest w : List Char} {x : Bool}

/-! ### Reading on -/

/-- A step of reading takes a character at least. -/
theorem length_readAtom {e : Expr} (h : readAtom r cs = .ok (r', e, rest)) : rest.length < cs.length := by
  fun_cases readAtom r cs with
  | case1 ds =>
    cases h
    exact Nat.lt_succ_self _
  | case2 ds =>
    cases h
    exact Nat.lt_succ_self _
  | case3 ds =>
    cases h
    exact Nat.lt_succ_self _
  | case4 ds => cases h
  | case5 ds => cases h
  | case6 ds => cases h
  | case7 ds =>
    obtain ⟨⟨tokens, es⟩, htokens, h⟩ := bind_eq_ok.1 h
    obtain ⟨set, -, h⟩ := bind_eq_ok.1 h
    cases h
    exact Nat.lt_succ_of_le (suffix_classTokens htokens).length_le
  | case8 ds =>
    obtain ⟨⟨escaped, es⟩, hescape, h⟩ := bind_eq_ok.1 h
    have hes := Nat.lt_succ_of_le (suffix_escape hescape).length_le
    cases escaped with
    | _ =>
      cases h
      exact hes
  | case9 c ds h1 h2 h3 h4 h5 h6 h7 h8 =>
    rw [readAtom.eq_9 r c ds h1 h2 h3 h4 h5 h6 h7 h8] at h
    cases h
    exact Nat.lt_succ_self _
  | case10 => cases h

theorem length_readNext (h : readNext limit r cs = .ok (some (r', rest))) : rest.length < cs.length := by
  obtain ⟨ds, hs, hnext⟩ := readNext_cases h
  refine Nat.lt_of_lt_of_le ?_ (suffix_skip hs).length_le
  cases hnext with
  | bar h => exact Nat.lt_succ_self _
  | close hclose hadd => exact Nat.lt_succ_of_le (suffix_add hadd).length_le
  | group hgroup hadd =>
    exact Nat.lt_succ_of_le ((suffix_add hadd).trans (readGroup_cases hgroup).1).length_le
  | atom hatom hadd => exact Nat.lt_of_le_of_lt (suffix_add hadd).length_le (length_readAtom hatom)

/-- Reading on from one place of a text comes to another place, and ends as from there. -/
def Leads (limit : Nat) (r : Reading) (cs : List Char) (s : Reading) (ds : List Char) : Prop :=
  ∀ n, cs.length < n → ∃ m, ds.length < m ∧
    (readAll limit n r cs).map (·.1) = (readAll limit m s ds).map (·.1)

namespace Leads

theorem refl (limit : Nat) (r : Reading) (cs : List Char) : Leads limit r cs r cs := fun n hn => ⟨n, hn, rfl⟩

theorem trans (h : Leads limit r cs s ds) (h' : Leads limit s ds u es) : Leads limit r cs u es := by
  intro n hn
  obtain ⟨m, hm, heq⟩ := h n hn
  obtain ⟨k, hk, heq'⟩ := h' m hm
  exact ⟨k, hk, heq.trans heq'⟩

theorem step (h : readNext limit r cs = .ok (some (s, ds))) : Leads limit r cs s ds := by
  intro n hn
  obtain ⟨m, rfl⟩ : ∃ m, n = m + 1 := ⟨n - 1, by omega⟩
  have hlength := length_readNext h
  exact ⟨m, by omega, by rw [readAll_step h]⟩

/-- Blanks and comments are passed over. -/
theorem skips (h : skip r.flags.extended cs = skip r.flags.extended ds) (hlength : ds.length ≤ cs.length) :
    Leads limit r cs r ds := by
  intro n hn
  obtain ⟨m, rfl⟩ : ∃ m, n = m + 1 := ⟨n - 1, by omega⟩
  refine ⟨m + 1, by omega, ?_⟩
  have hnext : readNext limit r cs = readNext limit r ds := by
    unfold readNext
    rw [h]
  cases hds : readNext limit r ds with
  | error f =>
    unfold readAll
    rw [hnext, hds]
    rfl
  | ok o =>
    rw [hds] at hnext
    cases o with
    | none =>
      rw [readAll_stop hnext, readAll_stop hds]
      rfl
    | some p => rw [readAll_step hnext, readAll_step hds]

/-- What comes to the end of a text is finished there. -/
theorem finish {n : Nat} (h : Leads limit r cs s []) (hn : cs.length < n) :
    (readAll limit n r cs >>= fun p => p.1.finish) = s.finish := by
  obtain ⟨m, hm, heq⟩ := h n hn
  obtain ⟨m, rfl⟩ : ∃ k, m = k + 1 := ⟨m - 1, by omega⟩
  rw [readAll_stop (show readNext limit s [] = .ok none from rfl)] at heq
  obtain ⟨p, hp, hreading⟩ := map_eq_ok.1 heq
  rw [hp]
  exact congrArg Reading.finish hreading

end Leads

/-! ### Quoted texts -/

theorem skip_cons_of_ne {c : Char} (hparen : c ≠ '(') (hhash : c ≠ '#')
    (hblank : ¬ (x && (c == ' ' || c == '\t' || c == '\r' || c == '\n')) = true) (cs : List Char) :
    skip x (c :: cs) = .ok (c :: cs) := by
  refine skip_eq_ok.2 ?_
  rw [skipFrom_cons x cs hparen, if_neg, if_neg hblank]
  rw [Bool.and_eq_true, beq_iff_eq]
  exact fun h => hhash h.2

theorem skip_cons_of_blank {c : Char} (hblank : (x && (c == ' ' || c == '\t' || c == '\r' || c == '\n')) = true)
    (cs : List Char) : skip x (c :: cs) = skip x cs := by
  have hparen : c ≠ '(' := by
    rintro rfl
    rw [Bool.and_eq_true] at hblank
    exact absurd hblank.2 (by decide)
  have hhash : ¬ (x && c == '#') = true := by
    intro h
    rw [Bool.and_eq_true, beq_iff_eq] at h
    rw [h.2, Bool.and_eq_true] at hblank
    exact absurd hblank.2 (by decide)
  unfold skip
  rw [skipFrom_cons x cs hparen, if_neg hhash, if_pos hblank]

theorem ne_of_not_isMeta {c d : Char} (hc : isMeta c = false) (hd : isMeta d = true) : c ≠ d := by
  rintro rfl
  rw [hc] at hd
  cases hd

theorem not_isQuantifier_of_not_isMeta {c : Char} (hc : isMeta c = false) : isQuantifier c = false := by
  cases h : isQuantifier c with
  | false => rfl
  | true =>
    have hmem : c ∈ ['?', '*', '+', '\x7B'] := List.contains_iff_mem.1 h
    simp only [List.mem_cons, List.not_mem_nil, or_false] at hmem
    rcases hmem with rfl | rfl | rfl | rfl
    all_goals cases hc

theorem skip_backslash (x : Bool) (cs : List Char) : skip x ('\\' :: cs) = .ok ('\\' :: cs) := by
  refine skip_cons_of_ne (by decide) (by decide) ?_ cs
  rw [Bool.and_eq_true]
  exact fun h => absurd h.2 (by decide)

/-- A quoted character is passed over, or a part begins with it. -/
theorem skip_quote_cons (x : Bool) (c : Char) (t w : List Char) :
    skip x (quote (c :: t) ++ w) = skip x (quote t ++ w) ∨
      skip x (quote (c :: t) ++ w) = .ok (quote (c :: t) ++ w) := by
  rw [quote_cons, List.append_assoc]
  cases hc : isMeta c with
  | true => exact .inr (skip_backslash x _)
  | false =>
    by_cases hblank : (x && (c == ' ' || c == '\t' || c == '\r' || c == '\n')) = true
    · exact .inl (skip_cons_of_blank hblank _)
    · exact .inr (skip_cons_of_ne (ne_of_not_isMeta hc rfl) (ne_of_not_isMeta hc rfl) hblank _)

/-- That part begins without a quantifier. -/
theorem calm_quote_cons {c : Char} {t : List Char} (h : skip x (quote (c :: t) ++ w) = .ok (quote (c :: t) ++ w)) :
    Calm x (quote (c :: t) ++ w) := by
  refine ⟨_, h, ?_⟩
  rw [quote_cons]
  cases hc : isMeta c with
  | true =>
    rintro d ⟨⟩
    rfl
  | false =>
    rintro d ⟨⟩
    exact not_isQuantifier_of_not_isMeta hc

theorem readPart_chars {c : Char} {set : CharSet} (hskip : skip r.flags.extended (c :: cs) = .ok (c :: cs))
    (hc : Inert c) (hatom : readAtom r (c :: cs) = .ok (r, .chars set, rest)) :
    readPart limit r (c :: cs) = .ok (some (r, some (.chars set), rest)) :=
  readPart_eq_ok.2 ⟨_, hskip, .atom hc.bar hc.closing hc.paren hatom⟩

/-- That part stands for a character. -/
theorem readPart_quote_cons (limit : Nat) {c : Char} {t : List Char}
    (h : skip r.flags.extended (quote (c :: t) ++ w) = .ok (quote (c :: t) ++ w)) :
    ∃ set, readPart limit r (quote (c :: t) ++ w) = .ok (some (r, some (.chars set), quote t ++ w)) := by
  rw [quote_cons, List.append_assoc] at h ⊢
  cases hc : isMeta c with
  | true =>
    rw [hc] at h
    exact ⟨_, readPart_chars h inert_backslash (readAtom_backslash hc _)⟩
  | false =>
    rw [hc] at h
    exact ⟨_, readPart_chars h (inert_of_not_isMeta hc) (readAtom_char hc _)⟩

/-- A quoted text begins without a quantifier, if none follows it. -/
theorem Calm.quote (hw : Calm x w) (t : List Char) : Calm x (quote t ++ w) := by
  induction t with
  | nil => exact hw
  | cons c t ih =>
    rcases skip_quote_cons x c t w with hblank | hself
    · obtain ⟨ds, hds, hcalm⟩ := ih
      exact ⟨ds, hblank.trans hds, hcalm⟩
    · exact calm_quote_cons hself

/-! ### Cuts -/

/-- A place where a pattern may be cut. -/
structure Cut where
  /-- What has been read before the last part. -/
  reading : Reading
  /-- The last part, if a quantifier may follow it. -/
  last : Option Expr

namespace Cut

/-- All that has been read. -/
def all (p : Cut) : Reading :=
  match p.last with
  | none => p.reading
  | some e => p.reading.push e

/-- What has been read with the quantifier that follows, and what is left behind that. -/
def quantified? (p : Cut) (cs : List Char) : Option (Reading × List Char) :=
  match p.last with
  | none => none
  | some e =>
    match quantify p.reading.flags e cs with
    | .ok (a, rest) => if rest.length < cs.length then some (p.reading.push a, rest) else none
    | .error _ => none

/-- Would a brace be read with the last part? -/
def takesBrace (p : Cut) : Bool := p.last.any Expr.isWordBoundary

@[simp] theorem flags_all (p : Cut) : p.all.flags = p.reading.flags := by
  unfold all
  cases p.last with
  | _ => rfl

theorem exists_of_quantified {p : Cut} (h : p.quantified? cs = some (r, rest)) :
    ∃ e a, p.last = some e ∧ quantify p.reading.flags e cs = .ok (a, rest) ∧ rest.length < cs.length ∧
      r = p.reading.push a := by
  unfold quantified? at h
  split at h
  · cases h
  · rename_i e he
    split at h
    · rename_i a ds hquantify
      split at h
      · rename_i hlength
        cases h
        exact ⟨e, a, he, hquantify, hlength, rfl⟩
      · cases h
    · cases h

end Cut

/-! ### Pieces -/

/-- Is a part one that may go on behind the place where a pattern is cut? A brace may begin bounds, and a number
may get more digits. -/
def isOpenEnded : List Char → Bool
  | '\x7B' :: _ => true
  | '\\' :: ds => ds.all Char.isDigit
  | _ => false

/-- Is the group the test of a conditional? -/
def GroupKind.isTest : GroupKind → Bool
  | .test => true
  | _ => false

/-- Read a piece of a pattern to its end.  No part of it may be open-ended, no conditional may have an expression
as its test, and no comment up to the end of a line may be left open at the end. -/
def readPiece (limit : Nat) : (fuel : Nat) → Cut → List Char → Option Cut
  | 0, _, _ => none
  | fuel + 1, p, cs =>
    match p.quantified? cs with
    | some (r, rest) => readPiece limit fuel ⟨r, none⟩ rest
    | none =>
      let extended := p.all.flags.extended
      match skipFrom extended .nothing cs with
      | none => none
      | some [] => if skipFrom extended .nothing (cs ++ ['|']) = some ['|'] then some p else none
      | some (c :: ds) =>
        if isOpenEnded (c :: ds) then none
        else
          match readPart limit p.all cs with
          | .ok (some (r, whole, rest)) =>
            if r.frame.kind.isTest then none else readPiece limit fuel ⟨r, whole⟩ rest
          | _ => none

/-- Read pieces of a pattern one after the other, each by itself. -/
def readPieces (limit : Nat) : Cut → List (List Char) → Option Cut
  | p, [] => some p
  | p, cs :: rest =>
    if p.takesBrace && cs.head? == some '\x7B' then none
    else (readPiece limit (cs.length + 1) p cs).bind fun p => readPieces limit p rest

/-- What reading a piece leads to. -/
inductive PieceRead (limit fuel : Nat) (p p' : Cut) (cs : List Char) : Prop
  | quantified {r : Reading} {rest : List Char} (hquantified : p.quantified? cs = some (r, rest))
    (hrest : readPiece limit fuel ⟨r, none⟩ rest = some p')
  | done (hp : p' = p) (hskip : skip p.reading.flags.extended (cs ++ ['|']) = .ok ['|'])
  | part {c : Char} {ds rest : List Char} {r : Reading} {whole : Option Expr}
    (hskip : skip p.reading.flags.extended cs = .ok (c :: ds))
    (hends : isOpenEnded (c :: ds) = false) (hpart : readPart limit p.all cs = .ok (some (r, whole, rest)))
    (htest : r.frame.kind ≠ .test) (hrest : readPiece limit fuel ⟨r, whole⟩ rest = some p')

variable {p p' : Cut}

theorem pieceRead_of_readPiece {n : Nat} (h : readPiece limit (n + 1) p cs = some p') :
    PieceRead limit n p p' cs := by
  unfold readPiece at h
  split at h
  · rename_i r rest hquantified
    exact .quantified hquantified h
  simp only [Cut.flags_all] at h
  split at h
  · cases h
  · split at h
    · rename_i hbar
      cases h
      exact .done rfl (skip_eq_ok.2 hbar)
    · cases h
  · rename_i c ds hskip
    split at h
    · cases h
    · rename_i hends
      split at h
      · rename_i r whole rest hpart
        split at h
        · cases h
        · rename_i htest
          refine .part (skip_eq_ok.2 hskip) (Bool.eq_false_iff.2 hends) hpart (fun he => htest ?_) h
          rw [he]
          rfl
      · cases h

/-- The sign of a quantifier is no part. -/
theorem ne_sign_of_partRead {c : Char} {o : Reading × Option Expr × List Char} (h : PartRead limit r (c :: ds) o) :
    c ≠ '?' ∧ c ≠ '*' ∧ c ≠ '+' := by
  cases h with
  | bar => decide
  | close => decide
  | group => decide
  | atom _ _ _ hatom =>
    refine ⟨?_, ?_, ?_⟩
    all_goals
      rintro rfl
      cases hatom

/-- A part that is not open-ended begins without a quantifier, whatever follows. -/
theorem calm_of_readPart {c : Char} {whole : Option Expr} (hskip : skip r.flags.extended cs = .ok (c :: ds))
    (hends : isOpenEnded (c :: ds) = false) (hpart : readPart limit r cs = .ok (some (r', whole, rest)))
    (hw : EndsBefore r' whole rest w) : Calm r.flags.extended (cs ++ w) := by
  obtain ⟨es, hes, hpart⟩ := readPart_eq_ok.1 hpart
  rw [hskip] at hes
  cases hes
  obtain ⟨hask, hstar, hplus⟩ := ne_sign_of_partRead hpart
  have hbrace : c ≠ '\x7B' := by
    rintro rfl
    cases hends
  refine ⟨_, skip_append_cons hskip ?_ ?_, ?_⟩
  · intro he
    cases he
    cases hpart with
    | group h =>
      obtain ⟨rfl, rfl⟩ := readGroup_nil h
      exact Calm.head_ne hw rfl
    | atom _ _ hopen => exact absurd rfl hopen
  · intro he
    cases he
    cases hpart with
    | group h => exact readGroup_ask h
    | atom _ _ hopen => exact absurd rfl hopen
  · rintro d ⟨⟩
    simp [isQuantifier, hask, hstar, hplus, hbrace]

/-- A brace with nothing behind it is not a quantifier. -/
theorem quantify_brace {flags : Flags} {a : Expr} (h : quantify flags e ['\x7B'] = .ok (a, rest)) :
    rest = ['\x7B'] := by
  obtain ⟨ds, hs, h⟩ := bind_eq_ok.1 h
  rw [skip_isQuantifier rfl] at hs
  cases hs
  cases h
  rfl

/-- **A piece does not go on with the part before it**, whatever follows, if that does not go on with the piece. -/
theorem endsBefore_of_readPiece {n : Nat} (h : readPiece limit n p cs = some p')
    (hw : EndsBefore p'.reading p'.last [] w) : EndsBefore p.reading p.last cs w := by
  induction n generalizing p cs with
  | zero => cases h
  | succ n ih =>
    obtain ⟨r, last⟩ := p
    cases pieceRead_of_readPiece h with
    | quantified hquantified hrest =>
      obtain ⟨e, a, rfl, hquantify, hlength, -⟩ := Cut.exists_of_quantified hquantified
      refine fun _ => ⟨?_, ?_⟩
      · rintro rfl
        cases hlength
      · rintro rfl
        rw [quantify_brace hquantify] at hlength
        exact absurd hlength (Nat.lt_irrefl _)
    | done hp hskip =>
      subst hp
      cases last with
      | none =>
        obtain ⟨ds, hds, hcalm⟩ := hw
        exact ⟨ds, (skip_append_all hskip).trans hds, hcalm⟩
      | some e =>
        refine fun hboundary => ⟨fun _ => (hw hboundary).head_ne rfl, ?_⟩
        rintro rfl
        rw [List.singleton_append, skip_isQuantifier rfl] at hskip
        cases hskip
    | part hskip hends hpart htest hrest =>
      cases last with
      | none => exact calm_of_readPart hskip hends hpart (ih hrest)
      | some e =>
        refine fun _ => ⟨?_, ?_⟩
        · rintro rfl
          cases hskip
        · rintro rfl
          rw [skip_isQuantifier rfl] at hskip
          cases hskip
          cases hends

/-! ### Readings with texts put in -/

/-- The reading `s` and its last part `e'` are `r` and its last part `e` with texts put in, and `e'` is repeated
as `e` is. -/
structure Carries (r : Reading) (e : Expr) (s : Reading) (e' : Expr) : Prop where
  flags : s.flags = r.flags
  quantify {w rest : List Char} {a : Expr} (h : quantify r.flags e w = .ok (a, rest)) :
    ∃ a', Regex.quantify r.flags e' w = .ok (a', rest) ∧ (r.push a).Grows (s.push a')

namespace Carries

theorem of_grows (h : r.Grows s) (he : Grown e e') : Carries r e s e' := by
  refine ⟨h.flags, fun hquantify => ?_⟩
  obtain ⟨a', ha', hgrown⟩ := quantify_grows he hquantify
  exact ⟨a', ha', h.push hgrown⟩

theorem push (h : Carries r e s e') : (r.push e).Grows (s.push e') := by
  obtain ⟨a, ha, hgrows⟩ := h.quantify (quantify_calm (calm_nil _) e)
  rw [quantify_calm (calm_nil _)] at ha
  cases ha
  exact hgrows

/-- **What repeats a part repeats a character behind it instead.** -/
theorem chars (h : Carries r e s e') (set : CharSet) : Carries r e (s.push e') (.chars set) := by
  refine ⟨h.flags, fun hquantify => ?_⟩
  have hnone : Alike .empty (.chars set) := (Grown.chars set).toAlike
  refine quantify_rel (R := fun a b => (r.push a).Grows ((s.push e').push b)) (fun _ => rfl)
    (h.push.push_chars set) (fun hrepeatable least most greedy => ?_) hquantify
  have hempty : e.isEmpty = false := by
    cases e with
    | empty => cases hrepeatable
    | _ => rfl
  exact ⟨h.push.push_behind hempty rfl rfl (hnone.repeated_behind e least most greedy),
    h.push.push_behind hempty rfl rfl (hnone.atomic_behind e least most greedy)⟩

end Carries

/-- A reading of a text with texts put in comes to a cut, where `ds` is left of the text. The last part has not been
read there if a quantifier may follow it. -/
inductive Awaits (limit : Nat) : Cut → Reading → List Char → List Char → Prop
  | clear {r s : Reading} {cs : List Char} (h : r.Grows s) : Awaits limit ⟨r, none⟩ s cs cs
  | behind {r s s' : Reading} {e e' : Expr} {cs ds es : List Char}
    (hpart : readPart limit s cs = .ok (some (s', some e', es)))
    (hskip : skip r.flags.extended es = skip r.flags.extended ds) (hlength : ds.length ≤ es.length)
    (h : Carries r e s' e') : Awaits limit ⟨r, some e⟩ s cs ds

theorem Leads.quantify {a : Expr} (hpart : readPart limit r cs = .ok (some (s, some e, ds)))
    (h : quantify s.flags e ds = .ok (a, rest)) : Leads limit r cs (s.push a) rest :=
  .step (readNext_of_readPart hpart (bind_eq_ok.2 ⟨_, h, rfl⟩))

/-- A part behind which no quantifier stands is read as it is. -/
theorem Leads.push (hpart : readPart limit r cs = .ok (some (s, some e, ds)))
    (hskip : skip s.flags.extended ds = skip s.flags.extended es) (hlength : es.length ≤ ds.length)
    (hcalm : Calm s.flags.extended es) : Leads limit r cs (s.push e) es := by
  obtain ⟨fs, hfs, hhead⟩ := hcalm
  exact (Leads.quantify hpart (quantify_calm ⟨fs, hskip.trans hfs, hhead⟩ e)).trans (.skips hskip hlength)

/-- A quantifier is the same behind other blanks and comments. -/
theorem quantify_congr {flags : Flags} {a : Expr} (hskip : skip flags.extended cs = skip flags.extended ds)
    (h : quantify flags e cs = .ok (a, rest)) (hlength : rest.length < cs.length) :
    quantify flags e ds = .ok (a, rest) := by
  obtain ⟨es, hs, h⟩ := bind_eq_ok.1 h
  refine bind_eq_ok.2 ⟨es, hskip.symm.trans hs, ?_⟩
  cases hq : quantifier? flags.extended es with
  | none =>
    rw [hq] at h
    cases h
    exact absurd hlength (Nat.lt_irrefl _)
  | some q =>
    rw [hq] at h
    exact h

namespace Awaits

/-- Without a quantifier the last part is read as it is. -/
theorem leads (h : Awaits limit p s cs ds) (hcalm : Calm p.reading.flags.extended ds) :
    ∃ s', Leads limit s cs s' ds ∧ p.all.Grows s' := by
  cases h with
  | clear h => exact ⟨s, .refl _ _ _, h⟩
  | behind hpart hskip hlength h =>
    rw [← h.flags] at hskip hcalm
    exact ⟨_, .push hpart hskip hlength hcalm, h.push⟩

/-- **With a quantifier the last part is repeated.** -/
theorem quantified {a : Expr} (h : Awaits limit p s cs ds) (he : p.last = some e)
    (hquantify : quantify p.reading.flags e ds = .ok (a, rest)) (hlength : rest.length < ds.length) :
    ∃ s', Leads limit s cs s' rest ∧ (p.reading.push a).Grows s' := by
  cases h with
  | clear h => cases he
  | @behind r _ s' e e' _ _ es hpart hskip _ h =>
    cases he
    obtain ⟨a', ha', hgrows⟩ := h.quantify hquantify
    refine ⟨s'.push a', .quantify hpart ?_, hgrows⟩
    rw [h.flags]
    exact quantify_congr hskip.symm ha' hlength

/-- A quoted character is passed over, or it is a part behind the last one, which may then be given the quantifier
that the last one would be given. -/
theorem quote_cons {c : Char} {t : List Char} (hw : EndsBefore p.reading p.last [] w)
    (h : Awaits limit p s cs (quote (c :: t) ++ w)) :
    ∃ s' cs', Leads limit s cs s' cs' ∧ Awaits limit p s' cs' (quote t ++ w) := by
  have hlength : (Regex.quote t ++ w).length ≤ (Regex.quote (c :: t) ++ w).length := by
    rw [Regex.quote_cons, List.append_assoc]
    exact (List.sublist_append_right _ _).length_le
  cases h with
  | @clear r _ _ h =>
    rcases skip_quote_cons s.flags.extended c t w with hblank | hself
    · exact ⟨s, _, .skips hblank hlength, .clear h⟩
    · obtain ⟨set, hpart⟩ := readPart_quote_cons limit hself
      have hcalm : Calm r.flags.extended (Regex.quote t ++ w) := Calm.quote hw t
      rw [← h.flags] at hcalm
      exact ⟨_, _, .push hpart rfl le_rfl hcalm, .clear (h.push_chars set)⟩
  | @behind r _ s' e e' _ _ es hpart hskip hle h =>
    rw [← h.flags] at hskip
    rcases skip_quote_cons s'.flags.extended c t w with hblank | hself
    · refine ⟨s, cs, .refl _ _ _, .behind hpart ?_ (hlength.trans hle) h⟩
      rw [← h.flags]
      exact hskip.trans hblank
    · obtain ⟨set, hchars⟩ := readPart_quote_cons limit (r := s'.push e') hself
      exact ⟨_, _, .push hpart hskip hle (calm_quote_cons hself), .behind hchars rfl le_rfl (h.chars set)⟩

/-- **A quoted text can be put in at any place.** -/
theorem quote (hw : EndsBefore p.reading p.last [] w) {t : List Char}
    (h : Awaits limit p s cs (quote t ++ w)) :
    ∃ s' cs', Leads limit s cs s' cs' ∧ Awaits limit p s' cs' w := by
  induction t generalizing s cs with
  | nil => exact ⟨s, cs, .refl _ _ _, h⟩
  | cons c t ih =>
    obtain ⟨s₁, cs₁, hleads₁, hawaits₁⟩ := h.quote_cons hw
    obtain ⟨s', cs', hleads, hawaits⟩ := ih hawaits₁
    exact ⟨s', cs', hleads₁.trans hleads, hawaits⟩

/-- **A piece is read in the same way before any text that does not go on with it.** -/
theorem piece (n : Nat) (h : Awaits limit p s cs (ds ++ w)) (hpiece : readPiece limit n p ds = some p')
    (hw : EndsBefore p'.reading p'.last [] w) :
    ∃ s' cs', Leads limit s cs s' cs' ∧ Awaits limit p' s' cs' w := by
  induction n generalizing p s cs ds with
  | zero => cases hpiece
  | succ n ih =>
    cases pieceRead_of_readPiece hpiece with
    | quantified hquantified hrest =>
      obtain ⟨e, a, he, hquantify, hlength, rfl⟩ := Cut.exists_of_quantified hquantified
      have hcalm := endsBefore_of_readPiece hrest hw
      obtain ⟨s₁, hleads₁, hgrows⟩ := h.quantified he (quantify_before hquantify hcalm) (by simpa using hlength)
      obtain ⟨s', cs', hleads, hawaits⟩ := ih (.clear hgrows) hrest
      exact ⟨s', cs', hleads₁.trans hleads, hawaits⟩
    | done hp hskip =>
      subst hp
      have hskip := skip_append_all (w := w) hskip
      have hle := (List.sublist_append_right ds w).length_le
      cases h with
      | @clear r _ _ h =>
        rw [← h.flags] at hskip
        exact ⟨s, w, .skips hskip hle, .clear h⟩
      | behind hpart hskip' hle' h =>
        exact ⟨s, cs, .refl _ _ _, .behind hpart (hskip'.trans hskip) (hle.trans hle') h⟩
    | @part c es rest r whole hskip hends hpart htest hrest =>
      have hafter := endsBefore_of_readPiece hrest hw
      have hskip' : skip p.all.flags.extended ds = .ok (c :: es) := by
        rw [p.flags_all]
        exact hskip
      have hcalm := calm_of_readPart hskip' hends hpart hafter
      rw [p.flags_all] at hcalm
      obtain ⟨s₁, hleads₁, hgrows₁⟩ := h.leads hcalm
      have hnumber : ∀ fs, skip p.all.flags.extended ds = .ok ('\\' :: fs) → fs.all Char.isDigit = false := by
        intro fs hfs
        rw [hskip'] at hfs
        cases hfs
        exact hends
      obtain ⟨s₂, whole', hpart', hgrows₂, hwhole⟩ := readPart_grows hgrows₁ hpart htest hafter hnumber
      cases hwhole with
      | none =>
        obtain ⟨s', cs', hleads, hawaits⟩ := ih (.clear hgrows₂) hrest
        exact ⟨s', cs', (hleads₁.trans (.step (readNext_of_readPart hpart' rfl))).trans hleads, hawaits⟩
      | some he =>
        obtain ⟨s', cs', hleads, hawaits⟩ := ih (.behind hpart' rfl le_rfl (.of_grows hgrows₂ he)) hrest
        exact ⟨s', cs', hleads₁.trans hleads, hawaits⟩

end Awaits

/-! ### Texts between pieces -/

/-- Pieces of a pattern, each with the quoted text that is put in before it. -/
def splice : List (List Char × List Char) → List Char
  | [] => []
  | (t, p) :: rest => quote t ++ (p ++ splice rest)

/-- A quoted text does not go on with the part before it. -/
theorem EndsBefore.quote {whole : Option Expr} (h : EndsBefore r whole [] w) (t : List Char) :
    EndsBefore r whole [] (quote t ++ w) := by
  cases whole with
  | none => exact Calm.quote h t
  | some e =>
    refine fun hboundary => ⟨fun _ => ?_, nofun⟩
    cases t with
    | nil => exact (h hboundary).head_ne rfl
    | cons c t =>
      intro hhead
      rw [quote_cons] at hhead
      cases hc : isMeta c with
      | true =>
        rw [hc] at hhead
        cases hhead
      | false =>
        rw [hc] at hhead
        cases hhead
        cases hc

theorem exists_of_readPieces {pieces : List (List Char)} (h : readPieces limit p (cs :: pieces) = some p') :
    ∃ p₁, (p.takesBrace = true → cs.head? ≠ some '\x7B') ∧
      readPiece limit (cs.length + 1) p cs = some p₁ ∧ readPieces limit p₁ pieces = some p' := by
  unfold readPieces at h
  split at h
  · cases h
  · rename_i hbrace
    obtain ⟨p₁, hp₁, h⟩ := Option.bind_eq_some_iff.1 h
    refine ⟨p₁, fun htakes hhead => hbrace ?_, hp₁, h⟩
    rw [htakes, hhead]
    rfl

/-- Where a piece does not go on with a part then nothing that begins with it does, if it does not begin with a
brace. -/
theorem EndsBefore.append {whole : Option Expr} (h : EndsBefore r whole cs w)
    (hbrace : whole.any Expr.isWordBoundary = true → cs.head? ≠ some '\x7B') :
    EndsBefore r whole [] (cs ++ w) := by
  cases whole with
  | none => exact h
  | some e =>
    refine fun hboundary => ⟨fun _ => ?_, nofun⟩
    cases cs with
    | nil => exact (h hboundary).head_ne rfl
    | cons c cs => exact hbrace hboundary

theorem endsBefore_splice {pieces : List (List Char × List Char)}
    (h : readPieces limit p (pieces.map (·.2)) = some p') : EndsBefore p.reading p.last [] (splice pieces) := by
  induction pieces generalizing p with
  | nil =>
    obtain ⟨r, last⟩ := p
    cases last with
    | none => exact calm_nil _
    | some e => exact fun _ => ⟨nofun, nofun⟩
  | cons piece pieces ih =>
    obtain ⟨p₁, hbrace, hp₁, h⟩ := exists_of_readPieces h
    exact ((endsBefore_of_readPiece hp₁ (ih h)).append hbrace).quote piece.1

/-- **Pieces that can be read one by one are read in the same way with texts between them.** -/
theorem Awaits.splice {pieces : List (List Char × List Char)} (h : Awaits limit p s cs (splice pieces))
    (hpieces : readPieces limit p (pieces.map (·.2)) = some p') :
    ∃ s', Leads limit s cs s' [] ∧ p'.all.Grows s' := by
  induction pieces generalizing p s cs with
  | nil =>
    cases hpieces
    exact h.leads (calm_nil _)
  | cons piece pieces ih =>
    obtain ⟨t, ds⟩ := piece
    obtain ⟨p₁, hbrace, hp₁, hpieces⟩ := exists_of_readPieces hpieces
    have hends := endsBefore_splice hpieces
    obtain ⟨s₁, cs₁, hquote, hawaits₁⟩ := h.quote ((endsBefore_of_readPiece hp₁ hends).append hbrace)
    obtain ⟨s₂, cs₂, hpiece, hawaits₂⟩ := hawaits₁.piece _ hp₁ hends
    obtain ⟨s', hleads, hgrows⟩ := ih hawaits₂ hpieces
    exact ⟨s', (hquote.trans hpiece).trans hleads, hgrows⟩

end Listfile.Regex
