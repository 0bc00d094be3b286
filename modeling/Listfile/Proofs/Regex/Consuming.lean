import Listfile.Proofs.Regex.Grouping

/-!
# What reading leads to

A reader takes characters from the front of a text and leaves the rest as it stands.  What it makes of a
pattern is said once for each part, and invariants of reading are read off that.

* `suffix_skip`, `suffix_quantify`: blanks, comments and quantifiers.
* `suffix_escape`, `suffix_classTokens`: escapes and classes.
* `Opening`, `Atom`, `NextPart`: what groups, other parts and any part of a pattern lead to.
* **`suffix_readNext`**: the next part of a pattern is taken from the front of its text.
-/

namespace Listfile.Regex

variable {x : Bool} {cs rest name : List Char} {g : GroupTable} {flags : Flags}

theorem suffix_of_cons {c : Char} (h : rest <:+ cs) : rest <:+ c :: cs := h.trans (List.suffix_cons c cs)

/-- What a span leaves. -/
theorem suffix_span {p : Char → Bool} (h : cs.span p = (name, rest)) : rest <:+ cs := by
  rw [List.span_eq_takeWhile_dropWhile] at h
  rw [← (Prod.mk.inj h).2]
  exact List.dropWhile_suffix p

/-! ### Blanks, comments and quantifiers -/

theorem suffix_skipFrom {s : Skipping} (h : skipFrom x s cs = some rest) : rest <:+ cs := by
  fun_induction skipFrom x s cs with
  | case1 cs ih => exact suffix_of_cons (suffix_of_cons (suffix_of_cons (ih h)))
  | case2 c cs _ _ ih => exact suffix_of_cons (ih h)
  | case3 c cs _ _ _ ih => exact suffix_of_cons (ih h)
  | case4 c cs _ _ _ =>
    cases h
    exact List.suffix_rfl
  | case5 =>
    cases h
    exact List.suffix_rfl
  | case6 c cs ih => exact suffix_of_cons (ih h)
  | case7 =>
    cases h
    exact List.suffix_rfl
  | case8 c cs ih => exact suffix_of_cons (suffix_of_cons (ih h))
  | case9 c cs _ ih => exact suffix_of_cons (ih h)
  | case10 => cases h

theorem suffix_skip (h : skip x cs = .ok rest) : rest <:+ cs := by
  unfold skip at h
  split at h
  · rename_i hs
    cases h
    exact suffix_skipFrom hs
  · cases h

theorem suffix_number {n : Nat} (h : number? cs = some (n, rest)) : rest <:+ cs := by
  unfold number? at h
  split at h
  · cases h
  · rename_i hspan
    dsimp only at h
    split at h
    · cases h
      exact suffix_span hspan
    · cases h

theorem suffix_closeBounds {least n : Nat} {most m : Option Nat}
    (h : closeBounds? x least most cs = some (n, m, rest)) : rest <:+ cs := by
  unfold closeBounds? at h
  split at h
  · rename_i hs
    cases h
    exact (List.suffix_cons _ _).trans (suffix_skipFrom hs)
  · cases h

theorem suffix_upperBounds {least n : Nat} {m : Option Nat}
    (h : upperBounds? x least cs = some (n, m, rest)) : rest <:+ cs := by
  obtain ⟨ds, hs, h⟩ := Option.bind_eq_some_iff.1 h
  refine List.IsSuffix.trans ?_ (suffix_skipFrom hs)
  split at h
  · obtain ⟨es, hes, h⟩ := Option.bind_eq_some_iff.1 h
    refine suffix_of_cons (List.IsSuffix.trans ?_ (suffix_skipFrom hes))
    split at h
    · rename_i hnumber
      exact (suffix_closeBounds h).trans (suffix_number hnumber)
    · exact suffix_closeBounds h
  · exact suffix_closeBounds h

theorem suffix_bounds {n : Nat} {m : Option Nat} (h : bounds? x cs = some (n, m, rest)) : rest <:+ cs := by
  obtain ⟨ds, hs, h⟩ := Option.bind_eq_some_iff.1 h
  refine List.IsSuffix.trans ?_ (suffix_skipFrom hs)
  split at h
  · exact suffix_upperBounds h
  · obtain ⟨⟨least, es⟩, hnumber, h⟩ := Option.bind_eq_some_iff.1 h
    exact (suffix_upperBounds h).trans (suffix_number hnumber)

theorem suffix_quantifier {n : Nat} {m : Option Nat} (h : quantifier? x cs = some (n, m, rest)) :
    rest <:+ cs := by
  unfold quantifier? at h
  split at h
  · cases h
    exact List.suffix_cons _ _
  · cases h
    exact List.suffix_cons _ _
  · cases h
    exact List.suffix_cons _ _
  · exact suffix_of_cons (suffix_bounds h)
  · cases h

theorem suffix_markRepetition {repetition : Bool → Expr} {e : Expr}
    (h : markRepetition x repetition cs = .ok (e, rest)) : rest <:+ cs := by
  obtain ⟨ds, hs, h⟩ := bind_eq_ok.1 h
  have hds := suffix_skip hs
  split at h
  · cases h
    exact ((List.suffix_cons _ _).trans (List.suffix_cons _ _)).trans hds
  · cases h
    exact (List.suffix_cons _ _).trans hds
  · cases h
    exact (List.suffix_cons _ _).trans hds
  · cases h
    exact List.suffix_rfl

theorem suffix_quantify {e e' : Expr} (h : quantify flags e cs = .ok (e', rest)) : rest <:+ cs := by
  obtain ⟨ds, hs, h⟩ := bind_eq_ok.1 h
  split at h
  · cases h
    exact List.suffix_rfl
  · rename_i hq
    split at h
    · exact ((suffix_markRepetition h).trans (suffix_quantifier hq)).trans (suffix_skip hs)
    · cases h

/-! ### Groups that are referred to -/

theorem suffix_name {close : Char} (h : name? close cs = some (name, rest)) : rest <:+ cs := by
  unfold name? at h
  split at h
  · cases h
  · rename_i hspan
    split at h
    · cases h
      exact (List.suffix_cons _ _).trans (suffix_span hspan)
    · cases h
  · cases h

theorem suffix_distance {opened i : Nat} (h : distance? opened cs = some (i, rest)) : rest <:+ cs := by
  unfold distance? at h
  split at h
  · obtain ⟨p, hp, h⟩ := Option.map_eq_some_iff.1 h
    cases h
    exact suffix_of_cons (suffix_number hp)
  · obtain ⟨p, hp, h⟩ := Option.map_eq_some_iff.1 h
    cases h
    exact suffix_of_cons (suffix_number hp)
  · cases h

theorem suffix_groupReference {relative : Bool} {close : Char} {i : Nat}
    (h : groupReference g relative close cs = .ok (i, rest)) : rest <:+ cs := by
  unfold groupReference at h
  split at h
  · rename_i hname
    split at h
    · cases h
      exact suffix_name hname
    · cases h
  · split at h
    · rename_i hd
      split at h
      · cases h
        split at hd
        · exact (List.suffix_cons _ _).trans (suffix_distance hd)
        · cases hd
      · cases h
    · cases h

theorem suffix_namedReference {i : Nat} (h : namedReference g cs = .ok (i, rest)) : rest <:+ cs := by
  unfold namedReference at h
  split at h
  · exact suffix_of_cons (suffix_groupReference h)
  · exact suffix_of_cons (suffix_groupReference h)
  · cases h

/-! ### Escapes -/

theorem suffix_bracedDigits (n : Nat) :
    ∀ {cs digits rest : List Char}, bracedDigits? x n cs = some (digits, rest) → rest <:+ cs := by
  induction n with
  | zero =>
    intro cs digits rest h
    cases h
  | succ n ih =>
    intro cs digits rest h
    unfold bracedDigits? at h
    split at h
    · rename_i hs
      cases h
      exact (List.suffix_cons _ _).trans (suffix_skipFrom hs)
    · rename_i hs
      split at h
      · obtain ⟨p, hp, h⟩ := Option.map_eq_some_iff.1 h
        cases h
        exact ((ih hp).trans (List.suffix_cons _ _)).trans (suffix_skipFrom hs)
      · cases h
    · cases h

theorem suffix_bracedCodePoint {c : Char} (h : bracedCodePoint? x cs = some (c, rest)) : rest <:+ cs := by
  obtain ⟨⟨digits, ds⟩, hds, h⟩ := Option.bind_eq_some_iff.1 h
  dsimp only at h
  split at h
  · cases h
  · obtain ⟨d, -, h⟩ := Option.map_eq_some_iff.1 h
    cases h
    exact suffix_bracedDigits _ hds

theorem suffix_codePoint {count : Nat} {c : Char} (h : codePoint? x count cs = some (c, rest)) :
    rest <:+ cs := by
  obtain ⟨ds, hs, h⟩ := Option.bind_eq_some_iff.1 h
  refine List.IsSuffix.trans ?_ (suffix_skipFrom hs)
  split at h
  · obtain ⟨d, -, h⟩ := Option.map_eq_some_iff.1 h
    cases h
    exact List.drop_suffix count ds
  · split at h
    · exact suffix_of_cons (suffix_bracedCodePoint h)
    · cases h

theorem suffix_propertyName (h : propertyName cs = .ok (name, rest)) : rest <:+ cs := by
  unfold propertyName at h
  split at h
  · split at h
    · rename_i hspan
      cases h
      exact suffix_of_cons ((List.suffix_cons _ _).trans (suffix_span hspan))
    · cases h
  · cases h
    exact List.suffix_cons _ _
  · cases h

theorem suffix_propertySet {fold negated : Bool} {s : CharSet}
    (h : propertySet fold negated cs = .ok (s, rest)) : rest <:+ cs := by
  obtain ⟨⟨name, ds⟩, hname, h⟩ := bind_eq_ok.1 h
  dsimp only at h
  split at h
  · cases h
    exact suffix_propertyName hname
  · cases h

theorem suffix_boundary {a : Assertion} (h : boundary cs = .ok (a, rest)) : rest <:+ cs := by
  unfold boundary at h
  split at h
  · split at h
    · cases h
      exact List.suffix_rfl
    · rename_i hspan
      split at h
      · cases h
        exact suffix_of_cons ((List.suffix_cons _ _).trans (suffix_span hspan))
      · cases h
    · cases h
  · cases h
    exact List.suffix_rfl

/-- An escape is taken from the front of a text. Apart from assertions, what it stands for as an expression
is decided by its first character. -/
theorem escape_cons {inClass : Bool} {c : Char} {escaped : Escaped}
    (h : escape flags g inClass (c :: cs) = .ok (escaped, rest)) :
    rest <:+ c :: cs ∧ ∀ e, escaped = .other e → (∃ a, e = .assertion a) ∨ exprEscape? c = some e := by
  obtain ⟨form, hform⟩ := exists_escapeForm flags g inClass c
  rw [hform] at h
  unfold EscapeForm.read at h
  cases form with
  | number =>
    dsimp only at h
    split at h
    · rename_i hnumber
      cases h
      exact ⟨suffix_number hnumber, nofun⟩
    · cases h
  | named =>
    obtain ⟨⟨i, ds⟩, href, h⟩ := bind_eq_ok.1 h
    cases h
    exact ⟨suffix_of_cons (suffix_namedReference href), nofun⟩
  | boundary _ =>
    obtain ⟨⟨a, ds⟩, hboundary, h⟩ := bind_eq_ok.1 h
    cases h
    refine ⟨suffix_of_cons (suffix_boundary hboundary), ?_⟩
    rintro _ ⟨⟩
    exact .inl ⟨a, rfl⟩
  | notBoundary _ =>
    dsimp only at h
    split at h
    · cases h
    · cases h
      refine ⟨List.suffix_cons c _, ?_⟩
      rintro _ ⟨⟩
      exact .inl ⟨_, rfl⟩
  | codePoint count _ =>
    dsimp only at h
    split at h
    · rename_i hpoint
      cases h
      exact ⟨suffix_of_cons (suffix_codePoint hpoint), nofun⟩
    · cases h
  | property negated =>
    obtain ⟨⟨s, ds⟩, hset, h⟩ := bind_eq_ok.1 h
    cases h
    exact ⟨suffix_of_cons (suffix_propertySet hset), nofun⟩
  | expr e he =>
    cases h
    refine ⟨List.suffix_cons c _, ?_⟩
    rintro _ ⟨⟩
    exact .inr he
  | set s =>
    cases h
    exact ⟨List.suffix_cons c _, nofun⟩
  | hexDigits negated =>
    cases h
    exact ⟨List.suffix_cons c _, nofun⟩
  | char d =>
    cases h
    exact ⟨List.suffix_cons c _, nofun⟩
  | unknown => cases h

theorem suffix_escape {inClass : Bool} {escaped : Escaped}
    (h : escape flags g inClass cs = .ok (escaped, rest)) : rest <:+ cs := by
  cases cs with
  | nil => cases h
  | cons c cs => exact (escape_cons h).1

/-! ### Classes -/

theorem suffix_classTokensFrom (n : Nat) :
    ∀ {nest : Nat} {cs rest : List Char} {tokens : List ClassToken},
      classTokensFrom flags g n nest cs = .ok (tokens, rest) → rest <:+ cs := by
  induction n with
  | zero =>
    intro nest cs rest tokens h
    cases h
  | succ n ih =>
    intro nest cs rest tokens h
    cases cs with
    | nil => cases h
    | cons c cs =>
      by_cases hc : c = '\\'
      · rw [hc] at h
        obtain ⟨⟨escaped, ds⟩, hescape, h⟩ := bind_eq_ok.1 h
        obtain ⟨first, -, h⟩ := bind_eq_ok.1 h
        obtain ⟨⟨more, es⟩, hmore, h⟩ := bind_eq_ok.1 h
        cases h
        exact suffix_of_cons ((ih hmore).trans (suffix_escape hescape))
      · rw [classTokensFrom.eq_4 _ _ _ _ _ _ hc] at h
        split at h
        · cases h
          exact List.suffix_cons _ _
        · obtain ⟨⟨more, es⟩, hmore, h⟩ := bind_eq_ok.1 h
          cases h
          exact suffix_of_cons (ih hmore)

theorem suffix_optionalPlain (c : Char) (cs : List Char) : (optionalPlain c cs).2 <:+ cs := by
  unfold optionalPlain
  split
  · exact List.tail_suffix cs
  · exact List.suffix_rfl

theorem suffix_classTokens {tokens : List ClassToken} (h : classTokens flags g cs = .ok (tokens, rest)) :
    rest <:+ cs := by
  obtain ⟨⟨more, es⟩, hmore, h⟩ := bind_eq_ok.1 h
  cases h
  exact ((suffix_classTokensFrom _ hmore).trans (suffix_optionalPlain ']' _)).trans
    (suffix_optionalPlain '^' cs)

/-! ### Groups -/

theorem suffix_namedCondition {close : Char} {i : Nat}
    (h : namedCondition g close cs = .ok (some (i, rest))) : rest <:+ cs := by
  obtain ⟨⟨j, ds⟩, href, h⟩ := bind_eq_ok.1 h
  split at h
  · rename_i heq
    cases heq
    cases h
    exact (List.suffix_cons _ _).trans (suffix_groupReference href)
  · cases h

theorem suffix_closedCondition {p : Option (Nat × List Char)} {i : Nat}
    (h : closedCondition p = .ok (some (i, rest))) : ∃ j ds, p = some (j, ds) ∧ rest <:+ ds := by
  unfold closedCondition at h
  split at h
  · cases h
    exact ⟨_, _, rfl, List.suffix_cons _ _⟩
  · cases h
  · cases h

theorem suffix_conditionGroup {i : Nat} (h : conditionGroup? g cs = .ok (some (i, rest))) :
    rest <:+ cs := by
  unfold conditionGroup? at h
  split at h
  · exact suffix_of_cons (suffix_namedCondition h)
  · exact suffix_of_cons (suffix_namedCondition h)
  · obtain ⟨j, ds, hd, hrest⟩ := suffix_closedCondition h
    exact hrest.trans (suffix_distance hd)
  · obtain ⟨j, ds, hd, hrest⟩ := suffix_closedCondition h
    exact hrest.trans (suffix_distance hd)
  · split at h
    · cases h
    · rename_i hspan
      obtain ⟨j, ds, hd, hrest⟩ := suffix_closedCondition h
      obtain ⟨k, -, hk⟩ := Option.map_eq_some_iff.1 hd
      cases hk
      exact hrest.trans (suffix_span hspan)

theorem suffix_readFlags {start : List Char} (n : Nat) :
    ∀ {flags flags' : Flags} {on opens : Bool} {cs rest : List Char},
      readFlags start n flags on cs = .ok (flags', opens, rest) → rest <:+ cs := by
  induction n with
  | zero =>
    intro flags flags' on opens cs rest h
    cases h
  | succ n ih =>
    intro flags flags' on opens cs rest h
    obtain ⟨ds, hs, h⟩ := bind_eq_ok.1 h
    refine List.IsSuffix.trans ?_ (suffix_skip hs)
    split at h
    · split at h
      · cases h
      · cases h
        exact List.suffix_cons _ _
    · split at h
      · cases h
      · cases h
        exact List.suffix_cons _ _
    · split at h
      · exact suffix_of_cons (ih h)
      · cases h
    · split at h
      · exact suffix_of_cons (ih h)
      · cases h
    · cases h

/-! ### Parts of a pattern -/

variable {r r' : Reading} {whole : Option Expr} {e : Expr} {limit : Nat}

/-- The group is one that a parenthesis may open. -/
def GroupKind.IsOpened : GroupKind → Prop
  | .pattern => False
  | .capture i => i ≠ 0
  | .branches e _ => ∃ i, e = .groupSet i
  | _ => True

/-- What reading on behind a parenthesis leads to: one more group is open, or an expression was completed. -/
inductive Opening (r r' : Reading) : Option Expr → Prop
  | opened {kind : GroupKind} (hkind : kind.IsOpened) (hframe : r'.frame = .start kind)
      (houter : r'.outer = r.frame :: r.outer) : Opening r r' none
  | whole {e : Expr} (he : e = .empty ∨ ∃ i fold, e = r.groups.sameAs fold i)
      (hframe : r'.frame = r.frame) (houter : r'.outer = r.outer) : Opening r r' (some e)

theorem opening_enter {kind : GroupKind} (hkind : kind.IsOpened) : Opening r (r.enter kind) none :=
  .opened hkind rfl rfl

theorem opening_enterCapture (r : Reading) (name : Option (List Char)) :
    Opening r (r.enterCapture name) none := by
  have hkind : GroupKind.IsOpened (.capture (r.groups.opened + 1)) := Nat.succ_ne_zero _
  exact .opened hkind rfl rfl

theorem enterNamed_cases {close : Char} (h : r.enterNamed close cs = .ok (r', whole, rest)) :
    rest <:+ cs ∧ Opening r r' whole := by
  unfold Reading.enterNamed at h
  split at h
  · rename_i hname
    cases h
    exact ⟨suffix_name hname, opening_enterCapture r _⟩
  · cases h

theorem readMarkedGroup_cases (h : readMarkedGroup r cs = .ok (r', whole, rest)) :
    rest <:+ cs ∧ Opening r r' whole := by
  unfold readMarkedGroup at h
  split at h
  case h_3 =>
    cases h
    exact ⟨suffix_of_cons (List.suffix_cons _ _), opening_enter trivial⟩
  case h_4 =>
    cases h
    exact ⟨suffix_of_cons (List.suffix_cons _ _), opening_enter trivial⟩
  case h_5 =>
    obtain ⟨hrest, hopening⟩ := enterNamed_cases h
    exact ⟨suffix_of_cons hrest, hopening⟩
  case h_6 =>
    obtain ⟨hrest, hopening⟩ := enterNamed_cases h
    exact ⟨suffix_of_cons hrest, hopening⟩
  case h_7 =>
    obtain ⟨hrest, hopening⟩ := enterNamed_cases h
    exact ⟨suffix_of_cons (suffix_of_cons hrest), hopening⟩
  case h_8 =>
    obtain ⟨⟨i, ds⟩, href, h⟩ := bind_eq_ok.1 h
    cases h
    exact ⟨suffix_of_cons (suffix_of_cons (suffix_groupReference href)), .whole (.inr ⟨i, _, rfl⟩) rfl rfl⟩
  case h_10 =>
    obtain ⟨o, ho, h⟩ := bind_eq_ok.1 h
    cases o with
    | none =>
      cases h
      exact ⟨List.suffix_cons _ _, opening_enter trivial⟩
    | some p =>
      cases h
      exact ⟨suffix_of_cons (suffix_conditionGroup ho), opening_enter ⟨p.1, rfl⟩⟩
  case h_11 =>
    obtain ⟨⟨flags, opens, ds⟩, hflags, h⟩ := bind_eq_ok.1 h
    have hds := suffix_readFlags _ hflags
    cases opens with
    | false =>
      cases h
      exact ⟨hds, .whole (.inl rfl) rfl rfl⟩
    | true =>
      cases h
      have hkind : GroupKind.IsOpened (.plain r.flags) := trivial
      exact ⟨hds, .opened hkind rfl rfl⟩
  all_goals
    cases h
    exact ⟨List.suffix_cons _ _, opening_enter trivial⟩

theorem readGroup_cases (h : readGroup limit r cs = .ok (r', whole, rest)) :
    rest <:+ cs ∧ Opening r r' whole := by
  unfold readGroup at h
  split at h
  · cases h
  · obtain ⟨ds, hs, h⟩ := bind_eq_ok.1 h
    split at h
    · obtain ⟨hrest, hopening⟩ := readMarkedGroup_cases h
      exact ⟨(suffix_of_cons hrest).trans (suffix_skip hs), hopening⟩
    · cases h
      exact ⟨List.suffix_rfl, opening_enterCapture r none⟩

/-- What a part of a pattern is that is neither a group nor a bar. -/
inductive Atom (r : Reading) : List Char → Expr → Prop
  | chars (cs : List Char) (s : CharSet) : Atom r cs (.chars s)
  | assertion (cs : List Char) (a : Assertion) : Atom r cs (.assertion a)
  | sameAs (cs : List Char) (fold : Bool) (i : Nat) : Atom r cs (r.groups.sameAs fold i)
  | escape {c : Char} {cs : List Char} {e : Expr} (h : exprEscape? c = some e) : Atom r ('\\' :: c :: cs) e

theorem readAtom_cases (h : readAtom r cs = .ok (r', e, rest)) :
    rest <:+ cs ∧ r'.frame = r.frame ∧ r'.outer = r.outer ∧ Atom r cs e := by
  unfold readAtom at h
  split at h
  case h_2 =>
    cases h
    exact ⟨List.suffix_cons _ _, rfl, rfl, .assertion _ _⟩
  case h_3 =>
    cases h
    exact ⟨List.suffix_cons _ _, rfl, rfl, .assertion _ _⟩
  case h_7 =>
    obtain ⟨p, htokens, h⟩ := bind_eq_ok.1 h
    obtain ⟨set, -, h⟩ := bind_eq_ok.1 h
    cases h
    exact ⟨suffix_of_cons (suffix_classTokens htokens), rfl, rfl, .chars _ set⟩
  case h_8 ds =>
    obtain ⟨⟨escaped, es⟩, hescape, h⟩ := bind_eq_ok.1 h
    have hes := suffix_escape hescape
    cases escaped with
    | reference i numbered =>
      cases h
      exact ⟨suffix_of_cons hes, rfl, rfl, .sameAs _ _ i⟩
    | other e =>
      cases h
      refine ⟨suffix_of_cons hes, rfl, rfl, ?_⟩
      cases ds with
      | nil => cases hescape
      | cons c ds =>
        rcases (escape_cons hescape).2 _ rfl with ⟨a, rfl⟩ | hc
        · exact .assertion _ a
        · exact .escape hc
    | _ =>
      cases h
      exact ⟨suffix_of_cons hes, rfl, rfl, .chars _ _⟩
  case h_4 => cases h
  case h_5 => cases h
  case h_6 => cases h
  case h_10 => cases h
  all_goals
    cases h
    exact ⟨List.suffix_cons _ _, rfl, rfl, .chars _ _⟩

theorem suffix_add (h : r.add whole cs = .ok (r', rest)) : rest <:+ cs := by
  cases whole with
  | none =>
    cases h
    exact List.suffix_rfl
  | some e =>
    obtain ⟨⟨e', ds⟩, hquantify, h⟩ := bind_eq_ok.1 h
    cases h
    exact suffix_quantify hquantify

/-- What reading the next part of a text leads to, which begins with it. -/
inductive NextPart (limit : Nat) (r r' : Reading) (rest : List Char) : List Char → Prop
  | bar (h : r' = { r with frame := r.frame.bar }) : NextPart limit r r' rest ('|' :: rest)
  | close {cs : List Char} {inner : Reading} {whole : Option Expr}
      (hclose : r.close (cs.length + 1) = .ok (inner, whole)) (hadd : inner.add whole cs = .ok (r', rest)) :
      NextPart limit r r' rest (')' :: cs)
  | group {cs ds : List Char} {inner : Reading} {whole : Option Expr}
      (hgroup : readGroup limit r cs = .ok (inner, whole, ds)) (hadd : inner.add whole ds = .ok (r', rest)) :
      NextPart limit r r' rest ('(' :: cs)
  | atom {cs ds : List Char} {inner : Reading} {e : Expr} (hatom : readAtom r cs = .ok (inner, e, ds))
      (hadd : inner.add (some e) ds = .ok (r', rest)) : NextPart limit r r' rest cs

theorem readNext_cases (h : readNext limit r cs = .ok (some (r', rest))) :
    ∃ ds, skip r.flags.extended cs = .ok ds ∧ NextPart limit r r' rest ds := by
  obtain ⟨ds, hs, h⟩ := bind_eq_ok.1 h
  refine ⟨ds, hs, ?_⟩
  split at h
  · cases h
  · cases h
    exact .bar rfl
  · obtain ⟨⟨inner, whole⟩, hclose, h⟩ := bind_eq_ok.1 h
    obtain ⟨⟨_, _⟩, hadd, h⟩ := bind_eq_ok.1 h
    cases h
    exact .close hclose hadd
  · obtain ⟨⟨inner, whole, es⟩, hgroup, h⟩ := bind_eq_ok.1 h
    obtain ⟨⟨_, _⟩, hadd, h⟩ := bind_eq_ok.1 h
    cases h
    exact .group hgroup hadd
  · obtain ⟨⟨inner, e, es⟩, hatom, h⟩ := bind_eq_ok.1 h
    obtain ⟨⟨_, _⟩, hadd, h⟩ := bind_eq_ok.1 h
    cases h
    exact .atom hatom hadd

/-- **The next part of a pattern is taken from the front of its text.** -/
theorem suffix_readNext (h : readNext limit r cs = .ok (some (r', rest))) : rest <:+ cs := by
  obtain ⟨ds, hs, hnext⟩ := readNext_cases h
  refine List.IsSuffix.trans ?_ (suffix_skip hs)
  cases hnext with
  | bar h => exact List.suffix_cons _ _
  | close hclose hadd => exact suffix_of_cons (suffix_add hadd)
  | group hgroup hadd => exact suffix_of_cons ((suffix_add hadd).trans (readGroup_cases hgroup).1)
  | atom hatom hadd => exact (suffix_add hadd).trans (readAtom_cases hatom).1

end Listfile.Regex
