import Listfile.Proofs.Grammar.Ordering
import Listfile.Proofs.Highlight.Scoping
import Listfile.Proofs.Highlight.Splitting
import Mathlib.Data.List.Basic
import Mathlib.Data.List.Pairwise

/-!
# The bytes of a match

The tokens of a match can be told from what scopes each of its bytes has: those of the groups that hold it, in
the order of their numbers.

* `scopesAt`: the scopes of a byte.
* `BoundAt`: where tokens may begin and end.
* `Painting`: tokens that give the bytes of a match their scopes.
* `painting_segments`: the tokens of a match do.
* `Painting.unique`: no others do.
* **`eq_segments_iff`**: so the tokens of a match are told by the scopes of its bytes.
* `painting_emitted`: this is what each match of a walk adds.
-/

namespace Listfile

/-- The span holds the byte. -/
def Span.Holds (s : Span) (n : Nat) : Prop := s.start ≤ n ∧ n < s.stop

namespace Highlight

open Grammar

/-! ### Bytes -/

/-- The group lies within the match and holds the byte. -/
def groupHolds (whole : Span) (captures : List (Option Span)) (n group : Nat) : Bool :=
  match captures[group]? with
  | some (some span) =>
    decide (whole.start ≤ span.start ∧ span.stop ≤ whole.stop ∧ span.start ≤ n ∧ n < span.stop)
  | _ => false

/-- **The scopes of a byte of a match**: those in front, those of the rule, and those of the groups that hold
it, in the order of their numbers. -/
def scopesAt (front : List Scope) (rule : Rule) (whole : Span) (captures : List (Option Span)) (n : Nat) :
    List Scope :=
  front ++ rule.scope ++ (List.range captures.length).flatMap fun group =>
    if groupHolds whole captures n group then (rule.captures.lookup group).getD [] else []

/-- The match, or a group with scopes that lies within it and holds some text, begins or ends here. -/
def BoundAt (rule : Rule) (whole : Span) (captures : List (Option Span)) (n : Nat) : Prop :=
  (n = whole.start ∨ n = whole.stop) ∨ ∃ group scopes span, (group, scopes) ∈ rule.captures ∧
    captures[group]? = some (some span) ∧ whole.start ≤ span.start ∧ span.stop ≤ whole.stop ∧
    span.start < span.stop ∧ (n = span.start ∨ n = span.stop)

/-- **Tokens that give the bytes of a match their scopes.** -/
structure Painting (base : Nat) (scope : Scope) (more : List Scope) (rule : Rule) (whole : Span)
    (captures : List (Option Span)) (tokens : List Token) : Prop where
  /-- A token holds some text of the match and nothing else. -/
  inside : ∀ t ∈ tokens, base + whole.start ≤ t.span.start ∧ t.span.start < t.span.stop ∧
    t.span.stop ≤ base + whole.stop
  /-- It begins and ends at a bound. -/
  bounds : ∀ t ∈ tokens, ∃ first last, t.span = ⟨base + first, base + last⟩ ∧
    BoundAt rule whole captures first ∧ BoundAt rule whole captures last
  /-- No bound lies within it. -/
  undivided : ∀ t ∈ tokens, ∀ n, BoundAt rule whole captures n → base + n ≤ t.span.start ∨ t.span.stop ≤ base + n
  /-- Tokens follow each other. -/
  increasing : tokens.Pairwise fun s t => s.span.stop ≤ t.span.start
  /-- A byte that has more scopes than the first is in one token, which has its scopes. -/
  painted : ∀ n, whole.Holds n → scopesAt (scope :: more) rule whole captures n ≠ [scope] →
    ∃ t ∈ tokens, t.span.Holds (base + n) ∧ t.scopes = scopesAt (scope :: more) rule whole captures n ∧
      ∀ t' ∈ tokens, t'.span.Holds (base + n) → t' = t
  /-- Any other is in none. -/
  bare : ∀ n, whole.Holds n → scopesAt (scope :: more) rule whole captures n = [scope] →
    ∀ t ∈ tokens, ¬t.span.Holds (base + n)

section
variable {base : Nat} {scope : Scope} {more : List Scope} {rule : Rule} {whole : Span}
  {captures : List (Option Span)}

/-! ### Groups in order -/

theorem lookup_eq_none_of_lt {β : Type} {entries : List (Nat × β)} {i : Nat} (h : ∀ e ∈ entries, i < e.1) :
    entries.lookup i = none := by
  refine List.lookup_eq_none_iff.2 fun e he => ?_
  rw [bne_iff_ne]
  exact Nat.ne_of_lt (h e he)

/-- Entries in the order of their keys, taken key by key. -/
theorem flatMap_range'_lookup {β : Type} {p : Nat → Bool} {entries : List (Nat × List β)} {first n : Nat}
    (hsorted : entries.Pairwise fun c d => c.1 < d.1) (hfirst : ∀ e ∈ entries, first ≤ e.1)
    (hlast : ∀ i, p i = true → i < first + n) :
    ((List.range' first n).flatMap fun i => if p i then (entries.lookup i).getD [] else [])
      = entries.flatMap fun e => if p e.1 then e.2 else [] := by
  induction n generalizing first entries with
  | zero =>
    refine (List.flatMap_eq_nil_iff.2 fun e he => ?_).symm
    refine if_neg fun hp => ?_
    have := hlast _ hp
    have := hfirst e he
    omega
  | succ n ih =>
    have hlast' : ∀ i, p i = true → i < first + 1 + n := by
      intro i hi
      have := hlast i hi
      omega
    rw [List.range'_succ, List.flatMap_cons]
    cases entries with
    | nil => rw [ih .nil (List.forall_mem_nil _) hlast', List.lookup_nil, Option.getD_none, ite_self]; rfl
    | cons e entries =>
      obtain ⟨he, hentries⟩ := List.pairwise_cons.1 hsorted
      rcases Nat.eq_or_lt_of_le (hfirst e (.head _)) with rfl | hlt
      · -- the entry is the one for the first key
        obtain ⟨key, value⟩ := e
        have hrest : ∀ i ∈ List.range' (key + 1) n,
            (if p i then (((key, value) :: entries).lookup i).getD [] else [])
              = if p i then (entries.lookup i).getD [] else [] := by
          intro i hi
          have hne : (i == key) = false := by
            rw [beq_eq_false_iff_ne]
            have := (List.mem_range'_1.1 hi).1
            omega
          rw [List.lookup_cons, hne]
        rw [List.flatMap_congr hrest, ih hentries (fun e' he' => he e' he') hlast', List.lookup_cons_self]
        rfl
      · -- there is none for the first key
        have hgreater : ∀ e' ∈ e :: entries, first < e'.1 :=
          List.forall_mem_cons.2 ⟨hlt, fun e' he' => Nat.lt_trans hlt (he e' he')⟩
        rw [lookup_eq_none_of_lt hgreater, Option.getD_none, ite_self, ih hsorted hgreater hlast']
        rfl

theorem groupHolds_eq_true {n group : Nat} : groupHolds whole captures n group = true ↔
    ∃ span, captures[group]? = some (some span) ∧ whole.start ≤ span.start ∧ span.stop ≤ whole.stop ∧
      span.Holds n := by
  unfold groupHolds
  split
  · rename_i span hspan
    rw [decide_eq_true_iff, hspan]
    constructor
    · exact fun h => ⟨span, rfl, h⟩
    · rintro ⟨span', hspan', h⟩
      cases hspan'
      exact h
  · rename_i hnone
    refine iff_of_false Bool.false_ne_true ?_
    rintro ⟨span, hspan, -⟩
    exact hnone span hspan

/-- A byte has the scopes of the listed groups that hold it. -/
theorem scopesAt_eq (hrule : rule.Ordered) (front : List Scope) (n : Nat) :
    scopesAt front rule whole captures n = front ++ rule.scope ++
      rule.captures.flatMap fun c => if groupHolds whole captures n c.1 then c.2 else [] := by
  rw [scopesAt, List.range_eq_range', flatMap_range'_lookup hrule (fun _ _ => Nat.zero_le _)]
  intro group hgroup
  obtain ⟨span, hspan, -⟩ := groupHolds_eq_true.1 hgroup
  rw [Nat.zero_add]
  exact (List.getElem?_eq_some_iff.1 hspan).1

/-! ### Tokens of a match -/

theorem mem_cutsOf {n : Nat} : n ∈ cutsOf rule whole captures ↔ BoundAt rule whole captures n := by
  rw [cutsOf, mem_foldr_insertCut, List.mem_cons, List.mem_cons, List.mem_flatMap, ← or_assoc]
  refine or_congr_right ?_
  simp only [mem_scopedCaptures, List.mem_cons, List.not_mem_nil, or_false]
  constructor
  · rintro ⟨c, ⟨group, hlisted, hspan, hstart, hstop, hlt⟩, hn⟩
    exact ⟨group, c.2, c.1, hlisted, hspan, hstart, hstop, hlt, hn⟩
  · rintro ⟨group, scopes, span, hlisted, hspan, hstart, hstop, hlt, hn⟩
    exact ⟨(span, scopes), ⟨group, hlisted, hspan, hstart, hstop, hlt⟩, hn⟩

/-- A piece of a match lies in a group as a whole, or not at all. -/
theorem covers_eq_true {piece span : Span} {n : Nat} (hpiece : piece ∈ between (cutsOf rule whole captures))
    (hn : piece.Holds n) (hstart : BoundAt rule whole captures span.start)
    (hstop : BoundAt rule whole captures span.stop) : covers span piece = true ↔ span.Holds n := by
  have hcuts := pairwise_cutsOf rule whole captures
  have hstart := le_or_le_of_mem_between hcuts hpiece (mem_cutsOf.2 hstart)
  have hstop := le_or_le_of_mem_between hcuts hpiece (mem_cutsOf.2 hstop)
  obtain ⟨hfirst, hlast⟩ := hn
  rw [covers, Bool.and_eq_true, decide_eq_true_eq, decide_eq_true_eq]
  constructor
  · rintro ⟨hbefore, hbehind⟩
    exact ⟨by omega, by omega⟩
  · rintro ⟨hbefore, hbehind⟩
    exact ⟨by omega, by omega⟩

/-- A piece has the scopes of each of its bytes. -/
theorem flatMap_scopedCaptures {piece : Span} {n : Nat} (hpiece : piece ∈ between (cutsOf rule whole captures))
    (hn : piece.Holds n) :
    ((scopedCaptures rule whole captures).flatMap fun c => if covers c.1 piece then c.2 else [])
      = rule.captures.flatMap fun c => if groupHolds whole captures n c.1 then c.2 else [] := by
  rw [scopedCaptures, List.filterMap_eq_flatMap_toList, List.flatMap_assoc]
  refine List.flatMap_congr fun c hc => ?_
  split
  · rename_i span hspan
    rw [Option.join_eq_some_iff] at hspan
    split
    · rename_i hcovers
      rw [Bool.and_eq_true, covers, Bool.and_eq_true, decide_eq_true_eq, decide_eq_true_eq,
        decide_eq_true_eq] at hcovers
      obtain ⟨⟨hstart, hstop⟩, hlt⟩ := hcovers
      have hbound : ∀ m, m = span.start ∨ m = span.stop → BoundAt rule whole captures m := fun m hm =>
        .inr ⟨c.1, c.2, span, hc, hspan, hstart, hstop, hlt, hm⟩
      have hiff := covers_eq_true hpiece hn (hbound _ (.inl rfl)) (hbound _ (.inr rfl))
      have hholds : groupHolds whole captures n c.1 = true ↔ span.Holds n := by
        rw [groupHolds_eq_true]
        constructor
        · rintro ⟨span', hspan', -, -, h⟩
          cases hspan.symm.trans hspan'
          exact h
        · exact fun h => ⟨span, hspan, hstart, hstop, h⟩
      rw [Option.toList_some, List.flatMap_singleton, Bool.eq_iff_iff.2 (hiff.trans hholds.symm)]
    · rename_i hcovers
      refine (if_neg fun hholds => hcovers ?_).symm
      obtain ⟨span', hspan', hstart, hstop, hfirst, hlast⟩ := groupHolds_eq_true.1 hholds
      cases hspan.symm.trans hspan'
      rw [covers, decide_eq_true hstart, decide_eq_true hstop, decide_eq_true (Nat.lt_of_le_of_lt hfirst hlast)]
      rfl
  · rename_i hnone
    refine (if_neg fun hholds => ?_).symm
    obtain ⟨span, hspan, -⟩ := groupHolds_eq_true.1 hholds
    rw [hspan] at hnone
    cases hnone

theorem one_lt_length_iff {rest : List Scope} : 1 < (scope :: rest).length ↔ scope :: rest ≠ [scope] := by
  rw [List.length_cons, Nat.lt_add_left_iff_pos, List.length_pos_iff, ne_eq, ne_eq, List.cons.injEq,
    and_iff_right rfl]

/-- **The tokens of a match** are its pieces, each with the scopes that all of its bytes have, but for those
that have a single scope. -/
theorem mem_segments (hrule : rule.Ordered) {t : Token} :
    t ∈ segments base (scope :: more) rule whole captures ↔
      ∃ piece ∈ between (cutsOf rule whole captures), t.span = ⟨base + piece.start, base + piece.stop⟩ ∧
        t.scopes ≠ [scope] ∧ ∀ n, piece.Holds n → t.scopes = scopesAt (scope :: more) rule whole captures n := by
  have hscopes : ∀ piece ∈ between (cutsOf rule whole captures), ∀ n, piece.Holds n →
      scope :: more ++ rule.scope ++
          ((scopedCaptures rule whole captures).flatMap fun c => if covers c.1 piece then c.2 else [])
        = scopesAt (scope :: more) rule whole captures n := by
    intro piece hpiece n hn
    rw [scopesAt_eq hrule, flatMap_scopedCaptures hpiece hn]
  rw [segments, List.mem_filterMap]
  constructor
  · rintro ⟨piece, hpiece, ht⟩
    dsimp only at ht
    split at ht
    · rename_i hlength
      cases ht
      exact ⟨piece, hpiece, rfl, one_lt_length_iff.1 hlength, hscopes piece hpiece⟩
    · cases ht
  · rintro ⟨piece, hpiece, hspan, hne, hall⟩
    obtain ⟨span, scopes⟩ := t
    refine ⟨piece, hpiece, ?_⟩
    have hlt := (mem_between (pairwise_cutsOf rule whole captures) hpiece).2.2
    have hstart : piece.Holds piece.start := ⟨Nat.le_refl _, hlt⟩
    obtain rfl : _ = scopes := (hscopes piece hpiece _ hstart).trans (hall _ hstart).symm
    obtain rfl : span = _ := hspan
    exact if_pos (one_lt_length_iff.2 hne)

/-! ### Paintings -/

theorem BoundAt.le (hwhole : whole.start ≤ whole.stop) {n : Nat} (h : BoundAt rule whole captures n) :
    whole.start ≤ n ∧ n ≤ whole.stop := by
  obtain ⟨hstart, hstop, -⟩ := cutAt_of_mem_cutsOf hwhole (mem_cutsOf.2 h)
  exact ⟨hstart, hstop⟩

/-- Tokens that follow each other have no byte in common. -/
theorem eq_of_holds {tokens : List Token} (h : tokens.Pairwise fun s t => s.span.stop ≤ t.span.start) {s t : Token}
    (hs : s ∈ tokens) (ht : t ∈ tokens) {n : Nat} (hsn : s.span.Holds n) (htn : t.span.Holds n) : s = t := by
  have hdisjoint : tokens.Pairwise fun s t => ¬(s.span.Holds n ∧ t.span.Holds n) := by
    refine h.imp fun {s t} hst => ?_
    rintro ⟨⟨-, hlast⟩, hfirst, -⟩
    omega
  have : Std.Symm fun s t : Token => ¬(s.span.Holds n ∧ t.span.Holds n) := ⟨fun _ _ h h' => h h'.symm⟩
  by_contra hne
  exact hdisjoint.forall hs ht hne ⟨hsn, htn⟩

/-- **The tokens of a match give its bytes their scopes.** -/
theorem painting_segments (base : Nat) (scope : Scope) (more : List Scope) (hrule : rule.Ordered)
    (hwhole : whole.start ≤ whole.stop) (captures : List (Option Span)) :
    Painting base scope more rule whole captures (segments base (scope :: more) rule whole captures) := by
  have hcuts := pairwise_cutsOf rule whole captures
  have hbounds : ∀ piece ∈ between (cutsOf rule whole captures), BoundAt rule whole captures piece.start ∧
      BoundAt rule whole captures piece.stop ∧ piece.start < piece.stop := by
    intro piece hpiece
    obtain ⟨hstart, hstop, hlt⟩ := mem_between hcuts hpiece
    exact ⟨mem_cutsOf.1 hstart, mem_cutsOf.1 hstop, hlt⟩
  constructor
  case inside =>
    intro t ht
    obtain ⟨piece, hpiece, hspan, -⟩ := (mem_segments hrule).1 ht
    obtain ⟨hstart, hstop, hlt⟩ := hbounds piece hpiece
    have hfirst := (hstart.le hwhole).1
    have hlast := (hstop.le hwhole).2
    rw [hspan]
    dsimp only
    omega
  case bounds =>
    intro t ht
    obtain ⟨piece, hpiece, hspan, -⟩ := (mem_segments hrule).1 ht
    obtain ⟨hstart, hstop, -⟩ := hbounds piece hpiece
    exact ⟨_, _, hspan, hstart, hstop⟩
  case undivided =>
    intro t ht n hn
    obtain ⟨piece, hpiece, hspan, -⟩ := (mem_segments hrule).1 ht
    rw [hspan]
    exact (le_or_le_of_mem_between hcuts hpiece (mem_cutsOf.2 hn)).imp (Nat.add_le_add_left · base)
      (Nat.add_le_add_left · base)
  case increasing => exact pairwise_segments base _ rule whole captures
  case painted =>
    intro n hn hne
    obtain ⟨piece, hpiece, hfirst, hlast⟩ := exists_mem_between hcuts (mem_cutsOf.2 (.inl (.inl rfl)))
      (mem_cutsOf.2 (.inl (.inr rfl))) hn.1 hn.2
    have ht : (⟨⟨base + piece.start, base + piece.stop⟩, scopesAt (scope :: more) rule whole captures n⟩ : Token)
        ∈ segments base (scope :: more) rule whole captures := by
      refine (mem_segments hrule).2 ⟨piece, hpiece, rfl, hne, fun m hm => ?_⟩
      rw [scopesAt_eq hrule, scopesAt_eq hrule, ← flatMap_scopedCaptures hpiece ⟨hfirst, hlast⟩,
        flatMap_scopedCaptures hpiece hm]
    have hholds : Span.Holds ⟨base + piece.start, base + piece.stop⟩ (base + n) :=
      ⟨Nat.add_le_add_left hfirst base, Nat.add_lt_add_left hlast base⟩
    exact ⟨_, ht, hholds, rfl, fun t' ht' hholds' =>
      eq_of_holds (pairwise_segments base _ rule whole captures) ht' ht hholds' hholds⟩
  case bare =>
    intro n hn hbare t ht hholds
    obtain ⟨piece, hpiece, hspan, hne, hall⟩ := (mem_segments hrule).1 ht
    rw [hspan] at hholds
    refine hne ((hall n ⟨?_, ?_⟩).trans hbare)
    · exact Nat.le_of_add_le_add_left hholds.1
    · exact Nat.lt_of_add_lt_add_left hholds.2

/-- Tokens of a painting stand in each other painting. -/
theorem Painting.subset {tokens tokens' : List Token} (h : Painting base scope more rule whole captures tokens)
    (h' : Painting base scope more rule whole captures tokens') : tokens ⊆ tokens' := by
  intro t ht
  obtain ⟨first, last, hspan, hfirst, hlast⟩ := h.bounds t ht
  have hin := h.inside t ht
  rw [hspan] at hin
  dsimp only at hin
  -- the first byte of the token tells which token of the other painting it is
  have hbyte : whole.Holds first := ⟨by omega, by omega⟩
  have hholds : t.span.Holds (base + first) := by
    rw [hspan]
    exact ⟨Nat.le_refl _, hin.2.1⟩
  have hne : scopesAt (scope :: more) rule whole captures first ≠ [scope] := fun hbare =>
    h.bare first hbyte hbare t ht hholds
  obtain ⟨s, hs, -, hscopes, honly⟩ := h.painted first hbyte hne
  obtain rfl := honly t ht hholds
  obtain ⟨t', ht', hholds', hscopes', -⟩ := h'.painted first hbyte hne
  obtain ⟨first', last', hspan', hfirst', hlast'⟩ := h'.bounds t' ht'
  have hundivided := h.undivided t ht
  have hundivided' := h'.undivided t' ht'
  have hb := hundivided first' hfirst'
  have he := hundivided last' hlast'
  have hb' := hundivided' first hfirst
  have he' := hundivided' last hlast
  rw [hspan] at hb he
  rw [hspan'] at hb' he'
  rw [hspan'] at hholds'
  obtain ⟨hle, hlt⟩ := hholds'
  dsimp only at hb he hb' he' hle hlt
  have heq : t' = t := by
    obtain ⟨span, scopes⟩ := t
    obtain ⟨span', scopes'⟩ := t'
    obtain rfl : span = _ := hspan
    obtain rfl : span' = _ := hspan'
    rw [Token.mk.injEq, Span.mk.injEq]
    exact ⟨⟨by omega, by omega⟩, hscopes'.trans hscopes.symm⟩
  exact heq ▸ ht'

/-- **There is one painting of a match.** -/
theorem Painting.unique {tokens tokens' : List Token} (h : Painting base scope more rule whole captures tokens)
    (h' : Painting base scope more rule whole captures tokens') : tokens = tokens' := by
  have hsorted : ∀ {tokens : List Token}, Painting base scope more rule whole captures tokens →
      tokens.Pairwise fun s t => s.span.start < t.span.start := fun {tokens} h =>
    h.increasing.imp_of_mem fun {s t} hs _ hst => Nat.lt_of_lt_of_le (h.inside s hs).2.1 hst
  refine List.Perm.eq_of_pairwise (fun s t _ _ hst hts => absurd hst (Nat.lt_asymm hts)) (hsorted h) (hsorted h') ?_
  have hnodup : ∀ {tokens : List Token}, Painting base scope more rule whole captures tokens → tokens.Nodup := by
    refine fun {tokens} h => (hsorted h).imp fun {s t} hst => ?_
    rintro rfl
    exact Nat.lt_irrefl _ hst
  exact (List.perm_ext_iff_of_nodup (hnodup h) (hnodup h')).2 fun t => ⟨(h.subset h' ·), (h'.subset h ·)⟩

/-- **The tokens of a match are told by the scopes of its bytes.** -/
theorem eq_segments_iff (base : Nat) (scope : Scope) (more : List Scope) (hrule : rule.Ordered)
    (hwhole : whole.start ≤ whole.stop) (captures : List (Option Span)) (tokens : List Token) :
    tokens = segments base (scope :: more) rule whole captures ↔
      Painting base scope more rule whole captures tokens := by
  have hpainting := painting_segments base scope more hrule hwhole captures
  constructor
  · rintro rfl
    exact hpainting
  · exact fun h => h.unique hpainting

end

/-- A rule with captures that overlap, of which some hold no text of the match. -/
def overlapped : Rule :=
  ⟨.backref [], [], [(1, [⟨"a"⟩]), (2, [⟨"b"⟩]), (3, [⟨"c"⟩]), (4, [⟨"d"⟩]), (5, [⟨"e"⟩]), (6, [⟨"f"⟩])], .stay⟩

/-- The first two captures overlap, the third is empty, the fourth is missing, the fifth lies in the first two,
and the last ends behind the match. -/
theorem eq_segments_iff_overlapped : overlapped.Ordered ∧
    Painting 100 ⟨"s"⟩ [] overlapped ⟨2, 12⟩
      [some ⟨2, 12⟩, some ⟨3, 7⟩, some ⟨5, 9⟩, some ⟨6, 6⟩, none, some ⟨6, 7⟩, some ⟨11, 14⟩]
      [⟨⟨103, 105⟩, [⟨"s"⟩, ⟨"a"⟩]⟩, ⟨⟨105, 106⟩, [⟨"s"⟩, ⟨"a"⟩, ⟨"b"⟩]⟩,
        ⟨⟨106, 107⟩, [⟨"s"⟩, ⟨"a"⟩, ⟨"b"⟩, ⟨"e"⟩]⟩, ⟨⟨107, 109⟩, [⟨"s"⟩, ⟨"b"⟩]⟩] := by
  have hordered : overlapped.Ordered := by
    rw [Rule.Ordered, overlapped]
    decide
  exact ⟨hordered, (eq_segments_iff 100 ⟨"s"⟩ [] hordered (by decide) _ _).1 (by decide +kernel)⟩

/-- **Each match of a walk adds a painting of its bytes**, if the grammar was read from a document. -/
theorem painting_emitted {g : Grammar} {source : String} (hg : ofYaml source = .ok g) {base : Nat} {w : Walk}
    {line : List Char} {place : Cursor} {hit : Hit} (hon : w.On line) (hplace : w.place = some place)
    (hmatch : findMatch g w.stack place = some hit) :
    ∃ more, frontScopes g w.stack hit.rule.action = g.scope :: more ∧
      Painting base g.scope more hit.rule hit.whole.span (hit.captures.map fun c => c.map Capture.span)
        (w.emitted g base hit) := by
  obtain ⟨c, hc, hrule, -⟩ := exists_of_findMatch hmatch
  obtain ⟨more, hmore⟩ := exists_frontScopes g w.stack hit.rule.action
  refine ⟨more, hmore, ?_⟩
  rw [Walk.emitted, hmore]
  exact painting_segments base g.scope more (ordered_of_ofYaml hg c hc _ hrule) (hon.captures hplace hmatch).2.1 _

end Highlight

end Listfile
