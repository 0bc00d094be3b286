import Listfile.Grammar.Compile
import Listfile.Highlight.Step
import Listfile.Proofs.Grammar.Cutting
import Listfile.Proofs.Grammar.Substituting
import Listfile.Proofs.Regex.Refusing

/-!
# Patterns with the texts of captures in them

A pattern with references to captures is checked when its grammar is loaded, with nothing in place of the
references, and compiled with the texts of captures once these are known.

* `cutAtBackrefs`: what stands between the references of a pattern.
* `standApart`: do the references of a pattern stand apart from the rest of it?
* `exists_parse_instance`: such a pattern is read in the same way whatever the texts are.
* **`regexFor_some_or_refusal`**: then it has its regular expression, unless the engine refuses it for its size, for
  the bounds of a repetition or for something that it looks for behind a place.
* `not_forall_accepted_compiles`: **other patterns may fail with the texts in them.**
-/

namespace Listfile

namespace Grammar

open Regex

variable {source first ending w : List Char} {captures : List (Option (List Char))}

/-! ### Pieces -/

/-- The text of a pattern up to its first reference, and the references with what stands behind each of them up to
the next.  The last of these texts goes on with `ending`. -/
def cutAtBackrefs (ending : List Char) : List Char → List Char × List (Nat × List Char)
  | '\\' :: c :: cs =>
    let (first, more) := cutAtBackrefs ending cs
    match referredGroup? c with
    | some i => ([], (i, first) :: more)
    | none => ('\\' :: c :: first, more)
  | c :: cs =>
    let (first, more) := cutAtBackrefs ending cs
    (c :: first, more)
  | [] => (ending, [])

/-- The pieces without the references. -/
def textsOf (cut : List Char × List (Nat × List Char)) : List (List Char) := cut.1 :: cut.2.map (·.2)

/-- The pieces with the texts of captures in place of the references. -/
def withTexts (captures : List (Option (List Char))) (cut : List Char × List (Nat × List Char)) :
    List (List Char × List Char) :=
  ([], cut.1) :: cut.2.map fun p => (capturedText captures p.1, p.2)

theorem map_withTexts (captures : List (Option (List Char))) (cut : List Char × List (Nat × List Char)) :
    (withTexts captures cut).map (·.2) = textsOf cut := by
  unfold withTexts textsOf
  rw [List.map_cons, List.map_map]
  rfl

/-- **The texts of captures are put in between the pieces.** -/
theorem substituteBackrefs_eq_splice (captures : List (Option (List Char))) (ending source : List Char) :
    substituteBackrefs captures source ++ ending = splice (withTexts captures (cutAtBackrefs ending source)) := by
  fun_induction substituteBackrefs captures source with
  | case1 c cs ih =>
    rw [cutAtBackrefs]
    cases referredGroup? c with
    | some i =>
      rw [List.append_assoc, ih]
      rfl
    | none =>
      rw [List.append_assoc, ih]
      rfl
  | case2 c cs hno ih =>
    rw [cutAtBackrefs.eq_2 ending c cs hno, List.cons_append, ih]
    rfl
  | case3 => exact (List.append_nil _).symm

theorem splice_append (ps qs : List (List Char × List Char)) : splice (ps ++ qs) = splice ps ++ splice qs := by
  induction ps with
  | nil => rfl
  | cons p ps ih =>
    rw [List.cons_append, splice, splice, ih, List.append_assoc, List.append_assoc]

/-! ### The end of a pattern -/

/-- Is it decided by the front of a pattern what is written behind it? -/
def settlesClosing : List Char → Bool
  | '(' :: '?' :: cs => cs.contains ')'
  | ['('] | [] => false
  | _ => true

theorem extendedFromStart_append (h : settlesClosing first = true) (w : List Char) :
    extendedFromStart (first ++ w) = extendedFromStart first := by
  unfold settlesClosing at h
  split at h
  · rename_i cs
    have hwhile : (cs ++ w).takeWhile (· != ')') = cs.takeWhile (· != ')') := by
      rw [List.takeWhile_append, if_neg]
      intro hlength
      have hall := List.takeWhile_eq_self_iff.1 ((List.takeWhile_prefix _).eq_of_length hlength)
      exact absurd (hall ')' (List.contains_iff_mem.1 h)) (by decide)
    unfold extendedFromStart
    simp only [List.cons_append, hwhile]
  · cases h
  · cases h
  · rename_i hask hparen hnil
    match first with
    | [] => exact absurd rfl hnil
    | [c] =>
      have hc : c ≠ '(' := fun he => hparen (by rw [he])
      unfold extendedFromStart
      split
      · rename_i he
        exact absurd (List.cons.inj he).1 hc
      · rfl
    | c :: d :: cs =>
      unfold extendedFromStart
      split
      · rename_i he
        obtain ⟨hc, he⟩ := List.cons.inj he
        exact absurd (by rw [hc, (List.cons.inj he).1]) (hask cs)
      · rfl

theorem closing_append (h : settlesClosing first = true) (w : List Char) : closing (first ++ w) = closing first := by
  unfold closing
  rw [extendedFromStart_append h]

/-! ### References that stand apart -/

/-- The pieces of a pattern with what is written behind it. What that is may depend on the texts; then a line
feed may come before a last parenthesis. -/
def closedPieces (source : List Char) : List (List Char) :=
  let cut := cutAtBackrefs [] source
  if settlesClosing cut.1 then textsOf (cutAtBackrefs (closing cut.1) source) else textsOf cut ++ [[')']]

/-- Do the references of a pattern stand apart from the rest of it? Each piece between them must be made up of
whole parts.  It may begin with a quantifier if that can belong to the part before the references too. -/
def standApart (source : List Char) : Bool :=
  (readPieces maxDepth ⟨Reading.start.behindAnchor 1, none⟩ (closedPieces source)).isSome

theorem exists_splice (captures : List (Option (List Char))) (source : List Char) :
    ∃ ps : List (List Char × List Char), ps.map (·.2) = closedPieces source ∧
      substituteBackrefs captures source ++ closing (substituteBackrefs captures source) = splice ps := by
  have hcut := substituteBackrefs_eq_splice captures [] source
  rw [List.append_nil] at hcut
  unfold closedPieces
  cases hsettles : settlesClosing (cutAtBackrefs [] source).1 with
  | true =>
    have hclosing : closing (substituteBackrefs captures source) = closing (cutAtBackrefs [] source).1 := by
      rw [hcut]
      exact closing_append hsettles _
    refine ⟨withTexts captures (cutAtBackrefs (closing (cutAtBackrefs [] source).1) source), ?_, ?_⟩
    · rw [map_withTexts]
      exact (if_pos hsettles).symm
    · rw [hclosing, substituteBackrefs_eq_splice]
  | false =>
    obtain ⟨t, ht⟩ : ∃ t, closing (substituteBackrefs captures source) = quote t ++ [')'] := by
      unfold closing
      split
      · exact ⟨['\n'], rfl⟩
      · exact ⟨[], rfl⟩
    refine ⟨withTexts captures (cutAtBackrefs [] source) ++ [(t, [')'])], ?_, ?_⟩
    · rw [List.map_append, map_withTexts]
      exact (if_neg (Bool.eq_false_iff.1 hsettles)).symm
    · rw [ht, splice_append, ← hcut]
      rfl

/-! ### Reading -/

theorem grows_behindAnchor (k k' : Nat) :
    (Reading.start.behindAnchor k).Grows (Reading.start.behindAnchor k') := by
  have hanchor : Frame.anchor.Grows Frame.anchor := ⟨.same nofun nofun, .nil, .part .rfl .nil⟩
  exact ⟨rfl, rfl, rfl, rfl, .start (.same nofun nofun), .cons hanchor .nil⟩

/-- **A pattern whose references stand apart is read in the same way whatever the texts are**: from the end of one
and the same reading its expression is made, with the characters of the texts put in. -/
theorem exists_parse_instance (hapart : standApart source = true) :
    ∃ r : Reading, ∀ captures, ∃ s : Reading, r.Grows s ∧
      parse (anchor (substituteBackrefs captures source)) = s.finish := by
  obtain ⟨p, hp⟩ := Option.isSome_iff_exists.1 hapart
  refine ⟨p.all, fun captures => ?_⟩
  obtain ⟨ps, hps, hsplice⟩ := exists_splice captures source
  rw [← hps] at hp
  obtain ⟨s, hleads, hgrows⟩ := Awaits.splice
    (.clear (grows_behindAnchor 1 (closing (substituteBackrefs captures source)).length)) hp
  refine ⟨s, hgrows, ?_⟩
  rw [parse_anchor, hsplice]
  refine hleads.finish ?_
  rw [← hsplice, List.length_append]
  omega

/-- What is made of a pattern with texts in it is like what is made of the pattern with nothing in their place. -/
theorem exists_alike {e : Expr} (hapart : standApart source = true)
    (h : parse (anchor (substituteBackrefs [] source)) = .ok e) (captures : List (Option (List Char))) :
    ∃ e', parse (anchor (substituteBackrefs captures source)) = .ok e' ∧ Alike e e' := by
  obtain ⟨r, hr⟩ := exists_parse_instance hapart
  obtain ⟨s, hgrows, hs⟩ := hr []
  obtain ⟨s', hgrows', hs'⟩ := hr captures
  rw [hs] at h
  obtain ⟨-, -, rfl, -⟩ := Reading.finish_eq_ok.1 h
  have hfinish := hgrows'.finish_iff.2 (hgrows.finish_iff.1 h)
  exact ⟨_, hs'.trans hfinish, hgrows.frame.body.toAlike.symm.trans hgrows'.frame.body.toAlike⟩

/-! ### Compiling -/

/-- How the engine may answer to a pattern that is like one that can be read. -/
theorem compileAnchored_cases {e e' : Expr} {pattern : List Char} (h : parse (anchor pattern) = .ok e')
    (halike : Alike e e') :
    (∃ r, compileAnchored pattern = .ok r ∧ r.groupCount = e.groups.length) ∨
      ∃ f, compileAnchored pattern = .error f ∧
        Refusal (e'.isLarge = true) (e.boundsAgree = false) (e.looksBehindHard e.references = true) f := by
  unfold compileAnchored Regex.compile
  rw [h]
  cases hplan : Regex.Plan.ofWhole e'.references e' with
  | ok p =>
    refine .inl ⟨⟨p, e'.groups.length, startsAtSearch e'⟩, ?_, congrArg List.length halike.groups⟩
    exact bind_eq_ok.2 ⟨e', rfl, bind_eq_ok.2 ⟨p, hplan, rfl⟩⟩
  | error f =>
    have hrefusal := failsFor_ofWhole _ _ f hplan
    rw [halike.boundsAgree, halike.looksBehindHard, halike.references] at hrefusal
    refine .inr ⟨f, ?_, hrefusal⟩
    show (Regex.Plan.ofWhole e'.references e' >>= _) = _
    rw [hplan]
    rfl

/-- A pattern with references is accepted if it can be compiled with nothing in their place. -/
theorem Pattern.backref_of_compile {context : String} {pattern : Pattern} (hbackrefs : hasBackrefs source = true)
    (h : Pattern.compile context source = .ok pattern) :
    pattern = .backref source ∧ ∃ r, compileAnchored (substituteBackrefs [] source) = .ok r := by
  unfold Pattern.compile at h
  rw [if_pos hbackrefs] at h
  obtain ⟨r, hchecked, hpattern⟩ := bind_eq_ok.1 h
  dsimp only at hchecked
  split at hchecked
  · rename_i r' hr'
    cases hpattern
    exact ⟨rfl, r', hr'⟩
  · cases hchecked

end Grammar

namespace Highlight

open Regex Grammar

-- What is looked for behind the place begins with a boundary, and its size varies once a text is in it.
example : standApart r"(?<=\b(?:\1|))x".toList = true ∧
    (Pattern.compile "" r"(?<=\b(?:\1|))x".toList).isOk = true ∧
    (compileAnchored (substituteBackrefs [none, some ['y']] r"(?<=\b(?:\1|))x".toList)).map (fun _ => ())
      = .error .unboundedLookbehind := by decide +kernel

end Highlight

end Listfile
