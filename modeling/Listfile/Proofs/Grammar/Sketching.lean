import Listfile.Proofs.Grammar.Building
import Listfile.Proofs.Grammar.Expanding
import Listfile.Proofs.Regex.Runs

/-!
# Sketches of rules

A sketch says what can be told of a rule without following its pattern step by step.

* `Trait`: what is known of the matches of a pattern.
* `Sketch`, `Obeys`: a rule as it is sketched.
* `Sketch.excludes`, `Sketch.staysOff`: rules that do not apply, and what matches do not cross.
* `Item.Shows`, `Item.shows`: an item of a definition is sketched; this can be computed.
* **`forall₂_obeys`**: the rules of a context obey the sketches of its items.
-/

namespace Listfile.Grammar

open Regex Compiler

deriving instance DecidableEq for CharSet

/-- What is known of the matches of a pattern. -/
inductive Trait
  /-- One character of each of the sets. -/
  | sets (ss : List CharSet)
  /-- One or more characters of the set. -/
  | run (s : CharSet)
  /-- Texts that begin with the first character, if there is one, and have none of the others. -/
  | loose (first : Option Char) (others : List Char)
  /-- Texts that end with the character and have it nowhere else. -/
  | closes (x : Char)

/-- One text alone. -/
def Trait.text (s : String) : Trait := .sets (s.toList.map .single)

/-- Does the pattern behind an anchor have the trait? -/
def Trait.heldBy (r : Regex) : Trait → Bool
  | sets ss => r.sets? = some ss
  | run s => r.run? = some s
  | loose first others => r.anchored && decide (r.plan.KeepsStart false) && first.all (r.plan.starts ·) &&
      others.all (r.plan.avoids ·)
  | closes x => r.anchored && decide (r.plan.KeepsStart false) && r.plan.closes x

/-- A rule as it is sketched. -/
structure Sketch where
  trait : Trait
  action : Action
  /-- The groups whose captures have scopes. -/
  groups : List Nat := []

deriving instance DecidableEq for Trait, Sketch

/-- The rule is as it is sketched. -/
structure Obeys (k : Sketch) (rule : Rule) : Prop where
  pattern : ∃ source r, rule.pattern = .fixed source r ∧ k.trait.heldBy r = true
  action : rule.action = k.action
  groups : rule.captures.map (·.1) = k.groups

/-! ### What cannot match -/

/-- Do characters of the sets stand at the front of the text? -/
def fitsFront : List CharSet → List Char → Bool
  | [], _ => true
  | s :: ss, c :: cs => s.contains c && fitsFront ss cs
  | _ :: _, [] => false

theorem fitsFront_iff {ss : List CharSet} {text : List Char} :
    fitsFront ss text = true ↔ ∃ u, Fits ss u ∧ u <+: text := by
  induction ss generalizing text with
  | nil =>
    refine iff_of_true ?_ ⟨[], .nil, List.nil_prefix⟩
    cases text <;> rfl
  | cons s ss ih =>
    cases text with
    | nil =>
      refine iff_of_false nofun ?_
      rintro ⟨u, hu, hprefix⟩
      rw [List.prefix_nil.1 hprefix] at hu
      cases hu
    | cons c cs =>
      rw [fitsFront, Bool.and_eq_true_iff, ih]
      constructor
      · rintro ⟨hc, u, hu, hprefix⟩
        exact ⟨c :: u, .cons hc hu, (List.prefix_cons_inj c).2 hprefix⟩
      · rintro ⟨u, hu, hprefix⟩
        cases hu with
        | cons hx hu =>
          obtain ⟨rfl, hmore⟩ := List.cons_prefix_cons.1 hprefix
          exact ⟨hx, _, hu, hmore⟩

/-- Does no match count where the text stands ahead? A rule that keeps its context has to match some text. -/
def Trait.excludes (stays : Bool) (ahead : List Char) : Trait → Bool
  | sets ss => !fitsFront ss ahead
  | run s => !ahead.head?.any s.contains
  | loose first others => first.any (ahead.head? != some ·) || stays && ahead.head?.any others.contains
  | closes x => !ahead.contains x

/-- Does no match cross the character? -/
def Trait.avoids (x : Char) : Trait → Bool
  | sets ss => ss.all fun s => !s.contains x
  | run s => !s.contains x
  | loose _ others => others.contains x
  | closes _ => false

/-- Does the rule not apply where the text stands ahead? -/
def Sketch.excludes (ahead : List Char) (k : Sketch) : Bool := k.trait.excludes (k.action == .stay) ahead

/-- A rule for one text applies only where the text stands ahead. -/
theorem excludes_text {s : String} {action : Action} {groups : List Nat} {ahead : List Char} :
    Sketch.excludes ahead ⟨.text s, action, groups⟩ = true ↔ ¬ s.toList <+: ahead := by
  rw [Sketch.excludes, Trait.text, Trait.excludes, Bool.not_eq_true', ← Bool.not_eq_true, fitsFront_iff]
  refine not_congr ⟨?_, fun h => ⟨_, fits_single.2 rfl, h⟩⟩
  rintro ⟨u, hu, hprefix⟩
  rwa [← fits_single.1 hu]

/-- Does the rule keep its context, and cross none of the characters? -/
def Sketch.staysOff (xs : List Char) (k : Sketch) : Bool := k.action == .stay && xs.all (k.trait.avoids ·)

/-- The character that all matches begin with, if it is known. -/
def Sketch.first? (k : Sketch) : Option Char :=
  match k.trait with
  | .sets (.single x :: _) => some x
  | .loose first _ => first
  | _ => none

/-- A rule does not apply where its first character does not stand ahead. -/
theorem excludes_of_head? {k : Sketch} {x : Char} {ahead : List Char} (hk : k.first? = some x)
    (hahead : ahead.head? ≠ some x) : k.excludes ahead = true := by
  obtain ⟨trait, action, groups⟩ := k
  unfold Sketch.first? at hk
  dsimp only at hk
  split at hk
  · cases hk
    cases ahead with
    | nil => rfl
    | cons c cs =>
      have hc : c ≠ x := fun hc => hahead (congrArg some hc)
      simp [Sketch.excludes, Trait.excludes, fitsFront, CharSet.contains, hc]
  · subst hk
    simp [Sketch.excludes, Trait.excludes, hahead]
  · cases hk

theorem excludes_of_first? {k : Sketch} {x c : Char} (hk : k.first? = some x) (hc : c ≠ x) (cs : List Char) :
    k.excludes (c :: cs) = true :=
  excludes_of_head? hk fun hhead => hc (Option.some.inj hhead)

/-- Which rules may apply where a character stands ahead that is not the first of others. -/
theorem all_of_first? {ks : List Sketch} {xs : List Char} {p : Char → Bool} {c : Char} (hc : p c = false)
    (hks : ks.all (fun k => k.first?.any p || k.staysOff xs) = true) (cs : List Char) :
    ks.all (fun k => k.excludes (c :: cs) || k.staysOff xs) = true := by
  refine List.all_eq_true.2 fun k hk => ?_
  rcases Bool.or_eq_true_iff.1 (List.all_eq_true.1 hks k hk) with hfirst | hoff
  · obtain ⟨x, hx, hpx⟩ := Option.any_eq_true .. |>.1 hfirst
    have hne : c ≠ x := by
      rintro rfl
      rw [hc] at hpx
      cases hpx
    rw [excludes_of_first? hx hne, Bool.true_or]
  · rw [hoff, Bool.or_true]

/-! ### Sketched items -/

/-- The text of a pattern as it is compiled. -/
def Reads (vars : Variables) (pattern : String) (source : List Char) : Prop :=
  ∀ context, vars.expand context pattern = .ok source

/-- The item is a rule that is as it is sketched. -/
def Item.Shows (contexts : List (String × List Item)) (vars : Variables) (k : Sketch) : Item → Prop
  | .rule pattern _ captures push set pop =>
    (∃ source, Reads vars pattern source ∧ hasBackrefs source = false ∧
      (compileAnchored source).toOption.any k.trait.heldBy = true) ∧
      action? contexts push set pop = some k.action ∧ captures.map (·.1) = k.groups
  | _ => False

section
variable {contexts : List (String × List Item)} {vars : Variables} {k : Sketch} {item : Item} {rule : Rule}

theorem Pattern.compile_eq {source : List Char} {r : Regex} (hplain : hasBackrefs source = false)
    (hr : compileAnchored source = .ok r) (context : String) :
    Pattern.compile context source = .ok (.fixed source r) := by
  unfold Pattern.compile
  rw [hplain]
  dsimp only
  rw [hr]
  rfl

/-- What the pattern of a rule is compiled to. -/
theorem Compiles.pattern_eq {pattern : String} {scope : Option String} {captures : List (Nat × String)}
    {push set : Option Target} {pop : Bool}
    (h : Compiles contexts vars (.rule pattern scope captures push set pop) rule) {source : List Char} {r : Regex}
    (hreads : Reads vars pattern source) (hplain : hasBackrefs source = false)
    (hr : compileAnchored source = .ok r) : rule.pattern = .fixed source r := by
  obtain ⟨source₂, compiled, action, hreads₂, hcompile, -, rfl⟩ := h
  obtain rfl : source = source₂ := Except.ok.inj ((hreads "").symm.trans (hreads₂ ""))
  exact Except.ok.inj ((hcompile "").symm.trans (Pattern.compile_eq hplain hr ""))

/-- What is sketched compiles. -/
theorem Item.Shows.exists_compiles (h : item.Shows contexts vars k) :
    ∃ rule, Compiles contexts vars item rule := by
  cases item with
  | rule pattern scope captures push set pop =>
    obtain ⟨⟨source, hreads, hplain, htrait⟩, haction, -⟩ := h
    cases hr : compileAnchored source with
    | error f =>
      rw [hr] at htrait
      cases htrait
    | ok r => exact ⟨_, source, _, _, hreads, Pattern.compile_eq hplain hr, haction, rfl⟩
  | incl name => exact h.elim
  | about scope content proto => exact h.elim

/-- What is compiled is as it is sketched. -/
theorem Item.Shows.obeys (h : item.Shows contexts vars k) (hrule : Compiles contexts vars item rule) :
    Obeys k rule := by
  cases item with
  | rule pattern scope captures push set pop =>
    obtain ⟨⟨source, hreads, hplain, htrait⟩, haction, hgroups⟩ := h
    cases hr : compileAnchored source with
    | error f =>
      rw [hr] at htrait
      cases htrait
    | ok r =>
      rw [hr] at htrait
      have hpattern := hrule.pattern_eq hreads hplain hr
      obtain ⟨-, compiled, action, -, -, haction', rfl⟩ := hrule
      refine ⟨⟨source, r, hpattern, htrait⟩, Option.some.inj (haction'.symm.trans haction), ?_⟩
      show (captures.map fun c => (c.1, Scope.parseList c.2)).map (·.1) = _
      rw [List.map_map]
      exact hgroups
  | incl name => exact h.elim
  | about scope content proto => exact h.elim

/-- The rules of a context obey the sketches of its items. -/
theorem forall₂_obeys {items : List Item} {ks : List Sketch} {rules : List Rule}
    (hshows : List.Forall₂ (fun k item => item.Shows contexts vars k) ks items)
    (hrules : List.Forall₂ (Compiles contexts vars) items rules) : List.Forall₂ Obeys ks rules := by
  induction hshows generalizing rules with
  | nil =>
    cases hrules
    exact .nil
  | cons hshow _ ih =>
    cases hrules with
    | cons hrule hrules => exact .cons (hshow.obeys hrule) (ih hrules)

end

/-- Each of the rules is as some sketch says. -/
theorem exists_obeys_of_mem {ks : List Sketch} {rules : List Rule} (h : List.Forall₂ Obeys ks rules) {rule : Rule}
    (hrule : rule ∈ rules) : ∃ k ∈ ks, Obeys k rule := by
  induction h with
  | nil => cases hrule
  | cons hobeys _ ih =>
    rcases List.mem_cons.1 hrule with rfl | hrule
    · exact ⟨_, List.mem_cons_self, hobeys⟩
    · obtain ⟨k, hk, hobeys⟩ := ih hrule
      exact ⟨k, List.mem_cons_of_mem _ hk, hobeys⟩

/-! ### Sketches that are checked -/

/-- The text of a variable. -/
def Variables.textOf (vars : Variables) (name : List Char) : List Char := (vars.get? (String.ofList name)).getD []

/-- Is the piece a character, or a variable that is known? -/
def Piece.isKnown (vars : Variables) : Piece → Bool
  | char _ => true
  | var name => (vars.get? (String.ofList name)).isSome

/-- Is the item a rule that is as it is sketched? -/
def Item.shows (contexts : List (String × List Item)) (vars : Variables) (k : Sketch) : Item → Bool
  | .rule pattern _ captures push set pop =>
    let parts := pieces pattern.toList
    let source := parts.flatMap (Piece.textWith vars.textOf)
    parts.all (Piece.isKnown vars) && !hasBackrefs source &&
      (compileAnchored source).toOption.any k.trait.heldBy &&
      action? contexts push set pop == some k.action && captures.map (·.1) == k.groups
  | _ => false

/-- Do the items obey the sketches, one by one? -/
def showAll (contexts : List (String × List Item)) (vars : Variables) : List Sketch → List Item → Bool
  | [], [] => true
  | k :: ks, item :: items => item.shows contexts vars k && showAll contexts vars ks items
  | _, _ => false

section
variable {contexts : List (String × List Item)} {vars : Variables}

theorem reads_of_isKnown {pattern : String} (h : (pieces pattern.toList).all (Piece.isKnown vars) = true) :
    Reads vars pattern ((pieces pattern.toList).flatMap (Piece.textWith vars.textOf)) := by
  refine Variables.expand_eq fun name hname => ?_
  obtain ⟨value, hvalue⟩ := Option.isSome_iff_exists.1 (List.all_eq_true.1 h _ hname)
  rw [Variables.textOf, hvalue]
  rfl

theorem Item.shows_of_shows {k : Sketch} {item : Item} (h : item.shows contexts vars k = true) :
    item.Shows contexts vars k := by
  cases item with
  | rule pattern scope captures push set pop =>
    unfold Item.shows at h
    simp only [Bool.and_eq_true, Bool.not_eq_true', beq_iff_eq] at h
    obtain ⟨⟨⟨⟨hknown, hbackrefs⟩, htrait⟩, haction⟩, hgroups⟩ := h
    exact ⟨⟨_, reads_of_isKnown hknown, hbackrefs, htrait⟩, haction, hgroups⟩
  | incl name => cases h
  | about scope content proto => cases h

theorem forall₂_of_showAll {ks : List Sketch} {items : List Item} (h : showAll contexts vars ks items = true) :
    List.Forall₂ (fun k item => item.Shows contexts vars k) ks items := by
  induction ks generalizing items with
  | nil =>
    cases items with
    | nil => exact .nil
    | cons item items => cases h
  | cons k ks ih =>
    cases items with
    | nil => cases h
    | cons item items =>
      obtain ⟨hitem, hitems⟩ := Bool.and_eq_true_iff.1 h
      exact .cons (Item.shows_of_shows hitem) (ih hitems)

/-- What is sketched compiles, item by item. -/
theorem exists_compiles_of_shows {ks : List Sketch} {items : List Item}
    (h : List.Forall₂ (fun k item => item.Shows contexts vars k) ks items) :
    ∀ item ∈ items, ∃ rule, Compiles contexts vars item rule := by
  induction h with
  | nil => exact List.forall_mem_nil _
  | cons hshow _ ih => exact List.forall_mem_cons.2 ⟨hshow.exists_compiles, ih⟩

end

end Listfile.Grammar
