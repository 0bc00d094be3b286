import Listfile.Proofs.Grammar.Building
import Listfile.Proofs.Grammar.Preserving

/-!
# Inclusions are replaced by rules

* `Definition.Inlined`: a grammar is a definition with the rules of contexts in the place of inclusions.
* `exists_inlined`: so is the compiled grammar, with the rules of the prototype in front of contexts.
* **`inlined_of_compile`**: each context has the rules that its items stand for, and each place of the table
  is filled.
* **`not_draws_of_compile`**: no context of a definition that compiles draws on itself.
-/

namespace Listfile.Grammar

open Compiler

/-! ### The table -/

namespace Compiler

section
variable {t : Stage} {s s' : Compiler}

/-- The first contexts of the definition stand in the table with their rules, those of the prototype in front
unless the context refuses them or is the prototype. -/
def FilledTo (t : Stage) (count : Nat) (s : Compiler) : Prop :=
  ∀ i name items, i < count → t.plan.contexts[i]? = some (name, items) → ∃ rules,
    s.done.lookup name = some rules ∧ s.table[i]? = some ⟨name, (About.ofItems items).metaScope,
      (About.ofItems items).metaContentScope,
      (if name = "prototype" then [] else t.plan.prototypeFor (About.ofItems items)) ++ rules⟩

theorem FilledTo.mono {count : Nat} (h : FilledTo t count s) (hkept : Kept t s s') : FilledTo t count s' := by
  intro i name items hi hitems
  obtain ⟨rules, hrules, hget⟩ := h i name items hi hitems
  have hlt : i < t.plan.contexts.length := (List.getElem?_eq_some_iff.1 hitems).1
  exact ⟨rules, hkept.flat name rules hrules, (hkept.named i hlt).trans hget⟩

/-- A place that has a name may be filled with anything. -/
theorem sound_named {id : Nat} (c : Context) (hs : Sound t s) (hid : id < t.plan.contexts.length) :
    Sound t (Compiler.mk (s.table.setIfInBounds id c) s.done s.anonymous) := by
  have hsize : (s.table.setIfInBounds id c).size = s.table.size := Array.size_setIfInBounds
  have hbelow : (s.ledger t).Below ((Compiler.mk (s.table.setIfInBounds id c) s.done s.anonymous).ledger t) := by
    refine ⟨rfl, rfl, ?_, fun _ _ h => h, fun _ _ _ _ h => h⟩
    rintro id' c' ⟨hle, hid', hc'⟩
    exact ⟨hle, hid', (Array.getElem?_setIfInBounds_ne (Nat.ne_of_lt (Nat.lt_of_lt_of_le hid hle))).trans hc'⟩
  refine ⟨hsize.symm ▸ hs.size, fun id' hid' => hsize.symm ▸ hs.pending id' hid', hs.base, hs.including, ?_, ?_⟩
  · intro name rules hname
    obtain ⟨hreach, items, hitems, hlists⟩ := hs.flat name rules hname
    exact ⟨hreach, items, hitems, hlists.mono hbelow fun _ h => h⟩
  · intro id' hle hlt hid'
    obtain ⟨home, context, items, hreach, hwritten, henters⟩ := hs.filled id' hle (hsize ▸ hlt) hid'
    exact ⟨home, context, items, hreach, hwritten, henters.mono hbelow fun _ h => h⟩

/-- Context by context the places that have names are filled. -/
theorem filledTo_compileContexts {front rest : List (String × List Item)}
    (hcontexts : t.plan.contexts = front ++ rest) (hnames : (t.plan.contexts.map (·.1)).Nodup)
    (hincluding : t.including = [])
    (hfront : ∀ name, t.base.lookup name = none → t.front name (t.plan.prototype.getD []))
    (hreach : ∀ name, t.reach name) (hs : Sound t s) (hfilled : FilledTo t front.length s)
    (hrun : compileContexts t.plan rest s = .ok ((), s')) :
    Sound t s' ∧ FilledTo t t.plan.contexts.length s' := by
  induction rest generalizing front s with
  | nil =>
    cases hrun
    rw [hcontexts, List.append_nil]
    exact ⟨hs, hfilled⟩
  | cons c rest ih =>
    obtain ⟨name, items⟩ := c
    have hc : t.plan.contexts[front.length]? = some (name, items) := by
      rw [hcontexts]
      simp
    have hlt : front.length < t.plan.contexts.length := (List.getElem?_eq_some_iff.1 hc).1
    rw [compileContexts] at hrun
    obtain ⟨rules, s₁, hrules, hrun⟩ := ok_of_bind hrun
    rw [← hincluding] at hrules
    obtain ⟨hs₁, hkept, hdone⟩ := preserves_rulesOf _ t s hs hfront (fun _ other _ _ => hreach other) name name
      (hreach name) rules s₁ hrules
    obtain ⟨id, s₂, hid, hrun⟩ := ok_of_bind hrun
    have hlookup : t.plan.lookup name name = .ok front.length := lookup_of_getElem? hnames hc t.plan.vars name
    rw [hlookup] at hid
    cases hid
    obtain ⟨⟨⟩, s₂, hfill, hrun⟩ := ok_of_bind hrun
    cases hfill
    have hnext : t.plan.contexts = (front ++ [(name, items)]) ++ rest := by
      rw [hcontexts, List.append_assoc]
      rfl
    refine ih hnext (sound_named _ hs₁ hlt) ?_ hrun
    intro i other items' hi hitems'
    rw [List.length_append] at hi
    rcases Nat.lt_or_eq_of_le (Nat.le_of_lt_succ hi) with hi | rfl
    · obtain ⟨rules', hrules', hget⟩ := hfilled.mono hkept i other items' hi hitems'
      exact ⟨rules', hrules', (Array.getElem?_setIfInBounds_ne (Nat.ne_of_gt hi)).trans hget⟩
    · cases hc.symm.trans hitems'
      exact ⟨rules, hdone, Array.getElem?_setIfInBounds_self_of_lt (Nat.lt_of_lt_of_le hlt hs₁.size)⟩

end

end Compiler

/-! ### The compiled grammar -/

namespace Definition

/-- What the compiled grammar shows of its contexts. -/
def ledger (d : Definition) (g : Grammar) (vars : Variables) (flat front : String → List Rule) : Ledger where
  contexts := d.contexts
  vars := vars
  entry id c := d.contexts.length ≤ id ∧ g.contexts[id]? = some c
  flat name rules := flat name = rules
  front home rules := front home = rules

/-- The rules of the prototype, if there is one. -/
def prototypeRules (d : Definition) (flat : String → List Rule) : List Rule :=
  if (d.contexts.lookup "prototype").isSome then flat "prototype" else []

/-- The grammar is the definition with the rules of contexts in the place of inclusions. -/
structure Inlined (d : Definition) (g : Grammar) (vars : Variables) (flat front : String → List Rule) : Prop where
  resolved : Variables.resolve d.vars = .ok vars
  names : g.named = d.contexts.map (·.1)
  /-- The rules of a context are those that its items stand for. -/
  lists : ∀ name items, (name, items) ∈ d.contexts →
    (d.ledger g vars flat front).Lists name name items (flat name)
  /-- The contexts that have a name come first; those of the prototype stand in front. -/
  named : ∀ (i : Nat) name items, d.contexts[i]? = some (name, items) → g.contexts[i]? = some ⟨name,
    (About.ofItems items).metaScope, (About.ofItems items).metaContentScope,
    (if name ≠ "prototype" ∧ (About.ofItems items).includePrototype then d.prototypeRules flat else []) ++
      flat name⟩
  /-- The others are the anonymous targets that are written in the definition. -/
  anonymous : ∀ id, d.contexts.length ≤ id → id < g.contexts.size → ∃ home context items,
    WrittenIn d.contexts home (.anonymous items) ∧
      (d.ledger g vars flat front).Enters home context (.anonymous items) [id]
  /-- Nothing but the rules of the prototype is put in front of a context without a name. -/
  front : ∀ home, front home = [] ∨ front home = d.prototypeRules flat

end Definition

section
variable {d : Definition} {g : Grammar} {vars : Variables} {flat front : String → List Rule}

theorem Definition.Inlined.length_le (h : d.Inlined g vars flat front) : d.contexts.length ≤ g.contexts.size := by
  cases hlength : d.contexts.length with
  | zero => exact Nat.zero_le _
  | succ n =>
    have hlt : n < d.contexts.length := hlength ▸ Nat.lt_succ_self n
    exact (Array.getElem?_eq_some_iff.1 (h.named n _ _ (List.getElem?_eq_getElem hlt))).1

/-- No rule of the grammar leaves the table. -/
theorem Definition.Inlined.entersBelow (h : d.Inlined g vars flat front) :
    ∀ c ∈ g.contexts, EntersBelow g.contexts.size c.rules := by
  have hsize := h.length_le
  have hentry : ∀ id c, (d.ledger g vars flat front).entry id c → id < g.contexts.size :=
    fun id c hc => (Array.getElem?_eq_some_iff.1 hc.2).1
  have hnil : EntersBelow g.contexts.size [] := fun r hr => by cases hr
  have hproto : EntersBelow g.contexts.size (d.prototypeRules flat) := by
    unfold Definition.prototypeRules
    split
    · rename_i hsome
      obtain ⟨items, hitems⟩ := Option.isSome_iff_exists.1 hsome
      exact (h.lists "prototype" items (mem_of_lookup hitems)).entersBelow hsize hentry
    · exact hnil
  have hfront : ∀ home, EntersBelow g.contexts.size (front home) := by
    intro home
    rcases h.front home with hmine | hmine
    · exact hmine ▸ hnil
    · exact hmine ▸ hproto
  have hite : ∀ (b : Prop) [Decidable b] rules, EntersBelow g.contexts.size rules →
      EntersBelow g.contexts.size (if b then rules else []) := by
    intro b _ rules hrules
    split
    · exact hrules
    · exact hnil
  intro c hc
  obtain ⟨i, hi, rfl⟩ := Array.mem_iff_getElem.1 hc
  rcases Nat.lt_or_ge i d.contexts.length with hlt | hge
  · have hget := h.named i _ _ (List.getElem?_eq_getElem hlt)
    rw [Array.getElem?_eq_getElem hi] at hget
    rw [Option.some.inj hget]
    exact entersBelow_append (hite _ _ hproto) ((h.lists _ _ (List.getElem_mem hlt)).entersBelow hsize hentry)
  · obtain ⟨home, context, items, -, henters⟩ := h.anonymous i hge hi
    cases henters with
    | anonymous hmine hitems hget =>
      obtain ⟨-, hget⟩ := hget
      rw [Array.getElem?_eq_getElem hi] at hget
      rw [Option.some.inj hget]
      obtain rfl := hmine
      exact entersBelow_append (hite _ _ (hfront home)) (hitems.entersBelow hsize hentry)

end

/-! ### The two stages -/

namespace Definition

/-- The context is the prototype, or the prototype draws on it. -/
def Early (d : Definition) (name : String) : Prop := Relation.ReflTransGen (Draws d.contexts) "prototype" name

/-- The stage in which the rules of the prototype are compiled. -/
def early (d : Definition) (vars : Variables) : Stage where
  plan := ⟨d.contexts, vars, none⟩
  reach := d.Early
  front _ rules := [] = rules
  base := []
  including := []
  pending := []

/-- What stands in front of the contexts without a name that are written in a context, unless they refuse it:
the rules of the prototype, if they were known when the context was compiled. -/
def lateFront (done : List (String × List Rule)) (prototype : Option (List Rule)) (home : String) : List Rule :=
  if (done.lookup home).isSome then [] else prototype.getD []

/-- The stage in which the contexts are compiled that have not been compiled by then. -/
def late (d : Definition) (vars : Variables) (done : List (String × List Rule)) (prototype : Option (List Rule)) :
    Stage where
  plan := ⟨d.contexts, vars, prototype⟩
  reach _ := True
  front home rules := lateFront done prototype home = rules
  base := done
  including := []
  pending := []

end Definition

section
variable {d : Definition} {vars : Variables} {t : Stage} {s : Compiler} {done : List (String × List Rule)}
  {prototype : Option (List Rule)}

/-- Before anything is compiled there is nothing to know. -/
theorem sound_start (hcontexts : t.plan.contexts = d.contexts) (hbase : t.base = []) (hpending : t.pending = []) :
    Sound t (start d.contexts) := by
  have hsize : (start d.contexts).table.size = d.contexts.length := by
    show (d.contexts.map _).toArray.size = _
    rw [List.size_toArray, List.length_map]
  refine ⟨?_, ?_, ?_, ?_, ?_, ?_⟩
  · rw [hcontexts, hsize]
  · rw [hpending]
    exact List.forall_mem_nil _
  · rw [hbase]
    exact fun name rules h => by cases h
  · exact fun name _ => rfl
  · exact fun name rules h => by cases h
  · intro id hle hlt
    rw [hcontexts, ← hsize] at hle
    exact absurd (Nat.lt_of_lt_of_le hlt hle) (Nat.lt_irrefl _)

/-- The contexts that are compiled before the others are those that the prototype draws on. -/
theorem early_iff (hs : Sound (d.early vars) s) {rules : List Rule}
    (hproto : s.done.lookup "prototype" = some rules) (name : String) : d.Early name ↔ (s.done.lookup name).isSome := by
  constructor
  · intro h
    induction h with
    | refl =>
      rw [hproto]
      rfl
    | tail _ hdraws ih =>
      obtain ⟨rules, hrules⟩ := Option.isSome_iff_exists.1 ih
      obtain ⟨-, items, hitems, hlists⟩ := hs.flat _ rules hrules
      obtain ⟨items', hitems', hwritten⟩ := hdraws
      cases hitems.symm.trans hitems'
      obtain ⟨included, hincluded⟩ := hlists.flat hwritten
      exact Option.isSome_iff_exists.2 ⟨included, hincluded⟩
  · intro h
    obtain ⟨rules, hrules⟩ := Option.isSome_iff_exists.1 h
    exact (hs.flat name rules hrules).1

/-- What was known while the prototype was compiled stays known when it has been. -/
theorem sound_late (hs : Sound (d.early vars) s) {rules : List Rule}
    (hproto : s.done.lookup "prototype" = some rules) : Sound (d.late vars s.done (some rules)) s := by
  have hfront : ∀ home front, (s.done.lookup home).isSome → (d.early vars).front home front →
      (d.late vars s.done (some rules)).front home front := by
    intro home front hhome hfront
    exact (if_pos hhome).trans hfront
  have hbelow : (s.ledger (d.early vars)).Below (s.ledger (d.late vars s.done (some rules))) := by
    refine ⟨rfl, rfl, fun _ _ h => h, fun _ _ h => h, ?_⟩
    exact fun name rules front hname => hfront name front (Option.isSome_iff_exists.2 ⟨rules, hname⟩)
  refine ⟨hs.size, hs.pending, fun name rules h => h, hs.including, ?_, ?_⟩
  · intro name rules hname
    obtain ⟨-, items, hitems, hlists⟩ := hs.flat name rules hname
    exact ⟨trivial, items, hitems,
      hlists.mono hbelow fun front => hfront name front (Option.isSome_iff_exists.2 ⟨rules, hname⟩)⟩
  · intro id hle hlt hid
    obtain ⟨home, context, items, hreach, hwritten, henters⟩ := hs.filled id hle hlt hid
    refine ⟨home, context, items, trivial, hwritten, henters.mono hbelow fun front => hfront home front ?_⟩
    exact (early_iff hs hproto home).1 hreach

/-- When all contexts are filled, the grammar is the definition with inclusions replaced. -/
theorem inlined_of_sound {main : Nat} (hnames : (d.contexts.map (·.1)).Nodup)
    (hvars : Variables.resolve d.vars = .ok vars)
    (hprototype : prototype.getD [] = d.prototypeRules fun name => (s.done.lookup name).getD [])
    (hs : Sound (d.late vars done prototype) s)
    (hfilled : FilledTo (d.late vars done prototype) d.contexts.length s) :
    d.Inlined ⟨d.name, ⟨d.scope⟩, d.fileExtensions, d.hidden, s.table, d.contexts.map (·.1), main⟩ vars
      (fun name => (s.done.lookup name).getD []) (Definition.lateFront done prototype) := by
  have hbelow : (s.ledger (d.late vars done prototype)).Below (d.ledger ⟨d.name, ⟨d.scope⟩, d.fileExtensions,
      d.hidden, s.table, d.contexts.map (·.1), main⟩ vars (fun name => (s.done.lookup name).getD [])
      (Definition.lateFront done prototype)) := by
    refine ⟨rfl, rfl, fun id c ⟨hle, _, hc⟩ => ⟨hle, hc⟩, ?_, fun _ _ _ _ h => h⟩
    intro name rules hname
    show (s.done.lookup name).getD [] = rules
    rw [show s.done.lookup name = some rules from hname, Option.getD_some]
  refine ⟨hvars, rfl, ?_, ?_, ?_, ?_⟩
  · intro name items hmem
    obtain ⟨i, hi⟩ := List.mem_iff_getElem?.1 hmem
    obtain ⟨rules, hrules, -⟩ := hfilled i name items (List.getElem?_eq_some_iff.1 hi).1 hi
    obtain ⟨-, items', hitems', hlists⟩ := hs.flat name rules hrules
    cases (lookup_of_mem hnames hmem).symm.trans hitems'
    rw [hrules, Option.getD_some]
    exact hlists.mono hbelow fun _ h => h
  · intro i name items hi
    obtain ⟨rules, hrules, hget⟩ := hfilled i name items (List.getElem?_eq_some_iff.1 hi).1 hi
    refine hget.trans ?_
    rw [hrules, Option.getD_some, ← hprototype]
    by_cases hname : name = "prototype"
    · rw [if_pos hname, if_neg fun h => h.1 hname]
    · rw [if_neg hname]
      simp only [hname, ne_eq, not_false_eq_true, true_and]
      rfl
  · intro id hle hlt
    obtain ⟨home, context, items, -, hwritten, henters⟩ := hs.filled id hle hlt List.not_mem_nil
    exact ⟨home, context, items, hwritten, henters.mono hbelow fun _ h => h⟩
  · intro home
    unfold Definition.lateFront
    split
    · exact .inl rfl
    · exact .inr hprototype

/-- The definition is compiled with inclusions replaced. In front of the contexts without a name stand the
rules of the prototype, but not if they are written in a context that the prototype draws on. -/
theorem exists_inlined {g : Grammar} (hnames : (d.contexts.map (·.1)).Nodup) (h : d.compile = .ok g) :
    ∃ vars flat front, d.Inlined g vars flat front ∧ ∀ home,
      (d.Early home → front home = []) ∧ (¬d.Early home → front home = d.prototypeRules flat) := by
  obtain ⟨main, vars, s', -, hvars, hall, rfl⟩ := exists_of_compile h
  have hnone : ∀ t s, FilledTo t 0 s := fun t s i _ _ hi => absurd hi (Nat.not_lt_zero i)
  have hsplit : d.contexts = [] ++ d.contexts := rfl
  have hfront : ∀ done prototype name, done.lookup name = none →
      Definition.lateFront done prototype name = prototype.getD [] := by
    intro done prototype name hname
    unfold Definition.lateFront
    rw [hname]
    rfl
  unfold compileAll at hall
  split at hall
  · rename_i hsome
    -- the rules of the prototype are compiled first, while they are not known yet
    obtain ⟨rules, s, hrules, hall⟩ := ok_of_bind hall
    obtain ⟨hs, -, hproto⟩ := preserves_rulesOf _ (d.early vars) _ (sound_start rfl rfl rfl) (fun _ _ => rfl)
      (fun _ _ hreach hdraws => hreach.tail hdraws) _ _ .refl rules s hrules
    obtain ⟨hs', hfilled⟩ := filledTo_compileContexts hsplit hnames rfl (hfront s.done (some rules))
      (fun _ => trivial) (sound_late hs hproto) (hnone _ _) hall
    have hprototype : (some rules).getD [] = d.prototypeRules fun name => (s'.done.lookup name).getD [] := by
      unfold Definition.prototypeRules
      rw [if_pos hsome]
      show rules = (s'.done.lookup "prototype").getD []
      rw [hs'.base "prototype" rules hproto, Option.getD_some]
    refine ⟨vars, _, _, inlined_of_sound hnames hvars hprototype hs' hfilled, fun home => ?_⟩
    rw [early_iff hs hproto home, ← hprototype]
    exact ⟨fun h => if_pos h, fun h => if_neg h⟩
  · rename_i hsome
    have hstart : Sound (d.late vars [] none) (start d.contexts) := sound_start rfl rfl rfl
    obtain ⟨hs', hfilled⟩ := filledTo_compileContexts hsplit hnames rfl (hfront [] none) (fun _ => trivial) hstart
      (hnone _ _) hall
    have hprototype : none.getD [] = d.prototypeRules fun name => (s'.done.lookup name).getD [] :=
      (if_neg hsome).symm
    exact ⟨vars, _, _, inlined_of_sound hnames hvars hprototype hs' hfilled,
      fun home => ⟨fun _ => rfl, fun _ => hprototype⟩⟩

end

/-- **Inclusions are replaced by rules.** Each context that has a name has the rules that its items stand for,
behind those of the prototype unless it refuses them; each other place of the table is filled with what an
anonymous target stands for; and all contexts that are entered are in the table. -/
theorem inlined_of_compile {d : Definition} {g : Grammar} (hnames : (d.contexts.map (·.1)).Nodup)
    (h : d.compile = .ok g) : ∃ vars flat front, d.Inlined g vars flat front ∧
      ∀ c ∈ g.contexts, EntersBelow g.contexts.size c.rules := by
  obtain ⟨vars, flat, front, hd, -⟩ := exists_inlined hnames h
  exact ⟨vars, flat, front, hd, hd.entersBelow⟩

/-- A definition with a prototype, in which a context is included by another one and by an anonymous target.
-/
def sharing : Definition where
  name := "T"
  scope := "source.t"
  fileExtensions := []
  hidden := false
  vars := [("word", "[a-z]+")]
  contexts :=
    [("main", [.incl "shared", .rule "\\(" none [] (some (.stacked ["shared", "main"])) none false,
      .rule "a" none [] (some (.anonymous [.about (some "meta.a") none none, .incl "shared"])) none false]),
    ("prototype", [.rule "#" (some "comment") [] none none false]),
    ("shared", [.rule "\x7b\x7bword\x7d\x7d" none [] none none true])]

theorem inlined_of_compile_sharing : ∃ g, sharing.compile = .ok g ∧ (sharing.contexts.map (·.1)).Nodup ∧
    ∃ vars flat front, sharing.Inlined g vars flat front ∧
      ∀ c ∈ g.contexts, EntersBelow g.contexts.size c.rules := by
  have hok : sharing.compile.isOk = true := by decide +kernel
  have hnames : (sharing.contexts.map (·.1)).Nodup := by decide
  obtain ⟨g, hg⟩ := exists_of_isOk hok
  exact ⟨g, hg, hnames, inlined_of_compile hnames hg⟩

/-- **No context of a definition that compiles draws on itself.** -/
theorem not_draws_of_compile {d : Definition} {g : Grammar} (hnames : (d.contexts.map (·.1)).Nodup)
    (h : d.compile = .ok g) (name : String) : ¬Relation.TransGen (Draws d.contexts) name name := by
  obtain ⟨vars, flat, front, hd, -⟩ := exists_inlined hnames h
  have hends : ∀ name, (d.ledger g vars flat front).Ends name := by
    intro name
    refine Acc.intro _ fun other hdraws => ?_
    obtain ⟨items, hitems, hwritten⟩ := hdraws
    exact (hd.lists name items (mem_of_lookup hitems)).ends other hwritten
  have hwell : WellFounded fun inner outer => Draws d.contexts outer inner := ⟨hends⟩
  intro hcycle
  exact hwell.transGen.asymmetric _ _ (Relation.TransGen.swap _ _ hcycle) (Relation.TransGen.swap _ _ hcycle)

end Listfile.Grammar
