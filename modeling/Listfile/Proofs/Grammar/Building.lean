import Listfile.Proofs.Grammar.Compiling
import Mathlib.Data.List.Forall2
import Mathlib.Data.List.Nodup

/-!
# Grammars that can be compiled

A definition without a prototype whose targets all have names compiles if each of its rules does and no
context includes itself, directly or through others.

* `Achieves`: a step of a compilation succeeds, and keeps an invariant.
* `itemsIn`: the items of a context, with those of the contexts that it includes in their place.
* `Compiles`: what a rule of a definition is compiled to.
* `Definition.Orderly`: the condition.
* **`exists_compile`**: the compiled grammar has the contexts of the definition in their order, and the rules
  that their items stand for.
-/

namespace Listfile.Grammar

open Compiler

/-! ### Steps that succeed -/

/-- Where `I` holds, the step succeeds and keeps `I`, and its result satisfies `Q`. -/
def Achieves {α : Type} (I : Compiler → Prop) (m : CompileM α) (Q : α → Prop) : Prop :=
  ∀ s, I s → ∃ a s', m s = .ok (a, s') ∧ I s' ∧ Q a

section
variable {α β : Type} {I : Compiler → Prop} {Q : α → Prop} {R : β → Prop}

/-- A step that succeeds is followed by the next one. -/
theorem bind_of_ok {m : CompileM α} {f : α → CompileM β} {s s₁ : Compiler} {a : α}
    (h : m s = .ok (a, s₁)) : (m >>= f) s = f a s₁ := by
  show (m s >>= fun p => f p.1 p.2) = _
  rw [h]
  rfl

theorem Achieves.pure {a : α} (h : Q a) : Achieves I (Pure.pure a) Q :=
  fun s hs => ⟨a, s, rfl, hs, h⟩

theorem Achieves.bind {m : CompileM α} {f : α → CompileM β} (hm : Achieves I m Q)
    (hf : ∀ a, Q a → Achieves I (f a) R) : Achieves I (m >>= f) R := by
  intro s hs
  obtain ⟨a, s₁, hms, hs₁, ha⟩ := hm s hs
  obtain ⟨b, s₂, hfs, hs₂, hb⟩ := hf a ha s₁ hs₁
  exact ⟨b, s₂, (bind_of_ok hms).trans hfs, hs₂, hb⟩

theorem Achieves.lift {x : Except Fault α} {a : α} (hx : x = .ok a) (h : Q a) :
    Achieves I (Compiler.lift x) Q := by
  subst hx
  exact fun s hs => ⟨a, s, rfl, hs, h⟩

theorem Achieves.modify {f : Compiler → Compiler} (h : ∀ s, I s → I (f s)) :
    Achieves I (modify f) fun _ => True :=
  fun s hs => ⟨(), f s, rfl, h s hs, trivial⟩

theorem Achieves.get : Achieves I (get : CompileM Compiler) I :=
  fun s hs => ⟨s, s, rfl, hs, hs⟩

theorem Achieves.mono {m : CompileM α} {Q' : α → Prop} (h : Achieves I m Q) (hQ : ∀ a, Q a → Q' a) :
    Achieves I m Q' := by
  intro s hs
  obtain ⟨a, s', hm, hs', ha⟩ := h s hs
  exact ⟨a, s', hm, hs', hQ a ha⟩

end

/-! ### Items and rules -/

/-- Is the item a rule? -/
def Item.isRule : Item → Bool
  | .rule .. => true
  | _ => false

/-- The rules that an item stands for, given those of other contexts. -/
def Item.own (inner : String → List Item) : Item → List Item
  | .about .. => []
  | .incl name => inner name
  | item => [item]

/-- The rules of a context with those of included contexts in their place, to a depth of inclusions. -/
def itemsIn (contexts : List (String × List Item)) : Nat → String → List Item
  | 0, _ => []
  | depth + 1, name => ((contexts.lookup name).getD []).flatMap (Item.own (itemsIn contexts depth))

/-- What a rule does to the stack, if it does one thing at most and its target has a name. -/
def action? (contexts : List (String × List Item)) :
    (push set : Option Target) → (pop : Bool) → Option Action
  | none, none, pop => some (if pop then .pop else .stay)
  | some (.named name), none, false => (contexts.findIdx? (·.1 == name)).map fun i => .push [i]
  | none, some (.named name), false => (contexts.findIdx? (·.1 == name)).map fun i => .set [i]
  | _, _, _ => none

/-- A rule of a definition is compiled to a rule of the grammar. -/
def Compiles (contexts : List (String × List Item)) (vars : Variables) : Item → Rule → Prop
  | .rule pattern scope captures push set pop, rule =>
    ∃ source compiled action, (∀ context, vars.expand context pattern = .ok source) ∧
      (∀ context, Pattern.compile context source = .ok compiled) ∧
      action? contexts push set pop = some action ∧ rule = makeRule compiled scope captures action
  | _, _ => False

/-- The definition has no prototype and each context once, all of its rules compile, and a context only
includes contexts of lower rank. -/
structure Definition.Orderly (d : Definition) (vars : Variables) (rank : String → Nat) : Prop where
  names : (d.contexts.map (·.1)).Nodup
  prototype : d.contexts.lookup "prototype" = none
  bounded : ∀ c ∈ d.contexts, rank c.1 < d.contexts.length
  included : ∀ c ∈ d.contexts, ∀ name, .incl name ∈ c.2 →
    rank name < rank c.1 ∧ ∃ items, (name, items) ∈ d.contexts
  rules : ∀ c ∈ d.contexts, ∀ item ∈ c.2, item.isRule = true → ∃ rule, Compiles d.contexts vars item rule

/-! ### Rules of contexts -/

/-- The rules are those of a context, whatever depth of inclusions beyond its rank is looked at. -/
def RulesFor (contexts : List (String × List Item)) (vars : Variables) (rank : String → Nat)
    (name : String) (rules : List Rule) : Prop :=
  ∀ depth, rank name < depth → List.Forall₂ (Compiles contexts vars) (itemsIn contexts depth name) rules

/-- What is known while rules are compiled: which of them have been, and that the table stays the same. -/
structure Keeps (contexts : List (String × List Item)) (vars : Variables) (rank : String → Nat)
    (table : Array Context) (s : Compiler) : Prop where
  done : ∀ d ∈ s.done, RulesFor contexts vars rank d.1 d.2
  table : s.table = table

section
variable {p : Plan} {rank : String → Nat} {table : Array Context}

/-- A rule compiles to what it is said to compile to. -/
theorem achieves_rule {included : String → String → CompileM (List Rule)} {I : Compiler → Prop}
    (context : String) {item : Item} {rule : Rule} (hitem : item.isRule = true)
    (h : Compiles p.contexts p.vars item rule) :
    Achieves I (compileItem p included context item) fun rules => rules = [rule] := by
  cases item with
  | about scope content proto => cases hitem
  | incl name => cases hitem
  | rule pattern scope captures push set pop =>
    obtain ⟨source, compiled, action, hexpand, hcompile, haction, rfl⟩ := h
    have hpattern : Achieves I (compilePattern p context pattern) fun c => c = compiled :=
      (Achieves.lift (hexpand context) rfl).bind fun a ha => by
        subst ha
        exact .lift (hcompile context) rfl
    have htarget {name : String} {i : Nat} (hi : p.contexts.findIdx? (·.1 == name) = some i) :
        Achieves I (compileTarget p included context (.named name)) fun ids => ids = [i] := by
      have hlookup : p.lookup context name = .ok i := by
        unfold Plan.lookup
        rw [hi]
      rw [compileTarget]
      exact (Achieves.lift hlookup rfl).bind fun a ha => .pure (by rw [ha])
    unfold action? at haction
    split at haction
    · cases haction
      rw [compileItem]
      exact hpattern.bind fun c hc => .pure (by rw [hc])
    · obtain ⟨i, hi, rfl⟩ := Option.map_eq_some_iff.1 haction
      rw [compileItem]
      refine hpattern.bind fun c hc => (htarget hi).bind fun ids hids => .pure ?_
      rw [hc, hids]
    · obtain ⟨i, hi, rfl⟩ := Option.map_eq_some_iff.1 haction
      rw [compileItem]
      refine hpattern.bind fun c hc => (htarget hi).bind fun ids hids => .pure ?_
      rw [hc, hids]
    · cases haction

/-- The items of a list compile if the rules among them do and the contexts that they include have been
compiled. -/
theorem achieves_compileItems {included : String → String → CompileM (List Rule)} {I : Compiler → Prop}
    {least : Nat} (context : String) (items : List Item)
    (hincluded : ∀ name, .incl name ∈ items → Achieves I (included context name) fun rules =>
      ∀ depth, least ≤ depth → List.Forall₂ (Compiles p.contexts p.vars) (itemsIn p.contexts depth name) rules)
    (hrules : ∀ item ∈ items, item.isRule = true → ∃ rule, Compiles p.contexts p.vars item rule) :
    Achieves I (compileItems p included context items) fun rules => ∀ depth, least ≤ depth →
      List.Forall₂ (Compiles p.contexts p.vars) (items.flatMap (Item.own (itemsIn p.contexts depth))) rules := by
  induction items with
  | nil =>
    rw [compileItems]
    exact .pure fun _ _ => .nil
  | cons item items ih =>
    have hrest := ih (fun name hname => hincluded name (List.mem_cons_of_mem _ hname))
      (fun item hitem => hrules item (List.mem_cons_of_mem _ hitem))
    have hfirst : Achieves I (compileItem p included context item) fun rules => ∀ depth, least ≤ depth →
        List.Forall₂ (Compiles p.contexts p.vars) (item.own (itemsIn p.contexts depth)) rules := by
      cases item with
      | about scope content proto =>
        rw [compileItem]
        exact .pure fun _ _ => .nil
      | incl name =>
        rw [compileItem]
        exact hincluded name List.mem_cons_self
      | rule pattern scope captures push set pop =>
        obtain ⟨rule, hrule⟩ := hrules _ List.mem_cons_self rfl
        refine (achieves_rule context rfl hrule).mono ?_
        rintro _ rfl depth -
        exact .cons hrule .nil
    rw [compileItems]
    refine hfirst.bind fun rules hfirst => hrest.bind fun more hmore => .pure fun depth hdepth => ?_
    rw [List.flatMap_cons]
    exact List.rel_append (hfirst depth hdepth) (hmore depth hdepth)

/-- The rules of a context compile, since those of lower rank do. -/
theorem achieves_rulesOf {d : Definition} {vars : Variables} (hd : d.Orderly vars rank) (fuel : Nat)
    {including : List String} (usedIn : String) {name : String} {items : List Item}
    (hname : (name, items) ∈ d.contexts) (hfuel : rank name < fuel)
    (hincluding : ∀ other ∈ including, rank name < rank other) :
    Achieves (Keeps d.contexts vars rank table) (rulesOf ⟨d.contexts, vars, none⟩ fuel including usedIn name)
      (RulesFor d.contexts vars rank name) := by
  induction fuel generalizing including usedIn name items with
  | zero => exact absurd hfuel (Nat.not_lt_zero _)
  | succ fuel ih =>
    have hnot : including.contains name = false := by
      rw [Bool.eq_false_iff]
      intro hcontains
      exact Nat.lt_irrefl _ (hincluding name (List.contains_iff_mem.1 hcontains))
    have hitems := lookup_of_mem hd.names hname
    unfold rulesOf
    refine Achieves.get.bind fun s hs => ?_
    cases hdone : s.done.lookup name with
    | some rules => exact .pure (hs.done _ (mem_of_lookup hdone))
    | none =>
      simp only [hnot, hitems]
      have hcompile : Achieves (Keeps d.contexts vars rank table)
          (compileItems ⟨d.contexts, vars, none⟩ (rulesOf ⟨d.contexts, vars, none⟩ fuel (name :: including))
            name items) fun rules => ∀ depth, rank name ≤ depth →
              List.Forall₂ (Compiles d.contexts vars) (items.flatMap (Item.own (itemsIn d.contexts depth)))
                rules := by
        refine achieves_compileItems name items (fun inner hinner => ?_) (hd.rules _ hname)
        obtain ⟨hrank, innerItems, hmem⟩ := hd.included _ hname inner hinner
        have hrank : rank inner < rank name := hrank
        refine (ih name hmem (by omega) ?_).mono fun rules hrules depth hdepth => hrules depth (by omega)
        refine List.forall_mem_cons.2 ⟨hrank, fun other hother => ?_⟩
        have hother := hincluding other hother
        omega
      refine hcompile.bind fun rules hrules => ?_
      have hrulesFor : RulesFor d.contexts vars rank name rules := by
        intro depth hdepth
        obtain ⟨depth, rfl⟩ := Nat.exists_eq_succ_of_ne_zero (Nat.ne_of_gt (Nat.zero_lt_of_lt hdepth))
        rw [itemsIn, hitems]
        exact hrules depth (Nat.le_of_lt_succ hdepth)
      refine (Achieves.modify fun s hs => ⟨?_, hs.table⟩).bind fun _ _ => .pure hrulesFor
      exact List.forall_mem_cons.2 ⟨hrulesFor, hs.done⟩

/-! ### The table -/

/-- The first contexts of the definition stand in the table with their rules. -/
structure Filled (contexts : List (String × List Item)) (vars : Variables) (rank : String → Nat)
    (count : Nat) (table : Array Context) : Prop where
  size : table.size = contexts.length
  rules : ∀ i c, i < count → contexts[i]? = some c → ∃ rules, RulesFor contexts vars rank c.1 rules ∧
    table[i]? = some ⟨c.1, (About.ofItems c.2).metaScope, (About.ofItems c.2).metaContentScope, rules⟩

theorem Filled.set {contexts : List (String × List Item)} {vars : Variables} {count : Nat}
    (h : Filled contexts vars rank count table) {c : String × List Item} (hc : contexts[count]? = some c)
    {rules : List Rule} (hrules : RulesFor contexts vars rank c.1 rules) :
    Filled contexts vars rank (count + 1) (table.setIfInBounds count
      ⟨c.1, (About.ofItems c.2).metaScope, (About.ofItems c.2).metaContentScope, rules⟩) := by
  refine ⟨Array.size_setIfInBounds.trans h.size, ?_⟩
  intro i c' hi hc'
  rcases Nat.lt_or_eq_of_le (Nat.le_of_lt_succ hi) with hi | rfl
  · obtain ⟨rules', hrules', hget⟩ := h.rules i c' hi hc'
    exact ⟨rules', hrules', (Array.getElem?_setIfInBounds_ne (Nat.ne_of_gt hi)).trans hget⟩
  · obtain rfl : c = c' := Option.some.inj (hc.symm.trans hc')
    have hlt : i < table.size := h.size ▸ (List.getElem?_eq_some_iff.1 hc).1
    exact ⟨rules, hrules, Array.getElem?_setIfInBounds_self_of_lt hlt⟩

/-- Where each name stands once, the place of a context is found by its name. -/
theorem lookup_of_getElem? {contexts : List (String × List Item)} (hnames : (contexts.map (·.1)).Nodup)
    {i : Nat} {c : String × List Item} (hc : contexts[i]? = some c) (vars : Variables) (usedIn : String) :
    Plan.lookup ⟨contexts, vars, none⟩ usedIn c.1 = .ok i := by
  obtain ⟨hlt, hget⟩ := List.getElem?_eq_some_iff.1 hc
  have hfind : contexts.findIdx? (·.1 == c.1) = some i := by
    refine List.findIdx?_eq_some_iff_getElem.2 ⟨hlt, ?_, fun j hj => ?_⟩
    · rw [hget]
      exact beq_self_eq_true _
    · have hlt' : j < (contexts.map (·.1)).length := by
        rw [List.length_map]
        omega
      have hlt'' : i < (contexts.map (·.1)).length := by rwa [List.length_map]
      have hne : (contexts.map (·.1))[j] ≠ (contexts.map (·.1))[i] :=
        fun hsame => Nat.ne_of_lt hj ((List.Nodup.getElem_inj_iff hnames).1 hsame)
      rw [List.getElem_map, List.getElem_map, hget] at hne
      simpa using hne
  unfold Plan.lookup
  rw [hfind]

/-- Context by context the table is filled. -/
theorem exists_compileContexts {d : Definition} {vars : Variables} (hd : d.Orderly vars rank)
    {front rest : List (String × List Item)} (hcontexts : d.contexts = front ++ rest) {s : Compiler}
    (hs : Keeps d.contexts vars rank table s) (hfilled : Filled d.contexts vars rank front.length table) :
    ∃ s', compileContexts ⟨d.contexts, vars, none⟩ rest s = .ok ((), s') ∧
      Filled d.contexts vars rank d.contexts.length s'.table := by
  induction rest generalizing front table s with
  | nil =>
    rw [List.append_nil] at hcontexts
    rw [← hcontexts, ← hs.table] at hfilled
    exact ⟨s, rfl, hfilled⟩
  | cons c rest ih =>
    obtain ⟨name, items⟩ := c
    have hmem : (name, items) ∈ d.contexts := by
      rw [hcontexts]
      simp
    have hc : d.contexts[front.length]? = some (name, items) := by
      rw [hcontexts]
      simp
    obtain ⟨rules, s₁, hrun, hs₁, hrules⟩ := achieves_rulesOf hd d.contexts.length name hmem
      (hd.bounded _ hmem) (List.forall_mem_nil _) s hs
    have hfront : (if name = "prototype" then []
        else Plan.prototypeFor ⟨d.contexts, vars, none⟩ (About.ofItems items)) = [] := by
      unfold Plan.prototypeFor
      split
      · rfl
      · split <;> rfl
    -- the context is filled in at the place that its name has
    have hset := hfilled.set hc hrules
    rw [← hs₁.table] at hset
    have hnext : d.contexts = (front ++ [(name, items)]) ++ rest := by
      rw [hcontexts, List.append_assoc]
      rfl
    obtain ⟨s', hrest, hdone⟩ := ih hnext
      (s := Compiler.mk (s₁.table.setIfInBounds front.length _) s₁.done s₁.anonymous) ⟨hs₁.done, rfl⟩
      (by rw [List.length_append]; exact hset)
    refine ⟨s', ?_, hdone⟩
    rw [compileContexts, bind_of_ok hrun, lookup_of_getElem? hd.names hc, hfront]
    exact hrest

end

/-- **An orderly definition compiles.** The grammar has the contexts of the definition in their order, each
with the rules that its items stand for. -/
theorem exists_compile {d : Definition} {vars : Variables} {rank : String → Nat} {main : Nat}
    (hvars : Variables.resolve d.vars = .ok vars) (hmain : d.contexts.findIdx? (·.1 == "main") = some main)
    (hd : d.Orderly vars rank) : ∃ g, d.compile = .ok g ∧ g.scope = ⟨d.scope⟩ ∧ g.main = main ∧
      ∀ i c, d.contexts[i]? = some c → ∃ rules, RulesFor d.contexts vars rank c.1 rules ∧
        g.context i = ⟨c.1, (About.ofItems c.2).metaScope, (About.ofItems c.2).metaContentScope, rules⟩ := by
  have hstart : Keeps d.contexts vars rank (start d.contexts).table (start d.contexts) :=
    ⟨List.forall_mem_nil _, rfl⟩
  have hfilled : Filled d.contexts vars rank 0 (start d.contexts).table := by
    refine ⟨?_, fun i c hi => absurd hi (Nat.not_lt_zero i)⟩
    show (d.contexts.map _).toArray.size = _
    rw [List.size_toArray, List.length_map]
  have hcontexts : d.contexts = [] ++ d.contexts := rfl
  obtain ⟨s, hrun, hfilled⟩ := exists_compileContexts hd hcontexts hstart hfilled
  have hall : compileAll ⟨d.contexts, vars, none⟩ (start d.contexts) = .ok ((), s) := by
    unfold compileAll
    rw [hd.prototype]
    exact hrun
  refine ⟨⟨d.name, ⟨d.scope⟩, d.fileExtensions, d.hidden, s.table, d.contexts.map (·.1), main⟩, ?_, rfl, rfl, ?_⟩
  · unfold Definition.compile
    rw [hmain, hvars]
    show (compileAll _ (start d.contexts) >>= _) = _
    rw [hall]
    rfl
  · intro i c hc
    obtain ⟨rules, hrules, hget⟩ := hfilled.rules i c (List.getElem?_eq_some_iff.1 hc).1 hc
    refine ⟨rules, hrules, ?_⟩
    unfold Grammar.context
    rw [hget]
    rfl

end Listfile.Grammar
