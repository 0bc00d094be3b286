import Listfile.Proofs.Grammar.Including

/-!
# What items are compiled to

* `Ledger`: what is known of a compiled grammar: its contexts without a name, and the rules of those that have
  one.
* `Ledger.Lists`: items are compiled to rules, with the rules of a context in the place of an inclusion.
* `Lists.mono`: what has been compiled stays so when more is known.
* `Lists.flat`: an inclusion that is written in compiled items is of a context whose rules are known.
* `Lists.ends`: there is no endless chain of contexts that draw on each other.
* `Lists.entersBelow`: rules enter contexts of the table only.
-/

namespace Listfile.Grammar

open Compiler

/-! ### What items are compiled to -/

/-- What compiled items are checked against. -/
structure Ledger where
  /-- The definition's contexts. -/
  contexts : List (String × List Item)
  vars : Variables
  /-- The contexts without a name, by their places. -/
  entry : Nat → Context → Prop
  /-- The rules that are inserted for an inclusion of a context. -/
  flat : String → List Rule → Prop
  /-- The rules that stand in front of contexts without a name, by the context in which they are written. -/
  front : String → List Rule → Prop

namespace Ledger

mutual

/-- Items that are written in a context of the definition, its home, are compiled to rules: those of an
included context for each inclusion, one for each rule, and none for a remark. Faults would name `context`,
which is the home itself or a context without a name in it. -/
inductive Lists (L : Ledger) : (home context : String) → List Item → List Rule → Prop
  | nil {home context : String} : L.Lists home context [] []
  | about {home context : String} {scope content : Option String} {proto : Option Bool} {items : List Item}
      {rules : List Rule} :
      L.Lists home context items rules → L.Lists home context (.about scope content proto :: items) rules
  | incl {home context name : String} {inner items : List Item} {included rules : List Rule} :
      L.contexts.lookup name = some inner → L.flat name included → L.Lists name name inner included →
      L.Lists home context items rules → L.Lists home context (.incl name :: items) (included ++ rules)
  | rule {home context pattern : String} {scope : Option String} {captures : List (Nat × String)}
      {push set : Option Target} {pop : Bool} {compiled : Pattern} {action : Action} {items : List Item}
      {rules : List Rule} :
      L.vars.expand context pattern = .ok compiled.source →
      Pattern.compile context compiled.source = .ok compiled →
      L.Acts home context push set pop action → L.Lists home context items rules →
      L.Lists home context (.rule pattern scope captures push set pop :: items)
        (makeRule compiled scope captures action :: rules)

/-- What a rule is told to do is compiled to an action. -/
inductive Acts (L : Ledger) : (home context : String) → (push set : Option Target) → (pop : Bool) → Action → Prop
  | stay {home context : String} : L.Acts home context none none false .stay
  | pop {home context : String} : L.Acts home context none none true .pop
  | push {home context : String} {target : Target} {ids : List Nat} :
      L.Enters home context target ids → L.Acts home context (some target) none false (.push ids)
  | set {home context : String} {target : Target} {ids : List Nat} :
      L.Enters home context target ids → L.Acts home context none (some target) false (.set ids)

/-- A target is compiled to places of the table. -/
inductive Enters (L : Ledger) : (home context : String) → Target → List Nat → Prop
  | named {home context name : String} {id : Nat} :
      (L.contexts.map (·.1))[id]? = some name → L.Enters home context (.named name) [id]
  | stacked {home context : String} {names : List String} {ids : List Nat} :
      List.Forall₂ (fun name id => (L.contexts.map (·.1))[id]? = some name) names ids →
      L.Enters home context (.stacked names) ids
  | anonymous {home context name : String} {items : List Item} {id : Nat} {front rules : List Rule} :
      L.front home front → L.Lists home name items rules →
      L.entry id ⟨name, (About.ofItems items).metaScope, (About.ofItems items).metaContentScope,
        (if (About.ofItems items).includePrototype then front else []) ++ rules⟩ →
      L.Enters home context (.anonymous items) [id]

end

/-- What one ledger knows, the other one knows, too. What stands in front is only asked of contexts whose
rules are known. -/
structure Below (L L' : Ledger) : Prop where
  contexts : L.contexts = L'.contexts
  vars : L.vars = L'.vars
  entry : ∀ id c, L.entry id c → L'.entry id c
  flat : ∀ name rules, L.flat name rules → L'.flat name rules
  front : ∀ name rules front, L.flat name rules → L.front name front → L'.front name front

section
variable {L L' : Ledger}

mutual

theorem Lists.mono (h : L.Below L') {home context : String}
    (hhome : ∀ front, L.front home front → L'.front home front) {items : List Item} {rules : List Rule} :
    L.Lists home context items rules → L'.Lists home context items rules
  | .nil => .nil
  | .about hitems => .about (hitems.mono h hhome)
  | .incl hname hflat hinner hitems =>
    .incl (h.contexts ▸ hname) (h.flat _ _ hflat) (hinner.mono h fun front => h.front _ _ front hflat)
      (hitems.mono h hhome)
  | .rule hexpand hcompile hacts hitems =>
    .rule (h.vars ▸ hexpand) hcompile (hacts.mono h hhome) (hitems.mono h hhome)

theorem Acts.mono (h : L.Below L') {home context : String}
    (hhome : ∀ front, L.front home front → L'.front home front) {push set : Option Target} {pop : Bool}
    {action : Action} : L.Acts home context push set pop action → L'.Acts home context push set pop action
  | .stay => .stay
  | .pop => .pop
  | .push henters => .push (henters.mono h hhome)
  | .set henters => .set (henters.mono h hhome)

theorem Enters.mono (h : L.Below L') {home context : String}
    (hhome : ∀ front, L.front home front → L'.front home front) {target : Target} {ids : List Nat} :
    L.Enters home context target ids → L'.Enters home context target ids
  | .named hname => .named (h.contexts ▸ hname)
  | .stacked hnames => .stacked (h.contexts ▸ hnames)
  | .anonymous hfront hitems hentry => .anonymous (hhome _ hfront) (hitems.mono h hhome) (h.entry _ _ hentry)

end

variable {home context : String}

/-- The rules of an item come in front of those of the items behind it. -/
theorem Lists.cons {item : Item} {items : List Item} {first rest : List Rule} :
    L.Lists home context [item] first → L.Lists home context items rest →
      L.Lists home context (item :: items) (first ++ rest)
  | .about .nil, h => .about h
  | .incl hname hflat hinner .nil, h => by
    rw [List.append_nil]
    exact .incl hname hflat hinner h
  | .rule hexpand hcompile hacts .nil, h => .rule hexpand hcompile hacts h

/-- The first item has rules of its own, and so have the items behind it. -/
theorem Lists.uncons {item : Item} {items : List Item} {rules : List Rule} :
    L.Lists home context (item :: items) rules →
      (∃ first, L.Lists home context [item] first) ∧ ∃ rest, L.Lists home context items rest
  | .about h => ⟨⟨_, .about .nil⟩, _, h⟩
  | .incl hname hflat hinner h => ⟨⟨_, .incl hname hflat hinner .nil⟩, _, h⟩
  | .rule hexpand hcompile hacts h => ⟨⟨_, .rule hexpand hcompile hacts .nil⟩, _, h⟩

theorem Lists.of_mem {item : Item} {items : List Item} {rules : List Rule} (h : L.Lists home context items rules)
    (hitem : item ∈ items) : ∃ first, L.Lists home context [item] first := by
  induction items generalizing rules with
  | nil => cases hitem
  | cons other items ih =>
    obtain ⟨hfirst, rest, hrest⟩ := h.uncons
    rcases List.mem_cons.1 hitem with rfl | hitem
    · exact hfirst
    · exact ih hrest hitem

/-- What is entered by an item that has been compiled. -/
theorem Lists.enters {item : Item} {rules : List Rule} {target : Target} (h : L.Lists home context [item] rules)
    (htarget : item.Enters target) : ∃ ids, L.Enters home context target ids := by
  cases h with
  | about => cases htarget
  | incl => cases htarget
  | rule hexpand hcompile hacts =>
    cases hacts with
    | stay => obtain ⟨⟨⟩⟩ | ⟨⟨⟩⟩ := htarget
    | pop => obtain ⟨⟨⟩⟩ | ⟨⟨⟩⟩ := htarget
    | push henters =>
      obtain ⟨⟨⟩⟩ | ⟨⟨⟩⟩ := htarget
      exact ⟨_, henters⟩
    | set henters =>
      obtain ⟨⟨⟩⟩ | ⟨⟨⟩⟩ := htarget
      exact ⟨_, henters⟩

/-- What is written in compiled items has been compiled, for the same home. -/
theorem Lists.of_written {item : Item} {items : List Item} {rules : List Rule}
    (h : L.Lists home context items rules) (hitem : Written items item) :
    ∃ inner first, L.Lists home inner [item] first := by
  induction hitem with
  | here hmem => exact ⟨context, h.of_mem hmem⟩
  | target _ henters hmem ih =>
    obtain ⟨inner, first, hrule⟩ := ih
    obtain ⟨ids, htarget⟩ := hrule.enters henters
    cases htarget with
    | anonymous _ hitems _ => exact ⟨_, hitems.of_mem hmem⟩

/-- The rules of a context that is included by what is written in compiled items are known. -/
theorem Lists.flat {items : List Item} {rules : List Rule} {name : String} (h : L.Lists home context items rules)
    (hname : Written items (.incl name)) : ∃ included, L.flat name included := by
  obtain ⟨inner, first, hitem⟩ := h.of_written hname
  cases hitem with
  | incl _ hflat _ _ => exact ⟨_, hflat⟩

end

end Ledger

/-! ### Chains of contexts -/

namespace Ledger

/-- The contexts that are drawn on from a context on are no endless chain. -/
def Ends (L : Ledger) (name : String) : Prop := Acc (fun inner outer => Draws L.contexts outer inner) name

variable {L : Ledger}

mutual

theorem Lists.ends {home context : String} {items : List Item} {rules : List Rule} :
    L.Lists home context items rules → ∀ other, Written items (.incl other) → L.Ends other
  | .nil, other, h => by
    obtain ⟨item, hitem⟩ := h.exists_mem
    cases hitem
  | .about hitems, other, h => by
    have hrest := hitems.ends other
    rcases h.of_cons with h | h
    · rcases h.of_singleton with ⟨⟨⟩⟩ | ⟨inner, henters, -⟩
      cases henters
    · exact hrest h
  | .incl hname hflat hinner hitems, other, h => by
    have hincluded := hinner.ends
    rcases h.of_cons with h | h
    · rcases h.of_singleton with ⟨⟨⟩⟩ | ⟨_, henters, -⟩
      · refine Acc.intro _ fun further ⟨inner, hinner, hwritten⟩ => ?_
        cases hname.symm.trans hinner
        exact hincluded further hwritten
      · cases henters
    · exact hitems.ends other h
  | .rule _ _ hacts hitems, other, h => by
    have hentered := hacts.ends
    rcases h.of_cons with h | h
    · rcases h.of_singleton with ⟨⟨⟩⟩ | ⟨inner, henters, hwritten⟩
      exact hentered other inner henters hwritten
    · exact hitems.ends other h

theorem Acts.ends {home context : String} {push set : Option Target} {pop : Bool} {action : Action} :
    L.Acts home context push set pop action → ∀ other inner,
      push = some (.anonymous inner) ∨ set = some (.anonymous inner) → Written inner (.incl other) → L.Ends other
  | .stay, other, inner, h, _ => by simp at h
  | .pop, other, inner, h, _ => by simp at h
  | .push henters, other, inner, h, hwritten => by
    have hentered := henters.ends other inner
    obtain ⟨⟨⟩⟩ | ⟨⟨⟩⟩ := h
    exact hentered rfl hwritten
  | .set henters, other, inner, h, hwritten => by
    have hentered := henters.ends other inner
    obtain ⟨⟨⟩⟩ | ⟨⟨⟩⟩ := h
    exact hentered rfl hwritten

theorem Enters.ends {home context : String} {target : Target} {ids : List Nat} :
    L.Enters home context target ids → ∀ other inner, target = .anonymous inner → Written inner (.incl other) →
      L.Ends other
  | .named _, other, inner, h, _ => by cases h
  | .stacked _, other, inner, h, _ => by cases h
  | .anonymous _ hitems _, other, inner, h, hwritten => by
    have hinner := hitems.ends other
    cases h
    exact hinner hwritten

end

end Ledger

/-! ### Places of the table -/

/-- The contexts that an action enters. -/
def Action.targets : Action → List Nat
  | .push ids | .set ids => ids
  | .stay | .pop => []

/-- All contexts that the rules enter are among the first of the table. -/
def EntersBelow (size : Nat) (rules : List Rule) : Prop := ∀ r ∈ rules, ∀ id ∈ r.action.targets, id < size

theorem entersBelow_append {size : Nat} {rs ss : List Rule} (hr : EntersBelow size rs) (hs : EntersBelow size ss) :
    EntersBelow size (rs ++ ss) := by
  intro r h
  rcases List.mem_append.1 h with h | h
  · exact hr r h
  · exact hs r h

namespace Ledger

variable {L : Ledger} {size : Nat} {home context : String}

theorem Enters.lt (hnamed : L.contexts.length ≤ size) (hentry : ∀ id c, L.entry id c → id < size) {target : Target}
    {ids : List Nat} (h : L.Enters home context target ids) : ∀ id ∈ ids, id < size := by
  have hname : ∀ {name : String} {id : Nat}, (L.contexts.map (·.1))[id]? = some name → id < size := by
    intro name id hid
    have hlt := (List.getElem?_eq_some_iff.1 hid).1
    rw [List.length_map] at hlt
    exact Nat.lt_of_lt_of_le hlt hnamed
  cases h with
  | named hid =>
    intro id hmem
    rw [List.mem_singleton.1 hmem]
    exact hname hid
  | stacked hids =>
    intro id hmem
    obtain ⟨i, hi, rfl⟩ := List.getElem_of_mem hmem
    exact hname (hids.get (hids.length_eq.symm ▸ hi) hi)
  | anonymous _ _ h =>
    intro id hmem
    rw [List.mem_singleton.1 hmem]
    exact hentry _ _ h

/-- What items are compiled to enters contexts of the table only. -/
theorem Lists.entersBelow (hnamed : L.contexts.length ≤ size) (hentry : ∀ id c, L.entry id c → id < size)
    {home context : String} {items : List Item} {rules : List Rule} :
    L.Lists home context items rules → EntersBelow size rules
  | .nil => fun r hr => by cases hr
  | .about h => h.entersBelow hnamed hentry
  | .incl _ _ hinner h => entersBelow_append (hinner.entersBelow hnamed hentry) (h.entersBelow hnamed hentry)
  | .rule _ _ hacts h => by
    refine List.forall_mem_cons.2 ⟨?_, h.entersBelow hnamed hentry⟩
    cases hacts with
    | stay => exact fun id hid => by cases hid
    | pop => exact fun id hid => by cases hid
    | push henters => exact henters.lt hnamed hentry
    | set henters => exact henters.lt hnamed hentry

end Ledger

end Listfile.Grammar
