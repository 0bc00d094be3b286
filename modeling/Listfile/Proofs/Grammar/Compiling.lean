import Listfile.Grammar.Compile
import Listfile.Proofs.Outcome

/-!
# What compiling a grammar keeps

* `Ensures`: a step of a compilation keeps an invariant, and its result satisfies a condition.
* `Compiler.AllRules`, `Compiler.Named`: the rules that have been compiled satisfy a condition, and the table
  begins with the contexts that have a name.
* `Item.Every`, `Makes`: a condition on the rules of a definition, and what follows from it for compiled rules.
* `Compiler.ensures_compileAll`: a whole compilation keeps both.
* `forall_rules_of_compile`: what follows for compiled rules follows for all of the compiled grammar.
* `Definition.SetsSome`: no rule of a definition has an empty list of contexts to set.
* **`setsSome_of_compile`**: then no rule of the compiled grammar leaves its context for nothing.
-/

namespace Listfile.Grammar

/-! ### Steps of a compilation -/

/-- Where the step succeeds, it keeps `I`, and its result satisfies `Q`. -/
def Ensures {α : Type} (I : Compiler → Prop) (m : CompileM α) (Q : α → Prop) : Prop :=
  ∀ s a s', I s → m s = .ok (a, s') → I s' ∧ Q a

section
variable {α β : Type} {I : Compiler → Prop} {Q : α → Prop} {R : β → Prop}

theorem Ensures.pure {a : α} (h : Q a) : Ensures I (Pure.pure a) Q := by
  intro s b s' hs hm
  cases hm
  exact ⟨hs, h⟩

theorem Ensures.bind {m : CompileM α} {f : α → CompileM β} (hm : Ensures I m Q)
    (hf : ∀ a, Q a → Ensures I (f a) R) : Ensures I (m >>= f) R := by
  intro s b s' hs h
  have h' : (m s >>= fun p => f p.1 p.2) = .ok (b, s') := h
  cases hms : m s with
  | error e =>
    rw [hms] at h'
    cases h'
  | ok p =>
    obtain ⟨a, s₁⟩ := p
    rw [hms] at h'
    obtain ⟨hs₁, ha⟩ := hm s a s₁ hs hms
    exact hf a ha s₁ b s' hs₁ h'

theorem Ensures.lift {x : Except Fault α} (h : ∀ a, x = .ok a → Q a) :
    Ensures I (Compiler.lift x) Q := by
  intro s a s' hs hm
  cases x with
  | error e => cases hm
  | ok b =>
    cases hm
    exact ⟨hs, h a rfl⟩

theorem Ensures.fail (f : Fault) : Ensures I (Compiler.fail f) Q := by
  intro s a s' _ hm
  cases hm

theorem Ensures.modify {f : Compiler → Compiler} (h : ∀ s, I s → I (f s)) :
    Ensures I (modify f) fun _ => True := by
  intro s a s' hs hm
  cases hm
  exact ⟨h s hs, trivial⟩

theorem Ensures.get : Ensures I (get : CompileM Compiler) I := by
  intro s a s' hs hm
  cases hm
  exact ⟨hs, hs⟩

end

/-! ### The table -/

/-- The rules that have been compiled satisfy a condition. -/
structure Compiler.AllRules (P : Rule → Prop) (s : Compiler) : Prop where
  table : ∀ c ∈ s.table, ∀ r ∈ c.rules, P r
  done : ∀ d ∈ s.done, ∀ r ∈ d.2, P r

/-- The table begins with contexts of the given names. -/
def Compiler.Named (names : List String) (s : Compiler) : Prop :=
  names <+: s.table.toList.map Context.name

/-- What a compilation keeps of its table. -/
structure Compiler.WellMade (names : List String) (P : Rule → Prop) (s : Compiler) : Prop where
  named : s.Named names
  rules : s.AllRules P

namespace Compiler

section
variable {names : List String} {P : Rule → Prop} {s : Compiler}

theorem AllRules.fill {c : Context} (hs : s.AllRules P) (h : ∀ r ∈ c.rules, P r) (id : Nat) :
    AllRules P { s with table := s.table.setIfInBounds id c } := by
  refine ⟨?_, hs.done⟩
  intro d hd
  rcases Array.mem_or_eq_of_mem_setIfInBounds hd with hd | rfl
  · exact hs.table d hd
  · exact h

/-- A place may be filled with a context of the name that the place has already. -/
theorem Named.fill {id : Nat} {c : Context} (hs : s.Named names) (h : ∀ name ∈ names[id]?, name = c.name) :
    Named names { s with table := s.table.setIfInBounds id c } := by
  obtain ⟨more, hmore⟩ := hs
  have hset : names.set id c.name = names := by
    rcases Nat.lt_or_ge id names.length with hlt | hge
    · have hname := h _ (List.getElem?_eq_getElem hlt)
      rw [← hname, List.set_getElem_self]
    · exact List.set_eq_of_length_le hge
  have htable : (s.table.setIfInBounds id c).toList.map Context.name
      = (names ++ more).set id c.name := by
    rw [hmore, Array.toList_setIfInBounds, List.map_set]
  refine ⟨if id < names.length then more else more.set (id - names.length) c.name, ?_⟩
  rw [htable, List.set_append, hset]
  split <;> rfl

theorem ensures_fill {id : Nat} {c : Context} (hname : ∀ name ∈ names[id]?, name = c.name)
    (hrules : ∀ r ∈ c.rules, P r) : Ensures (WellMade names P) (fill id c) fun _ => True :=
  Ensures.modify fun _ hs => ⟨hs.named.fill hname, hs.rules.fill hrules id⟩

/-- The place that is reserved is none of those that have a name. -/
theorem ensures_reserve (parent : String) :
    Ensures (WellMade names P) (reserve parent) fun place => names[place.1]? = none := by
  intro s place s' hs hm
  cases hm
  have hle := hs.named.length_le
  rw [List.length_map, Array.length_toList] at hle
  refine ⟨⟨?_, ?_, hs.rules.done⟩, List.getElem?_eq_none hle⟩
  · unfold Named
    rw [Array.toList_push, List.map_append]
    exact hs.named.trans (List.prefix_append _ _)
  · intro c hc
    rcases Array.mem_push.1 hc with hc | rfl
    · exact hs.rules.table c hc
    · exact List.forall_mem_nil _

end

end Compiler

theorem Compiler.ensures_compilePattern {I : Compiler → Prop} (p : Plan) (context pattern : String) :
    Ensures I (compilePattern p context pattern) fun _ => True :=
  Ensures.bind (Ensures.lift fun _ _ => True.intro) fun _ _ => Ensures.lift fun _ _ => True.intro

/-! ### Lists of contexts to set -/

mutual

/-- No rule in the item has an empty list of contexts to set. -/
def Item.SetsSome : Item → Prop
  | .rule _ _ _ push set _ => enteredSetsSome push ∧ enteredSetsSome set ∧ set ≠ some (.stacked [])
  | .incl _ | .about _ _ _ => True

/-- No rule in the target has an empty list of contexts to set. -/
def Target.SetsSome : Target → Prop
  | .named _ | .stacked _ => True
  | .anonymous items => itemsSetSome items

/-- No rule in what is entered, if anything is, has an empty list of contexts to set. -/
def enteredSetsSome : Option Target → Prop
  | none => True
  | some target => target.SetsSome

/-- No rule in the items has an empty list of contexts to set. -/
def itemsSetSome : List Item → Prop
  | [] => True
  | item :: items => item.SetsSome ∧ itemsSetSome items

end

/-- **No rule of the definition has an empty list of contexts to set.** -/
def Definition.SetsSome (d : Definition) : Prop := ∀ c ∈ d.contexts, itemsSetSome c.2

/-- The rule does not leave its context for nothing. -/
def Rule.SetsSome (r : Rule) : Prop := r.action ≠ .set []

theorem length_mapM_lookup {p : Plan} {context : String} {names : List String} {ids : List Nat}
    (h : names.mapM (p.lookup context) = .ok ids) : ids.length = names.length := by
  induction names generalizing ids with
  | nil =>
    cases h
    rfl
  | cons name names ih =>
    rw [List.mapM_cons] at h
    cases hname : p.lookup context name with
    | error e =>
      rw [hname] at h
      cases h
    | ok id =>
      cases hnames : names.mapM (p.lookup context) with
      | error e =>
        rw [hname, hnames] at h
        cases h
      | ok rest =>
        rw [hname, hnames] at h
        cases h
        rw [List.length_cons, List.length_cons, ih hnames]

/-! ### Conditions on rules -/

mutual

/-- The captures and the target to set of all rules in the item satisfy a condition. -/
def Item.Every (Q : List (Nat × String) → Option Target → Prop) : Item → Prop
  | .rule _ _ captures push set _ => everyEntered Q push ∧ everyEntered Q set ∧ Q captures set
  | .incl _ | .about _ _ _ => True

/-- So do those of all rules in the target. -/
def Target.Every (Q : List (Nat × String) → Option Target → Prop) : Target → Prop
  | .named _ | .stacked _ => True
  | .anonymous items => everyItem Q items

/-- So do those of all rules in what is entered, if anything is. -/
def everyEntered (Q : List (Nat × String) → Option Target → Prop) : Option Target → Prop
  | none => True
  | some target => target.Every Q

/-- So do those of all rules in the items. -/
def everyItem (Q : List (Nat × String) → Option Target → Prop) : List Item → Prop
  | [] => True
  | item :: items => item.Every Q ∧ everyItem Q items

end

/-- Rules that are made of captures and a target to set with `Q` satisfy `P`.  A rule sets no contexts only if
the list of contexts to set is empty. -/
def Makes (Q : List (Nat × String) → Option Target → Prop) (P : Rule → Prop) : Prop :=
  ∀ pattern scope captures set action, Q captures set → (action = .set [] → set = some (.stacked [])) →
    P (Compiler.makeRule pattern scope captures action)

variable {Q : List (Nat × String) → Option Target → Prop} {P : Rule → Prop}

/-- What is known of a plan: its contexts come from the definition, and the rules of the prototype are
known to be compiled. -/
structure Plan.Every (Q : List (Nat × String) → Option Target → Prop) (P : Rule → Prop) (p : Plan) :
    Prop where
  contexts : ∀ c ∈ p.contexts, everyItem Q c.2
  prototype : ∀ rules ∈ p.prototype, ∀ r ∈ rules, P r

theorem Plan.Every.prototypeFor {p : Plan} (hp : p.Every Q P) (about : About) :
    ∀ r ∈ p.prototypeFor about, P r := by
  intro r hr
  unfold Plan.prototypeFor at hr
  split at hr
  · cases hproto : p.prototype with
    | none =>
      rw [hproto] at hr
      cases hr
    | some rules =>
      rw [hproto] at hr
      exact hp.prototype rules hproto r hr
  · cases hr

namespace Compiler

section
variable {names : List String} {p : Plan} {included : String → String → CompileM (List Rule)}

theorem ensures_singleton {rule : Rule} (h : P rule) :
    Ensures (WellMade names P) (pure [rule] : CompileM (List Rule)) fun rules => ∀ r ∈ rules, P r := by
  refine Ensures.pure ?_
  intro r hr
  rw [List.mem_singleton.1 hr]
  exact h

mutual

theorem ensures_compileItem (hmakes : Makes Q P) (hp : p.Every Q P)
    (hincluded : ∀ usedIn name, Ensures (WellMade names P) (included usedIn name) fun rules => ∀ r ∈ rules, P r)
    (context : String) (item : Item) (h : item.Every Q) :
    Ensures (WellMade names P) (compileItem p included context item) fun rules => ∀ r ∈ rules, P r := by
  cases item with
  | about scope content proto =>
    rw [compileItem]
    exact Ensures.pure fun r hr => by cases hr
  | incl name =>
    rw [compileItem]
    exact hincluded context name
  | rule pattern scope captures push set pop =>
    have hpattern := ensures_compilePattern (I := WellMade names P) p context pattern
    rw [Item.Every] at h
    obtain ⟨hpush, hset, hQ⟩ := h
    have hconflict : Ensures (WellMade names P)
        (compilePattern p context pattern >>= fun _ => fail (.conflictingActions context))
        fun rules : List Rule => ∀ r ∈ rules, P r := hpattern.bind fun _ _ => Ensures.fail _
    cases push with
    | none =>
      cases set with
      | none =>
        rw [compileItem]
        refine hpattern.bind fun _ _ => ensures_singleton (hmakes _ _ _ _ _ hQ ?_)
        cases pop <;> exact Action.noConfusion
      | some target =>
        cases pop with
        | true => exact hconflict
        | false =>
          rw [compileItem]
          rw [everyEntered] at hset
          refine hpattern.bind fun _ _ => ?_
          refine (ensures_compileTarget hmakes hp hincluded context target hset).bind fun ids hids => ?_
          refine ensures_singleton (hmakes _ _ _ _ _ hQ ?_)
          intro haction
          cases haction
          by_contra hne
          exact hids (fun htarget => hne (by rw [htarget])) rfl
    | some target =>
      cases set with
      | none =>
        cases pop with
        | true => exact hconflict
        | false =>
          rw [compileItem]
          rw [everyEntered] at hpush
          refine hpattern.bind fun _ _ => ?_
          refine (ensures_compileTarget hmakes hp hincluded context target hpush).bind fun ids _ => ?_
          exact ensures_singleton (hmakes _ _ _ _ _ hQ Action.noConfusion)
      | some other => exact hconflict

/-- A target that is not an empty list stands for some context. -/
theorem ensures_compileTarget (hmakes : Makes Q P) (hp : p.Every Q P)
    (hincluded : ∀ usedIn name, Ensures (WellMade names P) (included usedIn name) fun rules => ∀ r ∈ rules, P r)
    (context : String) (target : Target) (h : target.Every Q) :
    Ensures (WellMade names P) (compileTarget p included context target)
      fun ids => target ≠ .stacked [] → ids ≠ [] := by
  cases target with
  | named name =>
    rw [compileTarget]
    refine Ensures.bind (Ensures.lift fun _ _ => True.intro) fun id _ => ?_
    exact Ensures.pure fun _ => List.cons_ne_nil _ _
  | stacked names =>
    rw [compileTarget]
    refine Ensures.lift ?_
    intro ids hids hne hnil
    have hlength := length_mapM_lookup hids
    rw [hnil] at hlength
    obtain rfl := List.length_eq_zero_iff.1 hlength.symm
    exact hne rfl
  | anonymous items =>
    rw [compileTarget]
    rw [Target.Every] at h
    refine (ensures_reserve context).bind fun reserved hreserved => ?_
    refine (ensures_compileItems hmakes hp hincluded reserved.2 items h).bind fun rules hrules => ?_
    refine Ensures.bind (ensures_fill ?_ ?_) fun _ _ => Ensures.pure fun _ => List.cons_ne_nil _ _
    · intro name hname
      rw [hreserved] at hname
      cases hname
    · exact List.forall_mem_append.2 ⟨hp.prototypeFor _, hrules⟩

theorem ensures_compileItems (hmakes : Makes Q P) (hp : p.Every Q P)
    (hincluded : ∀ usedIn name, Ensures (WellMade names P) (included usedIn name) fun rules => ∀ r ∈ rules, P r)
    (context : String) (items : List Item) (h : everyItem Q items) :
    Ensures (WellMade names P) (compileItems p included context items) fun rules => ∀ r ∈ rules, P r := by
  cases items with
  | nil =>
    rw [compileItems]
    exact Ensures.pure fun r hr => by cases hr
  | cons item items =>
    rw [compileItems]
    rw [everyItem] at h
    refine (ensures_compileItem hmakes hp hincluded context item h.1).bind fun rules hrules => ?_
    refine (ensures_compileItems hmakes hp hincluded context items h.2).bind fun rest hrest => ?_
    exact Ensures.pure (List.forall_mem_append.2 ⟨hrules, hrest⟩)

end

end

section
variable {names : List String} {p : Plan}

theorem mem_of_lookup {α : Type} {xs : List (String × α)} {name : String} {a : α}
    (h : xs.lookup name = some a) : (name, a) ∈ xs := by
  obtain ⟨front, back, rfl, -⟩ := List.lookup_eq_some_iff.1 h
  simp

/-- Where each name stands once, what stands with it is found by it. -/
theorem lookup_of_mem {α : Type} {xs : List (String × α)} (hnames : (xs.map (·.1)).Nodup) {name : String}
    {a : α} (h : (name, a) ∈ xs) : xs.lookup name = some a := by
  induction xs with
  | nil => cases h
  | cons x xs ih =>
    obtain ⟨y, b⟩ := x
    rw [List.map_cons, List.nodup_cons] at hnames
    rcases List.mem_cons.1 h with hx | hxs
    · cases hx
      exact List.lookup_cons_self
    · have hne : (name == y) = false := by
        rw [beq_eq_false_iff_ne]
        rintro rfl
        exact hnames.1 (List.mem_map.2 ⟨_, hxs, rfl⟩)
      rw [List.lookup_cons, hne]
      exact ih hnames.2 hxs

theorem AllRules.add_done {P : Rule → Prop} {s : Compiler} (hs : s.AllRules P) {name : String}
    {rules : List Rule} (h : ∀ r ∈ rules, P r) :
    AllRules P { s with done := (name, rules) :: s.done } := by
  refine ⟨hs.table, ?_⟩
  intro d hd
  rcases List.mem_cons.1 hd with rfl | hd
  · exact h
  · exact hs.done d hd

/-- The rules of a context that is included. -/
theorem ensures_rulesOf (hmakes : Makes Q P) (hp : p.Every Q P) (fuel : Nat) (including : List String)
    (usedIn name : String) :
    Ensures (WellMade names P) (rulesOf p fuel including usedIn name) fun rules => ∀ r ∈ rules, P r := by
  induction fuel generalizing including usedIn name with
  | zero =>
    unfold rulesOf
    refine Ensures.get.bind fun s hs => ?_
    split
    · rename_i hdone
      exact Ensures.pure (hs.rules.done _ (mem_of_lookup hdone))
    · split
      · exact Ensures.fail _
      · split <;> exact Ensures.fail _
  | succ fuel ih =>
    unfold rulesOf
    refine Ensures.get.bind fun s hs => ?_
    split
    · rename_i hdone
      exact Ensures.pure (hs.rules.done _ (mem_of_lookup hdone))
    · split
      · exact Ensures.fail _
      · split
        · exact Ensures.fail _
        · rename_i items hitems
          have hevery := hp.contexts _ (mem_of_lookup hitems)
          refine (ensures_compileItems hmakes hp (ih _) name items hevery).bind fun rules hrules => ?_
          refine (Ensures.modify fun s hs => ⟨hs.named, hs.rules.add_done hrules⟩).bind fun _ _ => ?_
          exact Ensures.pure hrules

/-- A context that has a name is found at a place of that name. -/
theorem name_of_lookup {p : Plan} {usedIn name : String} {id : Nat}
    (h : p.lookup usedIn name = .ok id) : (p.contexts.map (·.1))[id]? = some name := by
  unfold Plan.lookup at h
  split at h
  · rename_i i hi
    cases h
    obtain ⟨hlt, hname, -⟩ := List.findIdx?_eq_some_iff_getElem.1 hi
    rw [List.getElem?_map, List.getElem?_eq_getElem hlt, Option.map_some, eq_of_beq hname]
  · cases h

theorem ensures_compileContexts (hmakes : Makes Q P) (hp : p.Every Q P) (contexts : List (String × List Item)) :
    Ensures (WellMade (p.contexts.map (·.1)) P) (compileContexts p contexts) fun _ => True := by
  induction contexts with
  | nil => exact Ensures.pure True.intro
  | cons c contexts ih =>
    obtain ⟨name, items⟩ := c
    rw [compileContexts]
    have hfront : ∀ r ∈ (if name = "prototype" then [] else p.prototypeFor (About.ofItems items)), P r := by
      intro r hr
      split at hr
      · cases hr
      · exact hp.prototypeFor _ r hr
    refine (ensures_rulesOf hmakes hp _ [] name name).bind fun rules hrules => ?_
    refine (Ensures.lift fun id hid => name_of_lookup hid).bind fun id hid => ?_
    refine Ensures.bind (ensures_fill ?_ (List.forall_mem_append.2 ⟨hfront, hrules⟩)) fun _ _ => ih
    intro other hother
    rw [hid] at hother
    exact (Option.some.inj hother).symm

/-- **A whole compilation keeps the names of its contexts and the condition on rules.** -/
theorem ensures_compileAll (hmakes : Makes Q P) (hp : p.Every Q P) :
    Ensures (WellMade (p.contexts.map (·.1)) P) (compileAll p) fun _ => True := by
  unfold compileAll
  split
  · refine (ensures_rulesOf hmakes hp _ [] _ _).bind fun rules hrules => ?_
    have hp' : Plan.Every Q P { p with prototype := some rules } := by
      refine ⟨hp.contexts, ?_⟩
      intro found hfound
      cases hfound
      exact hrules
    exact ensures_compileContexts hmakes hp' _
  · exact ensures_compileContexts hmakes hp _

theorem wellMade_start (P : Rule → Prop) (contexts : List (String × List Item)) :
    WellMade (contexts.map (·.1)) P (start contexts) := by
  refine ⟨?_, ?_, List.forall_mem_nil _⟩
  · unfold Named start
    rw [List.map_map]
    exact List.prefix_refl _
  · intro c hc
    obtain ⟨d, -, rfl⟩ := List.mem_map.1 (List.mem_toArray.1 hc)
    exact List.forall_mem_nil _

end

end Compiler

/-- What compiling a definition comes to. -/
theorem exists_of_compile {d : Definition} {g : Grammar} (h : d.compile = .ok g) :
    ∃ main vars s, d.contexts.findIdx? (·.1 == "main") = some main ∧ Variables.resolve d.vars = .ok vars ∧
      Compiler.compileAll ⟨d.contexts, vars, none⟩ (.start d.contexts) = .ok ((), s) ∧
      g = ⟨d.name, ⟨d.scope⟩, d.fileExtensions, d.hidden, s.table, d.contexts.map (·.1), main⟩ := by
  unfold Definition.compile at h
  split at h
  · cases h
  · rename_i main hmain
    obtain ⟨vars, hvars, hrest⟩ := bind_eq_ok.1 h
    obtain ⟨r, hall, hg⟩ := bind_eq_ok.1 hrest
    cases hg
    exact ⟨main, vars, r.2, hmain, hvars, hall, rfl⟩

/-- What a compilation keeps holds in the end: the contexts that have a name come first, in order, and the rules
satisfy the condition. -/
theorem wellMade_of_compile {d : Definition} {g : Grammar} (h : d.compile = .ok g) (hmakes : Makes Q P)
    (hd : ∀ c ∈ d.contexts, everyItem Q c.2) :
    g.named <+: g.contexts.toList.map Context.name ∧ ∀ c ∈ g.contexts, ∀ r ∈ c.rules, P r := by
  obtain ⟨main, vars, s, -, -, hall, rfl⟩ := exists_of_compile h
  have hp : Plan.Every Q P ⟨d.contexts, vars, none⟩ := ⟨hd, fun rules hrules => by cases hrules⟩
  have hs := (Compiler.ensures_compileAll hmakes hp _ _ _ (Compiler.wellMade_start P d.contexts) hall).1
  exact ⟨hs.named, hs.rules.table⟩

/-- **What holds of all rules of a definition holds of the compiled ones.** -/
theorem forall_rules_of_compile {d : Definition} {g : Grammar} (h : d.compile = .ok g) (hmakes : Makes Q P)
    (hd : ∀ c ∈ d.contexts, everyItem Q c.2) : ∀ c ∈ g.contexts, ∀ r ∈ c.rules, P r :=
  (wellMade_of_compile h hmakes hd).2

/-! ### Rules that leave their context for nothing -/

mutual

theorem Item.SetsSome.every {item : Item} (h : item.SetsSome) :
    item.Every fun _ set => set ≠ some (.stacked []) := by
  cases item with
  | rule pattern scope captures push set pop =>
    rw [Item.SetsSome] at h
    rw [Item.Every]
    exact ⟨every_of_enteredSetsSome h.1, every_of_enteredSetsSome h.2.1, h.2.2⟩
  | incl name => exact True.intro
  | about scope content proto => exact True.intro

theorem Target.SetsSome.every {target : Target} (h : target.SetsSome) :
    target.Every fun _ set => set ≠ some (.stacked []) := by
  cases target with
  | named name => exact True.intro
  | stacked names => exact True.intro
  | anonymous items =>
    rw [Target.SetsSome] at h
    rw [Target.Every]
    exact every_of_itemsSetSome h

theorem every_of_enteredSetsSome {target? : Option Target} (h : enteredSetsSome target?) :
    everyEntered (fun _ set => set ≠ some (.stacked [])) target? := by
  cases target? with
  | none => exact True.intro
  | some target =>
    rw [enteredSetsSome] at h
    rw [everyEntered]
    exact h.every

theorem every_of_itemsSetSome {items : List Item} (h : itemsSetSome items) :
    everyItem (fun _ set => set ≠ some (.stacked [])) items := by
  cases items with
  | nil => exact True.intro
  | cons item items =>
    rw [itemsSetSome] at h
    rw [everyItem]
    exact ⟨h.1.every, every_of_itemsSetSome h.2⟩

end

/-- **If no rule of a definition has an empty list of contexts to set**, then no rule of the compiled
grammar leaves its context for nothing. -/
theorem setsSome_of_compile {d : Definition} {g : Grammar} (h : d.compile = .ok g)
    (hd : d.SetsSome) : ∀ c ∈ g.contexts, ∀ r ∈ c.rules, r.SetsSome :=
  forall_rules_of_compile h (fun _ _ _ _ _ hne hset haction => hne (hset haction)) fun c hc =>
    every_of_itemsSetSome (hd c hc)

end Listfile.Grammar
