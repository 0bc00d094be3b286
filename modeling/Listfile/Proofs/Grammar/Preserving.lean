import Listfile.Proofs.Grammar.Listing
import Listfile.Proofs.Grammar.Naming

/-!
# Compiling contexts step by step

* `Stage`: what is expected of a part of a compilation.
* `Compiler.Sound`: what is known of contexts that have been compiled, and of places of the table.
* `Compiler.Kept`: what a step does not touch.
* `preserves_anonymous`: a place is reserved for an anonymous target, and filled once its items are compiled.
* `preserves_compileItems`, `preserves_rulesOf`: items and contexts are compiled to what they stand for.
-/

namespace Listfile.Grammar

open Compiler

/-! ### States of a compilation -/

/-- The target is written in a context. -/
def WrittenIn (contexts : List (String × List Item)) (home : String) (target : Target) : Prop :=
  ∃ items rule, contexts.lookup home = some items ∧ Written items rule ∧ rule.Enters target

/-- A stage of a compilation, and what is expected of it. -/
structure Stage where
  plan : Plan
  /-- The contexts that may be compiled. -/
  reach : String → Prop
  /-- What is to stand in front of contexts without a name, by the context in which they are written. -/
  front : String → List Rule → Prop
  /-- The contexts that were compiled before the stage. -/
  base : List (String × List Rule)
  /-- The contexts that are being compiled. -/
  including : List String
  /-- The places that have been reserved and are not filled yet. -/
  pending : List Nat

/-- The context, which has the given items, may be compiled, and it is known what stands in front of the
contexts without a name that are written in it. -/
structure Stage.Allows (t : Stage) (home : String) (items : List Item) : Prop where
  lookup : t.plan.contexts.lookup home = some items
  reach : t.reach home
  front : t.front home (t.plan.prototype.getD [])

/-- The stage while another place is reserved. -/
def Stage.reserving (t : Stage) (id : Nat) : Stage := { t with pending := id :: t.pending }

namespace Compiler

/-- What a state of the compilation knows. -/
def ledger (t : Stage) (s : Compiler) : Ledger where
  contexts := t.plan.contexts
  vars := t.plan.vars
  entry id c := t.plan.contexts.length ≤ id ∧ id ∉ t.pending ∧ s.table[id]? = some c
  flat name rules := s.done.lookup name = some rules
  front := t.front

/-- What holds at a stage: it is known what the rules of a context are if it has been compiled, and what a
place of the table stands for if it has no name. The contexts that are being compiled have no rules yet. -/
structure Sound (t : Stage) (s : Compiler) : Prop where
  size : t.plan.contexts.length ≤ s.table.size
  pending : ∀ id ∈ t.pending, id < s.table.size
  base : ∀ name rules, t.base.lookup name = some rules → s.done.lookup name = some rules
  including : ∀ name ∈ t.including, s.done.lookup name = none
  flat : ∀ name rules, s.done.lookup name = some rules → t.reach name ∧ ∃ items,
    t.plan.contexts.lookup name = some items ∧ (s.ledger t).Lists name name items rules
  filled : ∀ id, t.plan.contexts.length ≤ id → id < s.table.size → id ∉ t.pending → ∃ home context items,
    t.reach home ∧ WrittenIn t.plan.contexts home (.anonymous items) ∧
      (s.ledger t).Enters home context (.anonymous items) [id]

/-- What a step leaves as it is. -/
structure Kept (t : Stage) (s s' : Compiler) : Prop where
  size : s.table.size ≤ s'.table.size
  named : ∀ id, id < t.plan.contexts.length → s'.table[id]? = s.table[id]?
  entry : ∀ id c, id ∉ t.pending → s.table[id]? = some c → s'.table[id]? = some c
  flat : ∀ name rules, s.done.lookup name = some rules → s'.done.lookup name = some rules

section
variable {t : Stage} {s s₁ s' : Compiler}

theorem Kept.refl : Kept t s s :=
  ⟨Nat.le_refl _, fun _ _ => rfl, fun _ _ _ h => h, fun _ _ h => h⟩

theorem Kept.trans (h : Kept t s s₁) (h' : Kept t s₁ s') : Kept t s s' where
  size := h.size.trans h'.size
  named id hid := (h'.named id hid).trans (h.named id hid)
  entry id c hid hc := h'.entry id c hid (h.entry id c hid hc)
  flat name rules hname := h'.flat name rules (h.flat name rules hname)

theorem Kept.below (h : Kept t s s') : (s.ledger t).Below (s'.ledger t) where
  contexts := rfl
  vars := rfl
  entry id c := fun ⟨hle, hid, hc⟩ => ⟨hle, hid, h.entry id c hid hc⟩
  flat := h.flat
  front _ _ _ _ hfront := hfront

theorem Kept.lists (h : Kept t s s') {home context : String} {items : List Item} {rules : List Rule}
    (hitems : (s.ledger t).Lists home context items rules) : (s'.ledger t).Lists home context items rules :=
  hitems.mono h.below fun _ hfront => hfront

/-- The step, if it succeeds, leads from a sound state to a sound one and keeps what is known, and its result
satisfies `Q`. -/
def Preserves {α : Type} (t : Stage) (s : Compiler) (m : CompileM α) (Q : Compiler → α → Prop) : Prop :=
  ∀ a s', m s = .ok (a, s') → Sound t s' ∧ Kept t s s' ∧ Q s' a

variable {α β : Type} {Q : Compiler → α → Prop} {R : Compiler → β → Prop}

theorem Preserves.pure (hs : Sound t s) {a : α} (h : Q s a) : Preserves t s (Pure.pure a) Q := by
  intro b s' hb
  cases hb
  exact ⟨hs, .refl, h⟩

theorem Preserves.lift (hs : Sound t s) {x : Except Fault α} (h : ∀ a, x = .ok a → Q s a) :
    Preserves t s (Compiler.lift x) Q := by
  intro a s' ha
  cases x with
  | error e => cases ha
  | ok b =>
    cases ha
    exact ⟨hs, .refl, h a rfl⟩

theorem Preserves.get (hs : Sound t s) : Preserves t s (get : CompileM Compiler) fun s' a => s' = s ∧ a = s := by
  intro a s' ha
  cases ha
  exact ⟨hs, .refl, rfl, rfl⟩

theorem Preserves.fail {f : Fault} : Preserves t s (Compiler.fail f) Q := by
  intro a s' ha
  cases ha

theorem ok_of_bind {m : CompileM α} {f : α → CompileM β} {r : β × Compiler} (h : (m >>= f) s = .ok r) :
    ∃ a s₁, m s = .ok (a, s₁) ∧ f a s₁ = .ok r := by
  obtain ⟨⟨a, s₁⟩, ha, hr⟩ := bind_eq_ok.1 (show (m s >>= fun r => f r.1 r.2) = .ok r from h)
  exact ⟨a, s₁, ha, hr⟩

theorem Preserves.bind {m : CompileM α} {f : α → CompileM β} (hm : Preserves t s m Q)
    (hf : ∀ a s₁, Sound t s₁ → Kept t s s₁ → Q s₁ a → Preserves t s₁ (f a) R) : Preserves t s (m >>= f) R := by
  intro b s' hb
  obtain ⟨a, s₁, ha, hb⟩ := ok_of_bind hb
  obtain ⟨hs₁, hkept₁, hQ⟩ := hm a s₁ ha
  obtain ⟨hs', hkept', hR⟩ := hf a s₁ hs₁ hkept₁ hQ b s' hb
  exact ⟨hs', hkept₁.trans hkept', hR⟩

/-! ### Contexts without a name -/

/-- What is known stays known when a place is reserved. -/
theorem below_push (s : Compiler) (c : Context) (more : Nat) :
    (s.ledger t).Below ((Compiler.mk (s.table.push c) s.done more).ledger (t.reserving s.table.size)) where
  contexts := rfl
  vars := rfl
  entry id c' := by
    rintro ⟨hle, hid, hc'⟩
    have hne : id ≠ s.table.size := Nat.ne_of_lt (Array.getElem?_eq_some_iff.1 hc').1
    refine ⟨hle, List.not_mem_cons_of_ne_of_not_mem hne hid, ?_⟩
    show (s.table.push c)[id]? = some c'
    rw [Array.getElem?_push, if_neg hne, hc']
  flat _ _ h := h
  front _ _ _ _ h := h

theorem sound_push (hs : Sound t s) (c : Context) (more : Nat) :
    Sound (t.reserving s.table.size) (Compiler.mk (s.table.push c) s.done more) where
  size := by
    show _ ≤ (s.table.push c).size
    rw [Array.size_push]
    exact hs.size.trans (Nat.le_succ _)
  pending id hid := by
    show id < (s.table.push c).size
    rw [Array.size_push]
    rcases List.mem_cons.1 hid with rfl | hid
    · exact Nat.lt_succ_self _
    · exact (hs.pending id hid).trans (Nat.lt_succ_self _)
  base := hs.base
  including := hs.including
  flat name rules hname := by
    obtain ⟨hreach, items, hitems, hlists⟩ := hs.flat name rules hname
    exact ⟨hreach, items, hitems, hlists.mono (below_push s c more) fun _ h => h⟩
  filled id hle hlt hid := by
    have hne : id ≠ s.table.size := List.ne_of_not_mem_cons hid
    have hid := List.not_mem_of_not_mem_cons hid
    have hlt : id < (s.table.push c).size := hlt
    rw [Array.size_push] at hlt
    have hlt := Nat.lt_of_le_of_ne (Nat.le_of_lt_succ hlt) hne
    obtain ⟨home, context, items, hreach, hwritten, henters⟩ := hs.filled id hle hlt hid
    exact ⟨home, context, items, hreach, hwritten, henters.mono (below_push s c more) fun _ h => h⟩

/-- What is known stays known when a reserved place is filled. -/
theorem below_fill (s : Compiler) (id : Nat) (c : Context) :
    (s.ledger (t.reserving id)).Below ((Compiler.mk (s.table.setIfInBounds id c) s.done s.anonymous).ledger t) where
  contexts := rfl
  vars := rfl
  entry id' c' := by
    rintro ⟨hle, hid, hc'⟩
    have hne := List.ne_of_not_mem_cons hid
    exact ⟨hle, List.not_mem_of_not_mem_cons hid, (Array.getElem?_setIfInBounds_ne (Ne.symm hne)).trans hc'⟩
  flat _ _ h := h
  front _ _ _ _ h := h

theorem sound_fill {id : Nat} {c : Context} {home context : String} {items : List Item}
    (hs : Sound (t.reserving id) s) (hreach : t.reach home)
    (hwritten : WrittenIn t.plan.contexts home (.anonymous items))
    (henters : ((Compiler.mk (s.table.setIfInBounds id c) s.done s.anonymous).ledger t).Enters home context
      (.anonymous items) [id]) :
    Sound t (Compiler.mk (s.table.setIfInBounds id c) s.done s.anonymous) where
  size := by
    show _ ≤ (s.table.setIfInBounds id c).size
    rw [Array.size_setIfInBounds]
    exact hs.size
  pending id' hid := by
    show _ < (s.table.setIfInBounds id c).size
    rw [Array.size_setIfInBounds]
    exact hs.pending id' (List.mem_cons_of_mem _ hid)
  base := hs.base
  including := hs.including
  flat name rules hname := by
    obtain ⟨hreach, items, hitems, hlists⟩ := hs.flat name rules hname
    exact ⟨hreach, items, hitems, hlists.mono (below_fill s id c) fun _ h => h⟩
  filled id' hle hlt hid := by
    by_cases hne : id' = id
    · subst hne
      exact ⟨home, context, items, hreach, hwritten, henters⟩
    · have hlt : id' < (s.table.setIfInBounds id c).size := hlt
      rw [Array.size_setIfInBounds] at hlt
      obtain ⟨home, context, items, hreach, hwritten, henters⟩ :=
        hs.filled id' hle hlt (List.not_mem_cons_of_ne_of_not_mem hne hid)
      exact ⟨home, context, items, hreach, hwritten, henters.mono (below_fill s id c) fun _ h => h⟩

/-- What stood in the table before the place was reserved is not touched. -/
theorem kept_fill {empty c : Context} {more : Nat} (hs : Sound t s)
    (hkept : Kept (t.reserving s.table.size) (Compiler.mk (s.table.push empty) s.done more) s₁) :
    Kept t s (Compiler.mk (s₁.table.setIfInBounds s.table.size c) s₁.done s₁.anonymous) where
  size := by
    have hle : (s.table.push empty).size ≤ s₁.table.size := hkept.size
    rw [Array.size_push] at hle
    show _ ≤ (s₁.table.setIfInBounds _ _).size
    rw [Array.size_setIfInBounds]
    exact Nat.le_of_succ_le hle
  named id hid := by
    have hlt : id < s.table.size := Nat.lt_of_lt_of_le hid hs.size
    show (s₁.table.setIfInBounds _ _)[id]? = _
    rw [Array.getElem?_setIfInBounds_ne (Nat.ne_of_gt hlt)]
    refine (hkept.named id hid).trans ?_
    show (s.table.push _)[id]? = _
    rw [Array.getElem?_push, if_neg (Nat.ne_of_lt hlt)]
  entry id c' hid hc' := by
    have hlt : id < s.table.size := (Array.getElem?_eq_some_iff.1 hc').1
    show (s₁.table.setIfInBounds _ _)[id]? = _
    rw [Array.getElem?_setIfInBounds_ne (Nat.ne_of_gt hlt)]
    refine hkept.entry id c' (List.not_mem_cons_of_ne_of_not_mem (Nat.ne_of_lt hlt) hid) ?_
    show (s.table.push _)[id]? = _
    rw [Array.getElem?_push, if_neg (Nat.ne_of_lt hlt), hc']
  flat := hkept.flat

/-- An anonymous target gets a place of its own, which is filled once its items are compiled. -/
theorem preserves_anonymous {included : String → String → CompileM (List Rule)} {home : String} {items : List Item}
    (context : String) (hs : Sound t s) {homeItems : List Item} (hhome : t.Allows home homeItems)
    (hwritten : WrittenIn t.plan.contexts home (.anonymous items))
    (hitems : ∀ name s₀, Sound (t.reserving s.table.size) s₀ → Preserves (t.reserving s.table.size) s₀
      (compileItems t.plan included name items) fun s' rules =>
        (s'.ledger (t.reserving s.table.size)).Lists home name items rules) :
    Preserves t s (compileTarget t.plan included context (.anonymous items)) fun s' ids =>
      (s'.ledger t).Enters home context (.anonymous items) ids := by
  intro ids s' hrun
  rw [compileTarget] at hrun
  obtain ⟨place, s₀, hreserve, hrun⟩ := ok_of_bind hrun
  cases hreserve
  obtain ⟨rules, s₁, hcompile, hrun⟩ := ok_of_bind hrun
  cases hrun
  obtain ⟨hs₁, hkept, hlists⟩ := hitems _ _ (sound_push hs _ _) rules s₁ hcompile
  have hsize : s.table.size < s₁.table.size := by
    have hle : (s.table.push _).size ≤ s₁.table.size := hkept.size
    rwa [Array.size_push] at hle
  have hnot : s.table.size ∉ t.pending := fun hmem => Nat.lt_irrefl _ (hs.pending _ hmem)
  have henters : (ledger t (Compiler.mk (s₁.table.setIfInBounds s.table.size ⟨context ++ "#anon" ++
      toString s.anonymous, (About.ofItems items).metaScope, (About.ofItems items).metaContentScope,
      t.plan.prototypeFor (About.ofItems items) ++ rules⟩) s₁.done s₁.anonymous)).Enters home context
      (.anonymous items) [s.table.size] :=
    .anonymous hhome.front (hlists.mono (below_fill _ _ _) fun _ h => h)
      ⟨hs.size, hnot, Array.getElem?_setIfInBounds_self_of_lt hsize⟩
  exact ⟨sound_fill hs₁ hhome.reach hwritten henters, kept_fill hs hkept, henters⟩

/-! ### Items -/

variable {included : String → String → CompileM (List Rule)} {home : String} {homeItems : List Item}

/-- For an inclusion that is written in the items, the rules of a context are inserted that has been compiled.
-/
def Inserts (t : Stage) (homeItems : List Item) (included : String → String → CompileM (List Rule)) : Prop :=
  ∀ pending s usedIn name, Sound { t with pending := pending } s → Written homeItems (.incl name) →
    Preserves { t with pending := pending } s (included usedIn name) fun s' rules =>
      s'.done.lookup name = some rules

/-- A compiled pattern knows what it was compiled from. -/
theorem source_of_compile {context : String} {source : List Char} {compiled : Pattern}
    (h : Pattern.compile context source = .ok compiled) : compiled.source = source := by
  unfold Pattern.compile at h
  simp only at h
  split at h
  all_goals
    obtain ⟨r, -, h⟩ := bind_eq_ok.1 h
    cases h
    rfl

theorem preserves_compilePattern (hs : Sound t s) (context pattern : String) :
    Preserves t s (compilePattern t.plan context pattern) fun _ compiled =>
      t.plan.vars.expand context pattern = .ok compiled.source ∧
        Pattern.compile context compiled.source = .ok compiled := by
  have hexpand : Preserves t s (lift (t.plan.vars.expand context pattern)) fun _ source =>
      t.plan.vars.expand context pattern = .ok source := .lift hs fun _ hsource => hsource
  refine hexpand.bind fun source _ hs₁ _ hsource => .lift hs₁ fun compiled hcompiled => ?_
  rw [source_of_compile hcompiled]
  exact ⟨hsource, hcompiled⟩

/-- A rule whose action is known is compiled. -/
theorem preserves_makeRule (hs : Sound t s) {context pattern : String} {scope : Option String}
    {captures : List (Nat × String)} {push set : Option Target} {pop : Bool} {compiled : Pattern} {action : Action}
    (hpattern : t.plan.vars.expand context pattern = .ok compiled.source ∧
      Pattern.compile context compiled.source = .ok compiled)
    (hacts : (s.ledger t).Acts home context push set pop action) :
    Preserves t s (pure [makeRule compiled scope captures action]) fun s' rules =>
      (s'.ledger t).Lists home context [.rule pattern scope captures push set pop] rules :=
  .pure hs (.rule hpattern.1 hpattern.2 hacts .nil)

theorem forall₂_of_lookup {p : Plan} {context : String} {names : List String} {ids : List Nat}
    (h : names.mapM (p.lookup context) = .ok ids) :
    List.Forall₂ (fun name id => (p.contexts.map (·.1))[id]? = some name) names ids := by
  induction names generalizing ids with
  | nil =>
    cases h
    exact .nil
  | cons name names ih =>
    rw [List.mapM_cons] at h
    obtain ⟨id, hid, h⟩ := bind_eq_ok.1 h
    obtain ⟨rest, hrest, h⟩ := bind_eq_ok.1 h
    cases h
    exact .cons (name_of_lookup hid) (ih hrest)

mutual

theorem preserves_compileItem (t : Stage) (s : Compiler) (hs : Sound t s)
    (hhome : t.Allows home homeItems) (hincluded : Inserts t homeItems included) (context : String)
    (item : Item) (hitem : Written homeItems item) :
    Preserves t s (compileItem t.plan included context item) fun s' rules =>
      (s'.ledger t).Lists home context [item] rules := by
  cases item with
  | about scope content proto =>
    rw [compileItem]
    exact .pure hs (.about .nil)
  | incl name =>
    rw [compileItem]
    intro rules s' hrun
    obtain ⟨hs', hkept, hdone⟩ := hincluded t.pending s context name hs hitem rules s' hrun
    obtain ⟨-, inner, hinner, hlists⟩ := hs'.flat name rules hdone
    rw [← List.append_nil rules]
    exact ⟨hs', hkept, .incl hinner hdone hlists .nil⟩
  | rule pattern scope captures push set pop =>
    have hpattern := preserves_compilePattern hs context pattern
    have hconflict : ∀ Q, Preserves t s (compilePattern t.plan context pattern >>= fun _ =>
        (fail (.conflictingActions context) : CompileM (List Rule))) Q :=
      fun Q => hpattern.bind fun _ _ _ _ _ => .fail
    cases push with
    | none =>
      cases set with
      | none =>
        rw [compileItem]
        refine hpattern.bind fun compiled s₁ hs₁ _ hcompiled => preserves_makeRule hs₁ hcompiled ?_
        cases pop with
        | true => exact .pop
        | false => exact .stay
      | some target =>
        cases pop with
        | true => exact hconflict _
        | false =>
          rw [compileItem]
          refine hpattern.bind fun compiled s₁ hs₁ _ hcompiled => ?_
          refine (preserves_compileTarget t s₁ hs₁ hhome hincluded context target hitem (.inr rfl)).bind ?_
          exact fun ids s₂ hs₂ _ henters => preserves_makeRule hs₂ hcompiled (.set henters)
    | some target =>
      cases set with
      | none =>
        cases pop with
        | true => exact hconflict _
        | false =>
          rw [compileItem]
          refine hpattern.bind fun compiled s₁ hs₁ _ hcompiled => ?_
          refine (preserves_compileTarget t s₁ hs₁ hhome hincluded context target hitem (.inl rfl)).bind ?_
          exact fun ids s₂ hs₂ _ henters => preserves_makeRule hs₂ hcompiled (.push henters)
      | some other => exact hconflict _

theorem preserves_compileTarget (t : Stage) (s : Compiler) (hs : Sound t s)
    (hhome : t.Allows home homeItems) (hincluded : Inserts t homeItems included) (context : String)
    (target : Target) {rule : Item} (hrule : Written homeItems rule) (htarget : rule.Enters target) :
    Preserves t s (compileTarget t.plan included context target) fun s' ids =>
      (s'.ledger t).Enters home context target ids := by
  cases target with
  | named name =>
    rw [compileTarget]
    exact (Preserves.lift hs fun _ hid => hid).bind fun id s₁ hs₁ _ hid => .pure hs₁ (.named (name_of_lookup hid))
  | stacked names =>
    rw [compileTarget]
    exact .lift hs fun ids hids => .stacked (forall₂_of_lookup hids)
  | anonymous items =>
    refine preserves_anonymous context hs hhome ⟨homeItems, rule, hhome.lookup, hrule, htarget⟩ fun name s₀ hs₀ => ?_
    exact preserves_compileItems (t.reserving s.table.size) s₀ hs₀ ⟨hhome.lookup, hhome.reach, hhome.front⟩ hincluded
      name items
      fun item hitem => hrule.target htarget hitem

theorem preserves_compileItems (t : Stage) (s : Compiler) (hs : Sound t s)
    (hhome : t.Allows home homeItems) (hincluded : Inserts t homeItems included) (context : String)
    (items : List Item) (hitems : ∀ item ∈ items, Written homeItems item) :
    Preserves t s (compileItems t.plan included context items) fun s' rules =>
      (s'.ledger t).Lists home context items rules := by
  cases items with
  | nil =>
    rw [compileItems]
    exact .pure hs .nil
  | cons item items =>
    rw [compileItems]
    refine (preserves_compileItem t s hs hhome hincluded context item (hitems _ List.mem_cons_self)).bind ?_
    intro first s₁ hs₁ _ hfirst
    refine (preserves_compileItems t s₁ hs₁ hhome hincluded context items fun other hother =>
      hitems other (List.mem_cons_of_mem _ hother)).bind ?_
    intro rest s₂ hs₂ hkept hrest
    exact .pure hs₂ ((hkept.lists hfirst).cons hrest)

end

/-! ### Contexts -/

/-- The stage while the rules of another context are compiled. -/
def within (t : Stage) (name : String) : Stage := { t with including := name :: t.including }

theorem sound_within {name : String} (hs : Sound t s) (hname : s.done.lookup name = none) :
    Sound (within t name) s where
  size := hs.size
  pending := hs.pending
  base := hs.base
  including := List.forall_mem_cons.2 ⟨hname, hs.including⟩
  flat := hs.flat
  filled := hs.filled

/-- The rules of a context are kept. -/
theorem sound_done {name : String} {items : List Item} {rules : List Rule} (hs : Sound (within t name) s)
    (hreach : t.reach name) (hnot : name ∉ t.including) (hitems : t.plan.contexts.lookup name = some items)
    (hlists : (s.ledger t).Lists name name items rules) :
    Sound t (Compiler.mk s.table ((name, rules) :: s.done) s.anonymous) ∧
      Kept t s (Compiler.mk s.table ((name, rules) :: s.done) s.anonymous) := by
  have hnone : s.done.lookup name = none := hs.including name List.mem_cons_self
  have hother : ∀ other, other ≠ name → List.lookup other ((name, rules) :: s.done) = s.done.lookup other := by
    intro other hne
    rw [List.lookup_cons, beq_eq_false_iff_ne.2 hne]
  have hflat : ∀ other rules', s.done.lookup other = some rules' →
      List.lookup other ((name, rules) :: s.done) = some rules' := by
    intro other rules' hrules'
    rw [hother other, hrules']
    rintro rfl
    rw [hnone] at hrules'
    cases hrules'
  have hkept : Kept t s (Compiler.mk s.table ((name, rules) :: s.done) s.anonymous) :=
    ⟨Nat.le_refl _, fun _ _ => rfl, fun _ _ _ h => h, hflat⟩
  refine ⟨⟨hs.size, hs.pending, ?_, ?_, ?_, ?_⟩, hkept⟩
  · exact fun other rules' hbase => hflat other rules' (hs.base other rules' hbase)
  · intro other hmem
    have hne : other ≠ name := fun heq => hnot (heq ▸ hmem)
    exact (hother other hne).trans (hs.including other (List.mem_cons_of_mem _ hmem))
  · intro other rules' hrules'
    by_cases hne : other = name
    · subst hne
      rw [List.lookup_cons_self] at hrules'
      cases hrules'
      exact ⟨hreach, items, hitems, hkept.lists hlists⟩
    · obtain ⟨hreach', items', hitems', hlists'⟩ := hs.flat other rules' ((hother other hne).symm.trans hrules')
      exact ⟨hreach', items', hitems', hkept.lists hlists'⟩
  · intro id hle hlt hid
    obtain ⟨home, context, items', hreach, hwritten, henters⟩ := hs.filled id hle hlt hid
    exact ⟨home, context, items', hreach, hwritten, henters.mono hkept.below fun _ h => h⟩

/-- The rules of a context are compiled, with those of the contexts that it draws on. -/
theorem preserves_rulesOf (fuel : Nat) (t : Stage) (s : Compiler) (hs : Sound t s)
    (hfront : ∀ name, t.base.lookup name = none → t.front name (t.plan.prototype.getD []))
    (hdraws : ∀ name other, t.reach name → Draws t.plan.contexts name other → t.reach other)
    (usedIn name : String) (hname : t.reach name) :
    Preserves t s (rulesOf t.plan fuel t.including usedIn name) fun s' rules =>
      s'.done.lookup name = some rules := by
  induction fuel generalizing t s usedIn name with
  | zero =>
    unfold rulesOf
    refine (Preserves.get hs).bind ?_
    rintro _ _ - - ⟨rfl, rfl⟩
    split
    · exact .pure hs ‹_›
    · split
      · exact .fail
      · split <;> exact .fail
  | succ fuel ih =>
    unfold rulesOf
    refine (Preserves.get hs).bind ?_
    rintro _ _ - - ⟨rfl, rfl⟩
    split
    · exact .pure hs ‹_›
    · rename_i hnone
      split
      · exact .fail
      · rename_i hnot
        split
        · exact .fail
        · rename_i items hitems
          have hbase : t.base.lookup name = none := by
            cases hb : t.base.lookup name with
            | none => rfl
            | some rules =>
              rw [hs.base name rules hb] at hnone
              cases hnone
          have hincluded : Inserts (within t name) items (rulesOf t.plan fuel (name :: t.including)) := by
            intro pending s₁ usedIn' other hs₁ hother
            exact ih { within t name with pending := pending } s₁ hs₁ hfront hdraws usedIn' other
              (hdraws name other hname ⟨items, hitems, hother⟩)
          intro rules s' hrun
          obtain ⟨first, s₁, hcompile, hrun⟩ := ok_of_bind hrun
          obtain ⟨hs₁, hkept, hlists⟩ := preserves_compileItems (within t name) _ (sound_within hs hnone)
            ⟨hitems, hname, hfront name hbase⟩ hincluded name items (fun item => .here) first s₁ hcompile
          cases hrun
          have hnot : name ∉ t.including := fun hmem => hnot (List.contains_iff_mem.2 hmem)
          obtain ⟨hs', hkept'⟩ := sound_done hs₁ hname hnot hitems hlists
          exact ⟨hs', Kept.trans ⟨hkept.size, hkept.named, hkept.entry, hkept.flat⟩ hkept', List.lookup_cons_self⟩

end

end Compiler

end Listfile.Grammar
