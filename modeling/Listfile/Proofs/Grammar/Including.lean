import Listfile.Proofs.Grammar.Compiling
import Mathlib.Data.List.Chain
import Mathlib.Data.List.Perm.Subperm
import Mathlib.Logic.Relation

/-!
# Contexts that include themselves

A context draws on another one if an inclusion of it is written in its items, be it in an anonymous target.

* `Written`: what is written in items, the items of anonymous targets included.
* `Draws`: a context draws on another one.
* `FailsBy`: what a step that fails can fail by.
* **`draws_of_recursiveInclude`**: a context that is said to include itself draws on itself, directly or
  through others.
-/

namespace Listfile.Grammar

/-! ### What is written in items -/

/-- The item is a rule that enters the target. -/
def Item.Enters : Item → Target → Prop
  | .rule _ _ _ push set _, target => push = some target ∨ set = some target
  | _, _ => False

/-- The item is one of the items, or stands in an anonymous target that is written in them. -/
inductive Written (items : List Item) : Item → Prop
  | here {item : Item} : item ∈ items → Written items item
  | target {rule item : Item} {inner : List Item} : Written items rule → rule.Enters (.anonymous inner) →
      item ∈ inner → Written items item

/-- An inclusion of the second context is written in the first. -/
def Draws (contexts : List (String × List Item)) (name other : String) : Prop :=
  ∃ items, contexts.lookup name = some items ∧ Written items (.incl other)

/-- The second context is included by an item of the first. -/
def Includes (contexts : List (String × List Item)) (name other : String) : Prop :=
  ∃ items, contexts.lookup name = some items ∧ .incl other ∈ items

theorem Written.exists_mem {items : List Item} {other : Item} (h : Written items other) : ∃ item, item ∈ items := by
  induction h with
  | here hmem => exact ⟨_, hmem⟩
  | target _ _ _ ih => exact ih

/-- What is written in items is written in the first of them or in the others. -/
theorem Written.of_cons {item other : Item} {items : List Item} (h : Written (item :: items) other) :
    Written [item] other ∨ Written items other := by
  induction h with
  | here hmem =>
    rcases List.mem_cons.1 hmem with rfl | hmem
    · exact .inl (.here List.mem_cons_self)
    · exact .inr (.here hmem)
  | target _ henters hmem ih => exact ih.imp (fun h => h.target henters hmem) fun h => h.target henters hmem

/-- What is written in a single item is the item, or is written in an anonymous target that it enters. -/
theorem Written.of_singleton {item other : Item} (h : Written [item] other) :
    other = item ∨ ∃ inner, item.Enters (.anonymous inner) ∧ Written inner other := by
  induction h with
  | here hmem => exact .inl (List.mem_singleton.1 hmem)
  | target _ henters hmem ih =>
    rcases ih with rfl | ⟨inner, hinner, hwritten⟩
    · exact .inr ⟨_, henters, .here hmem⟩
    · exact .inr ⟨inner, hinner, hwritten.target henters hmem⟩

/-! ### What a step can fail by -/

/-- If the step fails, its fault is as described. -/
def FailsBy {σ α : Type} (m : StateT σ (Except Fault) α) (Q : Fault → Prop) : Prop :=
  ∀ s e, m s = .error e → Q e

section
variable {σ α β : Type} {Q : Fault → Prop}

theorem FailsBy.pure {a : α} : FailsBy (Pure.pure a : StateT σ (Except Fault) α) Q := by
  intro s e h
  cases h

theorem FailsBy.bind {m : StateT σ (Except Fault) α} {f : α → StateT σ (Except Fault) β} (hm : FailsBy m Q)
    (hf : ∀ a, FailsBy (f a) Q) : FailsBy (m >>= f) Q := by
  intro s e h
  have h' : (m s >>= fun p => f p.1 p.2) = .error e := h
  cases hms : m s with
  | error e' =>
    rw [hms] at h'
    cases h'
    exact hm s e hms
  | ok p =>
    rw [hms] at h'
    exact hf p.1 p.2 e h'

theorem FailsBy.get : FailsBy (get : StateT σ (Except Fault) σ) Q := by
  intro s e h
  cases h

theorem FailsBy.modify {f : σ → σ} : FailsBy (modify f : StateT σ (Except Fault) PUnit) Q := by
  intro s e h
  cases h

theorem FailsBy.throw {f : Fault} (h : Q f) : FailsBy (MonadExcept.throw f : StateT σ (Except Fault) α) Q := by
  intro s e he
  cases he
  exact h

theorem FailsBy.fail {f : Fault} (h : Q f) : FailsBy (Compiler.fail f : CompileM α) Q := by
  intro s e he
  cases he
  exact h

theorem FailsBy.lift {x : Except Fault α} (h : ∀ e, x = .error e → Q e) : FailsBy (Compiler.lift x) Q := by
  intro s e he
  cases x with
  | ok a => cases he
  | error e' =>
    cases he
    exact h e rfl

theorem FailsBy.mapM {f : α → StateT σ (Except Fault) β} {as : List α} (h : ∀ a ∈ as, FailsBy (f a) Q) :
    FailsBy (as.mapM f) Q := by
  induction as with
  | nil => exact .pure
  | cons a as ih =>
    obtain ⟨ha, has⟩ := List.forall_mem_cons.1 h
    rw [List.mapM_cons]
    exact ha.bind fun b => (ih has).bind fun bs => .pure

end

/-- If one of two steps fails, one of them fails so. -/
theorem error_of_bind {ε α β : Type} {x : Except ε α} {f : α → Except ε β} {e : ε} (h : (x >>= f) = .error e) :
    x = .error e ∨ ∃ a, x = .ok a ∧ f a = .error e := by
  cases x with
  | error e' =>
    cases h
    exact .inl rfl
  | ok a => exact .inr ⟨a, rfl, h⟩

/-- If several steps in a row fail, one of them fails so. -/
theorem error_of_mapM {ε α β : Type} {f : α → Except ε β} {as : List α} {e : ε} (h : as.mapM f = .error e) :
    ∃ a ∈ as, f a = .error e := by
  induction as with
  | nil => cases h
  | cons a as ih =>
    rw [List.mapM_cons] at h
    obtain ha | ⟨b, -, h⟩ := error_of_bind h
    · exact ⟨a, List.mem_cons_self, ha⟩
    · obtain has | ⟨bs, -, h⟩ := error_of_bind h
      · obtain ⟨a', ha', hf⟩ := ih has
        exact ⟨a', List.mem_cons_of_mem _ ha', hf⟩
      · cases h

/-- If several steps in a row succeed, each of them does. -/
theorem exists_of_mapM {ε α β : Type} {f : α → Except ε β} {as : List α} {bs : List β} (h : as.mapM f = .ok bs) :
    ∀ a ∈ as, ∃ b, f a = .ok b := by
  induction as generalizing bs with
  | nil => exact List.forall_mem_nil _
  | cons a as ih =>
    rw [List.mapM_cons] at h
    obtain ⟨b, hb, h⟩ := bind_eq_ok.1 h
    obtain ⟨bs', hbs, -⟩ := bind_eq_ok.1 h
    exact List.forall_mem_cons.2 ⟨⟨b, hb⟩, ih hbs⟩

/-! ### Faults that are not about inclusions -/

/-- If the fault is that a context includes itself, then the context draws on itself. -/
def Fault.Cyclic (contexts : List (String × List Item)) : Fault → Prop
  | .recursiveInclude name => Relation.TransGen (Draws contexts) name name
  | _ => True

section
variable {contexts : List (String × List Item)}

theorem cyclic_of_expand {vs : Variables} {usedIn pattern : String} {e : Fault}
    (h : vs.expand usedIn pattern = .error e) : e.Cyclic contexts := by
  unfold Variables.expand substitute at h
  obtain hparts | ⟨parts, -, h⟩ := error_of_bind h
  · obtain ⟨piece, -, hpiece⟩ := error_of_mapM hparts
    cases piece with
    | char c => cases hpiece
    | var name =>
      simp only at hpiece
      split at hpiece <;> cases hpiece
      trivial
  · cases h

/-- A pattern that does not compile is refused as a pattern. -/
theorem cyclic_of_checked {context : String} {pattern : List Char} {e : Fault}
    (h : (match compileAnchored pattern with
      | .ok r => .ok r
      | .error _ => .error (.invalidPattern context (String.ofList pattern)) : Except Fault Regex) = .error e) :
    e.Cyclic contexts := by
  split at h <;> cases h
  trivial

theorem cyclic_of_compile {context : String} {source : List Char} {e : Fault}
    (h : Pattern.compile context source = .error e) : e.Cyclic contexts := by
  unfold Pattern.compile at h
  simp only at h
  split at h
  all_goals
    obtain hchecked | ⟨r, -, h⟩ := error_of_bind h
    · exact cyclic_of_checked hchecked
    · cases h

theorem cyclic_of_lookup {p : Plan} {usedIn name : String} {e : Fault} (h : p.lookup usedIn name = .error e) :
    e.Cyclic contexts := by
  unfold Plan.lookup at h
  split at h <;> cases h
  trivial

theorem failsBy_substitute {σ : Type} {Q : Fault → Prop}
    {value : List Char → StateT σ (Except Fault) (List Char)} {text : List Char}
    (h : ∀ name, Piece.var name ∈ pieces text → FailsBy (value name) Q) : FailsBy (substitute value text) Q := by
  unfold substitute
  refine FailsBy.bind (.mapM fun piece hpiece => ?_) fun parts => .pure
  cases piece with
  | char c => exact .pure
  | var name => exact h name hpiece

theorem failsBy_valueIn (table : List (String × String)) (fuel : Nat) (visiting : List String)
    (name : List Char) : FailsBy (Variables.valueIn table fuel visiting name) (Fault.Cyclic contexts) := by
  induction fuel generalizing visiting name with
  | zero =>
    unfold Variables.valueIn
    refine FailsBy.get.bind fun found => ?_
    split
    · exact .pure
    · split
      · exact .throw trivial
      · split <;> exact .throw trivial
  | succ fuel ih =>
    unfold Variables.valueIn
    refine FailsBy.get.bind fun found => ?_
    split
    · exact .pure
    · split
      · exact .throw trivial
      · split
        · exact .throw trivial
        · refine (failsBy_substitute fun name _ => ih _ name).bind fun value => ?_
          exact FailsBy.modify.bind fun _ => .pure

theorem cyclic_of_resolve {table : List (String × String)} {e : Fault}
    (h : Variables.resolve table = .error e) : e.Cyclic contexts := by
  have hvalues : FailsBy (Variables.valuesOf table) (Fault.Cyclic contexts) :=
    .mapM fun v _ => (failsBy_valueIn table _ [] _).bind fun value => .pure
  obtain hrun | ⟨r, -, h⟩ := error_of_bind h
  · exact hvalues [] e hrun
  · cases h

/-! ### Items and targets -/

namespace Compiler

variable {p : Plan} {included : String → String → CompileM (List Rule)} {home : List Item}

theorem failsBy_compilePattern (context pattern : String) :
    FailsBy (compilePattern p context pattern) (Fault.Cyclic contexts) :=
  FailsBy.bind (.lift fun _ => cyclic_of_expand) fun _ => .lift fun _ => cyclic_of_compile

mutual

/-- What an item that is written in a context fails by, given what the inclusions that are written there
fail by. -/
theorem failsBy_compileItem
    (hincluded : ∀ usedIn name, Written home (.incl name) → FailsBy (included usedIn name) (Fault.Cyclic contexts))
    (context : String) (item : Item) (hitem : Written home item) :
    FailsBy (compileItem p included context item) (Fault.Cyclic contexts) := by
  cases item with
  | about scope content proto =>
    rw [compileItem]
    exact .pure
  | incl name =>
    rw [compileItem]
    exact hincluded context name hitem
  | rule pattern scope captures push set pop =>
    have hpattern : FailsBy (compilePattern p context pattern) (Fault.Cyclic contexts) :=
      failsBy_compilePattern context pattern
    have hconflict : FailsBy (compilePattern p context pattern >>= fun _ =>
        (fail (.conflictingActions context) : CompileM (List Rule))) (Fault.Cyclic contexts) :=
      hpattern.bind fun _ => .fail trivial
    cases push with
    | none =>
      cases set with
      | none =>
        rw [compileItem]
        exact hpattern.bind fun _ => .pure
      | some target =>
        cases pop with
        | true => exact hconflict
        | false =>
          rw [compileItem]
          have htarget := failsBy_compileTarget hincluded context target hitem (.inr rfl)
          exact hpattern.bind fun _ => htarget.bind fun _ => .pure
    | some target =>
      cases set with
      | none =>
        cases pop with
        | true => exact hconflict
        | false =>
          rw [compileItem]
          have htarget := failsBy_compileTarget hincluded context target hitem (.inl rfl)
          exact hpattern.bind fun _ => htarget.bind fun _ => .pure
      | some other => exact hconflict

theorem failsBy_compileTarget
    (hincluded : ∀ usedIn name, Written home (.incl name) → FailsBy (included usedIn name) (Fault.Cyclic contexts))
    (context : String) (target : Target) {rule : Item} (hrule : Written home rule) (htarget : rule.Enters target) :
    FailsBy (compileTarget p included context target) (Fault.Cyclic contexts) := by
  cases target with
  | named name =>
    rw [compileTarget]
    exact FailsBy.bind (.lift fun _ => cyclic_of_lookup) fun _ => .pure
  | stacked names =>
    rw [compileTarget]
    refine .lift fun e he => ?_
    obtain ⟨name, -, hname⟩ := error_of_mapM he
    exact cyclic_of_lookup hname
  | anonymous items =>
    rw [compileTarget]
    refine FailsBy.bind (fun s e he => by cases he) fun place => ?_
    refine (failsBy_compileItems hincluded place.2 items fun item hitem => hrule.target htarget hitem).bind
      fun rules => ?_
    exact FailsBy.modify.bind fun _ => .pure

theorem failsBy_compileItems
    (hincluded : ∀ usedIn name, Written home (.incl name) → FailsBy (included usedIn name) (Fault.Cyclic contexts))
    (context : String) (items : List Item) (hitems : ∀ item ∈ items, Written home item) :
    FailsBy (compileItems p included context items) (Fault.Cyclic contexts) := by
  cases items with
  | nil =>
    rw [compileItems]
    exact .pure
  | cons item items =>
    rw [compileItems]
    refine (failsBy_compileItem hincluded context item (hitems _ List.mem_cons_self)).bind fun rules => ?_
    refine (failsBy_compileItems hincluded context items fun other hother =>
      hitems other (List.mem_cons_of_mem _ hother)).bind fun more => .pure

end

end Compiler

/-! ### Contexts -/

/-- What stands again on the path that leads to it leads to itself. -/
theorem transGen_of_isChain {α : Type} {r : α → α → Prop} {a : α} {path : List α}
    (h : (a :: path).IsChain fun later earlier => r earlier later) (hmem : a ∈ path) : Relation.TransGen r a a := by
  have htrans : (a :: path).IsChain fun later earlier => Relation.TransGen r earlier later :=
    h.imp fun _ _ => .single
  have hpairs : (a :: path).Pairwise fun later earlier => Relation.TransGen r earlier later := by
    have : IsTrans α fun later earlier => Relation.TransGen r earlier later :=
      ⟨fun _ _ _ hab hbc => hbc.trans hab⟩
    exact List.isChain_iff_pairwise.1 htrans
  exact List.rel_of_pairwise_cons hpairs hmem

/-- The contexts whose rules are being compiled, the latest first: each draws on the one before it in the
list, and no name stands twice. -/
structure Nested (contexts : List (String × List Item)) (including : List String) : Prop where
  chain : including.IsChain fun later earlier => Draws contexts earlier later
  nodup : including.Nodup
  known : including ⊆ contexts.map (·.1)

/-- There are no more contexts to nest than the definition has. -/
theorem Nested.length_lt {name : String} {including : List String} (h : Nested contexts including)
    (hnot : name ∉ including) {items : List Item} (hname : contexts.lookup name = some items) :
    including.length < contexts.length := by
  have hmem : name ∈ contexts.map (·.1) := List.mem_map.2 ⟨_, Compiler.mem_of_lookup hname, rfl⟩
  have hle := (List.subperm_of_subset (List.nodup_cons.2 ⟨hnot, h.nodup⟩)
    (List.cons_subset.2 ⟨hmem, h.known⟩)).length_le
  rwa [List.length_map, List.length_cons] at hle

namespace Compiler

/-- What the rules of a context fail by. The contexts that are being compiled form a chain of contexts that
draw on each other; there is fuel for all others. -/
theorem failsBy_rulesOf {p : Plan} (fuel : Nat) {including : List String} (usedIn name : String)
    (hnested : Nested p.contexts including) (hfuel : p.contexts.length ≤ fuel + including.length)
    (hchain : (name :: including).IsChain fun later earlier => Draws p.contexts earlier later) :
    FailsBy (rulesOf p fuel including usedIn name) (Fault.Cyclic p.contexts) := by
  induction fuel generalizing including usedIn name with
  | zero =>
    unfold rulesOf
    refine FailsBy.get.bind fun s => ?_
    split
    · exact .pure
    · split
      · rename_i hmem
        exact .fail (transGen_of_isChain hchain (List.contains_iff_mem.1 hmem))
      · split
        · exact .fail trivial
        · rename_i hnot _ items hitems
          have hlt := hnested.length_lt (fun hmem => hnot (List.contains_iff_mem.2 hmem)) hitems
          omega
  | succ fuel ih =>
    unfold rulesOf
    refine FailsBy.get.bind fun s => ?_
    split
    · exact .pure
    · split
      · rename_i hmem
        exact .fail (transGen_of_isChain hchain (List.contains_iff_mem.1 hmem))
      · split
        · exact .fail trivial
        · rename_i hnot _ items hitems
          have hinner : Nested p.contexts (name :: including) := by
            refine ⟨hchain, List.nodup_cons.2 ⟨fun hmem => hnot (List.contains_iff_mem.2 hmem), hnested.nodup⟩, ?_⟩
            exact List.cons_subset.2 ⟨List.mem_map.2 ⟨_, Compiler.mem_of_lookup hitems, rfl⟩, hnested.known⟩
          have hincluded : ∀ usedIn other, Written items (.incl other) →
              FailsBy (rulesOf p fuel (name :: including) usedIn other) (Fault.Cyclic p.contexts) := by
            intro usedIn other hother
            refine ih usedIn other hinner ?_ (hchain.cons_cons ⟨items, hitems, hother⟩)
            rw [List.length_cons]
            omega
          refine (failsBy_compileItems hincluded name items fun item => .here).bind fun rules => ?_
          exact FailsBy.modify.bind fun _ => .pure

theorem failsBy_rulesOf_nil {p : Plan} (usedIn name : String) :
    FailsBy (rulesOf p p.contexts.length [] usedIn name) (Fault.Cyclic p.contexts) :=
  failsBy_rulesOf _ usedIn name ⟨.nil, .nil, List.nil_subset _⟩ (Nat.le_refl _) (.singleton _)

theorem failsBy_compileContexts {p : Plan} (rest : List (String × List Item)) :
    FailsBy (compileContexts p rest) (Fault.Cyclic p.contexts) := by
  induction rest with
  | nil => exact .pure
  | cons c rest ih =>
    obtain ⟨name, items⟩ := c
    rw [compileContexts]
    refine (failsBy_rulesOf_nil name name).bind fun rules => ?_
    refine FailsBy.bind (.lift fun _ => cyclic_of_lookup) fun id => ?_
    exact FailsBy.modify.bind fun _ => ih

theorem failsBy_compileAll (p : Plan) : FailsBy (compileAll p) (Fault.Cyclic p.contexts) := by
  unfold compileAll
  split
  · refine (failsBy_rulesOf_nil _ _).bind fun rules => ?_
    exact failsBy_compileContexts (p := { p with prototype := some rules }) _
  · exact failsBy_compileContexts _

end Compiler

end

/-- The fault of what fails. -/
def fault? {α : Type} : Except Fault α → Option Fault
  | .error e => some e
  | .ok _ => none

theorem eq_error_of_fault? {α : Type} {x : Except Fault α} {e : Fault} (h : fault? x = some e) : x = .error e := by
  cases x with
  | error e' => rw [Option.some.inj h]
  | ok a => cases h

theorem cyclic_of_definition {d : Definition} {e : Fault} (h : d.compile = .error e) : e.Cyclic d.contexts := by
  unfold Definition.compile at h
  split at h
  · cases h
    trivial
  · obtain hvars | ⟨vars, -, h⟩ := error_of_bind h
    · exact cyclic_of_resolve hvars
    · obtain hall | ⟨r, -, h⟩ := error_of_bind h
      · exact Compiler.failsBy_compileAll _ _ _ hall
      · cases h

/-- **A context that is said to include itself draws on itself**: inclusions that are written in its items or
in their anonymous targets lead from it back to it. If all inclusions are written in the items of contexts,
they are a cycle of inclusions. -/
theorem draws_of_recursiveInclude {d : Definition} {name : String}
    (h : d.compile = .error (.recursiveInclude name)) :
    Relation.TransGen (Draws d.contexts) name name ∧
      ((∀ context items other, d.contexts.lookup context = some items → Written items (.incl other) →
          .incl other ∈ items) → Relation.TransGen (Includes d.contexts) name name) := by
  have hcyclic := cyclic_of_definition h
  refine ⟨hcyclic, fun hown => Relation.TransGen.mono ?_ _ _ hcyclic⟩
  rintro context other ⟨items, hitems, hother⟩
  exact ⟨items, hitems, hown context items other hitems hother⟩

/-- Two contexts that include each other. -/
def circular : Definition where
  name := "T"
  scope := "source.t"
  fileExtensions := []
  hidden := false
  vars := []
  contexts := [("a", [.incl "b"]), ("b", [.incl "a"]), ("main", [.incl "a"])]

theorem draws_of_recursiveInclude_circular :
    circular.compile = .error (.recursiveInclude "a") ∧ Relation.TransGen (Draws circular.contexts) "a" "a" ∧
      Relation.TransGen (Includes circular.contexts) "a" "a" := by
  have h : circular.compile = .error (.recursiveInclude "a") := eq_error_of_fault? (by decide +kernel)
  obtain ⟨hdraws, hincludes⟩ := draws_of_recursiveInclude h
  refine ⟨h, hdraws, hincludes fun context items other hitems hother => ?_⟩
  have hmem := Compiler.mem_of_lookup hitems
  have hitem : ∃ name, items = [.incl name] := by
    have hall : ∀ c ∈ circular.contexts, ∃ name, c.2 = [.incl name] := by
      refine List.forall_mem_cons.2 ⟨⟨_, rfl⟩, List.forall_mem_cons.2 ⟨⟨_, rfl⟩, ?_⟩⟩
      exact List.forall_mem_singleton.2 ⟨_, rfl⟩
    exact hall _ hmem
  obtain ⟨name, rfl⟩ := hitem
  rcases hother.of_singleton with heq | ⟨inner, henters, -⟩
  · exact List.mem_singleton.2 heq
  · cases henters

/-- A context whose rule enters an anonymous context that includes it. -/
def reentering : Definition where
  name := "T"
  scope := "source.t"
  fileExtensions := []
  hidden := false
  vars := []
  contexts := [("main", [.rule "a" none [] (some (.anonymous [.incl "main"])) none false])]

/-- A context without any inclusion among its items may be said to include itself. -/
theorem not_forall_includes_of_recursiveInclude :
    ¬∀ (d : Definition) (name : String), d.compile = .error (.recursiveInclude name) →
      Relation.TransGen (Includes d.contexts) name name := by
  intro h
  have hfault : reentering.compile = .error (.recursiveInclude "main") := eq_error_of_fault? (by decide +kernel)
  obtain ⟨other, ⟨items, hitems, hother⟩, -⟩ := Relation.TransGen.head'_iff.1 (h reentering "main" hfault)
  cases hitems
  rcases List.mem_singleton.1 hother with ⟨⟩

end Listfile.Grammar
