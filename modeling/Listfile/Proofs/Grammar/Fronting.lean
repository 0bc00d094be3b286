import Listfile.Proofs.Grammar.Inlining

/-!
# Contexts that begin with the prototype

* **`prototype_append_own`**: the rules of the prototype stand in front of each context that does not refuse
  them, except for anonymous targets that are written in the prototype or in a context that it draws on.
* **`not_forall_prototype_isPrefix`**: those do not begin with the prototype.
-/

namespace Listfile.Grammar

section
variable {d : Definition} {g : Grammar} {vars : Variables} {flat front : String → List Rule}

/-- The rules of the prototype in the grammar. -/
theorem Definition.Inlined.rules_prototype (h : d.Inlined g vars flat front) {i : Nat} {items : List Item}
    (hproto : d.contexts[i]? = some ("prototype", items)) :
    (g.context i).rules = flat "prototype" ∧ d.prototypeRules flat = flat "prototype" := by
  refine ⟨?_, if_pos ?_⟩
  · unfold context
    rw [h.named i _ _ hproto]
    exact congrArg (· ++ flat "prototype") (if_neg fun h => h.1 rfl)
  · rw [List.lookup_isSome_iff]
    exact ⟨_, List.mem_of_getElem? hproto, rfl⟩

/-- What stands at a place of the table without a name: the anonymous target's own rules, behind those that
are put in front. -/
theorem Definition.Inlined.rules_anonymous (h : d.Inlined g vars flat front) {id : Nat}
    (hle : d.contexts.length ≤ id) (hlt : id < g.contexts.size) : ∃ home items own,
      WrittenIn d.contexts home (.anonymous items) ∧
      (d.ledger g vars flat front).Lists home (g.context id).name items own ∧
      (g.context id).rules = (if (About.ofItems items).includePrototype then front home else []) ++ own := by
  obtain ⟨home, context, items, hwritten, henters⟩ := h.anonymous id hle hlt
  cases henters with
  | anonymous hmine hitems hget =>
    cases hmine
    have hcontext : g.context id = _ := congrArg (Option.getD · default) hget.2
    rw [hcontext]
    exact ⟨home, items, _, hwritten, hitems, rfl⟩

/-- **The prototype stands in front of each context** that does not refuse it, with two exceptions: the
prototype itself, and the contexts without a name that are written in the prototype or in a context that it
draws on. Those have their own rules only. -/
theorem prototype_append_own {i : Nat} {protoItems : List Item} (hnames : (d.contexts.map (·.1)).Nodup)
    (h : d.compile = .ok g) (hproto : d.contexts[i]? = some ("prototype", protoItems)) :
    ∃ vars flat front, d.Inlined g vars flat front ∧
      (∀ (k : Nat) name items, d.contexts[k]? = some (name, items) → name ≠ "prototype" →
        (About.ofItems items).includePrototype = true → (g.context k).rules = (g.context i).rules ++ flat name) ∧
      ∀ id, d.contexts.length ≤ id → id < g.contexts.size → ∃ home items own,
        WrittenIn d.contexts home (.anonymous items) ∧
          (d.ledger g vars flat front).Lists home (g.context id).name items own ∧
          ((About.ofItems items).includePrototype = true → ¬d.Early home →
            (g.context id).rules = (g.context i).rules ++ own) ∧
          ((About.ofItems items).includePrototype = false ∨ d.Early home → (g.context id).rules = own) := by
  obtain ⟨vars, flat, front, hd, hfront⟩ := exists_inlined hnames h
  obtain ⟨hrules, hsome⟩ := hd.rules_prototype hproto
  refine ⟨vars, flat, front, hd, ?_, ?_⟩
  · intro k name items hk hname htakes
    have hcontext : g.context k = _ := congrArg (Option.getD · default) (hd.named k name items hk)
    rw [hcontext, hrules, ← hsome]
    exact congrArg (· ++ flat name) (if_pos ⟨hname, htakes⟩)
  · intro id hle hlt
    obtain ⟨home, items, own, hwritten, hitems, hown⟩ := hd.rules_anonymous hle hlt
    refine ⟨home, items, own, hwritten, hitems, ?_, ?_⟩
    · intro htakes hnot
      rw [hown, if_pos htakes, (hfront home).2 hnot, hsome, hrules]
    · rintro (hrefuses | hearly)
      · rw [hown, hrefuses, if_neg Bool.false_ne_true, List.nil_append]
      · rw [hown, (hfront home).1 hearly, ite_self, List.nil_append]

end

theorem prototype_append_own_sharing : ∃ g, sharing.compile = .ok g ∧ (sharing.contexts.map (·.1)).Nodup ∧
    ∃ vars flat front, sharing.Inlined g vars flat front ∧
      (g.context 0).rules = (g.context 1).rules ++ flat "main" := by
  have hok : sharing.compile.isOk = true := by decide +kernel
  have hnames : (sharing.contexts.map (·.1)).Nodup := by decide
  obtain ⟨g, hg⟩ := exists_of_isOk hok
  obtain ⟨vars, flat, front, hd, hnamed, -⟩ := prototype_append_own hnames hg (i := 1) rfl
  exact ⟨g, hg, hnames, vars, flat, front, hd, hnamed 0 "main" _ rfl (by decide) rfl⟩

/-- The prototype has a rule that enters a context without a name. -/
def nesting : Definition where
  name := "T"
  scope := "source.t"
  fileExtensions := []
  hidden := false
  vars := []
  contexts :=
    [("main", []),
    ("prototype", [.rule "a" none [] (some (.anonymous [.rule "b" none [] none none true])) none false])]

/-- No item of the definition is a remark. -/
def Definition.Remarkless (d : Definition) : Prop :=
  ∀ c ∈ d.contexts, ∀ scope content proto, ¬Written c.2 (.about scope content proto)

theorem remarkless_nesting : nesting.Remarkless := by
  have hmain : ∀ {scope content proto}, ¬Written [] (.about scope content proto) := by
    intro scope content proto h
    obtain ⟨item, hitem⟩ := h.exists_mem
    cases hitem
  refine List.forall_mem_cons.2 ⟨fun _ _ _ => hmain, List.forall_mem_singleton.2 fun scope content proto h => ?_⟩
  rcases h.of_singleton with ⟨⟨⟩⟩ | ⟨inner, ⟨⟨⟩⟩ | ⟨⟨⟩⟩, h⟩
  rcases h.of_singleton with ⟨⟨⟩⟩ | ⟨inner, ⟨⟨⟩⟩ | ⟨⟨⟩⟩, h⟩

/-- A context need not begin with the prototype, even if none refuses it. -/
theorem not_forall_prototype_isPrefix :
    ¬∀ (d : Definition) (g : Grammar) (i : Nat), d.compile = .ok g → d.Remarkless →
      (d.contexts.map (·.1))[i]? = some "prototype" →
      ∀ id < g.contexts.size, id ≠ i → (g.context i).rules <+: (g.context id).rules := by
  intro h
  have hgrammar : nesting.compile.toOption.map (fun g =>
      (g.contexts.size, (g.context 1).rules.map (·.pattern.source), (g.context 2).rules.map (·.pattern.source)))
      = some (3, [['a']], [['b']]) := by decide +kernel
  cases hcompile : nesting.compile with
  | error e =>
    rw [hcompile] at hgrammar
    cases hgrammar
  | ok g =>
    rw [hcompile] at hgrammar
    injection hgrammar with hgrammar
    injection hgrammar with hsize hgrammar
    injection hgrammar with hproto hanonymous
    have hprefix := (h nesting g 1 hcompile remarkless_nesting rfl 2 (by omega) (by decide)).map (·.pattern.source)
    rw [hproto, hanonymous] at hprefix
    exact absurd hprefix (by decide)

end Listfile.Grammar
