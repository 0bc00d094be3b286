import Listfile.Proofs.Grammar.Inlining
import Mathlib.Logic.Function.Iterate

/-!
# How deep a compilation nests

The value of a variable is found with the values of the variables in its body, and the rules of a context with
those of the contexts that it includes.  Each such call is nested in others, of which a path remembers the
names.  Definitions of one call are given here with the nested calls as a parameter, so that nothing bounds how
deep they nest, and what a compilation would do below a given depth can be left open.

* `iterate_eq_bounded`: a call that nests only calls for names which its path does not hold yet does not nest
  deeper than there are names.
* `Variables.valueStep`, `Compiler.rulesStep`: one call, given what nested calls do.
* `Definition.compileNested`: the compilation, of which calls that are nested deeper than a number are left open.
* **`compileNested_eq_and_error_of_includes`**: no call is nested deeper than there are variables and contexts,
  so that each compilation ends, and a cycle of inclusions is refused.
-/

namespace Listfile.Grammar

/-! ### Calls with a path -/

section
variable {β : Type} {keys : List String} {step : (List String → β) → List String → β}

/-- **Calls that nest for new names only** do not nest deeper than there are names: after that many steps it
does not matter what further nested calls do, and a bound on the depth does not matter either. -/
theorem iterate_eq_bounded {bounded : Nat → List String → β}
    (hlocal : ∀ path nested other, (∀ name ∈ keys, name ∉ path → nested (name :: path) = other (name :: path)) →
      step nested path = step other path)
    (hzero : ∀ path nested, keys ⊆ path → bounded 0 path = step nested path)
    (hsucc : ∀ bound path, bounded (bound + 1) path = step (bounded bound) path) (start : List String → β)
    {n bound : Nat} {path : List String} (hnodup : path.Nodup) (hpath : path ⊆ keys)
    (hn : keys.length < n + path.length) (hbound : keys.length ≤ bound + path.length) :
    step^[n] start path = bounded bound path := by
  have hsubperm := List.subperm_of_subset hnodup hpath
  induction n generalizing path bound with
  | zero =>
    have hle := hsubperm.length_le
    omega
  | succ n ih =>
    rw [Function.iterate_succ_apply']
    cases bound with
    | zero =>
      -- the path holds all names, so no call is nested
      rw [Nat.zero_add] at hbound
      exact (hzero path _ (hsubperm.perm_of_length_le hbound).symm.subset).symm
    | succ bound =>
      rw [hsucc]
      refine hlocal path _ _ fun name hname hnot => ?_
      have hnodup' := List.nodup_cons.2 ⟨hnot, hnodup⟩
      have hpath' := List.cons_subset.2 ⟨hname, hpath⟩
      refine ih hnodup' hpath' ?_ ?_ (List.subperm_of_subset hnodup' hpath')
      · rw [List.length_cons]
        omega
      · rw [List.length_cons]
        omega

end

theorem mem_names_of_lookup {α : Type} {entries : List (String × α)} {name : String} {a : α}
    (h : entries.lookup name = some a) : name ∈ entries.map (·.1) :=
  List.mem_map.2 ⟨(name, a), Compiler.mem_of_lookup h, rfl⟩

/-! ### Variables -/

namespace Variables

/-- Finds the value of a variable, given the variables whose values are being found. -/
abbrev Finder := List String → List Char → StateT (List (String × List Char)) (Except Fault) (List Char)

variable {table : List (String × String)}

/-- The value of a variable, given how the values of the variables in its body are found. -/
def valueStep (table : List (String × String)) (nested : Finder) : Finder := fun visiting chars => do
  let name := String.ofList chars
  match (← get).lookup name with
  | some value => return value
  | none =>
    if visiting.contains name then throw (.recursiveVariable name)
    else match table.lookup name with
      | none => throw (.unknownVariable name (visiting.head?.getD ""))
      | some body => do
        let value ← substitute (nested (name :: visiting)) body.toList
        modify ((name, value) :: ·)
        return value

theorem valueStep_congr (visiting : List String) (nested other : Finder)
    (h : ∀ name ∈ table.map (·.1), name ∉ visiting → nested (name :: visiting) = other (name :: visiting)) :
    valueStep table nested visiting = valueStep table other visiting := by
  funext chars
  unfold valueStep
  refine bind_congr fun found => ?_
  cases found.lookup (String.ofList chars) with
  | some value => rfl
  | none =>
    refine ite_congr rfl (fun _ => rfl) fun hnot => ?_
    cases hbody : table.lookup (String.ofList chars) with
    | none => rfl
    | some body =>
      have hnested := h _ (mem_names_of_lookup hbody) fun hmem => hnot (List.contains_iff_mem.2 hmem)
      rw [hnested]

/-- Where all variables are being found, no further one is. -/
theorem valueIn_zero (visiting : List String) (nested : Finder) (h : table.map (·.1) ⊆ visiting) :
    valueIn table 0 visiting = valueStep table nested visiting := by
  funext chars
  unfold valueIn valueStep
  refine bind_congr fun found => ?_
  dsimp only
  cases found.lookup (String.ofList chars) with
  | some value => rfl
  | none =>
    refine ite_congr rfl (fun _ => rfl) fun hnot => ?_
    cases hbody : table.lookup (String.ofList chars) with
    | none => rfl
    | some body => exact absurd (List.contains_iff_mem.2 (h (mem_names_of_lookup hbody))) hnot

theorem valueIn_succ (bound : Nat) (visiting : List String) :
    valueIn table (bound + 1) visiting = valueStep table (valueIn table bound) visiting := by
  funext chars
  unfold valueStep
  rewrite [valueIn]
  refine bind_congr fun found => ?_
  cases found.lookup (String.ofList chars) with
  | some value => rfl
  | none =>
    refine ite_congr rfl (fun _ => rfl) fun _ => ?_
    cases table.lookup (String.ofList chars) <;> rfl

/-- The variables of a table with their values, given how a value is found. -/
def valuesBy (value : List Char → StateT (List (String × List Char)) (Except Fault) (List Char))
    (table : List (String × String)) :
    StateT (List (String × List Char)) (Except Fault) (List (String × List Char)) :=
  table.mapM fun v => do return (v.1, ← value v.1.toList)

/-- The values of variables are not nested deeper than there are variables. -/
theorem iterate_valueStep {n : Nat} (hn : table.length < n) (deeper : Finder) :
    (valueStep table)^[n] deeper [] = valueIn table table.length [] := by
  have hlength : (table.map (·.1)).length = table.length := List.length_map _
  refine iterate_eq_bounded valueStep_congr valueIn_zero valueIn_succ deeper
    List.nodup_nil (List.nil_subset _) ?_ ?_
  · omega
  · omega

end Variables

/-! ### Contexts -/

namespace Compiler

/-- Compiles the rules of a context, given the contexts whose rules are being compiled and the context that
names it. -/
abbrev Lister := List String → (usedIn name : String) → CompileM (List Rule)

variable {p : Plan}

/-- The rules of a context, given how those of the contexts that it includes are compiled. -/
def rulesStep (p : Plan) (nested : Lister) : Lister := fun including usedIn name => do
  match (← get).done.lookup name with
  | some rules => return rules
  | none =>
    if including.contains name then fail (.recursiveInclude name)
    else match p.contexts.lookup name with
      | none => fail (.unknownContext name usedIn)
      | some items =>
        let rules ← compileItems p (nested (name :: including)) name items
        modify fun s => { s with done := (name, rules) :: s.done }
        return rules

theorem rulesStep_congr (including : List String) (nested other : Lister)
    (h : ∀ name ∈ p.contexts.map (·.1), name ∉ including →
      nested (name :: including) = other (name :: including)) :
    rulesStep p nested including = rulesStep p other including := by
  funext usedIn name
  unfold rulesStep
  refine bind_congr fun s => ?_
  cases s.done.lookup name with
  | some rules => rfl
  | none =>
    refine ite_congr rfl (fun _ => rfl) fun hnot => ?_
    cases hitems : p.contexts.lookup name with
    | none => rfl
    | some items =>
      have hnested := h _ (mem_names_of_lookup hitems) fun hmem => hnot (List.contains_iff_mem.2 hmem)
      rw [hnested]

/-- Where the rules of all contexts are being compiled, those of no further one are. -/
theorem rulesOf_zero (including : List String) (nested : Lister) (h : p.contexts.map (·.1) ⊆ including) :
    rulesOf p 0 including = rulesStep p nested including := by
  funext usedIn name
  unfold rulesOf rulesStep
  refine bind_congr fun s => ?_
  cases s.done.lookup name with
  | some rules => rfl
  | none =>
    refine ite_congr rfl (fun _ => rfl) fun hnot => ?_
    cases hitems : p.contexts.lookup name with
    | none => rfl
    | some items => exact absurd (List.contains_iff_mem.2 (h (mem_names_of_lookup hitems))) hnot

theorem rulesOf_succ (bound : Nat) (including : List String) :
    rulesOf p (bound + 1) including = rulesStep p (rulesOf p bound) including := by
  funext usedIn name
  unfold rulesStep
  rewrite [rulesOf]
  refine bind_congr fun s => ?_
  cases s.done.lookup name with
  | some rules => rfl
  | none =>
    refine ite_congr rfl (fun _ => rfl) fun _ => ?_
    cases p.contexts.lookup name <;> rfl

/-- The rules of contexts are not nested deeper than there are contexts. -/
theorem iterate_rulesStep {n : Nat} (hn : p.contexts.length < n) (deeper : Lister) :
    (rulesStep p)^[n] deeper [] = rulesOf p p.contexts.length [] := by
  have hlength : (p.contexts.map (·.1)).length = p.contexts.length := List.length_map _
  refine iterate_eq_bounded rulesStep_congr rulesOf_zero rulesOf_succ deeper
    List.nodup_nil (List.nil_subset _) ?_ ?_
  · omega
  · omega

/-- Compile the contexts that have a name, given how the rules of a context are compiled. -/
def compileContextsBy (rules : Plan → (usedIn name : String) → CompileM (List Rule)) (p : Plan) :
    List (String × List Item) → CompileM Unit
  | [] => return ()
  | (name, items) :: rest => do
    let about := About.ofItems items
    let front := if name = "prototype" then [] else p.prototypeFor about
    let rules' ← rules p name name
    let id ← lift (p.lookup name name)
    fill id ⟨name, about.metaScope, about.metaContentScope, front ++ rules'⟩
    compileContextsBy rules p rest

/-- Compile all contexts, given how the rules of a context are compiled. -/
def compileAllBy (rules : Plan → (usedIn name : String) → CompileM (List Rule)) (p : Plan) : CompileM Unit := do
  if (p.contexts.lookup "prototype").isSome then
    let proto ← rules p "prototype" "prototype"
    compileContextsBy rules { p with prototype := some proto } p.contexts
  else compileContextsBy rules p p.contexts

section
variable {rules : Plan → (usedIn name : String) → CompileM (List Rule)} {contexts : List (String × List Item)}

theorem compileContextsBy_eq
    (h : ∀ p : Plan, p.contexts = contexts → rules p = rulesOf p p.contexts.length []) (hp : p.contexts = contexts)
    (rest : List (String × List Item)) : compileContextsBy rules p rest = compileContexts p rest := by
  induction rest with
  | nil => rfl
  | cons c rest ih => rw [compileContextsBy, compileContexts, ih, h p hp]

theorem compileAllBy_eq
    (h : ∀ p : Plan, p.contexts = contexts → rules p = rulesOf p p.contexts.length []) (hp : p.contexts = contexts) :
    compileAllBy rules p = compileAll p := by
  unfold compileAllBy compileAll
  refine ite_congr rfl (fun _ => ?_) fun _ => compileContextsBy_eq h hp _
  rw [h p hp]
  exact bind_congr fun proto => compileContextsBy_eq (p := { p with prototype := some proto }) h hp _

end

end Compiler

/-! ### Definitions -/

/-- Compile a definition.  Calls for the values of variables and for the rules of contexts that are nested
deeper than `n` are answered as given. -/
def Definition.compileNested (n : Nat) (deeperValue : Variables.Finder) (deeperRules : Compiler.Lister)
    (d : Definition) : Except Fault Grammar := do
  match d.contexts.findIdx? (·.1 == "main") with
  | none => throw (.missingMain d.name)
  | some main =>
    let value := (Variables.valueStep d.vars)^[n] deeperValue []
    let (values, _) ← (Variables.valuesBy value d.vars).run []
    let ((), compiler) ← (Compiler.compileAllBy (fun p => (Compiler.rulesStep p)^[n] deeperRules [])
      ⟨d.contexts, ⟨values⟩, none⟩).run (.start d.contexts)
    return ⟨d.name, ⟨d.scope⟩, d.fileExtensions, d.hidden, compiler.table, d.contexts.map (·.1), main⟩

/-- **No call is nested deeper than there are variables and contexts.** -/
theorem compileNested_eq {d : Definition} {n : Nat} (hvars : d.vars.length < n) (hcontexts : d.contexts.length < n)
    (deeperValue : Variables.Finder) (deeperRules : Compiler.Lister) :
    d.compileNested n deeperValue deeperRules = d.compile := by
  have hrules : ∀ p : Plan, p.contexts = d.contexts →
      (Compiler.rulesStep p)^[n] deeperRules [] = Compiler.rulesOf p p.contexts.length [] :=
    fun p hp => Compiler.iterate_rulesStep (hp ▸ hcontexts) deeperRules
  unfold Definition.compileNested Definition.compile
  rw [Variables.iterate_valueStep hvars]
  cases d.contexts.findIdx? (·.1 == "main") with
  | none => rfl
  | some main =>
    unfold Variables.resolve
    dsimp only
    rw [bind_assoc]
    refine bind_congr fun r => ?_
    rw [pure_bind, Compiler.compileAllBy_eq hrules rfl]

/-- **Each compilation ends, and a cycle of inclusions is refused.**  Beyond some depth it does not matter what
nested calls would do, since there are none, so the compilation is the same as with no bound on the depth.  If
the items of a context include another one, and so on back to the first, it fails. -/
theorem compileNested_eq_and_error_of_includes {d : Definition} (hnames : (d.contexts.map (·.1)).Nodup) :
    (∃ depth, ∀ n, depth ≤ n → ∀ deeperValue deeperRules, d.compileNested n deeperValue deeperRules = d.compile) ∧
      ∀ name, Relation.TransGen (Includes d.contexts) name name → ∃ f, d.compile = .error f := by
  constructor
  · refine ⟨d.vars.length + d.contexts.length + 1, fun n hn deeperValue deeperRules => ?_⟩
    exact compileNested_eq (by omega) (by omega) deeperValue deeperRules
  · intro name hcycle
    have hdraws : Relation.TransGen (Draws d.contexts) name name := by
      refine Relation.TransGen.mono ?_ _ _ hcycle
      rintro context other ⟨items, hitems, hother⟩
      exact ⟨items, hitems, .here hother⟩
    cases hcompile : d.compile with
    | error f => exact ⟨f, rfl⟩
    | ok g => exact absurd hdraws (not_draws_of_compile hnames hcompile name)

theorem compileNested_eq_and_error_of_includes_circular : (circular.contexts.map (·.1)).Nodup ∧
    Relation.TransGen (Includes circular.contexts) "a" "a" ∧
      (∃ depth, ∀ n, depth ≤ n → ∀ deeperValue deeperRules,
        circular.compileNested n deeperValue deeperRules = circular.compile) ∧
      ∃ f, circular.compile = .error f := by
  have hnames : (circular.contexts.map (·.1)).Nodup := by decide
  have hcycle : Relation.TransGen (Includes circular.contexts) "a" "a" :=
    .tail (.single ⟨_, rfl, List.mem_singleton_self (Item.incl "b")⟩) ⟨_, rfl, List.mem_singleton_self (Item.incl "a")⟩
  obtain ⟨hends, hrefuses⟩ := compileNested_eq_and_error_of_includes hnames
  exact ⟨hnames, hcycle, hends, hrefuses "a" hcycle⟩

end Listfile.Grammar
