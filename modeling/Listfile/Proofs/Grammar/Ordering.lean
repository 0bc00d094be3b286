import Listfile.Proofs.Grammar.Compiling
import Mathlib.Data.Option.Basic

/-!
# The order of captures

The captures of a rule are sorted when a definition is read, and compiling keeps their order.

* `pairwise_sortEntries`, `mem_of_mem_sortEntries`: sorted entries are in order, and none is made up.
* `Rule.Ordered`: the captures of a rule stand in the order of their groups.
* `every_of_read`, `yields_ofDocument`: those of a rule, and of all rules of a definition, that is read do.
* **`ordered_of_ofYaml`**: those of all rules of a grammar that is read do.
-/

namespace Listfile

/-! ### Sorted entries -/

section
variable {α β : Type} {before : α → α → Bool} {key : α} {value : β} {entries : List (α × β)} {e : α × β}

theorem mem_of_mem_insertSorted (h : e ∈ insertSorted before key value entries) :
    e = (key, value) ∨ e ∈ entries := by
  induction entries with
  | nil => exact .inl (List.mem_singleton.1 h)
  | cons first rest ih =>
    rw [insertSorted] at h
    split at h
    · exact List.mem_cons.1 h
    split at h
    · rcases List.mem_cons.1 h with rfl | h
      · exact .inr (.head _)
      · exact (ih h).imp_right (.tail _)
    · exact (List.mem_cons.1 h).imp_right (.tail _)

/-- Sorting makes up no entries. -/
theorem mem_of_mem_sortEntries (h : e ∈ sortEntries before entries) : e ∈ entries := by
  have hsorted : ∀ e ∈ sortEntries before entries, e ∈ entries := by
    refine List.foldlRecOn (motive := fun sorted => ∀ e ∈ sorted, e ∈ entries) entries _
      (List.forall_mem_nil _) fun sorted ih e he d hd => ?_
    rcases mem_of_mem_insertSorted hd with rfl | hd
    · exact he
    · exact ih d hd
  exact hsorted e h

end

section
variable {β : Type} {before : Nat → Nat → Bool} {key : Nat} {value : β} {entries : List (Nat × β)}

theorem pairwise_insertSorted (hbefore : ∀ a b, before a b = true ↔ a < b)
    (h : entries.Pairwise fun c d => c.1 < d.1) :
    (insertSorted before key value entries).Pairwise fun c d => c.1 < d.1 := by
  induction entries with
  | nil => exact List.pairwise_singleton _ _
  | cons first rest ih =>
    obtain ⟨hfirst, hrest⟩ := List.pairwise_cons.1 h
    rw [insertSorted]
    split
    · rename_i hlt
      rw [hbefore] at hlt
      exact List.pairwise_cons.2 ⟨List.forall_mem_cons.2 ⟨hlt, fun e he => Nat.lt_trans hlt (hfirst e he)⟩, h⟩
    · rename_i hge
      rw [hbefore, Nat.not_lt] at hge
      split
      · rename_i hlt
        rw [hbefore] at hlt
        refine List.pairwise_cons.2 ⟨fun e he => ?_, ih hrest⟩
        rcases mem_of_mem_insertSorted he with rfl | he
        · exact hlt
        · exact hfirst e he
      · rename_i hle
        rw [hbefore, Nat.not_lt] at hle
        exact List.pairwise_cons.2 ⟨fun e he => Nat.lt_of_le_of_lt hle (hfirst e he), hrest⟩

/-- Sorted entries are in the order of their keys, each key once. -/
theorem pairwise_sortEntries (hbefore : ∀ a b, before a b = true ↔ a < b) (entries : List (Nat × β)) :
    (sortEntries before entries).Pairwise fun c d => c.1 < d.1 :=
  List.foldlRecOn entries _ List.Pairwise.nil fun _ h _ _ => pairwise_insertSorted hbefore h

end

namespace Grammar

/-! ### Captures that are read -/

/-- **The captures of the rule stand in the order of their groups**, each group once. -/
def Rule.Ordered (r : Rule) : Prop := r.captures.Pairwise fun c d => c.1 < d.1

/-- The captures of a definition stand in the order of their groups. -/
def SortsCaptures (captures : List (Nat × String)) (_ : Option Target) : Prop :=
  captures.Pairwise fun c d => c.1 < d.1

theorem sortsCaptures_capturesOf {v : Option Yaml.Value} {captures : List (Nat × String)} {set : Option Target}
    (h : capturesOf v = some captures) : SortsCaptures captures set := by
  unfold capturesOf at h
  split at h
  · cases h
    exact .nil
  · obtain ⟨entries, -, h⟩ := Option.bind_eq_some_iff.1 h
    cases h
    exact pairwise_sortEntries (fun a b => decide_eq_true_iff) entries
  · cases h

theorem every_of_optional {read : Yaml.Value → Option Target} {v : Option Yaml.Value} {target? : Option Target}
    (hread : ∀ v target, read v = some target → target.Every SortsCaptures)
    (h : optional read v = some target?) : everyEntered SortsCaptures target? := by
  unfold optional at h
  split at h
  · cases h
    exact True.intro
  · cases h
    exact True.intro
  · obtain ⟨target, htarget, rfl⟩ := Option.map_eq_some_iff.1 h
    exact hread _ target htarget

/-- The captures of a rule that is read are in order, if those in what it enters are. -/
theorem every_of_ruleOf {read : Yaml.Value → Option Target} {v : Yaml.Value} {item : Item}
    (hread : ∀ v target, read v = some target → target.Every SortsCaptures) (h : ruleOf read v = some item) :
    item.Every SortsCaptures := by
  obtain ⟨given, -, h⟩ := Option.bind_eq_some_iff.1 h
  split at h
  · obtain ⟨pattern, -, h⟩ := Option.bind_eq_some_iff.1 h
    obtain ⟨scope, -, h⟩ := Option.bind_eq_some_iff.1 h
    obtain ⟨captures, hcaptures, h⟩ := Option.bind_eq_some_iff.1 h
    obtain ⟨push, hpush, h⟩ := Option.bind_eq_some_iff.1 h
    obtain ⟨set, hset, h⟩ := Option.bind_eq_some_iff.1 h
    have hitem : ∃ pop, item = .rule pattern scope captures push set pop := by
      dsimp only at h
      split at h
      · cases h
        exact ⟨false, rfl⟩
      · obtain ⟨pop, -, h⟩ := Option.bind_eq_some_iff.1 h
        cases h
        exact ⟨pop, rfl⟩
    obtain ⟨pop, rfl⟩ := hitem
    rw [Item.Every]
    exact ⟨every_of_optional hread hpush, every_of_optional hread hset, sortsCaptures_capturesOf hcaptures⟩
  · cases h

theorem every_of_inclusionOf {v : Yaml.Value} {item : Item} (h : inclusionOf v = some item) :
    item.Every SortsCaptures := by
  obtain ⟨given, -, h⟩ := Option.bind_eq_some_iff.1 h
  split at h
  · obtain ⟨name, -, h⟩ := Option.bind_eq_some_iff.1 h
    cases h
    exact True.intro
  · cases h

theorem every_of_aboutOf {v : Yaml.Value} {item : Item} (h : aboutOf v = some item) :
    item.Every SortsCaptures := by
  obtain ⟨given, -, h⟩ := Option.bind_eq_some_iff.1 h
  split at h
  · obtain ⟨scope, -, h⟩ := Option.bind_eq_some_iff.1 h
    obtain ⟨content, -, h⟩ := Option.bind_eq_some_iff.1 h
    obtain ⟨proto, -, h⟩ := Option.bind_eq_some_iff.1 h
    cases h
    exact True.intro
  · cases h

theorem everyItem_iff {Q : List (Nat × String) → Option Target → Prop} {items : List Item} :
    everyItem Q items ↔ ∀ item ∈ items, item.Every Q := by
  induction items with
  | nil => exact iff_of_true True.intro (List.forall_mem_nil _)
  | cons item items ih => rw [everyItem, ih, List.forall_mem_cons]

/-- If several steps in a row succeed, what they result in comes from one of them each. -/
theorem exists_of_mem_mapM {α β : Type} {f : α → Option β} {as : List α} {bs : List β} (h : as.mapM f = some bs) :
    ∀ b ∈ bs, ∃ a ∈ as, f a = some b := by
  induction as generalizing bs with
  | nil =>
    cases h
    exact List.forall_mem_nil _
  | cons a as ih =>
    rw [List.mapM_cons] at h
    obtain ⟨b, hb, h⟩ := Option.bind_eq_some_iff.1 h
    obtain ⟨bs', hbs, h⟩ := Option.bind_eq_some_iff.1 h
    cases h
    refine List.forall_mem_cons.2 ⟨⟨a, .head _, hb⟩, fun b' hb' => ?_⟩
    obtain ⟨a', ha', hf⟩ := ih hbs b' hb'
    exact ⟨a', .tail _ ha', hf⟩

/-- The captures of all rules in items and targets that are read are in order. -/
theorem every_of_read (depth : Nat) :
    (∀ v item, itemOf depth v = some item → item.Every SortsCaptures) ∧
      ∀ v target, targetOf depth v = some target → target.Every SortsCaptures := by
  induction depth with
  | zero =>
    refine ⟨fun v item h => ?_, fun v target h => ?_⟩
    · rw [itemOf] at h
      cases h
    · rw [targetOf] at h
      cases h
  | succ depth ih =>
    obtain ⟨hitem, htarget⟩ := ih
    refine ⟨fun v item h => ?_, fun v target h => ?_⟩
    · rw [itemOf] at h
      rcases (Option.orElse_eq_some _ _ _).1 h with h | ⟨-, h⟩
      · rcases (Option.orElse_eq_some _ _ _).1 h with h | ⟨-, h⟩
        · exact every_of_ruleOf htarget h
        · exact every_of_inclusionOf h
      · exact every_of_aboutOf h
    · cases v with
      | text name =>
        rw [targetOf] at h
        cases h
        exact True.intro
      | list items =>
        rw [targetOf] at h
        split at h
        · cases h
          exact True.intro
        · obtain ⟨read, hread, rfl⟩ := Option.map_eq_some_iff.1 h
          rw [Target.Every, everyItem_iff]
          intro item hmem
          obtain ⟨v, -, hv⟩ := exists_of_mem_mapM hread item hmem
          exact hitem v item hv
      | _ =>
        rw [targetOf] at h
        · cases h
        all_goals nofun

/-! ### Definitions that are read -/

/-- Where reading succeeds, the result satisfies a condition. -/
def Yields {α : Type} (m : Yaml.ReadM α) (P : α → Prop) : Prop := ∀ s a s', m s = .ok (a, s') → P a

section
variable {α β : Type} {P : α → Prop} {R : β → Prop}

theorem Yields.pure {a : α} (h : P a) : Yields (Pure.pure a) P := by
  intro s b s' hm
  cases hm
  exact h

theorem Yields.throw (e : Yaml.Fault) : Yields (throw e) P := by
  intro s a s' hm
  cases hm

theorem yields_true (m : Yaml.ReadM α) : Yields m fun _ => True := fun _ _ _ _ => True.intro

theorem Yields.bind {m : Yaml.ReadM α} {f : α → Yaml.ReadM β} (hm : Yields m P)
    (hf : ∀ a, P a → Yields (f a) R) : Yields (m >>= f) R := by
  intro s b s' h
  obtain ⟨⟨a, s₁⟩, hms, h⟩ := bind_eq_ok.1 h
  exact hf a (hm s a s₁ hms) s₁ b s' h

theorem Yields.mapM {f : α → Yaml.ReadM β} {as : List α} (hf : ∀ a, Yields (f a) R) :
    Yields (as.mapM f) fun bs => ∀ b ∈ bs, R b := by
  induction as with
  | nil => exact .pure (List.forall_mem_nil _)
  | cons a as ih =>
    rw [List.mapM_cons]
    exact (hf a).bind fun b hb => ih.bind fun bs hbs => .pure (List.forall_mem_cons.2 ⟨hb, hbs⟩)

end

theorem yields_contextOf (d : Yaml.Document) (n : Yaml.Node) :
    Yields (contextOf d n) (everyItem SortsCaptures) := by
  have hitems : Yields (contextOf d n) fun items => ∀ item ∈ items, item.Every SortsCaptures := by
    refine (yields_true _).bind fun nodes _ => Yields.mapM fun node => (yields_true _).bind fun v _ => ?_
    split
    · rename_i item hitem
      exact .pure ((every_of_read _).1 v item hitem)
    · exact .throw _
  exact fun s items s' h => everyItem_iff.2 (hitems s items s' h)

/-- **The captures of all rules of a definition that is read are in order.** -/
theorem yields_ofDocument (d : Yaml.Document) :
    Yields (Definition.ofDocument d) fun definition => ∀ c ∈ definition.contexts, everyItem SortsCaptures c.2 := by
  have hcontexts : ∀ (fields : List (String × Yaml.Node)) (name scope : String) (fileExtensions : List String)
      (hidden : Bool) (vars : List (String × String)),
      Yields (do
        let contexts ← fields.mapM fun f => return (f.1, ← contextOf d f.2)
        return (⟨name, scope, fileExtensions, hidden, vars, sortByName contexts⟩ : Definition))
        fun definition => ∀ c ∈ definition.contexts, everyItem SortsCaptures c.2 := by
    intro fields name scope fileExtensions hidden vars
    refine (Yields.mapM (R := fun c => everyItem SortsCaptures c.2) fun f => ?_).bind fun contexts hcontexts => ?_
    · exact (yields_contextOf d f.2).bind fun items hitems => .pure hitems
    · exact .pure fun c hc => hcontexts c (mem_of_mem_sortEntries hc)
  unfold Definition.ofDocument
  -- the contexts come last, whatever of the other fields is given
  repeat' first
    | exact hcontexts _ _ _ _ _ _
    | split
    | refine (yields_true _).bind fun _ _ => ?_

/-- **The captures of all rules of a grammar that is read are in order.** -/
theorem ordered_of_ofYaml {text : String} {g : Grammar} (h : ofYaml text = .ok g) :
    ∀ c ∈ g.contexts, ∀ r ∈ c.rules, r.Ordered := by
  unfold ofYaml at h
  split at h
  · rename_i definition hdefinition
    obtain ⟨d, -, hread⟩ := bind_eq_ok.1 hdefinition
    obtain ⟨⟨_, s⟩, hrun, rfl⟩ := map_eq_ok.1 hread
    refine forall_rules_of_compile h (Q := SortsCaptures) ?_ (yields_ofDocument d _ _ _ hrun)
    intro pattern scope captures set action hsorted _
    exact List.pairwise_map.2 hsorted
  · cases h

end Grammar

end Listfile
