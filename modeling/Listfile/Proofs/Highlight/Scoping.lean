import Listfile.Proofs.Highlight.Walking

/-!
# Scopes of what opens and closes contexts

A match has the scopes of the contexts around it in front of its own.  They are composed from the stack as it
is before the match, in one way for each action.

* `Walk.emitted`: the tokens that a match adds to what has been found.
* `Token.Carries`: a token has the scopes of a context that has been entered.
* `infix_frontScopes`: the scopes of which contexts a match has in front.
* **`carries_emitted`**: a match carries the scopes of all contexts that are open before it or after it, except
  for the context that it replaces by others.
-/

namespace Listfile.Highlight

open Grammar

variable {g : Grammar} {base offset : Nat} {texts : List (Option (List Char))} {stack : Stack}
  {action : Action} {w : Walk} {place : Cursor} {hit : Hit} {f : Frame} {t : Token}

/-! ### What a match adds -/

/-- The tokens of a match, in the order in which they stand in the text. -/
def Walk.emitted (g : Grammar) (base : Nat) (w : Walk) (hit : Hit) : List Token :=
  segments base (frontScopes g w.stack hit.rule.action) hit.rule hit.whole.span
    (hit.captures.map fun c => c.map Capture.span)

theorem Walk.tokens_advance (hmatch : findMatch g w.stack place = some hit) :
    (w.advance g base place).findings.tokens = (w.emitted g base hit).reverse ++ w.findings.tokens := by
  unfold advance follow
  rw [hmatch]
  dsimp only
  split
  · rfl
  · split <;> rfl

theorem Walk.stack_advance_of_some (hmatch : findMatch g w.stack place = some hit) :
    (w.advance g base place).stack
      = (applyAction g (base + hit.whole.span.start) hit.texts w.stack hit.rule.action).1 := by
  rw [stack_advance, hmatch]

/-- A token of a match has the scopes in front first and then those of the rule. -/
theorem exists_scopes_of_mem_emitted (h : t ∈ w.emitted g base hit) :
    ∃ more, t.scopes = frontScopes g w.stack hit.rule.action ++ (hit.rule.scope ++ more) := by
  obtain ⟨piece, -, ht⟩ := List.mem_filterMap.1 h
  dsimp only at ht
  split at ht
  · cases ht
    exact ⟨_, List.append_assoc ..⟩
  · cases ht

/-! ### Scopes of contexts -/

/-- The token has all scopes of a context that has been entered, one behind the other. -/
def Token.Carries (g : Grammar) (t : Token) (f : Frame) : Prop :=
  (g.context f.context).metaScope <:+: t.scopes

theorem infix_metaScopes {ids : List Nat} {id : Nat} (h : id ∈ ids) :
    (g.context id).metaScope <:+: metaScopes g ids :=
  List.infix_of_mem_flatten (List.mem_map_of_mem h)

theorem infix_contentScopes (h : f ∈ stack) : (g.context f.context).metaScope <:+: contentScopes g stack := by
  have hmeta : (g.context f.context).metaScope <:+:
      (g.context f.context).metaScope ++ (g.context f.context).metaContentScope :=
    (List.prefix_append _ _).isInfix
  have hframe : (g.context f.context).metaScope ++ (g.context f.context).metaContentScope <:+:
      stack.reverse.flatMap fun f => (g.context f.context).metaScope ++ (g.context f.context).metaContentScope :=
    List.infix_of_mem_flatten (List.mem_map.2 ⟨f, List.mem_reverse.2 h, rfl⟩)
  exact (hmeta.trans hframe).trans (List.suffix_cons _ _).isInfix

/-- **What stands in front of a match**: the scopes of each context that is open after it, and of each one that
was open before, unless it is taken off to be replaced. -/
theorem infix_frontScopes (h : f ∈ (applyAction g offset texts stack action).1 ∨ f ∈ stack.tail ∨
      f ∈ stack ∧ ∀ targets, action ≠ .set targets) :
    (g.context f.context).metaScope <:+: frontScopes g stack action := by
  -- on the left and on the right of the scopes of a push or a set
  have hleft : ∀ {s ids}, f ∈ s → (g.context f.context).metaScope <:+: contentScopes g s ++ metaScopes g ids :=
    fun hf => (infix_contentScopes hf).trans (List.prefix_append _ _).isInfix
  have hright : ∀ {s ids}, f ∈ (ids.map fun id => Frame.mk id texts).reverse →
      (g.context f.context).metaScope <:+: contentScopes g s ++ metaScopes g ids := by
    intro s ids hf
    obtain ⟨id, hid, rfl⟩ := List.mem_map.1 (List.mem_reverse.1 hf)
    exact (infix_metaScopes hid).trans (List.suffix_append _ _).isInfix
  cases action with
  | stay =>
    have hf : f ∈ stack := by
      rcases h with hf | hf | ⟨hf, -⟩
      · exact hf
      · exact List.mem_of_mem_tail hf
      · exact hf
    exact infix_contentScopes hf
  | push targets =>
    rcases h with hf | hf | ⟨hf, -⟩
    · rcases List.mem_append.1 hf with hf | hf
      · exact hright hf
      · exact hleft hf
    · exact hleft (List.mem_of_mem_tail hf)
    · exact hleft hf
  | pop =>
    have hf : f ∈ stack := by
      rcases h with hf | hf | ⟨hf, -⟩
      · unfold applyAction at hf
        dsimp only at hf
        split at hf
        · rw [popFrame_eq] at hf
          exact List.mem_of_mem_drop hf
        · exact hf
      · exact List.mem_of_mem_tail hf
      · exact hf
    unfold frontScopes
    dsimp only
    split
    · rcases List.mem_cons.1 hf with rfl | hf
      · exact (List.suffix_append _ _).isInfix
      · exact (infix_contentScopes hf).trans (List.prefix_append _ _).isInfix
    · exact infix_contentScopes hf
  | set targets =>
    rcases h with hf | hf | ⟨-, hset⟩
    · unfold applyAction at hf
      rw [popFrame_eq, List.drop_one] at hf
      rcases List.mem_append.1 hf with hf | hf
      · exact hright hf
      · exact hleft hf
    · exact hleft hf
    · exact absurd rfl (hset targets)

/-! ### Tokens of a match -/

/-- **Which scopes the text of a match carries.**  Its tokens carry the scopes of all contexts that are open
after it.  They carry those of all contexts that were open before it, too, if and only if they carry those of a
context that is replaced by others; in front of a match which does that, there are the scopes of the contexts
below and of the new ones, but not of the one that is replaced. -/
theorem carries_emitted (base : Nat) (hmatch : findMatch g w.stack place = some hit) :
    (w.advance g base place).findings.tokens = (w.emitted g base hit).reverse ++ w.findings.tokens ∧
      (∀ t ∈ w.emitted g base hit, ∀ f, f ∈ (w.advance g base place).stack ∨ f ∈ w.stack.tail → t.Carries g f) ∧
      ((∀ t ∈ w.emitted g base hit, ∀ f, f ∈ w.stack ∨ f ∈ (w.advance g base place).stack → t.Carries g f) ↔
        ∀ targets, hit.rule.action = .set targets →
          ∀ t ∈ w.emitted g base hit, ∀ top ∈ w.stack.head?, t.Carries g top) ∧
      ∀ targets, hit.rule.action = .set targets → ∀ t ∈ w.emitted g base hit, ∃ more,
        t.scopes = contentScopes g w.stack.tail ++ metaScopes g targets ++ (hit.rule.scope ++ more) := by
  have hcarries : ∀ t ∈ w.emitted g base hit, ∀ f, (f ∈ (w.advance g base place).stack ∨ f ∈ w.stack.tail ∨
      f ∈ w.stack ∧ ∀ targets, hit.rule.action ≠ .set targets) → t.Carries g f := by
    intro t ht f hf
    obtain ⟨more, hscopes⟩ := exists_scopes_of_mem_emitted ht
    rw [Walk.stack_advance_of_some hmatch] at hf
    unfold Token.Carries
    rw [hscopes]
    exact (infix_frontScopes hf).trans (List.prefix_append _ _).isInfix
  refine ⟨Walk.tokens_advance hmatch, ?_, ⟨?_, ?_⟩, ?_⟩
  · intro t ht f hf
    exact hcarries t ht f (hf.imp_right .inl)
  · intro hall targets _ t ht top htop
    exact hall t ht top (.inl (List.mem_of_mem_head? htop))
  · intro hset t ht f hf
    rcases hf with hf | hf
    · by_cases hreplaces : ∃ targets, hit.rule.action = .set targets
      · obtain ⟨targets, htargets⟩ := hreplaces
        -- the context on top is the one that is replaced
        cases hstack : w.stack with
        | nil =>
          rw [hstack] at hf
          cases hf
        | cons top below =>
          rw [hstack] at hf hset
          rcases List.mem_cons.1 hf with rfl | hf
          · exact hset targets htargets t ht f rfl
          · refine hcarries t ht f (.inr (.inl ?_))
            rw [hstack]
            exact hf
      · exact hcarries t ht f (.inr (.inr ⟨hf, fun targets htargets => hreplaces ⟨targets, htargets⟩⟩))
    · exact hcarries t ht f (.inl hf)
  · intro targets htargets t ht
    obtain ⟨more, hscopes⟩ := exists_scopes_of_mem_emitted ht
    rw [htargets] at hscopes
    exact ⟨more, hscopes⟩

/-- A context that is entered, one that it is replaced by, and a rule that leaves that one. -/
def replacing : Definition :=
  ⟨"", "s", [], false, [], [("first", [.about (some "m.first") none none,
      .rule "b" (some "x") [] none (some (.named "second")) false]),
    ("main", [.rule "a" none [] (some (.named "first")) none false]),
    ("second", [.about (some "m.second") none none, .rule "c" none [] none none true])]⟩

/-- What enters a context carries its scopes. -/
theorem carries_emitted_replacing :
    ∃ (g : Grammar) (hit : Hit), replacing.compile = .ok g ∧
      findMatch g (.initial g) (.ofText "a".toList) = some hit ∧ hit.rule.action = .push [0] ∧
      ((Walk.start "a".toList (.initial g) ⟨[], []⟩).emitted g 0 hit).length = 1 ∧
      ∀ t ∈ (Walk.start "a".toList (.initial g) ⟨[], []⟩).emitted g 0 hit,
        t.Carries g ⟨0, hit.texts⟩ := by
  have hrun : replacing.compile.toOption.map (fun g =>
      (findMatch g (.initial g) (.ofText "a".toList)).map fun hit =>
        (hit.rule.action, ((Walk.start "a".toList (.initial g) ⟨[], []⟩).emitted g 0 hit).length))
      = some (some (.push [0], 1)) := by decide +kernel
  cases hcompile : replacing.compile with
  | error f =>
    rw [hcompile] at hrun
    cases hrun
  | ok g =>
    rw [hcompile] at hrun
    obtain ⟨hit, hmatch, hrun⟩ := Option.map_eq_some_iff.1 (Option.some.inj hrun)
    obtain ⟨haction, hlength⟩ := Prod.mk.inj hrun
    refine ⟨g, hit, rfl, hmatch, haction, hlength, fun t ht => ?_⟩
    refine (carries_emitted (w := .start "a".toList (.initial g) ⟨[], []⟩) 0 hmatch).2.1 t ht _ (.inl ?_)
    rw [Walk.stack_advance_of_some hmatch, haction]
    exact List.mem_cons_self

/-- **What replaces a context does not carry its scopes**, although what leaves a context does. -/
theorem not_forall_carries_emitted :
    ¬∀ (d : Definition) (g : Grammar), d.compile = .ok g → ∀ text base w place hit, Visits g text base w →
      w.place = some place → findMatch g w.stack place = some hit → ∀ t ∈ w.emitted g base hit,
        ∀ f, f ∈ w.stack ∨ f ∈ (w.advance g base place).stack →
          ∀ scope ∈ (g.context f.context).metaScope, scope ∈ t.scopes := by
  intro h
  have hrun : replacing.compile.toOption.map (fun g =>
      let w := (Walk.start "ab".toList (.initial g) ⟨[], []⟩).advance g 0 (.ofText "ab".toList)
      w.place.map fun place => (findMatch g w.stack place).map fun hit =>
        ((w.emitted g 0 hit).map Token.scopes, w.stack.head?.map fun f => (g.context f.context).metaScope))
      = some (some (some ([[⟨"s"⟩, ⟨"m.second"⟩, ⟨"x"⟩]], some [⟨"m.first"⟩]))) := by decide +kernel
  cases hcompile : replacing.compile with
  | error f =>
    rw [hcompile] at hrun
    cases hrun
  | ok g =>
    rw [hcompile] at hrun
    obtain ⟨place, hplace, hrun⟩ := Option.map_eq_some_iff.1 (Option.some.inj hrun)
    obtain ⟨hit, hmatch, hrun⟩ := Option.map_eq_some_iff.1 hrun
    obtain ⟨htokens, htop⟩ := Prod.mk.inj hrun
    obtain ⟨top, htop, hmeta⟩ := Option.map_eq_some_iff.1 htop
    obtain ⟨t, ht, hscopes⟩ : ∃ t ∈ ((Walk.start "ab".toList (.initial g) ⟨[], []⟩).advance g 0
        (.ofText "ab".toList)).emitted g 0 hit, t.scopes = [⟨"s"⟩, ⟨"m.second"⟩, ⟨"x"⟩] := by
      refine List.mem_map.1 ?_
      rw [htokens]
      exact List.mem_singleton_self _
    have hlines : splitLines "ab".toList = [] ++ "ab".toList :: [] := by decide
    have hvisits : Visits g "ab".toList 0 (.start "ab".toList (.initial g) ⟨[], []⟩) :=
      .line hlines rfl .refl
    have hcarried := h replacing g hcompile _ 0 _ place hit (hvisits.step rfl) hplace hmatch t ht top
      (.inl (List.mem_of_mem_head? htop)) ⟨"m.first"⟩ (by rw [hmeta]; exact List.mem_singleton_self _)
    rw [hscopes] at hcarried
    exact absurd hcarried (by decide)

end Listfile.Highlight
