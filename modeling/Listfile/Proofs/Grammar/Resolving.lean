import Listfile.Proofs.Grammar.Mentioning
import Listfile.Proofs.Grammar.Nesting

/-!
# What variables stand for

A variable stands for its body, with what the variables in it stand for in place of their placeholders.  This
gives each variable at most one text, in whatever order variables are looked at, and it gives each of them one
if no placeholder names an unknown variable and no variable uses itself.

* `Uses`: the body of a variable mentions another one.
* `ValueOf`: what a variable stands for.
* `Resolvable`: all variables stand for some text.
* `failsBy_valueStep`, `valueOf_of_valueStep`: one call for a value, given what nested calls do.
* `failsBy_valueIn`, `findsValues_valueIn`: the same for calls nested in each other.
* **`resolve_exact`**: a table is resolved exactly if it can be, and then to what its variables stand for; else
  the fault names a variable that uses itself, or one that is unknown and where it is used.
-/

namespace Listfile.Grammar

/-- The body of a variable holds a placeholder for another one. -/
def Uses (table : List (String × String)) (name other : String) : Prop :=
  ∃ body, table.lookup name = some body ∧ Mentions body.toList other.toList

/-- All placeholders name variables, and no variable uses itself, be it through others. -/
structure Resolvable (table : List (String × String)) : Prop where
  known : ∀ name other, Uses table name other → ∃ body, table.lookup other = some body
  acyclic : ∀ name, ¬Relation.TransGen (Uses table) name name

/-- **What a variable stands for**: its body, with what the variables in it stand for in their place. -/
inductive ValueOf (table : List (String × String)) : String → List Char → Prop
  | ofBody {name body : String} {values : List Char → List Char} : table.lookup name = some body →
      (∀ other, Piece.var other ∈ pieces body.toList → ValueOf table (String.ofList other) (values other)) →
      ValueOf table name ((pieces body.toList).flatMap (Piece.textWith values))

section
variable {table other : List (String × String)} {name : String} {value : List Char}

/-! ### One text for each variable -/

theorem ValueOf.exists_body (h : ValueOf table name value) : ∃ body, table.lookup name = some body := by
  cases h with
  | ofBody hbody _ => exact ⟨_, hbody⟩

/-- What a variable uses stands for some text if it does. -/
theorem ValueOf.of_uses {used : String} (h : ValueOf table name value) (huses : Uses table name used) :
    ∃ inner, ValueOf table used inner := by
  obtain ⟨body, hbody, hmentions⟩ := huses
  cases h with
  | ofBody hbody' hvalues =>
    cases hbody.symm.trans hbody'
    have hinner := hvalues used.toList (mem_pieces_iff.2 hmentions)
    rw [String.ofList_toList] at hinner
    exact ⟨_, hinner⟩

theorem flatMap_textWith_congr {ps : List Piece} {values values' : List Char → List Char}
    (h : ∀ name, Piece.var name ∈ ps → values name = values' name) :
    ps.flatMap (Piece.textWith values) = ps.flatMap (Piece.textWith values') := by
  refine List.flatMap_congr fun p hp => ?_
  cases p with
  | char c => rfl
  | var name => exact h name hp

/-- **A variable stands for one text.** -/
theorem ValueOf.unique {value' : List Char} (h : ValueOf table name value) (h' : ValueOf table name value') :
    value = value' := by
  induction h generalizing value' with
  | ofBody hbody _ ih =>
    cases h' with
    | ofBody hbody' hvalues' =>
      cases hbody.symm.trans hbody'
      exact flatMap_textWith_congr fun used hused => ih used hused (hvalues' used hused)

/-- What variables stand for depends on their bodies, not on the order of these. -/
theorem ValueOf.congr (hbodies : ∀ name, other.lookup name = table.lookup name) (h : ValueOf table name value) :
    ValueOf other name value := by
  induction h with
  | ofBody hbody _ ih => exact .ofBody ((hbodies _).trans hbody) ih

/-- What stands for some text does not use itself. -/
theorem ValueOf.acyclic (h : ValueOf table name value) : ¬Relation.TransGen (Uses table) name name := by
  induction h with
  | @ofBody name body values hbody _ ih =>
    intro hcycle
    obtain ⟨next, hfirst, hback⟩ := Relation.TransGen.head'_iff.1 hcycle
    obtain ⟨body', hbody', hnext⟩ := hfirst
    cases hbody.symm.trans hbody'
    have hinner := ih next.toList (mem_pieces_iff.2 hnext)
    rw [String.ofList_toList] at hinner
    exact hinner (.tail' hback ⟨body, hbody, hnext⟩)

/-- If all variables stand for some text, the table can be resolved. -/
theorem Resolvable.of_valueOf (h : ∀ name body, table.lookup name = some body → ∃ value, ValueOf table name value) :
    Resolvable table := by
  constructor
  · rintro name used ⟨body, hbody, hmentions⟩
    obtain ⟨value, hvalue⟩ := h name body hbody
    obtain ⟨inner, hinner⟩ := hvalue.of_uses ⟨body, hbody, hmentions⟩
    exact hinner.exists_body
  · intro name hcycle
    obtain ⟨next, ⟨body, hbody, -⟩, -⟩ := Relation.TransGen.head'_iff.1 hcycle
    obtain ⟨value, hvalue⟩ := h name body hbody
    exact hvalue.acyclic hcycle

/-- The texts that variables stand for, as a function of their names. -/
theorem exists_values (table : List (String × String)) :
    ∃ values : String → List Char, ∀ name value, ValueOf table name value → value = values name := by
  have hvalue : ∀ name, ∃ text, ∀ value, ValueOf table name value → value = text := by
    intro name
    by_cases h : ∃ text, ValueOf table name text
    · obtain ⟨text, htext⟩ := h
      exact ⟨text, fun value hvalue => hvalue.unique htext⟩
    · exact ⟨[], fun value hvalue => absurd ⟨value, hvalue⟩ h⟩
  exact Classical.axiomOfChoice hvalue

end

/-! ### Faults -/

/-- What the fault says of variables is so. -/
def Fault.Refutes (table : List (String × String)) : Fault → Prop
  | .recursiveVariable name => Relation.TransGen (Uses table) name name
  | .unknownVariable name usedIn => Uses table usedIn name ∧ table.lookup name = none
  | _ => False

theorem Fault.Refutes.not_resolvable {table : List (String × String)} {f : Fault} (h : f.Refutes table) :
    ¬Resolvable table := by
  intro hresolvable
  cases f with
  | recursiveVariable name => exact hresolvable.acyclic name h
  | unknownVariable name usedIn =>
    obtain ⟨body, hbody⟩ := hresolvable.known usedIn name h.1
    rw [h.2] at hbody
    cases hbody
  | _ => exact h

namespace Variables

section
variable {table : List (String × String)} {nested : Finder} {visiting : List String} {chars : List Char}

/-- What a call for a value fails by.  Each variable of the path uses the one that was met next, the last one
that the call is for, and the path begins with a variable. -/
theorem failsBy_valueStep (hstart : visiting = [] → ∃ body, table.lookup (String.ofList chars) = some body)
    (hpath : (String.ofList chars :: visiting).IsChain fun later earlier => Uses table earlier later)
    (hnested : String.ofList chars ∉ visiting → (∃ body, table.lookup (String.ofList chars) = some body) →
      ∀ used, Uses table (String.ofList chars) (String.ofList used) →
        FailsBy (nested (String.ofList chars :: visiting) used) (Fault.Refutes table)) :
    FailsBy (valueStep table nested visiting chars) (Fault.Refutes table) := by
  unfold valueStep
  refine FailsBy.get.bind fun found => ?_
  split
  · exact .pure
  · split
    · rename_i hmem
      exact .throw (transGen_of_isChain hpath (List.contains_iff_mem.1 hmem))
    · rename_i hnot
      split
      · rename_i hunknown
        refine .throw ?_
        cases visiting with
        | nil =>
          obtain ⟨body, hbody⟩ := hstart rfl
          rw [hunknown] at hbody
          cases hbody
        | cons usedIn visiting => exact ⟨(List.isChain_cons_cons.1 hpath).1, hunknown⟩
      · rename_i body hbody
        refine (failsBy_substitute fun used hused => ?_).bind fun value => FailsBy.modify.bind fun _ => .pure
        refine hnested (fun hmem => hnot (List.contains_iff_mem.2 hmem)) ⟨body, hbody⟩ used ⟨body, hbody, ?_⟩
        rw [String.toList_ofList]
        exact mem_pieces_iff.1 hused

/-- What calls fail by that are nested no deeper than there are variables which the path does not hold. -/
theorem failsBy_valueIn (bound : Nat) (hnodup : visiting.Nodup) (hknown : visiting ⊆ table.map (·.1))
    (hbound : table.length ≤ bound + visiting.length)
    (hstart : visiting = [] → ∃ body, table.lookup (String.ofList chars) = some body)
    (hpath : (String.ofList chars :: visiting).IsChain fun later earlier => Uses table earlier later) :
    FailsBy (valueIn table bound visiting chars) (Fault.Refutes table) := by
  induction bound generalizing visiting chars with
  | zero =>
    -- the path holds all variables, so no call is nested
    have hlength : (table.map (·.1)).length ≤ visiting.length := by
      rw [List.length_map]
      omega
    have hall := ((List.subperm_of_subset hnodup hknown).perm_of_length_le hlength).symm.subset
    rw [valueIn_zero visiting (fun _ _ => pure []) hall]
    exact failsBy_valueStep hstart hpath fun _ _ _ _ => .pure
  | succ bound ih =>
    rw [valueIn_succ]
    refine failsBy_valueStep hstart hpath fun hnot hbody used huses => ?_
    obtain ⟨body, hbody⟩ := hbody
    refine ih (List.nodup_cons.2 ⟨hnot, hnodup⟩) (List.cons_subset.2 ⟨mem_names_of_lookup hbody, hknown⟩) ?_
      nofun (hpath.cons_cons huses)
    rw [List.length_cons]
    omega

end

/-! ### Values -/

/-- Steps in a row that keep an invariant, if each of them results in what is expected. -/
theorem eq_map_of_mapM {ε σ α β : Type} {f : α → StateT σ (Except ε) β} {I : σ → Prop} {g : α → β} {P : α → Prop}
    {as : List α} {bs : List β} {s s' : σ}
    (h : ∀ a ∈ as, ∀ s b s', I s → f a s = .ok (b, s') → I s' ∧ b = g a ∧ P a) (hs : I s)
    (hmap : as.mapM f s = .ok (bs, s')) : I s' ∧ bs = as.map g ∧ ∀ a ∈ as, P a := by
  induction as generalizing bs s with
  | nil =>
    cases hmap
    exact ⟨hs, rfl, List.forall_mem_nil _⟩
  | cons a as ih =>
    obtain ⟨ha, has⟩ := List.forall_mem_cons.1 h
    rw [List.mapM_cons] at hmap
    obtain ⟨⟨b, s₁⟩, hb, hmap⟩ := bind_eq_ok.1 hmap
    obtain ⟨⟨bs', s₂⟩, hbs, hmap⟩ := bind_eq_ok.1 hmap
    cases hmap
    obtain ⟨hs₁, rfl, hP⟩ := ha s b s₁ hs hb
    obtain ⟨hs₂, rfl, hPs⟩ := ih has hs₁ hbs
    exact ⟨hs₂, rfl, List.forall_mem_cons.2 ⟨hP, hPs⟩⟩

variable {table : List (String × String)} {found found' : List (String × List Char)} {value : List Char}

/-- What has been found is what variables stand for. -/
def Sound (table : List (String × String)) (found : List (String × List Char)) : Prop :=
  ∀ v ∈ found, ValueOf table v.1 v.2

/-- Calls of the finder find what variables stand for. -/
def FindsValues (table : List (String × String)) (find : List Char → StateT (List (String × List Char))
    (Except Fault) (List Char)) : Prop :=
  ∀ chars found value found', Sound table found → find chars found = .ok (value, found') →
    Sound table found' ∧ ValueOf table (String.ofList chars) value

/-- The text of a body, with what nested calls find in place of placeholders. -/
theorem exists_of_substitute {find : List Char → StateT (List (String × List Char)) (Except Fault) (List Char)}
    (hfind : FindsValues table find) (hfound : Sound table found) {text : List Char}
    (h : substitute find text found = .ok (value, found')) :
    Sound table found' ∧ ∃ values : List Char → List Char, value = (pieces text).flatMap (Piece.textWith values) ∧
      ∀ used, Piece.var used ∈ pieces text → ValueOf table (String.ofList used) (values used) := by
  obtain ⟨values, hvalues⟩ := exists_values table
  obtain ⟨⟨parts, _⟩, hparts, h⟩ := bind_eq_ok.1 h
  cases h
  have hpieces : Sound table found' ∧
      parts = (pieces text).map (Piece.textWith fun used => values (String.ofList used)) ∧
      ∀ piece ∈ pieces text, ∀ used, piece = .var used →
        ValueOf table (String.ofList used) (values (String.ofList used)) := by
    refine eq_map_of_mapM ?_ hfound hparts
    intro piece _ found part found'' hfound hpart
    cases piece with
    | char c =>
      cases hpart
      exact ⟨hfound, rfl, fun _ => Piece.noConfusion⟩
    | var used =>
      obtain ⟨hfound'', hvalue⟩ := hfind used found part found'' hfound hpart
      obtain rfl := hvalues _ _ hvalue
      refine ⟨hfound'', rfl, fun used' hused => ?_⟩
      cases hused
      exact hvalue
  obtain ⟨hfound', rfl, hpieces⟩ := hpieces
  exact ⟨hfound', _, List.flatMap_def.symm, fun used hused => hpieces _ hused used rfl⟩

/-- A call finds what the variable stands for, if the calls nested in it do. -/
theorem valueOf_of_valueStep {nested : Finder} {visiting : List String}
    (hnested : ∀ name, FindsValues table (nested (name :: visiting))) :
    FindsValues table (valueStep table nested visiting) := by
  intro chars found value found' hfound h
  have hget (f : List (String × List Char) → StateT (List (String × List Char)) (Except Fault) (List Char)) :
      (get >>= f) found = f found found := rfl
  unfold valueStep at h
  rw [hget] at h
  cases hknown : found.lookup (String.ofList chars) with
  | some known =>
    rw [hknown] at h
    cases h
    exact ⟨hfound, hfound _ (Compiler.mem_of_lookup hknown)⟩
  | none =>
    rw [hknown] at h
    dsimp only at h
    split at h
    · cases h
    · cases hbody : table.lookup (String.ofList chars) with
      | none =>
        rw [hbody] at h
        cases h
      | some body =>
        rw [hbody] at h
        obtain ⟨⟨value', found₁⟩, hbodyValue, h⟩ := bind_eq_ok.1 h
        obtain ⟨hfound₁, values, rfl, hvalues⟩ := exists_of_substitute (hnested _) hfound hbodyValue
        cases h
        have hvalue := ValueOf.ofBody hbody hvalues
        exact ⟨List.forall_mem_cons.2 ⟨hvalue, hfound₁⟩, hvalue⟩

/-- However deep calls are nested, what they find is what variables stand for. -/
theorem findsValues_iterate {deeper : Finder} (hdeeper : ∀ visiting, FindsValues table (deeper visiting)) (n : Nat)
    (visiting : List String) : FindsValues table ((valueStep table)^[n] deeper visiting) := by
  induction n generalizing visiting with
  | zero => exact hdeeper visiting
  | succ n ih =>
    rw [Function.iterate_succ_apply']
    exact valueOf_of_valueStep fun name => ih _

theorem findsValues_valueIn (table : List (String × String)) :
    FindsValues table (valueIn table table.length []) := by
  rw [← iterate_valueStep (Nat.lt_succ_self _) fun _ _ => throw (.recursiveVariable "")]
  refine findsValues_iterate (fun visiting chars found value found' _ h => ?_) _ _
  cases h

/-! ### Tables -/

theorem exists_body_of_mem {v : String × String} (h : v ∈ table) : ∃ body, table.lookup v.1 = some body := by
  cases hbody : table.lookup v.1 with
  | some body => exact ⟨body, rfl⟩
  | none =>
    have hne := List.lookup_eq_none_iff.1 hbody v h
    simp at hne

theorem lookup_map_fst (g : String → List Char) (name : String) :
    (table.map fun v => (v.1, g v.1)).lookup name = (table.lookup name).map fun _ => g name := by
  induction table with
  | nil => rfl
  | cons v table ih =>
    obtain ⟨key, body⟩ := v
    rw [List.map_cons, List.lookup_cons, List.lookup_cons, ih]
    cases hkey : name == key with
    | true =>
      rw [eq_of_beq hkey]
      rfl
    | false => rfl

/-- What the fault says with which a table is refused is so. -/
theorem refutes_of_resolve {f : Fault} (h : resolve table = .error f) : f.Refutes table := by
  have hvalues : FailsBy (valuesOf table) (Fault.Refutes table) := by
    refine .mapM fun v hv => FailsBy.bind ?_ fun value => .pure
    refine failsBy_valueIn _ List.nodup_nil (List.nil_subset _) (Nat.le_refl _) (fun _ => ?_) (.singleton _)
    rw [String.ofList_toList]
    exact exists_body_of_mem hv
  rcases error_of_bind h with hrun | ⟨r, -, h⟩
  · exact hvalues [] f hrun
  · cases h

/-- Variables of a table that is accepted stand for their values. -/
theorem exists_of_resolve {vs : Variables} (h : resolve table = .ok vs) :
    ∃ values : String → List Char, (∀ name, vs.get? name = (table.lookup name).map fun _ => values name) ∧
      ∀ name body, table.lookup name = some body → ValueOf table name (values name) := by
  obtain ⟨values, hvalues⟩ := exists_values table
  have hentry : ∀ v ∈ table, ∀ found entry found', Sound table found →
      (do return (v.1, ← valueIn table table.length [] v.1.toList) :
        StateT (List (String × List Char)) (Except Fault) (String × List Char)) found = .ok (entry, found') →
      Sound table found' ∧ entry = (v.1, values v.1) ∧ ValueOf table v.1 (values v.1) := by
    intro v _ found entry found' hfound hentry
    obtain ⟨⟨value, found₁⟩, hvalue, hentry⟩ := bind_eq_ok.1 hentry
    cases hentry
    obtain ⟨hfound₁, hvalue⟩ := findsValues_valueIn table _ _ _ _ hfound hvalue
    rw [String.ofList_toList] at hvalue
    obtain rfl := hvalues _ _ hvalue
    exact ⟨hfound₁, rfl, hvalue⟩
  obtain ⟨⟨entries, found⟩, hentries, h⟩ := bind_eq_ok.1 h
  cases h
  obtain ⟨-, rfl, hsound⟩ := eq_map_of_mapM hentry (List.forall_mem_nil _) hentries
  exact ⟨values, lookup_map_fst values, fun name body hbody => hsound _ (Compiler.mem_of_lookup hbody)⟩

/-- **The values of a table that is accepted are what its variables stand for.** -/
theorem get?_eq_some_iff {vs : Variables} (h : resolve table = .ok vs) {name : String} {value : List Char} :
    vs.get? name = some value ↔ ValueOf table name value := by
  obtain ⟨values, hget, hvalues⟩ := exists_of_resolve h
  rw [hget]
  constructor
  · intro hvalue
    obtain ⟨body, hbody, rfl⟩ := Option.map_eq_some_iff.1 hvalue
    exact hvalues name body hbody
  · intro hvalue
    obtain ⟨body, hbody⟩ := hvalue.exists_body
    rw [hbody, (hvalues name body hbody).unique hvalue]
    rfl

/-- **A table is accepted exactly if it can be resolved.** -/
theorem resolve_ok_iff : (∃ vs, resolve table = .ok vs) ↔ Resolvable table := by
  constructor
  · rintro ⟨vs, h⟩
    obtain ⟨values, -, hvalues⟩ := exists_of_resolve h
    exact .of_valueOf fun name body hbody => ⟨_, hvalues name body hbody⟩
  · intro hresolvable
    cases h : resolve table with
    | ok vs => exact ⟨vs, rfl⟩
    | error f => exact absurd hresolvable (refutes_of_resolve h).not_resolvable

/-- Resolve a table.  Calls for values that are nested deeper than `n` are answered as given. -/
def resolveNested (n : Nat) (deeper : Finder) (table : List (String × String)) : Except Fault Variables := do
  return ⟨(← (valuesBy ((valueStep table)^[n] deeper []) table).run []).1⟩

/-- No call is nested deeper than there are variables. -/
theorem resolveNested_eq {n : Nat} (hn : table.length < n) (deeper : Finder) :
    resolveNested n deeper table = resolve table := by
  unfold resolveNested
  rw [iterate_valueStep hn]
  rfl

/-- The value that is put in the place of a placeholder. -/
def valueFor (vs : Variables) (used : List Char) : List Char := (vs.get? (String.ofList used)).getD []

/-- Each variable has its body for its value, with the values of the variables in it in their place. -/
def Resolves (vs : Variables) (table : List (String × String)) : Prop :=
  ∀ name, vs.get? name = (table.lookup name).map fun body =>
    (pieces body.toList).flatMap (Piece.textWith vs.valueFor)

theorem resolves_of_resolve {vs : Variables} (h : resolve table = .ok vs) : vs.Resolves table := by
  obtain ⟨values, hget, hvalues⟩ := exists_of_resolve h
  intro name
  cases hbody : table.lookup name with
  | none =>
    rw [hget, hbody]
    rfl
  | some body =>
    refine (get?_eq_some_iff h).2 (.ofBody hbody fun used hused => ?_)
    have huses : Uses table name (String.ofList used) :=
      ⟨body, hbody, by rw [String.toList_ofList]; exact mem_pieces_iff.1 hused⟩
    obtain ⟨inner, hinner⟩ := (hvalues name body hbody).of_uses huses
    rw [valueFor, (get?_eq_some_iff h).2 hinner]
    exact hinner

/-- **The values of variables.**  A table is accepted exactly if each placeholder in a body names a variable of
the table and no variable uses itself, be it through others.  Then each variable has the text for its value
that its body becomes when the values of the variables in it are put in their place, whatever the order of the
table.  Else the fault names a variable that uses itself, or an unknown one and a variable whose body mentions
it.  Nested calls end: what those deeper than some depth would do does not matter. -/
theorem resolve_exact (table : List (String × String)) :
    ((∃ vs, resolve table = .ok vs) ↔ Resolvable table) ∧
      (∀ vs, resolve table = .ok vs → vs.Resolves table ∧
        ∀ other, (∀ name, other.lookup name = table.lookup name) →
          ∃ vs', resolve other = .ok vs' ∧ vs'.get? = vs.get?) ∧
      (∀ f, resolve table = .error f → f.Refutes table) ∧
      ∃ depth, ∀ n, depth ≤ n → ∀ deeper, resolveNested n deeper table = resolve table := by
  refine ⟨resolve_ok_iff, fun vs h => ⟨resolves_of_resolve h, fun other hbodies => ?_⟩,
    fun f => refutes_of_resolve, table.length + 1, fun n hn => resolveNested_eq hn⟩
  obtain ⟨values, -, hvalues⟩ := exists_of_resolve h
  have hother : Resolvable other := .of_valueOf fun name body hbody =>
    ⟨_, (hvalues name body ((hbodies name).symm.trans hbody)).congr hbodies⟩
  obtain ⟨vs', h'⟩ := resolve_ok_iff.2 hother
  refine ⟨vs', h', funext fun name => Option.ext fun value => ?_⟩
  rw [get?_eq_some_iff h', get?_eq_some_iff h]
  exact ⟨.congr fun name => (hbodies name).symm, .congr hbodies⟩

end Variables

end Listfile.Grammar
