import Listfile.Catalog
import Mathlib.Data.List.Forall2
import Mathlib.Data.List.Induction
import Mathlib.Data.Option.Basic

/-!
# Grammars for paths

The tables of a catalog forget which grammars were taken over by later ones.  What they answer is said here by
the history of the catalog: the grammars that were added, in order.

* `ofList`: the catalog after a history.
* `EqualUpToCase`: texts that differ in the case of letters of ASCII at most; `lower_eq_lower_iff`.
* `LatestAt`: the grammar that was added last of those with a property.
* `lookup_ofList`: a table leads to the latest grammar that lists a key.
* `Answers`, `Concerns`: the grammar that a history has for a path, and the grammars that matter for it.
* **`forPath?_ofList`**: what is found for a path, after any history.
-/

namespace Listfile.Catalog

/-- The catalog to which the grammars were added, in this order. -/
def ofList (gs : List Grammar) : Catalog := gs.foldl add empty

theorem ofList_concat (gs : List Grammar) (g : Grammar) : ofList (gs ++ [g]) = (ofList gs).add g := by
  rw [ofList, List.foldl_append]
  rfl

@[simp] theorem grammars_ofList (gs : List Grammar) : (ofList gs).grammars = gs.toArray := by
  induction gs using List.reverseRecOn with
  | nil => rfl
  | append_singleton gs g ih =>
    rw [ofList_concat]
    show (ofList gs).grammars.push g = _
    rw [ih, List.push_toArray]

/-! ### Letters in upper and in lower case -/

/-- The first is a capital letter of ASCII, and the second its small letter. -/
def IsCapitalOf (c d : Char) : Prop := 65 ≤ c.toNat ∧ c.toNat ≤ 90 ∧ d.toNat = c.toNat + 32

/-- The same character, or the same letter of ASCII in upper and in lower case. -/
def SameLetter (c d : Char) : Prop := c = d ∨ IsCapitalOf c d ∨ IsCapitalOf d c

/-- The texts are equal, but for the case of letters of ASCII. -/
def EqualUpToCase (s t : String) : Prop := List.Forall₂ SameLetter s.toList t.toList

theorem toNat_toLower (c : Char) :
    c.toLower.toNat = if 65 ≤ c.toNat ∧ c.toNat ≤ 90 then c.toNat + 32 else c.toNat := by
  have hcapital : (c.val ≥ 'A'.val ∧ c.val ≤ 'Z'.val) ↔ 65 ≤ c.toNat ∧ c.toNat ≤ 90 := Iff.rfl
  unfold Char.toLower
  by_cases h : c.val ≥ 'A'.val ∧ c.val ≤ 'Z'.val
  · rw [dif_pos h, if_pos (hcapital.1 h)]
    show (c.val + ('a'.val - 'A'.val)).toNat = _
    have hle := (hcapital.1 h).2
    rw [UInt32.toNat_add]
    show (c.toNat + 32) % 4294967296 = _
    omega
  · rw [dif_neg h, if_neg (fun h' => h (hcapital.2 h'))]

theorem toLower_eq_toLower_iff {c d : Char} : c.toLower = d.toLower ↔ SameLetter c d := by
  rw [SameLetter, IsCapitalOf, IsCapitalOf, ← Char.toNat_inj, ← Char.toNat_inj, toNat_toLower, toNat_toLower]
  split <;> split <;> omega

/-- Texts are equal in lower case exactly if they are equal but for the case of letters. -/
theorem lower_eq_lower_iff {s t : String} : lower s = lower t ↔ EqualUpToCase s t := by
  rw [lower, lower, String.ofList_inj, ← List.forall₂_eq_eq_eq, List.forall₂_map_left_iff,
    List.forall₂_map_right_iff, EqualUpToCase]
  simp only [toLower_eq_toLower_iff]

@[simp] theorem lower_lower (s : String) : lower (lower s) = lower s := by
  have hletters : Char.toLower ∘ Char.toLower = Char.toLower := by
    funext c
    rw [Function.comp_apply, ← Char.toNat_inj, toNat_toLower, toNat_toLower]
    split
    · split <;> omega
    · rfl
  rw [lower, lower, String.toList_ofList, List.map_map, hletters]

/-! ### The latest grammar -/

/-- The grammar at the place is the last with the property. -/
def LatestAt (p : Grammar → Prop) (gs : List Grammar) (i : Nat) (g : Grammar) : Prop :=
  ∃ before after, gs = before ++ g :: after ∧ before.length = i ∧ p g ∧ ∀ h ∈ after, ¬p h

section
variable {p : Grammar → Prop} {gs : List Grammar} {g h : Grammar} {i : Nat}

/-- The grammar stands at the place. -/
theorem LatestAt.getElem? (hi : LatestAt p gs i g) : gs[i]? = some g := by
  obtain ⟨before, after, rfl, rfl, -, -⟩ := hi
  simp

theorem LatestAt.exists_mem (hi : LatestAt p gs i g) : ∃ h ∈ gs, p h := by
  obtain ⟨before, after, rfl, -, hp, -⟩ := hi
  exact ⟨g, by simp, hp⟩

theorem not_latestAt_nil : ¬LatestAt p [] i g := by
  rintro ⟨before, after, hnil, -⟩
  simp at hnil

/-- The grammar that is added is the latest if it has the property; else the latest stays the same. -/
theorem latestAt_concat :
    LatestAt p (gs ++ [g]) i h ↔ (p g ∧ i = gs.length ∧ h = g) ∨ (¬p g ∧ LatestAt p gs i h) := by
  constructor
  · rintro ⟨before, after, hgs, rfl, hp, hafter⟩
    rcases List.eq_nil_or_concat after with rfl | ⟨after, last, rfl⟩
    · obtain ⟨rfl, hlast⟩ := List.append_inj' hgs rfl
      cases hlast
      exact .inl ⟨hp, rfl, rfl⟩
    · rw [List.concat_eq_append, ← List.cons_append, ← List.append_assoc] at hgs
      obtain ⟨rfl, hlast⟩ := List.append_inj' hgs rfl
      cases hlast
      refine .inr ⟨hafter g (by simp), before, after, rfl, rfl, hp, ?_⟩
      exact fun x hx => hafter x (by simp [hx])
  · rintro (⟨hp, rfl, rfl⟩ | ⟨hp, before, after, rfl, rfl, hph, hafter⟩)
    · exact ⟨gs, [], rfl, rfl, hp, List.forall_mem_nil _⟩
    · refine ⟨before, after ++ [g], by simp, rfl, hph, ?_⟩
      intro x hx
      rcases List.mem_append.1 hx with hx | hx
      · exact hafter x hx
      · rwa [List.mem_singleton.1 hx]

theorem latestAt_concat_of_not (hp : ¬p g) : LatestAt p (gs ++ [g]) i h ↔ LatestAt p gs i h := by
  rw [latestAt_concat]
  simp [hp]

/-- If any grammar has the property, there is a latest one. -/
theorem exists_latestAt_iff : (∃ i g, LatestAt p gs i g) ↔ ∃ h ∈ gs, p h := by
  refine ⟨fun ⟨i, g, hi⟩ => hi.exists_mem, ?_⟩
  induction gs using List.reverseRecOn with
  | nil => simp
  | append_singleton gs g ih =>
    rintro ⟨h, hmem, hp⟩
    by_cases hg : p g
    · exact ⟨_, g, latestAt_concat.2 (.inl ⟨hg, rfl, rfl⟩)⟩
    · rcases List.mem_append.1 hmem with hmem | hmem
      · obtain ⟨i, latest, hi⟩ := ih ⟨h, hmem, hp⟩
        exact ⟨i, latest, (latestAt_concat_of_not hg).2 hi⟩
      · exact absurd (List.mem_singleton.1 hmem ▸ hp) hg

end

/-! ### Tables -/

/-- The grammar lists the name, exactly. -/
def ListsName (name : String) (g : Grammar) : Prop := name ∈ g.fileExtensions

/-- The grammar lists the extension, but for the case of letters. -/
def ListsExtension (extension : String) (g : Grammar) : Prop :=
  ∃ file ∈ g.fileExtensions, EqualUpToCase file extension

/-- The entries of the grammar that was added last come first. -/
theorem lookup_entries (norm : String → String) (files : List String) (id : Nat)
    (table : List (String × Nat)) (key : String) [Decidable (∃ file ∈ files, norm file = key)] :
    ((files.reverse.map fun file => (norm file, id)) ++ table).lookup key
      = if ∃ file ∈ files, norm file = key then some id else table.lookup key := by
  rw [List.lookup_append]
  cases hfound : (files.reverse.map fun file => (norm file, id)).lookup key with
  | none =>
    rw [if_neg, Option.none_or]
    rintro ⟨file, hfile, rfl⟩
    have hmem : (norm file, id) ∈ files.reverse.map fun file => (norm file, id) :=
      List.mem_map_of_mem (List.mem_reverse.2 hfile)
    simpa using List.lookup_eq_none_iff.1 hfound _ hmem
  | some found =>
    obtain ⟨front, behind, hentries, -⟩ := List.lookup_eq_some_iff.1 hfound
    obtain ⟨file, hfile, hentry⟩ : ∃ file ∈ files.reverse, (norm file, id) = (key, found) :=
      List.mem_map.1 (hentries ▸ by simp)
    obtain ⟨hkey, rfl⟩ := Prod.mk.inj hentry
    rw [if_pos ⟨file, List.mem_reverse.1 hfile, hkey⟩, Option.some_or]

/-- **A table leads to the latest grammar that lists the key**, if each grammar that is added puts its entries in
front. -/
theorem lookup_ofList {table : Catalog → List (String × Nat)} {norm : String → String}
    (hempty : table empty = [])
    (hadd : ∀ c g, table (add c g)
      = (g.fileExtensions.reverse.map fun file => (norm file, c.grammars.size)) ++ table c)
    (gs : List Grammar) (key : String) (i : Nat) :
    (table (ofList gs)).lookup key = some i ↔
      ∃ g, LatestAt (fun g => ∃ file ∈ g.fileExtensions, norm file = key) gs i g := by
  classical
  induction gs using List.reverseRecOn with
  | nil =>
    show (table empty).lookup key = some i ↔ _
    rw [hempty]
    exact ⟨nofun, fun ⟨g, hg⟩ => absurd hg not_latestAt_nil⟩
  | append_singleton gs g ih =>
    rw [ofList_concat, hadd, lookup_entries, grammars_ofList]
    simp only [latestAt_concat]
    by_cases hlists : ∃ file ∈ g.fileExtensions, norm file = key
    · simp only [hlists, if_true, true_and, not_true_eq_false, false_and, or_false, List.size_toArray,
        Option.some.injEq, exists_and_left, exists_eq, and_true]
      exact eq_comm
    · simpa [hlists] using ih

variable {gs : List Grammar} {i : Nat}

theorem lookup_fileNames (name : String) :
    (ofList gs).fileNames.lookup name = some i ↔ ∃ g, LatestAt (ListsName name) gs i g := by
  have hlists : ListsName name = fun g => ∃ file ∈ g.fileExtensions, id file = name := by
    funext g
    simp [ListsName]
  rw [hlists]
  exact lookup_ofList rfl (fun _ _ => rfl) gs name i

theorem lookup_extensions (key : String) :
    (ofList gs).extensions.lookup key = some i ↔
      ∃ g, LatestAt (fun g => ∃ file ∈ g.fileExtensions, lower file = key) gs i g :=
  lookup_ofList rfl (fun _ _ => rfl) gs key i

/-- Looking for an extension as it is written changes nothing: the entries are in lower case. -/
theorem extensionPlace?_eq (extension : String) :
    (ofList gs).extensionPlace? extension = (ofList gs).extensions.lookup (lower extension) := by
  rw [extensionPlace?]
  cases hfound : (ofList gs).extensions.lookup extension with
  | none => rfl
  | some i =>
    obtain ⟨g, hlatest⟩ := (lookup_extensions extension).1 hfound
    obtain ⟨_, _, file, _, rfl⟩ := hlatest.exists_mem
    rw [lower_lower, hfound]
    rfl

theorem extensionPlace?_eq_some_iff (extension : String) :
    (ofList gs).extensionPlace? extension = some i ↔ ∃ g, LatestAt (ListsExtension extension) gs i g := by
  rw [extensionPlace?_eq, lookup_extensions]
  simp only [lower_eq_lower_iff]
  rfl

/-! ### Paths -/

/-- The grammar, at its place in the history, is the one for the path: the latest that lists the name of the
file, or else, if none does, the latest that lists its extension. -/
inductive Answers (gs : List Grammar) (path : String) (i : Nat) (g : Grammar) : Prop
  | name {name : List Char} (hname : fileName? path.toList = some name)
    (h : LatestAt (ListsName (String.ofList name)) gs i g) : Answers gs path i g
  | extension {name extension : List Char} (hname : fileName? path.toList = some name)
    (hnone : ∀ h ∈ gs, ¬ListsName (String.ofList name) h) (hextension : nameExtension? name = some extension)
    (h : LatestAt (ListsExtension (String.ofList extension)) gs i g) : Answers gs path i g

/-- The grammar lists the name of the file at the path, or its extension. -/
inductive Concerns (path : String) (g : Grammar) : Prop
  | name {name : List Char} (hname : fileName? path.toList = some name)
    (h : ListsName (String.ofList name) g) : Concerns path g
  | extension {name extension : List Char} (hname : fileName? path.toList = some name)
    (hextension : nameExtension? name = some extension)
    (h : ListsExtension (String.ofList extension) g) : Concerns path g

variable {path : String} {g h : Grammar}

theorem lookup_fileNames_eq_none_iff {name : String} :
    (ofList gs).fileNames.lookup name = none ↔ ∀ h ∈ gs, ¬ListsName name h := by
  rw [Option.eq_none_iff_forall_ne_some]
  simp only [ne_eq, lookup_fileNames]
  rw [← not_exists, exists_latestAt_iff]
  simp

/-- The place that is found is that of the grammar that answers: the tables are tried in the order in which names
count more than extensions. -/
theorem place?_eq_some_iff : (ofList gs).place? path = some i ↔ ∃ g, Answers gs path i g := by
  constructor
  · intro hplace
    obtain ⟨name, hname, hplace⟩ := Option.bind_eq_some_iff.1 hplace
    rcases (Option.orElse_eq_some _ _ _).1 hplace with hlookup | ⟨hlookup, hplace⟩
    · obtain ⟨g, hlatest⟩ := (lookup_fileNames _).1 hlookup
      exact ⟨g, .name hname hlatest⟩
    · obtain ⟨extension, hextension, hplace⟩ := Option.bind_eq_some_iff.1 hplace
      obtain ⟨g, hlatest⟩ := (extensionPlace?_eq_some_iff _).1 hplace
      exact ⟨g, .extension hname (lookup_fileNames_eq_none_iff.1 hlookup) hextension hlatest⟩
  · rintro ⟨g, ⟨hname, hlatest⟩ | ⟨hname, hnone, hextension, hlatest⟩⟩
    · refine Option.bind_eq_some_iff.2 ⟨_, hname, (Option.orElse_eq_some _ _ _).2 (.inl ?_)⟩
      exact (lookup_fileNames _).2 ⟨g, hlatest⟩
    · refine Option.bind_eq_some_iff.2 ⟨_, hname, (Option.orElse_eq_some _ _ _).2 (.inr ⟨?_, ?_⟩)⟩
      · exact lookup_fileNames_eq_none_iff.2 hnone
      · exact Option.bind_eq_some_iff.2 ⟨_, hextension, (extensionPlace?_eq_some_iff _).2 ⟨g, hlatest⟩⟩

theorem Answers.getElem? (ha : Answers gs path i g) : gs[i]? = some g := by
  cases ha with
  | name _ h => exact h.getElem?
  | extension _ _ _ h => exact h.getElem?

theorem forPath?_eq_some_iff : (ofList gs).forPath? path = some g ↔ ∃ i, Answers gs path i g := by
  have hplaces : (ofList gs).forPath? path = some g ↔ ∃ i, (ofList gs).place? path = some i ∧ gs[i]? = some g := by
    simp [forPath?, Option.bind_eq_some_iff]
  rw [hplaces]
  simp only [place?_eq_some_iff]
  constructor
  · rintro ⟨i, ⟨latest, ha⟩, hi⟩
    obtain rfl := Option.some.inj (ha.getElem?.symm.trans hi)
    exact ⟨i, ha⟩
  · rintro ⟨i, ha⟩
    exact ⟨i, ⟨g, ha⟩, ha.getElem?⟩

/-- A grammar that lists neither the name nor the extension does not change which grammar answers. -/
theorem answers_concat_of_not (hg : ¬Concerns path g) : Answers (gs ++ [g]) path i h ↔ Answers gs path i h := by
  have hnames {name} (hname : fileName? path.toList = some name) : ¬ListsName (String.ofList name) g :=
    fun hlists => hg (.name hname hlists)
  have hextensions {name extension} (hname : fileName? path.toList = some name)
      (hextension : nameExtension? name = some extension) : ¬ListsExtension (String.ofList extension) g :=
    fun hlists => hg (.extension hname hextension hlists)
  constructor
  · rintro (⟨hname, h⟩ | ⟨hname, hnone, hextension, h⟩)
    · exact .name hname ((latestAt_concat_of_not (hnames hname)).1 h)
    · exact .extension hname (fun x hx => hnone x (List.mem_append_left _ hx)) hextension
        ((latestAt_concat_of_not (hextensions hname hextension)).1 h)
  · rintro (⟨hname, h⟩ | ⟨hname, hnone, hextension, h⟩)
    · exact .name hname ((latestAt_concat_of_not (hnames hname)).2 h)
    · refine .extension hname ?_ hextension ((latestAt_concat_of_not (hextensions hname hextension)).2 h)
      intro x hx
      rcases List.mem_append.1 hx with hx | hx
      · exact hnone x hx
      · exact List.mem_singleton.1 hx ▸ hnames hname

/-- **A catalog answers by its history.**  Whatever grammars were added, the grammar for a path is the latest that
lists the name of the file, or else the latest that lists its extension, and there is none otherwise.  The
place that the tables give is one of a grammar.  A grammar more changes the answer only if it lists the name or
the extension. -/
theorem forPath?_ofList (gs : List Grammar) (path : String) :
    (∀ g, (ofList gs).forPath? path = some g ↔ ∃ i, Answers gs path i g) ∧
    (∀ i, (ofList gs).place? path = some i → i < (ofList gs).grammars.size) ∧
    ∀ g, ¬Concerns path g → ((ofList gs).add g).forPath? path = (ofList gs).forPath? path := by
  refine ⟨fun g => forPath?_eq_some_iff, ?_, ?_⟩
  · intro i hi
    obtain ⟨g, ha⟩ := place?_eq_some_iff.1 hi
    rw [grammars_ofList, List.size_toArray]
    exact (List.getElem?_eq_some_iff.1 ha.getElem?).1
  · intro g hg
    rw [← ofList_concat]
    refine Option.ext fun found => ?_
    rw [forPath?_eq_some_iff, forPath?_eq_some_iff]
    simp only [answers_concat_of_not hg]

/-- The name counts more than what was added later for the extension, and of that the latest counts. -/
example :
    let c := ofList [{ (default : Grammar) with name := "A", fileExtensions := ["a.TXT", "txt"] },
      { (default : Grammar) with name := "B", fileExtensions := ["Txt"] }]
    ["d/a.TXT", "A.TXT", "b.txt", ".txt", "txt"].map (fun path => (c.forPath? path).map Grammar.name)
      = [some "A", some "B", some "B", none, some "A"] := by decide +kernel

end Listfile.Catalog
