import Listfile.Proofs.Highlight.Commanding

/-!
# Nested references

References may stand in each other to any depth.  Each of them has a context of its own, which is entered where it is
opened and left where it is closed.

* `Reference`: references, and the names that stand in them.
* `Reference.text`, `Reference.events`: how they are written, and what highlighting them does to the stack.
* `Comes.part`, `Comes.parts`: highlighting passes a reference, or several in a row.
* **`highlight_reference`**: a reference as the argument of a command.
-/

namespace Listfile.Highlight

open Grammar Regex Listfile.Tree

/-! ### References -/

/-- The forms of references. -/
inductive Form
  | normal
  | environment
  | cache
  | make
  | generator
deriving DecidableEq

namespace Form

/-- What opens a reference. -/
def opener : Form → String
  | normal => "$\x7b"
  | environment => "$ENV\x7b"
  | cache => "$CACHE\x7b"
  | make => "$("
  | generator => "$<"

/-- What closes it. -/
def closer : Form → Char
  | normal | environment | cache => '\x7d'
  | make => ')'
  | generator => '>'

/-- The name of its context. -/
def context : Form → String
  | normal => "variable_reference"
  | environment => "environment_reference"
  | cache => "cache_reference"
  | make => "make_reference"
  | generator => "generator_expression"

end Form

/-- Is the character one of those that names are made of? -/
def isNameChar (c : Char) : Bool := 'A' ≤ c && c ≤ 'Z' || '0' ≤ c && c ≤ '9' || c == '_'

/-- Is the text an upper case letter, and upper case letters, digits and low lines behind it? -/
def isName : List Char → Bool
  | [] => false
  | c :: cs => 'A' ≤ c && c ≤ 'Z' && cs.all isNameChar

/-- A name. -/
structure Name where
  text : List Char
  legal : isName text = true

/-- A reference with names and other references in it, or a name. -/
inductive Reference
  | name (n : Name)
  | node (form : Form) (parts : List Reference)

namespace Reference

mutual

/-- How a reference is written. -/
def text : Reference → List Char
  | name n => n.text
  | node form parts => form.opener.toList ++ (textOf parts ++ [form.closer])

/-- How references are written in a row. -/
def textOf : List Reference → List Char
  | [] => []
  | part :: parts => part.text ++ textOf parts

end

mutual

/-- The events of highlighting a reference at an offset: its context is entered at its opener, then come those of its
parts, and its context is left at its closer. -/
def events (offset : Nat) : Reference → List Event
  | name _ => []
  | node form parts =>
    let first := offset + byteLength form.opener.toList
    ⟨offset, .push, form.context⟩ :: (eventsOf first parts ++ [⟨first + byteLength (textOf parts), .pop, form.context⟩])

/-- The events of references in a row. -/
def eventsOf (offset : Nat) : List Reference → List Event
  | [] => []
  | part :: parts => part.events offset ++ eventsOf (offset + byteLength part.text) parts

end

end Reference

/-! ### Rules -/

namespace Form

/-- The place of its context among those of the grammar. -/
def id : Form → Nat
  | normal => 13
  | environment => 6
  | cache => 3
  | make => 11
  | generator => 8

/-- The rules of its context. -/
def sketches : Form → List Sketch
  | normal | environment | cache => referenceSketches "\x7d" escapeSketches
  | make => referenceSketches ")" []
  | generator => generatorSketches

end Form

section
variable {g : Grammar} {text rest : List Char} {n : Nat} {captures : List (Option (List Char))} {below : Stack}
  {events : List Event}

theorem IsListFiles.form (hg : IsListFiles g) (f : Form) :
    List.Forall₂ Obeys f.sketches (g.context f.id).rules ∧ (g.context f.id).name = f.context := by
  cases f <;> exact ⟨hg.obeys rfl rfl, hg.name rfl⟩

/-- References can be opened in a context with such rules. -/
def Hosts (ks : List Sketch) : Prop :=
  ∀ (f : Form) (more : List Char), ∃ others,
    ks.dropWhile (Sketch.excludes (f.opener.toList ++ more)) = ⟨.text f.opener, .push [f.id], []⟩ :: others

theorem hosts_arguments : Hosts argumentsSketches := by
  intro f more
  cases f <;> exact ⟨_, rfl⟩

theorem hosts_form (f : Form) : Hosts f.sketches := by
  intro f' more
  cases f <;> cases f' <;> exact ⟨_, rfl⟩

/-- Rules that begin with a character which is in no name do not match at a name. -/
theorem all_of_name (f : Form) {c d : Char} (hc : c = '$' ∨ c = f.closer) (hd : isNameChar d = true) (ds : List Char) :
    f.sketches.all (fun k => k.excludes (d :: ds) || k.staysOff [c]) = true := by
  refine all_of_first? (p := fun x => !isNameChar x) (by simp [hd]) ?_ ds
  rcases hc with rfl | rfl <;> cases f <;> decide

theorem Name.all_text (nm : Name) : nm.text.all isNameChar = true := by
  obtain ⟨text, hlegal⟩ := nm
  cases text with
  | nil => cases hlegal
  | cons c cs =>
    obtain ⟨hfirst, hmore⟩ := Bool.and_eq_true_iff.1 hlegal
    rw [List.all_cons, hmore, Bool.and_true, isNameChar, hfirst]
    rfl

theorem notMem_of_all {v : List Char} (hv : v.all isNameChar = true) {c : Char} (hc : isNameChar c = false) :
    c ∉ v := by
  intro hmem
  rw [List.all_eq_true.1 hv c hmem] at hc
  cases hc

theorem Form.isNameChar_closer (f : Form) : isNameChar f.closer = false := by cases f <;> decide

/-! ### Ways through references -/

/-- Names are passed without events, up to the next reference or the end of the one that they stand in. -/
theorem Comes.passName (hg : IsListFiles g) (f : Form) {v : List Char} (hv : v.all isNameChar = true) {c : Char}
    (hc : c = '$' ∨ c = f.closer) (h : Comes g text n (v ++ c :: rest) (⟨f.id, captures⟩ :: below) events) :
    Comes g text (n + byteLength v) (c :: rest) (⟨f.id, captures⟩ :: below) events := by
  have hout : isNameChar c = false := by
    rcases hc with rfl | rfl
    · decide
    · exact f.isNameChar_closer
  have hline : OneLine v := ⟨notMem_of_all hv (by decide), notMem_of_all hv (by decide)⟩
  exact h.pass (IsListFiles.form hg f).1 hline (notMem_of_all hv hout) fun d hd ds =>
    all_of_name f hc (List.all_eq_true.1 hv d hd) ds

/-- **A reference is passed** if what stands in it is. -/
theorem Comes.part (hg : IsListFiles g) {ks : List Sketch} {id : Nat}
    (hrules : List.Forall₂ Obeys ks (g.context id).rules) (hhosts : Hosts ks) (f : Form) (parts : List Reference)
    (hparts : ∀ {m : Nat} {captures' : List (Option (List Char))} {events' : List Event},
      Comes g text m (Reference.textOf parts ++ f.closer :: rest) (⟨f.id, captures'⟩ :: ⟨id, captures⟩ :: below)
          events' →
        Comes g text (m + byteLength (Reference.textOf parts)) (f.closer :: rest)
          (⟨f.id, captures'⟩ :: ⟨id, captures⟩ :: below) ((Reference.eventsOf m parts).reverse ++ events'))
    (h : Comes g text n ((Reference.node f parts).text ++ rest) (⟨id, captures⟩ :: below) events) :
    Comes g text (n + byteLength (Reference.node f parts).text) rest (⟨id, captures⟩ :: below)
      (((Reference.node f parts).events n).reverse ++ events) := by
  have hopener : OneLine f.opener.toList ∧ f.opener.toList ≠ [] := by cases f <;> decide
  obtain ⟨s, hs, hcloses⟩ : ∃ s : String, s.toList = [f.closer] ∧ ∀ more, ∃ others,
      f.sketches.dropWhile (Sketch.excludes (s.toList ++ more)) = ⟨.text s, .pop, []⟩ :: others := by
    cases f
    · exact ⟨"\x7d", rfl, fun _ => ⟨_, rfl⟩⟩
    · exact ⟨"\x7d", rfl, fun _ => ⟨_, rfl⟩⟩
    · exact ⟨"\x7d", rfl, fun _ => ⟨_, rfl⟩⟩
    · exact ⟨")", rfl, fun _ => ⟨_, rfl⟩⟩
    · exact ⟨">", rfl, fun _ => ⟨_, rfl⟩⟩
  have htext : (Reference.node f parts).text ++ rest
      = f.opener.toList ++ (Reference.textOf parts ++ f.closer :: rest) := by
    rw [Reference.text, List.append_assoc, List.append_assoc, List.singleton_append]
  rw [htext] at h
  obtain ⟨captures', hopened⟩ := h.matchText hrules hopener.1 hopener.2 (hhosts f)
  have hinside := hparts hopened
  rw [← List.singleton_append, ← hs] at hinside
  obtain ⟨captures'', hclosed⟩ := hinside.matchText (IsListFiles.form hg f).1 (by rw [hs]; cases f <;> decide)
    (by rw [hs]; exact List.cons_ne_nil _ _) hcloses
  rw [applyAction_pop, (IsListFiles.form hg f).2] at hclosed
  have hoffset : n + byteLength f.opener.toList + byteLength (Reference.textOf parts) + byteLength s.toList
      = n + byteLength (Reference.node f parts).text := by
    rw [Reference.text, byteLength_append, byteLength_append, hs]
    omega
  have hevents : ((Reference.node f parts).events n).reverse ++ events
      = ⟨n + byteLength f.opener.toList + byteLength (Reference.textOf parts), .pop, f.context⟩ ::
        ((Reference.eventsOf (n + byteLength f.opener.toList) parts).reverse ++
          ⟨n, .push, (g.context f.id).name⟩ :: events) := by
    rw [Reference.events, (IsListFiles.form hg f).2]
    simp
  rw [hoffset] at hclosed
  rw [hevents]
  exact hclosed

/-- **References in a row are passed**, with names before them. -/
theorem Comes.parts (hg : IsListFiles g) (f : Form) {v : List Char} (hv : v.all isNameChar = true)
    (parts : List Reference) {rest : List Char} {n : Nat} {captures : List (Option (List Char))} {below : Stack}
    {events : List Event}
    (h : Comes g text n (v ++ (Reference.textOf parts ++ f.closer :: rest)) (⟨f.id, captures⟩ :: below) events) :
    Comes g text (n + byteLength v + byteLength (Reference.textOf parts)) (f.closer :: rest)
      (⟨f.id, captures⟩ :: below) ((Reference.eventsOf (n + byteLength v) parts).reverse ++ events) := by
  match parts with
  | [] => exact h.passName hg f hv (.inr rfl)
  | .name nm :: parts =>
    have hall : (v ++ nm.text).all isNameChar = true := by rw [List.all_append, hv, nm.all_text]; rfl
    have htext : v ++ (Reference.textOf (.name nm :: parts) ++ f.closer :: rest)
        = v ++ nm.text ++ (Reference.textOf parts ++ f.closer :: rest) := by
      simp [Reference.textOf, Reference.text]
    rw [htext] at h
    have hdone := Comes.parts hg f hall parts h
    rw [byteLength_append, ← Nat.add_assoc] at hdone
    rw [Reference.textOf, Reference.text, byteLength_append, ← Nat.add_assoc]
    exact hdone
  | .node f' inner :: parts =>
    obtain ⟨cs, hcs⟩ : ∃ cs, (Reference.node f' inner).text = '$' :: cs := by
      rw [Reference.text]
      cases f' <;> exact ⟨_, rfl⟩
    have htext : v ++ (Reference.textOf (.node f' inner :: parts) ++ f.closer :: rest)
        = v ++ '$' :: (cs ++ (Reference.textOf parts ++ f.closer :: rest)) := by
      rw [Reference.textOf, hcs, List.append_assoc]
      rfl
    rw [htext] at h
    have hnamed := h.passName hg f hv (.inl rfl)
    rw [← List.cons_append, ← hcs] at hnamed
    have hpart := Comes.part hg (IsListFiles.form hg f).1 (hosts_form f) f' inner
      (fun h => Comes.parts hg f' (v := []) rfl inner h) hnamed
    have hdone := Comes.parts hg f (v := []) rfl parts hpart
    rw [Reference.textOf, Reference.eventsOf, byteLength_append, ← Nat.add_assoc, List.reverse_append,
      List.append_assoc]
    exact hdone
termination_by sizeOf parts

end

/-- **Nested references balance.**  Whatever references stand in a reference, and however deep: where it is the argument
of a command, each of them has its context entered at its own opener and left at its own closer, in the order in which
they are nested, and there are no other events but those of the command. -/
theorem highlight_reference (f : Form) (parts : List Reference) :
    ∃ g, cmake.compile = .ok g ∧
      (highlight g ("message(".toList ++ (Reference.node f parts).text ++ [')'])).events =
        ⟨0, .push, "arguments"⟩ :: ((Reference.node f parts).events 8 ++
          [⟨8 + byteLength (Reference.node f parts).text, .pop, "arguments"⟩]) ∧
      (highlight g ("message(".toList ++ (Reference.node f parts).text ++ [')'])).openContexts = ["main"] := by
  obtain ⟨g, hg⟩ := exists_isListFiles
  refine ⟨g, hg.compile, ?_⟩
  have harguments : List.Forall₂ Obeys argumentsSketches (g.context 0).rules := hg.obeys rfl rfl
  rw [List.append_assoc]
  obtain ⟨captures, hstart⟩ := Comes.command hg (.inl rfl : Opens "message(")
    ((Reference.node f parts).text ++ [')'])
  have hpart := Comes.part hg harguments hosts_arguments f parts
    (fun h => Comes.parts hg f (v := []) rfl parts h) hstart
  obtain ⟨hevents, hcontexts⟩ := highlight_of_comes hg hpart
  refine ⟨?_, hcontexts⟩
  rw [hevents, show byteLength "message(".toList = 8 by decide, List.reverse_append, List.reverse_reverse]
  rfl

/-- A variable whose name is in an environment variable, and a generator expression beside it. -/
example : (Reference.node .normal [.node .environment [.name ⟨['A'], rfl⟩], .node .generator []]).events 8 =
    [⟨8, .push, "variable_reference"⟩, ⟨10, .push, "environment_reference"⟩, ⟨16, .pop, "environment_reference"⟩,
      ⟨17, .push, "generator_expression"⟩, ⟨19, .pop, "generator_expression"⟩, ⟨20, .pop, "variable_reference"⟩] := by
  rfl

end Listfile.Highlight
