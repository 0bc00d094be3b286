import Listfile.Proofs.Grammar.Finding
import Listfile.Proofs.Highlight.Going

/-!
# Commands in list files

* `search_definitionOpener`: what does not stand at the beginning of a command.
* `plain_header`, **`exists_commandHit`**: what is matched at the beginning of a command.
* **`Comes.command`**: a command enters the context of its arguments.
* **`highlight_of_comes`**: the parenthesis at the end leaves it.
-/

namespace Listfile.Highlight

open Grammar Regex Listfile.Tree

/-! ### Names of commands -/

/-- What opens one of two commands. -/
def Opens (name : String) : Prop := name = "message(" ∨ name = "set("

/-- A machine with more steps than so many is as good as that it really has. -/
theorem exists_verdict_eq {r : Regex} {place : Cursor} {n : Nat}
    (h : n ≤ r.plan.effort (place.offset + place.left) + 5) :
    ∃ k, r.verdict place = (r.machine place).search place.offset (k + n) backtrackLimit := by
  obtain ⟨k, hk⟩ := Nat.exists_eq_add_of_le' h
  exact ⟨k, by rw [verdict, hk]⟩

/-- The commands are no definitions. -/
theorem search_definitionOpener {name : String} (hname : Opens name) (rest : List Char) :
    definitionOpener.search (.ofText (name.toList ++ rest)) = .notFound := by
  have heffort (place : Cursor) :
      25 ≤ definitionOpener.plan.effort (place.offset + place.left) + 5 := by
    simp only [definitionOpener, commandWith, anyCaseWord, Plan.effort]
    omega
  rcases hname with rfl | rfl
  · obtain ⟨k, hk⟩ := exists_verdict_eq (heffort (.ofText ("message(".toList ++ rest)))
    rw [search_eq, hk]
    rfl
  · obtain ⟨k, hk⟩ := exists_verdict_eq (heffort (.ofText ("set(".toList ++ rest)))
    rw [search_eq, hk]
    rfl

/-! ### Rules for commands -/

variable {g : Grammar}

section
variable {name space rest : List Char} {place : Cursor}

/-- Between a name and its parenthesis there are neither parentheses nor ends of lines. -/
theorem plain_header (hname : ∀ c ∈ name, Tree.isNameChar c = true) (hspace : ∀ c ∈ space, isLineBlank c = true) :
    '(' ∉ name ++ space ∧ OneLine (name ++ space) := by
  have hoff {x : Char} (hx : Tree.isNameChar x = false) (hx' : isLineBlank x = false) : x ∉ name ++ space := by
    intro hmem
    rcases List.mem_append.1 hmem with hmem | hmem
    · rw [hname x hmem] at hx
      cases hx
    · rw [hspace x hmem] at hx'
      cases hx'
  exact ⟨hoff (by decide) (by decide), hoff (by decide) (by decide), hoff (by decide) (by decide)⟩

theorem isNameChar_of_isCommandName (hname : isCommandName name = true) : ∀ c ∈ name, Tree.isNameChar c = true := by
  cases name with
  | nil => exact List.forall_mem_nil _
  | cons c cs =>
    obtain ⟨hc, hcs⟩ := Bool.and_eq_true_iff.1 hname
    refine List.forall_mem_cons.2 ⟨?_, List.all_eq_true.1 hcs⟩
    rcases Bool.or_eq_true_iff.1 hc with hc | hc <;> simp [Tree.isNameChar, Char.isAlphanum, hc]

/-- **Whichever rule matches at a command**, it matches the name, the blanks and the parenthesis. Only the rule for
definitions does not enter the context of arguments. -/
theorem exists_commandHit (hg : IsListFiles g) (captures : List (Option (List Char))) (below : Stack)
    (hname : isCommandName name = true) (hspace : ∀ c ∈ space, isLineBlank c = true)
    (hbefore : place.before.head?.any isWordChar = false) (hahead : place.after = name ++ space ++ '(' :: rest)
    (hlength : name.length + space.length ≤ Machine.maxBranches) : ∃ hit,
      findMatch g (⟨10, captures⟩ :: below) place = some hit ∧ hit.whole.first = place ∧
        place.Passes (name ++ space ++ ['(']) hit.whole.last ∧
        (hit.rule.action = .push [5] ∧ definitionOpener.search place ≠ .notFound ∨ hit.rule.action = .push [0]) := by
  obtain ⟨comment, line, definition, control, builtin, command, hrules, -, ⟨source, hdefinition⟩,
    ⟨source', hcommand⟩⟩ := hg.exists_main
  have hobeys : List.Forall₂ Obeys mainSketches (g.context 10).rules := hg.obeys rfl rfl
  rw [hrules] at hobeys
  obtain _ | ⟨hcomment', _ | ⟨hline', _ | ⟨hdefinition', _ | ⟨hcontrol', _ | ⟨hbuiltin', _ | ⟨hcommand', _ | _⟩⟩⟩⟩⟩⟩ :=
    hobeys
  obtain ⟨hparen, -⟩ := plain_header (isNameChar_of_isCommandName hname) hspace
  have hsharp : place.after.head? ≠ some '#' := by
    rw [hahead]
    cases name with
    | nil => cases hname
    | cons c cs =>
      intro hhead
      obtain rfl : c = '#' := Option.some.inj hhead
      cases hname
  have hfind : findMatch g (⟨10, captures⟩ :: below) place
      = [definition, control, builtin, command].findSome? (tryRule ⟨10, captures⟩ place) := by
    rw [findMatch_of_rules hrules]
    simp only [List.findSome?_cons, tryRule_of_head? hcomment' rfl hsharp, tryRule_of_head? hline' rfl hsharp]
  -- the rules that close with the parenthesis match all the same text
  have hcloses : ∀ rule ∈ [definition, control, builtin, command], ∀ hit,
      tryRule ⟨10, captures⟩ place rule = some hit → hit.whole.first = place ∧
        place.Passes (name ++ space ++ ['(']) hit.whole.last ∧
        (hit.rule.action = .push [5] ∧ definitionOpener.search place ≠ .notFound ∨ hit.rule.action = .push [0]) := by
    have harguments {rule : Rule} (hrule : Obeys ⟨.closes '(', .push [0], [1, 2]⟩ rule) (hit : Hit)
        (hhit : tryRule ⟨10, captures⟩ place rule = some hit) : hit.whole.first = place ∧
          place.Passes (name ++ space ++ ['(']) hit.whole.last ∧
          (hit.rule.action = .push [5] ∧ definitionOpener.search place ≠ .notFound ∨ hit.rule.action = .push [0]) := by
      obtain ⟨haction, hfirst, hpasses⟩ := passes_of_closes hrule hparen hahead hhit
      exact ⟨hfirst, hpasses, .inr haction⟩
    simp only [List.forall_mem_cons]
    refine ⟨fun hit hhit => ?_, harguments hcontrol', harguments hbuiltin', harguments hcommand', List.forall_mem_nil _⟩
    obtain ⟨haction, hfirst, hpasses⟩ := passes_of_closes hdefinition' hparen hahead hhit
    refine ⟨hfirst, hpasses, .inl ⟨haction, fun hno => ?_⟩⟩
    rw [tryRule_fixed hdefinition, hit?_of_notFound hno] at hhit
    cases hhit
  cases hmatch : findMatch g (⟨10, captures⟩ :: below) place with
  | none =>
    -- the last of the rules matches any command
    obtain ⟨whole, groups, hfound⟩ := exists_search_commandOpener hname hspace hbefore
      (hahead.trans (List.append_assoc ..)) hlength
    have hnone := List.findSome?_eq_none_iff.1 (hfind.symm.trans hmatch) command (by simp)
    rw [tryRule_fixed hcommand, hit?_of_found hfound (by rw [hcommand'.action]; nofun)] at hnone
    cases hnone
  | some hit =>
    obtain ⟨rule, hrule, hhit⟩ := List.exists_of_findSome?_eq_some (hfind.symm.trans hmatch)
    exact ⟨hit, rfl, hcloses rule hrule hit hhit⟩

end

/-- At a command that is no definition the context of its arguments is entered. -/
theorem fires_command (hg : IsListFiles g) {name : String} (hname : Opens name) (rest : List Char) :
    Fires g (.initial g) (.ofText (name.toList ++ rest)) name.toList (.push [0]) := by
  obtain ⟨u, hcommand, hlength, hname'⟩ : ∃ u, isCommandName u = true ∧ u.length + 0 ≤ Machine.maxBranches ∧
      name.toList = u ++ [] ++ ['('] := by
    rcases hname with rfl | rfl
    · exact ⟨"message".toList, by decide, by decide, rfl⟩
    · exact ⟨"set".toList, by decide, by decide, rfl⟩
  have hahead : (Cursor.ofText (name.toList ++ rest)).after = u ++ [] ++ '(' :: rest := by
    rw [hname']
    exact (List.append_cons (u ++ []) '(' rest).symm
  have hne : name.toList ≠ [] := by rcases hname with rfl | rfl <;> decide
  obtain ⟨hit, hfind, hfirst, hpasses, ⟨-, hdefinition⟩ | haction⟩ :=
    exists_commandHit hg [] [] hcommand (List.forall_mem_nil _) rfl hahead hlength
  · exact absurd (search_definitionOpener hname rest) hdefinition
  · rw [Stack.initial, hg.main]
    exact ⟨hne, hit, hfind, haction, hfirst, hname' ▸ hpasses⟩

/-! ### Arguments -/

/-- **A command enters the context of its arguments.** -/
theorem Comes.command (hg : IsListFiles g) {name : String} (hname : Opens name) (rest : List Char) :
    ∃ captures, Comes g (name.toList ++ rest) (byteLength name.toList) rest [⟨0, captures⟩, ⟨10, []⟩]
      [⟨0, .push, "arguments"⟩] := by
  have hline : OneLine name.toList := by rcases hname with rfl | rfl <;> decide
  obtain ⟨hne, hit, hmatch, haction, hfirst, hpasses⟩ := fires_command hg hname (restOfLine rest)
  have hstart := Arrived.start g (List.append_ne_nil_of_left_ne_nil hne rest)
  rw [restOfLine_append_of_oneLine hline] at hstart
  obtain ⟨rest', tokens, hrest, -, hnext⟩ := hstart.forward hmatch hfirst hne hpasses
  rw [← List.append_cancel_left hrest, haction, Nat.zero_add] at hnext
  have hstack : (applyAction g 0 hit.texts (.initial g) (.push [0])).1 = [⟨0, hit.texts⟩, ⟨10, []⟩] := by
    rw [Stack.initial, hg.main]
    rfl
  have hevents : (applyAction g 0 hit.texts (.initial g) (.push [0])).2 = [⟨0, .push, "arguments"⟩] := by
    show [Event.mk 0 .push (g.context 0).name] = _
    rw [hg.name rfl]
  rw [hstack, hevents] at hnext
  exact ⟨hit.texts, _, _, hnext⟩

/-- No rule matches behind the last command. -/
theorem findMatch_main_of_nil (hg : IsListFiles g) (captures : List (Option (List Char))) {place : Cursor}
    (hplace : place.after = []) : findMatch g [⟨10, captures⟩] place = none := by
  have hobeys : List.Forall₂ Obeys mainSketches (g.context 10).rules := hg.obeys rfl rfl
  refine findSome?_of_all hobeys ?_
  rw [hplace]
  rfl

/-- **The parenthesis at the end leaves the arguments.** -/
theorem highlight_of_comes (hg : IsListFiles g) {text : List Char} {n : Nat}
    {captures : List (Option (List Char))} {events : List Event}
    (h : Comes g text n [')'] [⟨0, captures⟩, ⟨10, []⟩] events) :
    (highlight g text).events = events.reverse ++ [⟨n, .pop, "arguments"⟩] ∧
      (highlight g text).openContexts = ["main"] := by
  have hobeys : List.Forall₂ Obeys argumentsSketches (g.context 0).rules := hg.obeys rfl rfl
  obtain ⟨texts, hnext⟩ := h.matchText (s := ")") hobeys (by decide) (List.cons_ne_nil _ _) fun _ => ⟨_, rfl⟩
  obtain ⟨hevents, hopen⟩ := hnext.finish fun _ hplace => findMatch_main_of_nil hg [] hplace
  rw [hevents, hopen]
  constructor
  · show (_ :: events).reverse = _
    rw [List.reverse_cons, hg.name rfl]
  · show [(g.context 10).name] = _
    rw [hg.name rfl]

end Listfile.Highlight
