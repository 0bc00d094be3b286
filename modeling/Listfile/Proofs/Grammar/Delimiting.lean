import Listfile.Proofs.Grammar.Outlining
import Listfile.Proofs.Regex.Guarding

/-!
# Rules for what stands between and around arguments

The outline of the grammar leaves open what some rules need before they match.

* `bracketOpener`, `word`, `anything`, `lineEnd`: patterns of rules.
* `Rule.IsGuarded`, `isGuarded_commandItems`: rules that match at the edges of words only.
* **`IsListFiles.exists_arguments`**, **`IsListFiles.exists_definitionName`**, `IsListFiles.exists_lineComment`,
  **`IsListFiles.guards_main`**: what is known of the rules of these contexts.
-/

namespace Listfile.Grammar

open Regex Compiler

/-! ### Patterns -/

/-- What opens an argument between brackets. -/
def bracketOpener : Regex := ⟨.seq .searchStart (.unit (.seq (.fenced '=' '[' ['[']) .empty)), 1, true⟩

/-- What a name begins with. -/
def firstOfName : CharSet := .union (.range 'A' 'Z') (.union (.range 'a' 'z') (.single '_'))

/-- What a name goes on with. -/
def restOfName : CharSet :=
  .union (.range 'A' 'Z') (.union (.range 'a' 'z') (.union (.range '0' '9') (.single '_')))

/-- A name. -/
def word : Regex :=
  let more : Expr := .seq (.repeated (.chars restOfName) 0 none true) .empty
  ⟨.seq .searchStart (.unit (.seq (.seq (.chars firstOfName) more) .empty)), 0, true⟩

/-- Any character but blanks, which is not passed. -/
def anything : Regex := ⟨.seq .searchStart (.seq (.look false (.chars (.compl .blanks))) .done), 0, true⟩

/-- The end of a line. -/
def lineEnd : Regex := ⟨.seq .searchStart (.unit (.seq (.assertion .textEnd) .empty)), 0, true⟩

theorem compileAnchored_bracketOpener : compileAnchored r"\[(=*)\[".toList = .ok bracketOpener := by rfl

theorem compileAnchored_word : compileAnchored "[A-Za-z_][A-Za-z0-9_]*".toList = .ok word := by rfl

theorem compileAnchored_anything : compileAnchored r"(?=\S)".toList = .ok anything := by rfl

theorem compileAnchored_lineEnd : compileAnchored "$".toList = .ok lineEnd := by rfl

/-! ### Rules that are checked -/

/-- The rule matches nowhere but at the edge of a word. -/
def Rule.IsGuarded (rule : Rule) : Prop :=
  ∃ r, rule.Uses r ∧ (r.anchored && r.plan.guards .wordBoundary) = true

/-- Is the item a rule that matches nowhere but at the edge of a word? -/
def Item.isGuarded (vars : Variables) : Item → Bool
  | .rule pattern _ _ _ _ _ =>
    let parts := pieces pattern.toList
    let source := parts.flatMap (Piece.textWith vars.textOf)
    parts.all (Piece.isKnown vars) && !hasBackrefs source &&
      (compileAnchored source).toOption.any fun r => r.anchored && r.plan.guards .wordBoundary
  | _ => false

theorem Rule.IsGuarded.of_compiles {vars : Variables} {contexts : List (String × List Item)} {item : Item} {rule : Rule}
    (h : Compiles contexts vars item rule) (hitem : item.isGuarded vars = true) : rule.IsGuarded := by
  cases item with
  | rule pattern scope captures push set pop =>
    unfold Item.isGuarded at hitem
    simp only [Bool.and_eq_true, Bool.not_eq_true'] at hitem
    obtain ⟨⟨hknown, hplain⟩, hguards⟩ := hitem
    cases hr : compileAnchored ((pieces pattern.toList).flatMap (Piece.textWith vars.textOf)) with
    | error f =>
      rw [hr] at hguards
      cases hguards
    | ok r =>
      rw [hr] at hguards
      exact ⟨r, ⟨_, h.pattern_eq (reads_of_isKnown hknown) hplain hr⟩, hguards⟩
  | incl name => cases hitem
  | about scope content proto => cases hitem

theorem forall_isGuarded {vars : Variables} {contexts : List (String × List Item)} {items : List Item}
    {rules : List Rule} (h : List.Forall₂ (Compiles contexts vars) items rules)
    (hitems : items.all (Item.isGuarded vars) = true) : ∀ rule ∈ rules, rule.IsGuarded := by
  induction h with
  | nil => exact List.forall_mem_nil _
  | cons hrule _ ih =>
    obtain ⟨hitem, hitems⟩ := Bool.and_eq_true_iff.1 ((List.all_cons ..).symm.trans hitems)
    exact List.forall_mem_cons.2 ⟨.of_compiles hrule hitem, ih hitems⟩

/-- The items for commands. -/
def commandItems : List Item := [
  invoke "(?i)" "function|macro" "keyword.declaration.function.cmake" "definition_name",
  invoke "(?i)" (use "control_commands") "keyword.control.cmake" "arguments",
  invoke "(?i)" (use "builtin_commands") "support.function.cmake" "arguments",
  invoke "" (use "identifier") "variable.function.cmake" "arguments"]

theorem isGuarded_commandItems : commandItems.all (Item.isGuarded cmakeValues) = true := by
  simp only [cmakeValues, oneOfText, argumentKeywords, builtinCommands, controlCommands, operators, List.map_cons,
    List.map_nil]
  repeat rw [String.toList_ofList]
  decide +kernel

/-! ### Rules of contexts -/

/-- Rules for comments. -/
structure OpenComments (comment line : Rule) : Prop where
  bracket : comment.Uses commentOpener
  pushes : comment.action = .push [2]
  line : Obeys ⟨.text "#", .push [9], []⟩ line

section
variable {g : Grammar}

/-- **The rules for arguments**: parentheses, comments, brackets, and whatever else arguments are made of. -/
theorem IsListFiles.exists_arguments (hg : IsListFiles g) : ∃ close opening comment line bracket others,
    (g.context 0).rules = close :: opening :: comment :: line :: bracket :: others ∧
      Obeys ⟨.text ")", .pop, []⟩ close ∧ Obeys ⟨.text "(", .push [0], []⟩ opening ∧ OpenComments comment line ∧
      bracket.Uses bracketOpener ∧ bracket.action = .push [1] ∧
      List.Forall₂ Obeys (argumentsSketches.drop 5) others := by
  have hobeys : List.Forall₂ Obeys argumentsSketches (g.context 0).rules := hg.obeys rfl rfl
  obtain ⟨rules, hrules, hcontext⟩ := hg.contexts 0 _ rfl
  have hitems : itemsIn cmakeContexts 2 "arguments" = leave r"\)" "punctuation.section.parens.end.cmake" ::
      enter r"\(" "punctuation.section.parens.begin.cmake" "arguments" ::
      enter r"#\[(=*)\[" "punctuation.definition.comment.begin.cmake" "bracket_comment" ::
      enter "#" "punctuation.definition.comment.cmake" "line_comment" ::
      enter r"\[(=*)\[" "punctuation.definition.string.begin.cmake" "bracket_argument" ::
      (itemsIn cmakeContexts 2 "arguments").drop 5 := rfl
  rw [hitems] at hrules
  rw [hcontext] at hobeys ⊢
  obtain _ | ⟨-, _ | ⟨-, _ | ⟨hcomment, _ | ⟨-, _ | ⟨hbracket, -⟩⟩⟩⟩⟩ := hrules
  obtain _ | ⟨hclose, _ | ⟨hopening, _ | ⟨hcomment', _ | ⟨hline, _ | ⟨hbracket', hothers⟩⟩⟩⟩⟩ := hobeys
  have hcomment := uses_of_compiles hcomment (by decide) (by decide) (by decide) compileAnchored_commentOpener
  have hbracket := uses_of_compiles hbracket (by decide) (by decide) (by decide) compileAnchored_bracketOpener
  exact ⟨_, _, _, _, _, _, rfl, hclose, hopening, ⟨hcomment, hcomment'.action, hline⟩, hbracket, hbracket'.action,
    hothers⟩

/-- **The rules for the name of a function** that is defined. -/
theorem IsListFiles.exists_definitionName (hg : IsListFiles g) : ∃ comment line name close other,
    (g.context 5).rules = [comment, line, name, close, other] ∧ OpenComments comment line ∧
      name.Uses word ∧ name.action = .set [0] ∧ Obeys ⟨.text ")", .pop, []⟩ close ∧
      other.Uses anything ∧ other.action = .set [0] := by
  have hobeys : List.Forall₂ Obeys (commentSketches ++ [
      ⟨.loose none [], .set [0], []⟩, ⟨.text ")", .pop, []⟩, ⟨.loose none [], .set [0], []⟩]) (g.context 5).rules :=
    hg.obeys rfl rfl
  obtain ⟨rules, hrules, hcontext⟩ := hg.contexts 5 _ rfl
  have hitems : itemsIn cmakeContexts 2 "definition_name" = [
      enter r"#\[(=*)\[" "punctuation.definition.comment.begin.cmake" "bracket_comment",
      enter "#" "punctuation.definition.comment.cmake" "line_comment",
      .rule (use "identifier") (some "entity.name.function.cmake") [] none (some (.named "arguments")) false,
      leave r"\)" "punctuation.section.parens.end.cmake",
      .rule r"(?=\S)" none [] none (some (.named "arguments")) false] := rfl
  rw [hitems] at hrules
  rw [hcontext] at hobeys ⊢
  obtain _ | ⟨hcomment, _ | ⟨-, _ | ⟨hname, _ | ⟨-, _ | ⟨hother, _ | _⟩⟩⟩⟩⟩ := hrules
  obtain _ | ⟨hcomment', _ | ⟨hline, _ | ⟨hname', _ | ⟨hclose, _ | ⟨hother', -⟩⟩⟩⟩⟩ := hobeys
  have hcomment := uses_of_compiles hcomment (by decide) (by decide) (by decide) compileAnchored_commentOpener
  have hname := uses_of_compiles hname (by decide) (by decide) (by decide) compileAnchored_word
  have hother := uses_of_compiles hother (by decide) (by decide) (by decide) compileAnchored_anything
  exact ⟨_, _, _, _, _, rfl, ⟨hcomment, hcomment'.action, hline⟩, hname, hname'.action, hclose, hother, hother'.action⟩

/-- The rules for comments up to the end of their line. -/
theorem IsListFiles.exists_lineComment (hg : IsListFiles g) : ∃ last more,
    (g.context 9).rules = [last, more] ∧ last.Uses lineEnd ∧ last.action = .pop ∧
      Obeys ⟨.run (.compl (.single '\n')), .stay, []⟩ more := by
  have hobeys : List.Forall₂ Obeys [⟨.loose none [], .pop, []⟩, ⟨.loose none [], .stay, []⟩] (g.context 9).rules :=
    hg.obeys rfl rfl
  obtain ⟨rules, hrules, hcontext⟩ := hg.contexts 9 _ rfl
  have hitems : itemsIn cmakeContexts 2 "line_comment" = [.rule "$" none [] none none true, skip ".+"] := rfl
  have hshows : showAll cmakeContexts cmakeValues [⟨.run (.compl (.single '\n')), .stay, []⟩] [skip ".+"] = true := by
    decide
  rw [hitems] at hrules
  rw [hcontext] at hobeys ⊢
  obtain _ | ⟨hlast, hrest⟩ := hrules
  obtain _ | ⟨hlast', -⟩ := hobeys
  have hlast := uses_of_compiles hlast (by decide) (by decide) (by decide) compileAnchored_lineEnd
  obtain _ | ⟨hmore, _ | _⟩ := forall₂_obeys (forall₂_of_showAll hshows) hrest
  exact ⟨_, _, rfl, hlast, hlast'.action, hmore⟩

/-- **Commands begin at the edges of words.** -/
theorem IsListFiles.guards_main (hg : IsListFiles g) : ∃ comment line commands,
    (g.context 10).rules = comment :: line :: commands ∧ OpenComments comment line ∧
      ∀ rule ∈ commands, rule.IsGuarded := by
  have hobeys : List.Forall₂ Obeys mainSketches (g.context 10).rules := hg.obeys rfl rfl
  obtain ⟨rules, hrules, hcontext⟩ := hg.contexts 10 _ rfl
  have hitems : itemsIn cmakeContexts 2 "main" = [
      enter r"#\[(=*)\[" "punctuation.definition.comment.begin.cmake" "bracket_comment",
      enter "#" "punctuation.definition.comment.cmake" "line_comment"] ++ commandItems := rfl
  rw [hitems] at hrules
  rw [hcontext] at hobeys ⊢
  obtain _ | ⟨hcomment, _ | ⟨-, hcommands⟩⟩ := hrules
  obtain _ | ⟨hcomment', _ | ⟨hline, -⟩⟩ := hobeys
  have hcomment := uses_of_compiles hcomment (by decide) (by decide) (by decide) compileAnchored_commentOpener
  exact ⟨_, _, _, rfl, ⟨hcomment, hcomment'.action, hline⟩, forall_isGuarded hcommands isGuarded_commandItems⟩

end

end Listfile.Grammar
