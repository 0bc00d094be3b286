import Listfile.Grammar.Bundled
import Listfile.Proofs.Grammar.Quoting
import Listfile.Proofs.Grammar.Sketching

/-!
# The rules of the grammar for list files

* `cmakeValues`, `resolve_cmakeVariables`: its variables.
* `outline`, `shows_outline`: its rules as they are sketched, context by context.
* `IsListFiles`, **`exists_isListFiles`**: it compiles.
* `IsListFiles.obeys`, `IsListFiles.exists_bracketed`, `IsListFiles.exists_main`: what is known of the rules of
  its contexts.
-/

namespace Listfile.Grammar

open Regex Compiler

/-! ### Variables -/

/-- A pattern that matches one of the given words, as a text. -/
def oneOfText (words : List String) : List Char := List.intercalate ['|'] (words.map String.toList)

theorem toList_oneOf (words : List String) : (oneOf words).toList = oneOfText words := by
  rw [oneOf, oneOfText, String.toList_intercalate]
  rfl

/-- The variables of the grammar. -/
def cmakeValues : Variables := ⟨[
  ("argument_keywords", oneOfText argumentKeywords),
  ("builtin_commands", oneOfText builtinCommands),
  ("constants", "ON|OFF|TRUE|FALSE|YES|NO|IGNORE|NOTFOUND|[A-Za-z0-9_]+-NOTFOUND".toList),
  ("control_commands", oneOfText controlCommands),
  ("identifier", "[A-Za-z_][A-Za-z0-9_]*".toList),
  ("operators", oneOfText operators),
  ("unquoted_element", "(?:[^\\s()#\"\\\\$;]|\\$(?!\\\x7b|ENV\\\x7b|CACHE\\\x7b|<|\\())".toList),
  ("word_end", r"(?![\w.\-/])".toList),
  ("word_start", r"(?<![\w.\-/])".toList)]⟩

theorem map_toList_cmakeVariables :
    cmakeVariables.map (fun v => (v.1, v.2.toList)) = cmakeValues.values := by
  simp only [cmakeVariables, cmakeValues, List.map_cons, List.map_nil, toList_oneOf]

theorem plain_cmakeValues : ∀ v ∈ cmakeValues.values, Plain v.2 := by
  have hpieces : ∀ v ∈ cmakeValues.values, (pieces v.2).all (Piece.isKnown ⟨[]⟩) = true := by
    simp only [cmakeValues, oneOfText, argumentKeywords, builtinCommands, controlCommands, operators, List.map_cons,
      List.map_nil]
    repeat rw [String.toList_ofList]
    decide +kernel
  intro v hv name hname
  cases List.all_eq_true.1 (hpieces v hv) _ hname

/-- No variable of the grammar uses another. -/
theorem resolve_cmakeVariables : Variables.resolve cmakeVariables = .ok cmakeValues := by
  have hplain : ∀ v ∈ cmakeVariables, Plain v.2.toList := by
    intro v hv
    refine plain_cmakeValues (v.1, v.2.toList) ?_
    rw [← map_toList_cmakeVariables]
    exact List.mem_map_of_mem hv
  rw [Variables.resolve_of_plain hplain (by decide +kernel), map_toList_cmakeVariables]

/-! ### Sketches -/

/-- Letters and digits. -/
def alphanumerics : CharSet := .union (.range 'A' 'Z') (.union (.range 'a' 'z') (.range '0' '9'))

/-- What a backslash gives another meaning. -/
def escapable : CharSet :=
  .union (.compl (.union (.range 'A' 'Z') (.union (.range 'a' 'z') (.union (.range '0' '9') (.single ';')))))
    (.union (.single 't') (.union (.single 'r') (.union (.single 'n') (.single ';'))))

def commentSketches : List Sketch := [⟨.loose (some '#') [], .push [2], []⟩, ⟨.text "#", .push [9], []⟩]

def escapeSketches : List Sketch := [
  ⟨.sets [.single '\\', escapable], .stay, []⟩,
  ⟨.sets [.single '\\', alphanumerics], .stay, []⟩]

def openerSketches : List Sketch := [
  ⟨.text "$\x7b", .push [13], []⟩,
  ⟨.text "$ENV\x7b", .push [6], []⟩,
  ⟨.text "$CACHE\x7b", .push [3], []⟩,
  ⟨.text "$(", .push [11], []⟩,
  ⟨.text "$<", .push [8], []⟩]

/-- A keyword, or another argument. -/
def wordSketch : Sketch := ⟨.loose none [' ', '\t', '"', '(', ')', '#', '\\', ';'], .stay, []⟩

def argumentsSketches : List Sketch := [
  ⟨.text ")", .pop, []⟩,
  ⟨.text "(", .push [0], []⟩] ++ commentSketches ++ [
  ⟨.loose (some '[') [], .push [1], []⟩,
  ⟨.text "\"", .push [12], []⟩] ++ openerSketches ++ escapeSketches ++ [
  ⟨.text ";", .stay, []⟩, wordSketch, wordSketch, wordSketch, wordSketch, wordSketch]

def quotedSketches : List Sketch := [
  ⟨.text "\"", .pop, []⟩] ++ escapeSketches ++ [
  ⟨.loose (some '\\') ['"', '$'], .stay, []⟩] ++ openerSketches ++ [
  ⟨.text ";", .stay, []⟩,
  ⟨.run (.compl (.union (.single '"') (.union (.single '\\') (.union (.single '$') (.single ';'))))), .stay, []⟩,
  ⟨.text "$", .stay, []⟩]

/-- A reference that the text closes. -/
def referenceSketches (closing : String) (inner : List Sketch) : List Sketch :=
  [⟨.text closing, .pop, []⟩] ++ openerSketches ++ inner ++ [⟨.loose none ['$', '\x7d', ')', '>'], .stay, []⟩]

def generatorSketches : List Sketch := [
  ⟨.text ">", .pop, []⟩] ++ openerSketches ++ [
  ⟨.loose none ['$', '>'], .stay, []⟩,
  ⟨.text ":", .stay, []⟩,
  ⟨.sets [.union (.single ',') (.single ';')], .stay, []⟩,
  ⟨.loose none ['$', '>'], .stay, []⟩]

def mainSketches : List Sketch := commentSketches ++ [
  ⟨.closes '(', .push [5], [1, 2]⟩,
  ⟨.closes '(', .push [0], [1, 2]⟩,
  ⟨.closes '(', .push [0], [1, 2]⟩,
  ⟨.closes '(', .push [0], [1, 2]⟩]

def fillerSketches : List Sketch := [⟨.run (.compl (.single ']')), .stay, []⟩, ⟨.text "]", .stay, []⟩]

/-- The rules of the contexts, but for those that refer to the match that entered their context. -/
def outline : List (String × List Sketch) := [
  ("arguments", argumentsSketches),
  ("cache_reference", referenceSketches "\x7d" escapeSketches),
  ("comments", commentSketches),
  ("definition_name", commentSketches ++ [
    ⟨.loose none [], .set [0], []⟩, ⟨.text ")", .pop, []⟩, ⟨.loose none [], .set [0], []⟩]),
  ("environment_reference", referenceSketches "\x7d" escapeSketches),
  ("escapes", escapeSketches),
  ("generator_expression", generatorSketches),
  ("line_comment", [⟨.loose none [], .pop, []⟩, ⟨.loose none [], .stay, []⟩]),
  ("main", mainSketches),
  ("make_reference", referenceSketches ")" []),
  ("quoted_argument", quotedSketches),
  ("variable_reference", referenceSketches "\x7d" escapeSketches),
  ("variable_references", openerSketches)]

/-- The rules are as they are sketched. -/
theorem shows_outline : ∀ o ∈ outline,
    showAll cmakeContexts cmakeValues o.2 (itemsIn cmakeContexts 2 o.1) = true := by
  simp only [cmakeValues, oneOfText, argumentKeywords, builtinCommands, controlCommands, operators, List.map_cons,
    List.map_nil]
  repeat rw [String.toList_ofList]
  decide +kernel

/-! ### Compilation -/

/-- How deep the inclusions of a context reach. -/
def cmakeRank (name : String) : Nat :=
  if ["comments", "escapes", "variable_references"].contains name then 0 else 1

/-- The rule that ends bracketed text. -/
def closerRule (scope : String) : Rule := makeRule (.backref r"\]\1\]".toList) (some scope) [] .pop

theorem compiles_closer (scope : String) (rule : Rule) :
    Compiles cmakeContexts cmakeValues (leave r"\]\1\]" scope) rule ↔ rule = closerRule scope := by
  have hreads : Reads cmakeValues r"\]\1\]" r"\]\1\]".toList :=
    Variables.expand_of_plain (plain_of_not_mem (by decide)) cmakeValues
  have hcompile : ∀ context, Pattern.compile context r"\]\1\]".toList = .ok (.backref r"\]\1\]".toList) := by
    intro context
    rfl
  constructor
  · rintro ⟨source, compiled, action, hsource, hcompiled, haction, rfl⟩
    obtain rfl := Except.ok.inj ((hreads "").symm.trans (hsource ""))
    obtain rfl := Except.ok.inj ((hcompile "").symm.trans (hcompiled ""))
    obtain rfl := Option.some.inj haction
    rfl
  · rintro rfl
    exact ⟨_, _, _, hreads, hcompile, rfl, rfl⟩

/-- The fillers of bracketed text are as they are sketched. -/
theorem shows_fillers : showAll cmakeContexts cmakeValues fillerSketches [skip r"[^\]]+", skip r"\]"] = true := by
  decide

theorem mem_itemsIn {contexts : List (String × List Item)} {name : String} {items : List Item} {item : Item}
    (hname : contexts.lookup name = some items) (hitem : item ∈ items) (hrule : item.isRule = true)
    (depth : Nat) : item ∈ itemsIn contexts (depth + 1) name := by
  rw [itemsIn, hname]
  refine List.mem_flatMap.2 ⟨item, hitem, ?_⟩
  cases item with
  | rule pattern scope captures push set pop => exact List.mem_singleton_self _
  | incl name => cases hrule
  | about scope content proto => cases hrule

theorem nodup_cmakeContexts : (cmakeContexts.map (·.1)).Nodup := by decide

/-- The rules of every context are outlined, or those of bracketed text. -/
theorem outlined_or_bracketed : ∀ c ∈ cmakeContexts, (∃ ks, outline.lookup c.1 = some ks) ∨
    ∃ scope closing, c.2 = bracketed scope closing := by
  have hnames : ∀ c ∈ cmakeContexts, (outline.lookup c.1).isSome = true ∨ c.1 = "bracket_argument" ∨
      c.1 = "bracket_comment" := by decide
  intro c hc
  have hitems := lookup_of_mem nodup_cmakeContexts hc
  rcases hnames c hc with hname | hname | hname
  · exact .inl (Option.isSome_iff_exists.1 hname)
  · rw [hname] at hitems
    exact .inr ⟨_, _, (Option.some.inj hitems).symm⟩
  · rw [hname] at hitems
    exact .inr ⟨_, _, (Option.some.inj hitems).symm⟩

/-- All rules of the grammar compile. -/
theorem exists_compiles_cmake : ∀ c ∈ cmakeContexts, ∀ item ∈ c.2, item.isRule = true →
    ∃ rule, Compiles cmakeContexts cmakeValues item rule := by
  rintro ⟨name, items⟩ hc item hitem hrule
  rcases outlined_or_bracketed _ hc with ⟨ks, hks⟩ | ⟨scope, closing, hitems⟩
  · have hname := lookup_of_mem nodup_cmakeContexts hc
    exact exists_compiles_of_shows (forall₂_of_showAll (shows_outline _ (mem_of_lookup hks))) item
      (mem_itemsIn hname hitem hrule 1)
  · obtain rfl : items = bracketed scope closing := hitems
    unfold bracketed at hitem
    rcases List.mem_cons.1 hitem with rfl | hitem
    · cases hrule
    rcases List.mem_cons.1 hitem with rfl | hitem
    · exact ⟨_, (compiles_closer closing _).2 rfl⟩
    · exact exists_compiles_of_shows (forall₂_of_showAll shows_fillers) item hitem

/-- Is an inclusion one of a known context of lower rank than the given one? -/
def Item.includesBelow (contexts : List (String × List Item)) (rank : String → Nat) (context : String) :
    Item → Bool
  | .incl name => rank name < rank context && (contexts.lookup name).isSome
  | _ => true

theorem orderly_cmake : cmake.Orderly cmakeValues cmakeRank where
  names := nodup_cmakeContexts
  prototype := rfl
  bounded := by decide
  included := by
    have hbelow : ∀ c ∈ cmakeContexts, c.2.all (·.includesBelow cmakeContexts cmakeRank c.1) = true := by
      decide
    intro c hc name hname
    obtain ⟨hrank, hknown⟩ := Bool.and_eq_true_iff.1 (List.all_eq_true.1 (hbelow c hc) _ hname)
    obtain ⟨items, hitems⟩ := Option.isSome_iff_exists.1 hknown
    exact ⟨of_decide_eq_true hrank, items, mem_of_lookup hitems⟩
  rules := exists_compiles_cmake

/-- The grammar is the one for list files. -/
structure IsListFiles (g : Grammar) : Prop where
  compile : cmake.compile = .ok g
  scope : g.scope = ⟨"source.cmake"⟩
  main : g.main = 10
  contexts : ∀ i c, cmakeContexts[i]? = some c → ∃ rules,
    List.Forall₂ (Compiles cmakeContexts cmakeValues) (itemsIn cmakeContexts 2 c.1) rules ∧
      g.context i = ⟨c.1, (About.ofItems c.2).metaScope, (About.ofItems c.2).metaContentScope, rules⟩

/-- **The grammar for list files compiles.** -/
theorem exists_isListFiles : ∃ g, IsListFiles g := by
  have hmain : cmake.contexts.findIdx? (·.1 == "main") = some 10 := by decide
  obtain ⟨g, hcompile, hscope, hg, hcontexts⟩ := exists_compile resolve_cmakeVariables hmain orderly_cmake
  refine ⟨g, hcompile, hscope, hg, fun i c hc => ?_⟩
  obtain ⟨rules, hrules, hcontext⟩ := hcontexts i c hc
  refine ⟨rules, hrules 2 ?_, hcontext⟩
  unfold cmakeRank
  split <;> omega

/-! ### Rules of contexts -/

section
variable {g : Grammar} {i : Nat} {label : String} {items : List Item}

theorem IsListFiles.name (hg : IsListFiles g) (hi : cmakeContexts[i]? = some (label, items)) :
    (g.context i).name = label := by
  obtain ⟨rules, -, hcontext⟩ := hg.contexts i _ hi
  rw [hcontext]

/-- **The rules of a context are as they are sketched.** -/
theorem IsListFiles.obeys (hg : IsListFiles g) (hi : cmakeContexts[i]? = some (label, items)) {ks : List Sketch}
    (hks : outline.lookup label = some ks) : List.Forall₂ Obeys ks (g.context i).rules := by
  obtain ⟨rules, hrules, hcontext⟩ := hg.contexts i _ hi
  rw [hcontext]
  exact forall₂_obeys (forall₂_of_showAll (shows_outline _ (mem_of_lookup hks))) hrules

/-- The rules of bracketed text: one ends it, and the others pass over what stands in it. -/
theorem IsListFiles.exists_bracketed (hg : IsListFiles g) {scope closing : String}
    (hi : cmakeContexts[i]? = some (label, bracketed scope closing)) : ∃ fillers,
      (g.context i).rules = closerRule closing :: fillers ∧ List.Forall₂ Obeys fillerSketches fillers ∧
        (g.context i).metaScope = Scope.parseList scope := by
  obtain ⟨rules, hrules, hcontext⟩ := hg.contexts i _ hi
  have hname := lookup_of_mem nodup_cmakeContexts (List.mem_of_getElem? hi)
  have hitems : itemsIn cmakeContexts 2 label = leave r"\]\1\]" closing :: [skip r"[^\]]+", skip r"\]"] := by
    rw [itemsIn, hname]
    rfl
  rw [hitems] at hrules
  cases hrules with
  | @cons _ closer _ fillers hcloser hfillers =>
    rw [hcontext, (compiles_closer closing closer).1 hcloser]
    exact ⟨fillers, rfl, forall₂_obeys (forall₂_of_showAll shows_fillers) hfillers, rfl⟩

end

/-! ### Rules for comments and commands -/

/-- What opens a bracket comment. -/
def commentOpener : Regex := ⟨.seq .searchStart (.unit (.seq (.fenced '=' '[' ['#', '[']) .empty)), 1, true⟩

/-- The name of a command, which the plan tells, and the parenthesis behind it. -/
def commandWith (name : Regex.Plan) : Regex :=
  let parenthesis : Regex.Plan := .unit (.seq (.group 2 (.chars (.single '('))) .empty)
  let blanks : Regex.Plan := .star (.chars .blanks) true
  ⟨.seq .searchStart (.seq (.seq (.assertion .wordBoundary) (.seq (.group 1 name) (.seq blanks parenthesis))) .done),
    2, true⟩

/-- A word, whatever the case of its letters is. -/
def anyCaseWord (word : String) : Regex.Plan :=
  .seq (.unit (word.toList.foldr (fun c e => .seq (.chars (.anyCase (.single c))) e) .empty)) .done

/-- What opens the definition of a function. -/
def definitionOpener : Regex := commandWith (.either (anyCaseWord "function") (anyCaseWord "macro"))

/-- What opens any command. -/
def commandOpener : Regex :=
  let letters : CharSet := .union (.range 'A' 'Z') (.union (.range 'a' 'z') (.single '_'))
  let more : CharSet := .union (.range 'A' 'Z') (.union (.range 'a' 'z') (.union (.range '0' '9') (.single '_')))
  commandWith (.seq (.chars letters) (.seq (.star (.chars more) true) .done))

theorem compileAnchored_commentOpener : compileAnchored r"#\[(=*)\[".toList = .ok commentOpener := by rfl

theorem compileAnchored_definitionOpener :
    compileAnchored r"(?i)\b(function|macro)\s*(\()".toList = .ok definitionOpener := by rfl

theorem compileAnchored_commandOpener :
    compileAnchored r"\b([A-Za-z_][A-Za-z0-9_]*)\s*(\()".toList = .ok commandOpener := by rfl

/-- The pattern of the rule is compiled to the regex, once and for all. -/
def Rule.Uses (rule : Rule) (r : Regex) : Prop := ∃ source, rule.pattern = .fixed source r

theorem uses_of_compiles {pattern : String} {scope : Option String} {captures : List (Nat × String)}
    {push set : Option Target} {pop : Bool} {rule : Rule} {r : Regex} {source : List Char}
    (h : Compiles cmakeContexts cmakeValues (.rule pattern scope captures push set pop) rule)
    (hknown : (pieces pattern.toList).all (Piece.isKnown cmakeValues) = true)
    (hsource : (pieces pattern.toList).flatMap (Piece.textWith cmakeValues.textOf) = source)
    (hplain : hasBackrefs source = false) (hr : compileAnchored source = .ok r) : rule.Uses r :=
  ⟨source, h.pattern_eq (hsource ▸ reads_of_isKnown hknown) hplain hr⟩

/-- The rules of the context `main`. -/
theorem IsListFiles.exists_main {g : Grammar} (hg : IsListFiles g) :
    ∃ comment line definition control builtin command,
      (g.context 10).rules = [comment, line, definition, control, builtin, command] ∧
        comment.Uses commentOpener ∧ definition.Uses definitionOpener ∧ command.Uses commandOpener := by
  obtain ⟨rules, hrules, hcontext⟩ := hg.contexts 10 _ rfl
  have hitems : itemsIn cmakeContexts 2 "main" = [
      enter r"#\[(=*)\[" "punctuation.definition.comment.begin.cmake" "bracket_comment",
      enter "#" "punctuation.definition.comment.cmake" "line_comment",
      invoke "(?i)" "function|macro" "keyword.declaration.function.cmake" "definition_name",
      invoke "(?i)" (use "control_commands") "keyword.control.cmake" "arguments",
      invoke "(?i)" (use "builtin_commands") "support.function.cmake" "arguments",
      invoke "" (use "identifier") "variable.function.cmake" "arguments"] := rfl
  rw [hitems] at hrules
  obtain _ | ⟨hcomment, _ | ⟨-, _ | ⟨hdefinition, _ | ⟨-, _ | ⟨-, _ | ⟨hcommand, _ | _⟩⟩⟩⟩⟩⟩ := hrules
  have hcomment := uses_of_compiles hcomment (by decide) (by decide) (by decide)
    compileAnchored_commentOpener
  have hdefinition := uses_of_compiles hdefinition (by decide) (by decide) (by decide)
    compileAnchored_definitionOpener
  have hcommand := uses_of_compiles hcommand (by decide) (by decide) (by decide)
    compileAnchored_commandOpener
  rw [hcontext]
  exact ⟨_, _, _, _, _, _, rfl, hcomment, hdefinition, hcommand⟩

end Listfile.Grammar
