import Listfile.Grammar.Basic
import Listfile.Grammar.Document
import Listfile.Grammar.Variables

/-!
# Compiling grammars

* `Compiler.rulesOf`: the rules of a context with those of included contexts in their place. They are
  compiled once; where the context is included again, the same rules are used.
* `Definition.compile`: the compiled grammar.
-/

namespace Listfile.Grammar

/-- What the remarks on a context say. -/
structure About where
  metaScope : List Scope
  metaContentScope : List Scope
  includePrototype : Bool
deriving Inhabited

namespace About

/-- Take account of a remark: scopes add up, and the last word on the prototype counts. -/
def add (a : About) : Item → About
  | .about scope content proto =>
    { metaScope := a.metaScope ++ (scope.map Scope.parseList).getD []
      metaContentScope := a.metaContentScope ++ (content.map Scope.parseList).getD []
      includePrototype := proto.getD a.includePrototype }
  | _ => a

/-- What the remarks among the items of a context say. -/
def ofItems (items : List Item) : About := items.foldl add ⟨[], [], true⟩

end About

/-- Compile the pattern of a rule. A pattern with references is only checked, with nothing in their
place. -/
def Pattern.compile (context : String) (source : List Char) : Except Fault Pattern :=
  let checked (pattern : List Char) : Except Fault Regex :=
    match compileAnchored pattern with
    | .ok r => .ok r
    | .error _ => .error (.invalidPattern context (String.ofList pattern))
  if hasBackrefs source then do
    let _ ← checked (substituteBackrefs [] source)
    return .backref source
  else return .fixed source (← checked source)

/-- The state of a compilation. -/
structure Compiler where
  /-- The table of contexts so far. -/
  table : Array Context
  /-- The rules of the contexts that have been compiled. -/
  done : List (String × List Rule)
  /-- How many contexts without a name there have been. -/
  anonymous : Nat

/-- A compilation that may fail. -/
abbrev CompileM := StateT Compiler (Except Fault)

/-- What a compilation goes by. -/
structure Plan where
  contexts : List (String × List Item)
  vars : Variables
  /-- The rules of the prototype, once they are known. -/
  prototype : Option (List Rule)

namespace Plan

/-- The place of a context with a name. -/
def lookup (p : Plan) (usedIn name : String) : Except Fault Nat :=
  match p.contexts.findIdx? (·.1 == name) with
  | some i => .ok i
  | none => .error (.unknownContext name usedIn)

/-- The rules of the prototype, for a context that does not refuse them. -/
def prototypeFor (p : Plan) (about : About) : List Rule :=
  if about.includePrototype then p.prototype.getD [] else []

end Plan

namespace Compiler

/-- Fail. -/
def fail {α : Type} (f : Fault) : CompileM α := fun _ => .error f

/-- Take the result of a step that does not touch the state. -/
def lift {α : Type} (x : Except Fault α) : CompileM α := fun s => x.map fun a => (a, s)

/-- Reserve a place of the table for a context without a name. -/
def reserve (parent : String) : CompileM (Nat × String) := do
  let s ← get
  let name := parent ++ "#anon" ++ toString s.anonymous
  set { s with table := s.table.push ⟨name, [], [], []⟩, anonymous := s.anonymous + 1 }
  return (s.table.size, name)

/-- Fill a place of the table. -/
def fill (id : Nat) (c : Context) : CompileM Unit :=
  modify fun s => { s with table := s.table.setIfInBounds id c }

/-- The rule with the given parts. -/
def makeRule (pattern : Pattern) (scope : Option String) (captures : List (Nat × String))
    (action : Action) : Rule :=
  ⟨pattern, (scope.map Scope.parseList).getD [], captures.map fun c => (c.1, Scope.parseList c.2),
    action⟩

/-- Expand and compile the pattern of a rule. -/
def compilePattern (p : Plan) (context pattern : String) : CompileM Pattern := do
  lift (Pattern.compile context (← lift (p.vars.expand context pattern)))

mutual

/-- The rules that an item stands for; `included` gives the rules of a context. -/
def compileItem (p : Plan) (included : String → String → CompileM (List Rule)) (context : String) :
    Item → CompileM (List Rule)
  | .about .. => return []
  | .incl name => included context name
  | .rule pattern scope captures none none pop => do
    let pattern ← compilePattern p context pattern
    return [makeRule pattern scope captures (if pop then .pop else .stay)]
  | .rule pattern scope captures (some target) none false => do
    let pattern ← compilePattern p context pattern
    let targets ← compileTarget p included context target
    return [makeRule pattern scope captures (.push targets)]
  | .rule pattern scope captures none (some target) false => do
    let pattern ← compilePattern p context pattern
    let targets ← compileTarget p included context target
    return [makeRule pattern scope captures (.set targets)]
  | .rule pattern .. => do
    let _ ← compilePattern p context pattern
    fail (.conflictingActions context)

/-- The contexts that a target stands for. -/
def compileTarget (p : Plan) (included : String → String → CompileM (List Rule))
    (context : String) : Target → CompileM (List Nat)
  | .named name => return [← lift (p.lookup context name)]
  | .stacked names => lift (names.mapM (p.lookup context))
  | .anonymous items => do
    let (id, name) ← reserve context
    let about := About.ofItems items
    let rules ← compileItems p included name items
    fill id ⟨name, about.metaScope, about.metaContentScope, p.prototypeFor about ++ rules⟩
    return [id]

/-- The rules that items stand for, in order. -/
def compileItems (p : Plan) (included : String → String → CompileM (List Rule))
    (context : String) : List Item → CompileM (List Rule)
  | [] => return []
  | item :: items => do
    let rules ← compileItem p included context item
    return rules ++ (← compileItems p included context items)

end

/-- The rules of a context, without the prototype. `including` holds the contexts whose rules are being
compiled; there are at most `fuel` others. -/
def rulesOf (p : Plan) : Nat → (including : List String) → (usedIn name : String) →
    CompileM (List Rule)
  | fuel, including, usedIn, name => do
    match (← get).done.lookup name with
    | some rules => return rules
    | none =>
      if including.contains name then fail (.recursiveInclude name)
      else match p.contexts.lookup name with
        | none => fail (.unknownContext name usedIn)
        | some items =>
          match fuel with
          | 0 => fail (.recursiveInclude name)
          | fuel + 1 =>
            let rules ← compileItems p (rulesOf p fuel (name :: including)) name items
            modify fun s => { s with done := (name, rules) :: s.done }
            return rules

/-- Compile the contexts that have a name, each with the prototype in front unless it refuses it. -/
def compileContexts (p : Plan) : List (String × List Item) → CompileM Unit
  | [] => return ()
  | (name, items) :: rest => do
    let about := About.ofItems items
    let front := if name = "prototype" then [] else p.prototypeFor about
    let rules ← rulesOf p p.contexts.length [] name name
    let id ← lift (p.lookup name name)
    fill id ⟨name, about.metaScope, about.metaContentScope, front ++ rules⟩
    compileContexts p rest

/-- Compile the prototype first, if there is one, and then all contexts. -/
def compileAll (p : Plan) : CompileM Unit := do
  if (p.contexts.lookup "prototype").isSome then
    let rules ← rulesOf p p.contexts.length [] "prototype" "prototype"
    compileContexts { p with prototype := some rules } p.contexts
  else compileContexts p p.contexts

/-- A table with empty contexts of the given names. -/
def start (contexts : List (String × List Item)) : Compiler :=
  ⟨(contexts.map fun c => ⟨c.1, [], [], []⟩).toArray, [], 0⟩

end Compiler

/-- Compile a definition. -/
def Definition.compile (d : Definition) : Except Fault Grammar := do
  match d.contexts.findIdx? (·.1 == "main") with
  | none => throw (.missingMain d.name)
  | some main =>
    let vars ← Variables.resolve d.vars
    let ((), compiler) ← (Compiler.compileAll ⟨d.contexts, vars, none⟩).run (.start d.contexts)
    return ⟨d.name, ⟨d.scope⟩, d.fileExtensions, d.hidden, compiler.table, d.contexts.map (·.1), main⟩

/-- Read and compile a definition. -/
def ofYaml (text : String) : Except Fault Grammar :=
  match Definition.ofYaml text with
  | .ok d => d.compile
  | .error _ => .error .unreadable

end Listfile.Grammar
