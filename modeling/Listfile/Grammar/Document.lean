import Listfile.Grammar.Definition
import Listfile.Yaml.Value

/-!
# Reading definitions from YAML

The items of a context carry no mark of their kind. An item is a rule if it can be read as one, else
an inclusion, else a remark; each accepts its own keys only. Instead of a mapping, an item may be the
list of the values of its keys in order.

* `itemOf`, `targetOf`: an item and a target from their values.
* `Definition.ofYaml`: a definition from the text of a document.
-/

namespace Listfile.Grammar

open Yaml

/-- The values given for the keys of an item, in the order of the keys, none for those left out. Keys
may also be given by their number. Nothing if another key, or a key twice, is given. -/
def arrange (keys : List String) : Value → Option (List (Option Value))
  | .list items =>
    if items.length ≤ keys.length then
      some (items.map some ++ List.replicate (keys.length - items.length) none)
    else none
  | .map entries =>
    entries.foldlM (fun given e => do
      let i ← match e.1 with
        | .text key => keys.findIdx? (· == key)
        | .natural i => if i < keys.length then some i else none
        | _ => none
      if (given[i]?).join.isSome then none else some (given.set i (some e.2)))
      (List.replicate keys.length none)
  | _ => none

/-- A value that has to be a text. -/
def textOf : Value → Option String
  | .text s => some s
  | _ => none

/-- A value that has to be a truth value. -/
def flagOf : Value → Option Bool
  | .bool b => some b
  | _ => none

/-- A value that may be left out or null. -/
def optional {α : Type} (read : Value → Option α) : Option Value → Option (Option α)
  | none | some .null => some none
  | some v => (read v).map some

/-- The scopes of captures, in the order of their groups. -/
def capturesOf : Option Value → Option (List (Nat × String))
  | none => some []
  | some (.map entries) => do
    let entries ← entries.mapM fun e => do
      match e.1, e.2 with
      | .natural i, .text s => some (i, s)
      | .negated 0, .text s => some (0, s)
      | _, _ => none
    return sortEntries (fun a b => decide (a < b)) entries
  | _ => none

/-- A remark on the context. -/
def aboutOf (v : Value) : Option Item := do
  match ← arrange ["meta_scope", "meta_content_scope", "meta_include_prototype"] v with
  | [scope, content, include?] =>
    return .about (← optional textOf scope) (← optional textOf content) (← optional flagOf include?)
  | _ => none

/-- An inclusion. -/
def inclusionOf (v : Value) : Option Item := do
  match ← arrange ["include"] v with
  | [some name] => return .incl (← textOf name)
  | _ => none

/-- A rule, given how to read a target. -/
def ruleOf (target : Value → Option Target) (v : Value) : Option Item := do
  match ← arrange ["match", "scope", "captures", "push", "set", "pop"] v with
  | [some pattern, scope, captures, push, set, pop] =>
    return .rule (← textOf pattern) (← optional textOf scope) (← capturesOf captures)
      (← optional target push) (← optional target set)
      (← match pop with
        | none => some false
        | some v => flagOf v)
  | _ => none

mutual

/-- The item that a value stands for. Items are nested `depth` deep at most. -/
def itemOf : Nat → Value → Option Item
  | 0, _ => none
  | depth + 1, v => (ruleOf (targetOf depth) v <|> inclusionOf v) <|> aboutOf v

/-- The target that a value stands for: the name of a context, a list of names, or a list of items. -/
def targetOf : Nat → Value → Option Target
  | 0, _ => none
  | _ + 1, .text name => some (.named name)
  | depth + 1, .list items =>
    match items.mapM textOf with
    | some names => some (.stacked names)
    | none => (items.mapM (itemOf depth)).map .anonymous
  | _ + 1, _ => none

end

/-- Collections may be nested this deep in a document. -/
def maxNesting : Nat := 128

/-- The only value given for a key of the document, if one is. -/
def uniqueField (fields : List (String × Node)) (key : String) : ReadM (Option Node) :=
  match fields.filter (·.1 == key) with
  | [] => return none
  | [(_, n)] => return some n
  | _ => throw .unexpectedShape

/-- The value of a key that must be given. -/
def requiredField (fields : List (String × Node)) (key : String) : ReadM Node := do
  match ← uniqueField fields key with
  | some n => return n
  | none => throw .unexpectedShape

/-- The items of a context. -/
def contextOf (d : Document) (n : Node) : ReadM (List Item) := do
  (← d.items n).mapM fun item => do
    match itemOf (2 * maxNesting) (← d.value (maxNesting - 3) item) with
    | some item => return item
    | none => throw .unexpectedShape

/-- The definition in a document. Keys that say nothing about a grammar are ignored. -/
def Definition.ofDocument (d : Document) : ReadM Definition := do
  let fields ← d.fields d.root
  let name ← d.text (← requiredField fields "name")
  let scope ← d.text (← requiredField fields "scope")
  let fileExtensions ← match ← uniqueField fields "file_extensions" with
    | some n => (← d.items n).mapM d.text
    | none => pure []
  let hidden ← match ← uniqueField fields "hidden" with
    | some n => d.flag n
    | none => pure false
  let vars ← match ← uniqueField fields "variables" with
    | some n => (← d.fields n).mapM fun f => return (f.1, ← d.text f.2)
    | none => pure []
  let contexts ← (← d.fields (← requiredField fields "contexts")).mapM fun f =>
    return (f.1, ← contextOf d f.2)
  return ⟨name, scope, fileExtensions, hidden, sortByName vars, sortByName contexts⟩

/-- A definition from the text of a document. -/
def Definition.ofYaml (text : String) : Except Yaml.Fault Definition := do
  let d ← Document.parse text.toList
  d.read (Definition.ofDocument d)

end Listfile.Grammar
