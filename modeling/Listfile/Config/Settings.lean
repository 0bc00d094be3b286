import Listfile.Config.Path
import Listfile.Config.Toml.Document
import Listfile.Layout.Style

/-!
# Settings

Settings come in layers: files, of which a later one takes over what it mentions, and overrides, which
count more than all files.

* `Settings`: all that can be set.
* `Layer`: where settings come from.
* `Settings.load`: the settings that layers result in.
-/

namespace Listfile.Config

/-- What can be wrong with settings. -/
inductive Fault
  /-- A file is needed and missing. -/
  | missingFile
  /-- A file cannot be understood. -/
  | unreadableFile
  /-- A name of a setting cannot be understood. -/
  | unreadablePath
  /-- A value cannot be converted. -/
  | wrongType
  /-- A value is none of the choices, or not a table where one is needed. -/
  | wrongShape
deriving DecidableEq

/-- All that can be set. -/
structure Settings where
  style : Layout.Style
  /-- The name of the format for highlighted text. -/
  tokenFormat : String
deriving DecidableEq, Inhabited

/-- The settings that are there without any layer. -/
def Settings.standard : Settings := ⟨{}, "tag"⟩

/-- Where settings come from. -/
inductive Layer
  /-- A file with its text, if it has one. -/
  | file (required : Bool) (text : Option (List Char))
  | override (path : String) (value : Value)

/-! ### Settings as values -/

/-- The name of a choice for the blanks before parentheses. -/
def spaceName : Layout.SpaceBeforeParen → String
  | .preserve => "preserve"
  | .single => "single"
  | .remove => "remove"

/-- Settings as a value. -/
def Settings.toValue (s : Settings) : Value :=
  .table [
    ("formatting", .table [
      ("max_blank_lines", .integer s.style.maxBlankLines),
      ("max_blank_lines_in_arguments", .integer s.style.maxBlankLinesInArguments),
      ("space_before_paren", .text (spaceName s.style.spaceBeforeParen)),
      ("final_newline", .bool s.style.finalNewline)]),
    ("tokenize", .table [("format", .text s.tokenFormat)])]

/-- A value that was converted, unless that is impossible. -/
def converted {α : Type} (x : Option α) : Except Fault α :=
  match x with
  | some a => .ok a
  | none => .error .wrongType

/-- The choice with a name, in which case makes no difference. -/
def spaceOfName (name : String) : Except Fault Layout.SpaceBeforeParen :=
  match [Layout.SpaceBeforeParen.preserve, .single, .remove].find? fun c =>
      (spaceName c).toList == lowercase name with
  | some c => .ok c
  | none => .error .wrongShape

/-- A choice for the blanks before parentheses: its name, or a table with the name as its only key. -/
def spaceOf : Value → Except Fault Layout.SpaceBeforeParen
  | .text name | .table [(name, _)] => spaceOfName name
  | _ => .error .wrongShape

/-- A value that has to be given. -/
def needed (v : Option Value) : Except Fault Value :=
  match v with
  | some v => .ok v
  | none => .error .wrongShape

/-- How to find the value for a key of a section, given the place of the key among all keys: by its name
in a table, by its place in a list. -/
def sectionOf (v : Option Value) : Except Fault (Nat → String → Except Fault Value) :=
  match v with
  | some (.table fields) => .ok fun _ key => needed (fields.lookup key)
  | some (.list items) => .ok fun place _ => needed items[place]?
  | _ => .error .wrongShape

/-- How to format. -/
def styleOf (v : Option Value) : Except Fault Layout.Style := do
  let get ← sectionOf v
  return {
    maxBlankLines := ← converted (← get 0 "max_blank_lines").toNat?
    maxBlankLinesInArguments := ← converted (← get 1 "max_blank_lines_in_arguments").toNat?
    spaceBeforeParen := ← spaceOf (← get 2 "space_before_paren")
    finalNewline := ← converted (← get 3 "final_newline").toBool? }

/-- The name of the format for highlighted text. -/
def formatOf (v : Option Value) : Except Fault String := do
  let get ← sectionOf v
  converted (← get 0 "format").toText?

/-- The settings that a value stands for. -/
def Settings.ofValue (v : Value) : Except Fault Settings := do
  return ⟨← styleOf (v.field? "formatting"), ← formatOf (v.field? "tokenize")⟩

/-! ### Layers -/

/-- Put the value of a field of a file where its key, taken as a path, leads to. A key that is no path
is a name. -/
def mergeEntry (root : Value) (e : String × Value) : Value :=
  match Path.parse? e.1.toList with
  | some p => p.set e.2 root
  | none => Value.mergeField e.1 root e.2

/-- Add the layer of a file. -/
def addFile (root : Value) : Layer → Except Fault Value
  | .file _ (some text) =>
    match Toml.parse? text with
    | some fields => .ok (fields.foldl mergeEntry root)
    | none => .error .unreadableFile
  | .file true none => .error .missingFile
  | .file false none | .override .. => .ok root

/-- The overrides among layers. -/
def overridesOf (layers : List Layer) : Except Fault (List (Path × Value)) :=
  layers.foldrM (fun layer done =>
    match layer with
    | .override path v =>
      match Path.parse? path.toList with
      | some p => .ok ((p, v) :: done)
      | none => .error .unreadablePath
    | .file .. => .ok done) []

/-- The settings that layers result in. -/
def Settings.load (layers : List Layer) : Except Fault Settings := do
  let overrides ← overridesOf layers
  let files ← layers.foldlM addFile standard.toValue
  ofValue (overrides.foldl (fun root o => o.1.set o.2 root) files)

end Listfile.Config
