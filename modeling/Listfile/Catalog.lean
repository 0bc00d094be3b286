import Listfile.Grammar.Bundled
import Listfile.Grammar.Compile
import Listfile.Text.FilePath

/-!
# Catalogs of grammars

A catalog finds the grammar for a file. What a grammar says of the files it is meant for is taken both
as names of files and as extensions; names count more, and a grammar that is added later takes over.

* `Catalog.add`: add a grammar.
* `Catalog.place?`, `Catalog.forPath?`: the grammar for a path.
-/

namespace Listfile

/-- Compiled grammars, with tables of the files they are meant for. The tables give places in the list of
grammars, the latest entries first. -/
structure Catalog where
  grammars : Array Grammar
  fileNames : List (String × Nat)
  /-- Extensions, with the letters of ASCII in lower case. -/
  extensions : List (String × Nat)
deriving Inhabited

namespace Catalog

/-- A catalog without grammars. -/
def empty : Catalog := ⟨#[], [], []⟩

/-- A text with the letters of ASCII in lower case. -/
def lower (s : String) : String := String.ofList (s.toList.map Char.toLower)

/-- Add a grammar. -/
def add (c : Catalog) (g : Grammar) : Catalog :=
  let id := c.grammars.size
  let files := g.fileExtensions.reverse
  { grammars := c.grammars.push g
    fileNames := files.map (fun f => (f, id)) ++ c.fileNames
    extensions := files.map (fun f => (lower f, id)) ++ c.extensions }

/-- The first grammar with a name. -/
def find? (c : Catalog) (name : String) : Option Grammar := c.grammars.find? (·.name == name)

/-- The place of the grammar for an extension: as it is written, or else with its letters in lower case. -/
def extensionPlace? (c : Catalog) (extension : String) : Option Nat :=
  c.extensions.lookup extension <|> c.extensions.lookup (lower extension)

/-- The place of the grammar for a path: that for the name of the file, or else that for its extension. -/
def place? (c : Catalog) (path : String) : Option Nat := do
  let name ← fileName? path.toList
  c.fileNames.lookup (String.ofList name) <|> do
    let extension ← nameExtension? name
    c.extensionPlace? (String.ofList extension)

/-- The grammar for a path. -/
def forPath? (c : Catalog) (path : String) : Option Grammar := do
  let id ← c.place? path
  c.grammars[id]?

/-- The catalog of the bundled grammars. -/
def bundled : Except Grammar.Fault Catalog :=
  Grammar.bundled.foldlM (fun c d => return c.add (← d.compile)) empty

end Catalog

end Listfile
