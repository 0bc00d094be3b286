import Listfile.Entries
import Listfile.Highlight.Check
import Listfile.Json
import Listfile.Text.Quoted

/-!
# Formats

Highlighted text is written for people and for programs.

* `Format.tag`, `Format.scopes`: a line for each token.
* `Format.json`: tokens, events and open contexts.
* `Formats`: formats that are known by name.
-/

namespace Listfile.Highlight

/-- A way to write highlighted text. -/
structure Format where
  name : String
  description : String
  write : (source : List Char) → Highlighted → List Char

instance : Inhabited Format := ⟨⟨"", "", fun _ _ => []⟩⟩

namespace Format

/-- The line for a token: its span, the given scopes, its text. -/
def line (source : List Char) (scopes : String) (t : Token) : List Char :=
  (toString t.span.start).toList ++ ['.', '.'] ++ (toString t.span.stop).toList ++
    ' ' :: scopes.toList ++ ' ' :: quoteText (t.text source) ++ ['\n']

/-- Each token with its most specific scope. -/
def tag : Format where
  name := "tag"
  description := "One line per token with its innermost scope"
  write source h := h.tokens.flatMap fun t => line source t.innermostName t

/-- Each token with all of its scopes. -/
def scopes : Format where
  name := "scopes"
  description := "One line per token with the full scope path"
  write source h := h.tokens.flatMap fun t => line source (Scope.join t.scopes) t

/-- A token as a value. -/
def tokenValue (source : List Char) (t : Token) : Json.Value :=
  .object [("start", .number t.span.start), ("end", .number t.span.stop),
    ("text", .text (t.text source)), ("scopes", .list (t.scopes.map fun s => .text s.name.toList))]

/-- An event as a value. -/
def eventValue (e : Event) : Json.Value :=
  .object [("offset", .number e.offset),
    ("kind", .text (match e.kind with
      | .push => "push".toList
      | .pop => "pop".toList)),
    ("context", .text e.context.toList)]

/-- A highlighted text as a value. -/
def highlightedValue (source : List Char) (h : Highlighted) : Json.Value :=
  .object [("tokens", .list (h.tokens.map (tokenValue source))),
    ("events", .list (h.events.map eventValue)),
    ("open_contexts", .list (h.openContexts.map fun c => .text c.toList))]

/-- All that is known of a highlighted text. -/
def json : Format where
  name := "json"
  description := "Tokens, stack events and open contexts as JSON"
  write source h := Json.render (highlightedValue source h)

end Format

/-- Formats that are known by name, in the order of their names. -/
structure Formats where
  entries : List (String × Format)
deriving Inhabited

namespace Formats

/-- Add a format, or replace the one with its name. -/
def register (fs : Formats) (f : Format) : Formats :=
  ⟨insertSorted (fun a b => decide (a < b)) f.name f fs.entries⟩

/-- The format with a name. -/
def get? (fs : Formats) (name : String) : Option Format := fs.entries.lookup name

/-- The names of all formats. -/
def names (fs : Formats) : List String := fs.entries.map (·.1)

/-- No formats. -/
def empty : Formats := ⟨[]⟩

/-- The formats that are always there. -/
def standard : Formats := ((empty.register .tag).register .scopes).register .json

/-- What is said of a name that no format has. -/
def notFound (name : String) : String := "format \x60" ++ name ++ "\x60 not found"

end Formats

end Listfile.Highlight
