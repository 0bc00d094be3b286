import Listfile.Catalog
import Listfile.CommandLine.Files
import Listfile.CommandLine.Help
import Listfile.CommandLine.Invocation
import Listfile.Config.Settings
import Listfile.Highlight.Format
import Listfile.Highlight.Session
import Listfile.Layout.Format
import Listfile.Tree.Value

/-!
# What the program does

* `Outcome`: what a run of the program shows, and the file that it writes.
* `Invocation.run`: the outcome of an invocation, given how files are read.
* `Request.run`: the outcome of any request.
* `Invocation.paths`: the files that an invocation may read.
-/

namespace Listfile.CommandLine

/-- What a run of the program shows, and the file that it writes, if any. -/
structure Outcome where
  exit : Nat
  stdout : List Char
  stderr : List Char
  written : Option (String × List UInt8)
deriving DecidableEq, Inhabited

namespace Outcome

/-- All went well, and this is to be shown. -/
def shown (text : List Char) : Outcome := ⟨0, text, [], none⟩

/-- Something went wrong. -/
def failed (message : List Char) : Outcome :=
  ⟨1, [], "Error: ".toList ++ message ++ ['\n'], none⟩

end Outcome

/-- How the bytes of a file are read. -/
abbrev ReadFile := String → Except ReadFault (List UInt8)

/-- The text of a file. -/
def readText (read : ReadFile) (path : String) : Except ReadFault (List Char) := do
  match decodeUtf8? (← read path) with
  | some text => return text
  | none => throw .notText

/-- The text of a file that is to be worked on; the error is what the user is told. -/
def readSource (read : ReadFile) (path : String) : Except (List Char) (List Char) :=
  (readText read path).mapError fun f =>
    "failed to read ".toList ++ path.toList ++ [':', ' '] ++ f.message.toList

/-- The text of the file with settings, if it is a text. The name of the file may lack the extension. -/
def readConfig (read : ReadFile) (path : String) : Option (List Char) :=
  match read path with
  | .ok bytes => decodeUtf8? bytes
  | .error _ => do
    let path ← addExtension? ".toml".toList path.toList
    decodeUtf8? (← (read (String.ofList path)).toOption)

/-- The settings of an invocation. -/
def settingsFor (read : ReadFile) (config : Option String) : Except (List Char) Config.Settings :=
  let layers := match config with
    | some path => [Config.Layer.file true (readConfig read path)]
    | none => []
  (Config.Settings.load layers).mapError fun _ => "invalid configuration: ".toList

/-- The grammar in a file. -/
def readGrammar (read : ReadFile) (path : String) : Except (List Char) Grammar := do
  let text ← (readText read path).mapError fun f =>
    "failed to read grammar ".toList ++ path.toList ++ [':', ' '] ++ f.message.toList
  (Grammar.ofYaml (String.ofList text)).mapError fun f => f.message.toList

/-- The grammar for a file: the one that was asked for, or the one for its path, or that for list files. -/
def grammarFor (read : ReadFile) (path : String) (grammar : Option String) :
    Except (List Char) Grammar := do
  let catalog ← Catalog.bundled.mapError fun f => f.message.toList
  match grammar with
  | some grammar => readGrammar read grammar
  | none =>
    match (catalog.forPath? path).or (catalog.find? "CMake") with
    | some g => return g
    | none => throw "bundled CMake grammar missing".toList

/-- Show the tokens of a file. -/
def tokenize (read : ReadFile) (settings : Config.Settings) (path : String)
    (format grammar : Option String) : Except (List Char) Outcome := do
  let name := format.getD settings.tokenFormat
  let formats := Highlight.Formats.standard
  match formats.get? name with
  | none =>
    throw ("unknown format \x60".toList ++ name.toList ++ "\x60, available: ".toList ++
      (String.intercalate ", " formats.names).toList)
  | some f =>
    let source ← readSource read path
    let g ← grammarFor read path grammar
    return .shown (f.write source (Highlight.highlight g source))

/-- The wording of a fault in a list file. -/
def faultMessage (path : String) (source : List Char) (f : Tree.Fault) : List Char :=
  path.toList ++ [':', ' '] ++ f.message source

/-- Show the syntax tree of a file. -/
def parse (read : ReadFile) (path : String) : Except (List Char) Outcome := do
  let source ← readSource read path
  let file ← (Tree.File.parse source).mapError (faultMessage path source)
  return .shown (Json.render file.value ++ ['\n'])

/-- Format a file. -/
def format (read : ReadFile) (settings : Config.Settings) (path : String) (mode : Mode) :
    Except (List Char) Outcome := do
  let source ← readSource read path
  let text ← (Layout.format settings.style source).mapError (faultMessage path source)
  match mode with
  | .print => return .shown text
  | .check =>
    if text = source then return .shown []
    else return ⟨1, [], path.toList ++ " is not formatted\n".toList, none⟩
  | .write =>
    if text = source then return .shown []
    else return ⟨0, [], [], some (path, encodeUtf8 text)⟩

/-- The lines for a grammar in the list of grammars. -/
def describeGrammar (g : Grammar) : List Char :=
  "  ".toList ++ g.name.toList ++ " (".toList ++ g.scope.name.toList ++ ")\n    ".toList ++
    (String.intercalate ", " g.fileExtensions).toList ++ ['\n']

/-- List the bundled grammars. -/
def syntaxes : Except (List Char) Outcome := do
  let catalog ← Catalog.bundled.mapError fun f => f.message.toList
  return .shown ("Available syntaxes:\n\n".toList ++ catalog.grammars.toList.flatMap describeGrammar)

/-- What an action results in. -/
def Action.run (read : ReadFile) (settings : Config.Settings) :
    Action → Except (List Char) Outcome
  | .tokenize path name grammar => CommandLine.tokenize read settings path name grammar
  | .parse path => CommandLine.parse read path
  | .format path mode => CommandLine.format read settings path mode
  | .syntaxes => CommandLine.syntaxes

/-- What an invocation results in. -/
def Invocation.run (i : Invocation) (read : ReadFile) : Outcome :=
  match settingsFor read i.config >>= fun settings => i.action.run read settings with
  | .ok outcome => outcome
  | .error message => .failed message

/-- The files that an invocation may read. -/
def Invocation.paths (i : Invocation) : List String :=
  let config := match i.config with
    | none => []
    | some path =>
      path :: ((addExtension? ".toml".toList path.toList).map String.ofList).toList
  config ++ match i.action with
    | .tokenize path _ grammar => path :: grammar.toList
    | .parse path | .format path _ => [path]
    | .syntaxes => []

/-- What a request results in. -/
def Request.run (read : ReadFile) : Request → Outcome
  | .perform i => i.run read
  | .help command => .shown (helpText command).toList
  | .version => .shown versionText.toList
  | .misuse => ⟨2, [], (helpText none).toList, none⟩

end Listfile.CommandLine
