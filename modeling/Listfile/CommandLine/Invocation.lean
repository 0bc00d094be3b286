/-!
# Arguments of the command line

* `Invocation`: what the program is asked to do.
* `Request`: what the arguments ask for: an invocation, help, the version, or nothing that is understood.
* `Request.ofArguments`: the request that arguments make.
-/

namespace Listfile.CommandLine

/-- What to do with the formatted text of a file. -/
inductive Mode
  | print
  | check
  | write
deriving DecidableEq, Inhabited

/-- What the program can do. -/
inductive Action
  | tokenize (path : String) (format grammar : Option String)
  | parse (path : String)
  | format (path : String) (mode : Mode)
  | syntaxes
deriving DecidableEq, Inhabited

/-- What the program is asked to do, and the file with its settings. -/
structure Invocation where
  config : Option String
  action : Action
deriving DecidableEq, Inhabited

/-- What the arguments ask for. -/
inductive Request
  | perform (i : Invocation)
  /-- Help on the program or on one of its commands. -/
  | help (command : Option String)
  | version
  | misuse
deriving DecidableEq, Inhabited

/-! ### Options -/

/-- An option. -/
structure Flag where
  long : String
  short : Option Char
  takesValue : Bool
deriving DecidableEq

/-- The option that all commands share. -/
def configFlag : Flag := ⟨"config", some 'c', true⟩

/-- The option for help. -/
def helpFlag : Flag := ⟨"help", some 'h', false⟩

/-- The option for the version. -/
def versionFlag : Flag := ⟨"version", some 'V', false⟩

/-- Arguments that have been taken account of. -/
structure Given where
  /-- The options with their values, which are empty for those without. -/
  flags : List (String × String)
  /-- The other arguments, in order. -/
  words : List String
deriving Inhabited

namespace Given

/-- The value of an option. -/
def value? (g : Given) (name : String) : Option String := g.flags.lookup name

/-- Was an option given? -/
def has (g : Given) (name : String) : Bool := (g.value? name).isSome

end Given

/-- Why arguments are not read any further. -/
inductive Stop
  | help
  | version
  | misuse
deriving DecidableEq

/-- Take account of an option. None may be given twice. -/
def addFlag (g : Given) (f : Flag) (value : String) : Except Stop Given :=
  if f = helpFlag then .error .help
  else if f = versionFlag then .error .version
  else if g.has f.long then .error .misuse
  else .ok { g with flags := (f.long, value) :: g.flags }

/-- How an argument is to be understood. -/
inductive Shape
  | word
  /-- Two dashes, behind which there are only words. -/
  | separator
  | long (name : List Char)
  | short (letters : List Char)

/-- The shape of an argument. A single dash is a word. -/
def shapeOf (argument : String) : Shape :=
  match argument.toList with
  | ['-', '-'] => .separator
  | '-' :: '-' :: name => .long name
  | '-' :: c :: letters => .short (c :: letters)
  | _ => .word

/-- A value behind an equals sign. -/
def behindEquals : List Char → Option String
  | '=' :: value => some (String.ofList value)
  | _ => none

/-- What an argument asks for: options that are complete, and one that still needs a value. -/
abbrev Reading := Except Stop (Given × Option Flag)

/-- Take account of an option with a long name. -/
def addLong (flags : List Flag) (g : Given) (text : List Char) : Reading := do
  let name := text.takeWhile (· != '=')
  match flags.find? (·.long.toList == name), behindEquals (text.drop name.length) with
  | none, _ => throw .misuse
  | some f, some value => if f.takesValue then return (← addFlag g f value, none) else throw .misuse
  | some f, none => if f.takesValue then return (g, some f) else return (← addFlag g f "", none)

/-- Take account of options with short names. What stands behind one that needs a value is the value. -/
def addShort (flags : List Flag) : Given → List Char → Reading
  | g, [] => .ok (g, none)
  | g, c :: letters =>
    match flags.find? (·.short == some c) with
    | none => .error .misuse
    | some f =>
      if f.takesValue then
        match letters with
        | [] => .ok (g, some f)
        | letters => do
          let value := (behindEquals letters).getD (String.ofList letters)
          return (← addFlag g f value, none)
      else do addShort flags (← addFlag g f "") letters

/-- How words are taken. -/
inductive Words
  /-- The first word ends the search. -/
  | stop
  /-- There may be so many. -/
  | upTo (limit : Nat)

/-- Take account of words. -/
def addWords (limit : Nat) (g : Given) (words : List String) : Except Stop Given :=
  if limit < (g.words ++ words).length then .error .misuse
  else .ok { g with words := g.words ++ words }

/-- Take account of arguments; those that are left are returned. `pending` is an option whose value has
to follow. -/
def readArguments (flags : List Flag) (words : Words) :
    (pending : Option Flag) → Given → List String → Except Stop (Given × List String)
  | none, g, [] => .ok (g, [])
  | some _, _, [] => .error .misuse
  | pending, g, a :: rest =>
    match shapeOf a, pending, words with
    | .word, some f, _ => do readArguments flags words none (← addFlag g f a) rest
    | .word, none, .stop => .ok (g, a :: rest)
    | .word, none, .upTo limit => do readArguments flags words none (← addWords limit g [a]) rest
    | _, some _, _ => .error .misuse
    | .separator, none, .stop => .error .misuse
    | .separator, none, .upTo limit => do return (← addWords limit g rest, [])
    | .long text, none, _ => do
      let (g, pending) ← addLong flags g text
      readArguments flags words pending g rest
    | .short letters, none, _ => do
      let (g, pending) ← addShort flags g letters
      readArguments flags words pending g rest

/-! ### Commands -/

/-- The options of a command. -/
def flagsOf? (command : String) : Option (List Flag) :=
  let shared := [configFlag, helpFlag]
  if command = "tokenize" then
    some (⟨"format", some 'f', true⟩ :: ⟨"grammar", some 'g', true⟩ :: shared)
  else if command = "parse" ∨ command = "syntaxes" then some shared
  else if command = "format" then
    some (⟨"check", none, false⟩ :: ⟨"write", some 'w', false⟩ :: shared)
  else none

/-- What a command with its arguments asks for. -/
def actionOf? (command : String) (g : Given) : Option Action :=
  match g.words with
  | [] => if command = "syntaxes" then some .syntaxes else none
  | [path] =>
    if command = "tokenize" then some (.tokenize path (g.value? "format") (g.value? "grammar"))
    else if command = "parse" then some (.parse path)
    else if command = "format" then
      if g.has "check" && g.has "write" then none
      else some (.format path
        (if g.has "check" then .check else if g.has "write" then .write else .print))
    else none
  | _ => none

/-- How many words a command may have. -/
def wordsOf (command : String) : Words := .upTo (if command = "syntaxes" then 0 else 1)

/-- What is asked for where the arguments are not read any further. -/
def Stop.request (command : Option String) : Stop → Request
  | help => .help command
  | version => .version
  | misuse => .misuse

/-- What the arguments behind the name of a command ask for. -/
def commandRequest (config : Option String) (command : String) (arguments : List String) : Request :=
  match flagsOf? command with
  | none => .misuse
  | some flags =>
    match readArguments flags (wordsOf command) none ⟨[], []⟩ arguments with
    | .error stop => stop.request (some command)
    | .ok (g, _) =>
      match actionOf? command g with
      | some action => .perform ⟨(g.value? "config").or config, action⟩
      | none => .misuse

/-- What the arguments behind the word for help ask for. -/
def helpRequest : List String → Request
  | [] => .help none
  | [command] =>
    if command = "help" ∨ (flagsOf? command).isSome then .help (some command) else .misuse
  | _ => .misuse

/-- What arguments ask for. -/
def Request.ofArguments (arguments : List String) : Request :=
  match readArguments [configFlag, helpFlag, versionFlag] .stop none ⟨[], []⟩ arguments with
  | .error stop => stop.request none
  | .ok (_, []) => .misuse
  | .ok (g, command :: rest) =>
    if command = "help" then helpRequest rest
    else commandRequest (g.value? "config") command rest

end Listfile.CommandLine
