import Listfile.Tree.Basic
import Listfile.Tree.Scan

/-!
# Trees from lexemes

A tree is built in one pass over the lexemes of a file. Parentheses that have been opened wait on a stack
for the lexeme that closes them.

* `Builder.add`: take account of the next lexeme.
* `File.ofLexemes`: the tree for the lexemes of a file.
* `File.parse`: the tree for a text.
-/

namespace Listfile.Tree

/-- How deep parentheses may be nested. -/
def maxNesting : Nat := 256

/-- A letter, a digit or a low line. -/
def isNameChar (c : Char) : Bool := c.isAlphanum || c == '_'

/-- The names that commands may have: they do not begin with a digit. -/
def isCommandName : List Char → Bool
  | c :: cs => (c.isAlpha || c == '_') && cs.all isNameChar
  | [] => false

/-- Items of parentheses that have not been closed, the latest first. -/
structure Pending where
  openAt : Nat
  items : List Item

/-- Add an item. -/
def Pending.add (p : Pending) (i : Item) : Pending := { p with items := i :: p.items }

/-- A command whose name has been read, with the blanks behind it. -/
structure Header where
  name : Piece
  space : List Char

/-- What is being read. -/
inductive Place
  | outside
  /-- A command whose opening parenthesis is awaited. -/
  | named (header : Header)
  /-- The items of a command; `top` are those of the innermost parentheses. -/
  | inside (header : Header) (top : Pending) (outer : List Pending)

/-- A tree that is being built. -/
structure Builder where
  /-- The elements so far, the latest first. -/
  elements : List Element
  place : Place

namespace Builder

/-- Nothing has been read yet. -/
def start : Builder := ⟨[], .outside⟩

/-- Add an element. -/
def push (b : Builder) (e : Element) : Builder := ⟨e :: b.elements, .outside⟩

/-- Take account of a lexeme that stands outside of commands. -/
def addOutside (b : Builder) (l : Lexeme) : Except Fault Builder :=
  match l.kind with
  | .space => .ok (b.push (.space l.piece))
  | .newline => .ok (b.push (.newline l.piece))
  | .lineComment => .ok (b.push (.comment .line l.piece))
  | .bracketComment => .ok (b.push (.comment .bracket l.piece))
  | .closeParen => .error ⟨.unexpectedCloseParen, l.piece.start⟩
  | .unquoted =>
    if isCommandName l.piece.text then .ok { b with place := .named ⟨l.piece, []⟩ }
    else .error ⟨.expectedCommand l.piece.text, l.piece.start⟩
  | _ => .error ⟨.expectedCommand l.piece.text, l.piece.start⟩

/-- Take account of a lexeme behind the name of a command. -/
def addNamed (b : Builder) (header : Header) (l : Lexeme) : Except Fault Builder :=
  match l.kind with
  | .space =>
    .ok { b with place := .named { header with space := header.space ++ l.piece.text } }
  | .openParen => .ok { b with place := .inside header ⟨l.piece.start, []⟩ [] }
  | _ => .error ⟨.missingOpenParen header.name.text, l.piece.start⟩

/-- Close the innermost parentheses. -/
def close (b : Builder) (header : Header) (top : Pending) (outer : List Pending) (closeAt : Nat) :
    Builder :=
  match outer with
  | [] => b.push (.command ⟨header.name, header.space, ⟨top.openAt, top.items.reverse, closeAt⟩⟩)
  | below :: outer =>
    { b with
      place := .inside header (below.add (.group top.openAt top.items.reverse closeAt)) outer }

/-- Take account of a lexeme between parentheses. -/
def addInside (b : Builder) (header : Header) (top : Pending) (outer : List Pending) (l : Lexeme) :
    Except Fault Builder :=
  let item (i : Item) : Except Fault Builder := .ok { b with place := .inside header (top.add i) outer }
  match l.kind with
  | .space => item (.space l.piece)
  | .newline => item (.newline l.piece)
  | .lineComment => item (.comment .line l.piece)
  | .bracketComment => item (.comment .bracket l.piece)
  | .quoted => item (.argument .quoted l.piece)
  | .bracket => item (.argument .bracket l.piece)
  | .squareUnquoted | .unquoted => item (.argument .unquoted l.piece)
  | .closeParen => .ok (b.close header top outer l.piece.start)
  | .openParen =>
    if maxNesting ≤ outer.length + 1 then .error ⟨.nestingTooDeep maxNesting, l.piece.start⟩
    else .ok { b with place := .inside header ⟨l.piece.start, []⟩ (top :: outer) }

/-- Take account of the next lexeme. -/
def add (b : Builder) (l : Lexeme) : Except Fault Builder :=
  match b.place with
  | .outside => b.addOutside l
  | .named header => b.addNamed header l
  | .inside header top outer => b.addInside header top outer l

/-- The tree, given the length of the text. -/
def finish (b : Builder) (length : Nat) : Except Fault File :=
  match b.place with
  | .outside => .ok ⟨b.elements.reverse⟩
  | .named header => .error ⟨.missingOpenParen header.name.text, length⟩
  | .inside _ top _ => .error ⟨.unclosedArguments, top.openAt⟩

end Builder

/-- The tree for the lexemes of a text of the given length. -/
def File.ofLexemes (lexemes : List Lexeme) (length : Nat) : Except Fault File := do
  (← lexemes.foldlM Builder.add .start).finish length

/-- The tree for a text. -/
def File.parse (source : List Char) : Except Fault File := do
  File.ofLexemes (← lexemes source) (byteLength source)

end Listfile.Tree
