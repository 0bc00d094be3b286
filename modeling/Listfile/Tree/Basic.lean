import Listfile.Tree.Lexeme

/-!
# Syntax trees of list files

A tree keeps every character of the file: blanks, ends of lines and comments are nodes like all others.

* `Item`, `Arguments`: what stands between the parentheses of a command.
* `Command`, `Element`, `File`: what a list file consists of.
-/

namespace Listfile.Tree

/-- How an argument is written. -/
inductive ArgumentKind
  | bracket
  | quoted
  | unquoted
deriving DecidableEq, Inhabited

/-- How a comment is written. -/
inductive CommentKind
  | line
  | bracket
deriving DecidableEq, Inhabited

/-- What stands between parentheses. -/
inductive Item
  | argument (kind : ArgumentKind) (piece : Piece)
  /-- Items within parentheses of their own, with the offsets of these. -/
  | group (openAt : Nat) (items : List Item) (closeAt : Nat)
  | space (piece : Piece)
  | newline (piece : Piece)
  | comment (kind : CommentKind) (piece : Piece)

instance : Inhabited Item := ⟨.space default⟩

/-- The items of a command with the offsets of the parentheses around them. -/
structure Arguments where
  openAt : Nat
  items : List Item
  closeAt : Nat
deriving Inhabited

/-- A command. -/
structure Command where
  name : Piece
  /-- The blanks between the name and the opening parenthesis. -/
  spaceBeforeParen : List Char
  arguments : Arguments
deriving Inhabited

/-- What stands outside of commands, and the commands. -/
inductive Element
  | command (c : Command)
  | comment (kind : CommentKind) (piece : Piece)
  | space (piece : Piece)
  | newline (piece : Piece)
deriving Inhabited

/-- A list file. -/
structure File where
  elements : List Element
deriving Inhabited

/-! ### Spans -/

/-- The bytes of an item. -/
def Item.span : Item → Span
  | argument _ p | space p | newline p | comment _ p => p.span
  | group openAt _ closeAt => ⟨openAt, closeAt + 1⟩

/-- The bytes from one parenthesis to the other. -/
def Arguments.span (a : Arguments) : Span := ⟨a.openAt, a.closeAt + 1⟩

/-- The bytes of a command. -/
def Command.span (c : Command) : Span := ⟨c.name.start, c.arguments.closeAt + 1⟩

/-- The bytes of an element. -/
def Element.span : Element → Span
  | command c => c.span
  | comment _ p | space p | newline p => p.span

end Listfile.Tree
