import Listfile.Text.Bytes

/-!
# Lexemes of list files

* `Kind`: the kinds of lexemes.
* `Piece`, `Lexeme`: what a text is cut into.
-/

namespace Listfile.Tree

/-- The kinds of lexemes. -/
inductive Kind
  | space
  | newline
  | openParen
  | closeParen
  | lineComment
  | bracketComment
  | quoted
  | bracket
  /-- An argument without quotes that begins with a square bracket. -/
  | squareUnquoted
  | unquoted
deriving DecidableEq, Inhabited

namespace Kind

/-- Is this a blank or the end of a line? -/
def isWhitespace : Kind → Bool
  | space | newline => true
  | _ => false

/-- Can this be an argument of a command? -/
def isArgument : Kind → Bool
  | quoted | bracket | squareUnquoted | unquoted => true
  | _ => false

end Kind

/-- A part of a text, and where it begins. -/
structure Piece where
  start : Nat
  text : List Char
deriving DecidableEq, Inhabited

namespace Piece

/-- Where a piece ends. -/
def stop (p : Piece) : Nat := p.start + byteLength p.text

/-- The bytes of a piece. -/
def span (p : Piece) : Span := ⟨p.start, p.stop⟩

end Piece

/-- A lexeme. -/
structure Lexeme where
  kind : Kind
  piece : Piece
deriving DecidableEq, Inhabited

end Listfile.Tree
