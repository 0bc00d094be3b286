import Listfile.Text.Bytes

/-!
# Positions

* `Position`: a line and a column, both counted from one.
* `Position.ofOffset`: the position of a byte offset.
-/

namespace Listfile

/-- A place in a text for people. -/
structure Position where
  line : Nat
  /-- Counts characters. -/
  column : Nat
deriving DecidableEq, Inhabited

namespace Position

/-- The position behind a text. -/
def after (text : List Char) : Position :=
  ⟨text.count '\n' + 1, (text.reverse.takeWhile (· != '\n')).length + 1⟩

/-- The position of a byte offset. An offset within a character or behind the text stands for the end of
the text. -/
def ofOffset (text : List Char) (offset : Nat) : Position :=
  after ((takeBytes offset text).getD text)

/-- The position in words. -/
def describe (p : Position) : String :=
  "line " ++ toString p.line ++ ", column " ++ toString p.column

end Position

end Listfile
