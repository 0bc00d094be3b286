import Listfile.Text.Bytes

/-!
# Lines

* `splitLines`: the lines of a text, each with its line feed.
* `lineContent`: a line without its end, which is a line feed, a carriage return, or one before the
  other.
-/

namespace Listfile

/-- The lines of a text; `line` holds the characters of the first line that were read already, newest
first. -/
def splitLinesFrom : (line : List Char) → List Char → List (List Char)
  | [], [] => []
  | line, [] => [line.reverse]
  | line, c :: cs =>
    if c = '\n' then (c :: line).reverse :: splitLinesFrom [] cs else splitLinesFrom (c :: line) cs

/-- The lines of a text. Each ends with a line feed, but the last need not. -/
def splitLines (text : List Char) : List (List Char) := splitLinesFrom [] text

/-- Drop the last character if it is the given one. -/
def dropLastIf (c : Char) (line : List Char) : List Char :=
  if line.getLast? = some c then line.dropLast else line

/-- A line without its end. -/
def lineContent (line : List Char) : List Char := dropLastIf '\r' (dropLastIf '\n' line)

theorem flatten_splitLinesFrom (line text : List Char) :
    (splitLinesFrom line text).flatten = line.reverse ++ text := by
  induction text generalizing line with
  | nil => cases line <;> simp [splitLinesFrom]
  | cons c cs ih =>
    by_cases h : c = '\n'
    · simp [splitLinesFrom, h, ih]
    · simp [splitLinesFrom, h, ih]

@[simp] theorem flatten_splitLines (text : List Char) : (splitLines text).flatten = text := by
  simp [splitLines, flatten_splitLinesFrom]

end Listfile
