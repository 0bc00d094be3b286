import Listfile.Unicode.Category
import Listfile.Unicode.Later
import Listfile.Unicode.Property

/-!
# Quoted text

Text is quoted so that all of it can be seen: blanks other than the space, controls, unassigned and
private characters, and characters that join the one before them are written by their number.

* `isVisible`: the characters that are shown as they are.
* `quoteText`, `quoteChar`: text between quotation marks, a character between apostrophes.
-/

namespace Listfile

open Unicode

/-- The characters that cannot be told from the look of a text. -/
def invisible : List Ranges :=
  others ++ separators ++ [Property.graphemeExtend, Property.defaultIgnorableCodePoint]

/-- The characters that are shown as they are: the voiced sound marks of half width are, although they
belong to the character before them. -/
def isVisible (c : Char) : Bool :=
  if c.toNat < 0x7F then 0x20 ≤ c.toNat
  else if laterCharacters.contains c then !laterMarks.contains c
  else c == '\uFF9E' || c == '\uFF9F' || !invisible.any (·.contains c)

/-- The number of a character, in braces. -/
def escapeByNumber (c : Char) : List Char :=
  ['\\', 'u', '\x7b'] ++ Nat.toDigits 16 c.toNat ++ ['\x7d']

/-- A character as it is written between two marks. -/
def escapeIn (mark c : Char) : List Char :=
  if c = '\x00' then ['\\', '0']
  else if c = '\t' then ['\\', 't']
  else if c = '\n' then ['\\', 'n']
  else if c = '\r' then ['\\', 'r']
  else if c = '\\' ∨ c = mark then ['\\', c]
  else if isVisible c then [c]
  else escapeByNumber c

/-- A text between quotation marks. -/
def quoteText (s : List Char) : List Char := '"' :: s.flatMap (escapeIn '"') ++ ['"']

/-- A character between apostrophes. -/
def quoteChar (c : Char) : List Char := '\'' :: escapeIn '\'' c ++ ['\'']

end Listfile
