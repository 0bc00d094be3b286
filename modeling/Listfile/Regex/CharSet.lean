import Listfile.Text.Blank
import Listfile.Text.Find
import Listfile.Unicode.Age
import Listfile.Unicode.Break
import Listfile.Unicode.Category
import Listfile.Unicode.Folding
import Listfile.Unicode.Property
import Listfile.Unicode.Script

/-!
# Sets of characters

A set is kept as the expression that denotes it, so that membership is computed without ever listing
members.

* `CharSet`: single characters, ranges, classes and tables, closed under the set operations and under
  ignoring case.
* `CharSet.contains`: membership.
* `CharSet.named?`: the sets that Unicode names.
-/

namespace Listfile.Regex

/-- A set of characters. -/
inductive CharSet
  | single (c : Char)
  | range (first last : Char)
  /-- The decimal digits of all scripts. -/
  | digits
  /-- The blank characters. -/
  | blanks
  /-- The characters that words are made of. -/
  | wordChars
  | tables (ts : List Unicode.Ranges)
  /-- Every character. -/
  | all
  | union (a b : CharSet)
  | inter (a b : CharSet)
  | diff (a b : CharSet)
  | symmDiff (a b : CharSet)
  | compl (a : CharSet)
  /-- The characters that differ from some member in case at most. -/
  | anyCase (a : CharSet)
deriving Inhabited

/-- Decimal digits: of the ASCII characters `0` to `9`. -/
def isDigit (c : Char) : Bool :=
  if c.toNat < 0x80 then c.isDigit else Unicode.Category.decimalNumber.contains c

/-- Word characters: letters, marks, decimal digits, connectors such as the low line, and the two
joiners. -/
def isWordChar (c : Char) : Bool :=
  if c.toNat < 0x80 then c.isAlphanum || c == '_'
  else
    Unicode.Property.alphabetic.contains c || Unicode.marks.any (·.contains c) ||
      Unicode.Category.decimalNumber.contains c ||
      Unicode.Category.connectorPunctuation.contains c || Unicode.Property.joinControl.contains c

namespace CharSet

/-- Is the character in the set? -/
def contains : CharSet → Char → Bool
  | single d, c => c == d
  | range first last, c => first ≤ c && c ≤ last
  | digits, c => isDigit c
  | blanks, c => isBlank c
  | wordChars, c => isWordChar c
  | tables ts, c => ts.any (·.contains c)
  | all, _ => true
  | union a b, c => a.contains c || b.contains c
  | inter a b, c => a.contains c && b.contains c
  | diff a b, c => a.contains c && !b.contains c
  | symmDiff a b, c => a.contains c != b.contains c
  | compl a, c => !a.contains c
  | anyCase a, c => (Unicode.caseVariants c).any a.contains

/-- The set without members. -/
def none : CharSet := compl all

/-- The union of a list of sets. -/
def unions : List CharSet → CharSet
  | [] => none
  | [s] => s
  | s :: ss => union s (unions ss)

/-- Ignore case if asked to. -/
def foldedIf (fold : Bool) (s : CharSet) : CharSet := if fold then anyCase s else s

/-- Complement if asked to. -/
def negatedIf (negated : Bool) (s : CharSet) : CharSet := if negated then compl s else s

/-- Every character but the line feed. -/
def notNewline : CharSet := compl (single '\n')

/-- The digits of hexadecimal numbers. -/
def hexDigits : CharSet := unions [range '0' '9', range 'A' 'F', range 'a' 'f']

/-- The ASCII classes that are written by name between colons. -/
def ascii? : String → Option CharSet
  | "alnum" => some (unions [range '0' '9', range 'A' 'Z', range 'a' 'z'])
  | "alpha" => some (unions [range 'A' 'Z', range 'a' 'z'])
  | "ascii" => some (range '\x00' '\x7F')
  | "blank" => some (unions [single '\t', single ' '])
  | "cntrl" => some (unions [range '\x00' '\x1F', single '\x7F'])
  | "digit" => some (range '0' '9')
  | "graph" => some (range '!' '~')
  | "lower" => some (range 'a' 'z')
  | "print" => some (range ' ' '~')
  | "punct" => some (unions [range '!' '/', range ':' '@', range '[' (Char.ofNat 0x60),
      range (Char.ofNat 0x7B) '~'])
  | "space" => some (unions [range '\t' '\r', single ' '])
  | "upper" => some (range 'A' 'Z')
  | "word" => some (unions [range '0' '9', range 'A' 'Z', single '_', range 'a' 'z'])
  | "xdigit" => some hexDigits
  | _ => Option.none

/-! ### Sets that Unicode names -/

/-- Names are compared without blanks, dashes and low lines, in small letters, without characters
beyond ASCII and without a leading `is`. -/
def looseName (name : List Char) : String :=
  let lower := name.map Char.toLower
  let (stripped, rest) := match lower with
    | 'i' :: 's' :: rest => (true, rest)
    | _ => (false, lower)
  let kept := rest.filter fun c => c.toNat < 0x80 && c != ' ' && c != '_' && c != '-'
  if stripped && kept == ['c'] then "isc" else String.ofList kept

/-- The sets made of general categories, with the three that are not in the tables. -/
def category? (name : String) : Option CharSet :=
  match name with
  | "any" => some all
  | "assigned" => some (compl (tables [Unicode.Category.unassigned]))
  | "ascii" => some (range '\x00' '\x7F')
  | _ => (Unicode.category? name).map tables

/-- The characters that a script is written with: those that belong to it, and those that it shares
with others. What is shared by named scripts is neither common nor inherited. -/
def extendedScript (s : Unicode.Script) : CharSet :=
  if s.names.contains "common" || s.names.contains "inherited" then
    diff (tables [s.chars]) (tables (Unicode.scripts.map (·.shared)))
  else tables [s.chars, s.shared]

/-- The set of a name that may be that of a property, a general category or a script. -/
def anyNamed? (name : String) : Option CharSet :=
  match Unicode.property? name with
  | some t => some (tables [t])
  | Option.none => (category? name).or ((Unicode.script? name).map fun s => tables [s.chars])

/-- The set of a property with a value. -/
def valued? (property value : String) : Option CharSet :=
  let table (t : Unicode.Ranges) : CharSet := tables [t]
  match property with
  | "gc" | "generalcategory" => category? value
  | "sc" | "script" => (Unicode.script? value).map fun s => table s.chars
  | "scx" | "scriptextensions" => (Unicode.script? value).map extendedScript
  | "age" => (Unicode.age? value).map tables
  | "gcb" | "graphemeclusterbreak" => (Unicode.graphemeBreak? value).map table
  | "wb" | "wordbreak" => (Unicode.wordBreak? value).map table
  | "sb" | "sentencebreak" => (Unicode.sentenceBreak? value).map table
  | _ => Option.none

/-- The set that is written between braces after `\p`: a name, or a property and its value joined by
`!=`, `:` or `=`, which all say the same. -/
def named? (text : List Char) : Option CharSet :=
  match splitOnce? ['!', '='] text, splitOnce? [':'] text, splitOnce? ['='] text with
  | some (property, value), _, _ | _, some (property, value), _ | _, _, some (property, value) =>
    valued? (looseName property) (looseName value)
  | _, _, _ => anyNamed? (looseName text)

end CharSet

end Listfile.Regex
