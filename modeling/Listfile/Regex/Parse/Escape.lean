import Listfile.Regex.Parse.Quantifier
import Listfile.Unicode.Later

/-!
# Escapes

* `GroupTable`: the groups that have been opened and closed so far.
* `groupReference`: a group that is referred to by its name, its number or its distance.
* `escape`: what a backslash and the characters behind it stand for.
-/

namespace Listfile.Regex

/-! ### Groups -/

/-- What is known of the groups at some place of a pattern. -/
structure GroupTable where
  /-- How many groups have been opened. -/
  opened : Nat
  /-- The names of groups with their numbers, the latest first. -/
  names : List (List Char × Nat)
  /-- The sizes of the groups that have been closed. -/
  sizes : List (Nat × Size)

namespace GroupTable

/-- No group has been opened. -/
def start : GroupTable := ⟨0, [], []⟩

/-- A reference to the text of a group. -/
def sameAs (g : GroupTable) (fold : Bool) (i : Nat) : Expr :=
  .sameAs i fold ((g.sizes.lookup i).getD .unknown)

end GroupTable

/-- May the character stand in the name of a group? -/
def isNameChar (c : Char) : Bool :=
  if c.toNat < 0x80 then c.isAlphanum || c == '_'
  else
    Unicode.Property.alphabetic.contains c || Unicode.numbers.any (·.contains c) ||
      Unicode.laterLettersAndNumbers.contains c

/-- A name up to the closing character. -/
def name? (close : Char) (cs : List Char) : Option (List Char × List Char) :=
  match cs.span isNameChar with
  | ([], _) => none
  | (name, c :: rest) => if c = close then some (name, rest) else none
  | (_, []) => none

/-- The group at a distance: `+1` is the next one to be opened and `-1` the latest. -/
def relativeGroup (opened : Nat) (back : Bool) (distance : Nat) : Nat :=
  if back then opened + 1 - distance else opened + distance

/-- A distance at the front of a text. -/
def distance? (opened : Nat) : List Char → Option (Nat × List Char)
  | '+' :: cs => (number? cs).map fun p => (relativeGroup opened false p.1, p.2)
  | '-' :: cs => (number? cs).map fun p =>
    (if p.1 = 0 then opened else relativeGroup opened true p.1, p.2)
  | _ => none

/-- The number of the group that a name, or a number in the place of a name, refers to. -/
def GroupTable.lookup (g : GroupTable) (name : List Char) : Option Nat :=
  match g.names.lookup name with
  | some i => some i
  | none => if name.all Char.isDigit then some (natOfDigits 10 name) else none

/-- A reference up to the closing character: a name, a number or, if allowed, a distance. -/
def groupReference (g : GroupTable) (relative : Bool) (close : Char) (cs : List Char) :
    Except Fault (Nat × List Char) :=
  match name? close cs with
  | some (name, rest) =>
    match g.lookup name with
    | some i => .ok (i, rest)
    | none => .error .badGroupName
  | none =>
    match if relative then distance? g.opened cs else none with
    | some (i, c :: rest) => if c = close then .ok (i, rest) else .error .badGroupName
    | _ => .error .badGroupName

/-! ### Characters -/

/-- The hexadecimal digits up to a closing brace, with what does not belong to the pattern between
them. -/
def bracedDigits? (extended : Bool) : Nat → List Char → Option (List Char × List Char)
  | 0, _ => none
  | fuel + 1, cs =>
    match skipFrom extended .nothing cs with
    | some ('\x7D' :: rest) => some ([], rest)
    | some (c :: rest) =>
      if isDigitOf 16 c then
        (bracedDigits? extended fuel rest).map fun p => (c :: p.1, p.2)
      else none
    | _ => none

/-- A code point: one to eight hexadecimal digits up to a closing brace. -/
def bracedCodePoint? (extended : Bool) (cs : List Char) : Option (Char × List Char) := do
  let (digits, rest) ← bracedDigits? extended (cs.length + 1) cs
  if digits.isEmpty || 8 < digits.length then none
  else (charOfHex? digits).map fun c => (c, rest)

/-- A code point: exactly `count` hexadecimal digits, or any number of them in braces. -/
def codePoint? (extended : Bool) (count : Nat) (cs : List Char) : Option (Char × List Char) := do
  let cs ← skipFrom extended .nothing cs
  if (cs.take count).length = count ∧ (cs.take count).all (isDigitOf 16) then
    (charOfHex? (cs.take count)).map fun c => (c, cs.drop count)
  else match cs with
    | '\x7B' :: cs => bracedCodePoint? extended cs
    | _ => none

/-- The characters with an escape of their own. -/
def controlEscape? : Char → Option Char
  | 'a' => some '\x07'
  | 'b' => some '\x08'
  | 'f' => some '\x0C'
  | 'n' => some '\n'
  | 'r' => some '\r'
  | 't' => some '\t'
  | 'v' => some '\x0B'
  | 'e' => some '\x1B'
  | _ => none

/-! ### Sets -/

/-- The sets with an escape of one letter. -/
def setEscape? : Char → Option CharSet
  | 'd' => some .digits
  | 'D' => some (.compl .digits)
  | 's' => some .blanks
  | 'S' => some (.compl .blanks)
  | 'w' => some .wordChars
  | 'W' => some (.compl .wordChars)
  | _ => none

/-- The name of a set: one character, or what stands in braces. -/
def propertyName : List Char → Except Fault (List Char × List Char)
  | '\x7B' :: cs =>
    match cs.span (· != '\x7D') with
    | (name, _ :: rest) => .ok (name, rest)
    | (_, []) => .error .badEscape
  | c :: cs => .ok ([c], cs)
  | [] => .error .badEscape

/-- The set written after `\p`, or after `\P` for its complement. Case is ignored before the complement
is taken. -/
def propertySet (fold negated : Bool) (cs : List Char) : Except Fault (CharSet × List Char) := do
  let (name, rest) ← propertyName cs
  match CharSet.named? name with
  | some s => return ((s.foldedIf fold).negatedIf negated, rest)
  | none => throw .badEscape

/-! ### Places -/

/-- The end of the text, or a place before line feeds that end it. -/
def beforeLastNewlines : Expr :=
  .look .ahead false
    (.seq (.repeated (.chars (.single '\n')) 0 none true) (.seq (.assertion .textEnd) .empty))

/-- The escapes that match between characters, or otherwise make no sense in a class. -/
def exprEscape? : Char → Option Expr
  | 'A' => some (.assertion .textStart)
  | 'z' => some (.assertion .textEnd)
  | 'Z' => some beforeLastNewlines
  | 'b' => some (.assertion .wordBoundary)
  | 'B' => some (.assertion .notWordBoundary)
  | '<' => some (.assertion .wordStart)
  | '>' => some (.assertion .wordEnd)
  | 'K' => some .keepOut
  | 'G' => some .searchStart
  | 'O' => some (.chars .all)
  | _ => none

/-- The boundaries of words that are written in braces after `\b`. -/
def namedBoundary? (name : List Char) : Option Assertion :=
  match String.ofList name with
  | "start" => some .wordStart
  | "end" => some .wordEnd
  | "start-half" => some .wordStartHalf
  | "end-half" => some .wordEndHalf
  | _ => none

/-- May the character stand in the name of a boundary? -/
def isBoundaryChar (c : Char) : Bool := c.isAlpha || c == '-'

/-- The assertion whose `\b` stands before `cs`. A brace that opens no name is left to what follows. -/
def boundary (cs : List Char) : Except Fault (Assertion × List Char) :=
  match cs with
  | '\x7B' :: rest =>
    match rest.span isBoundaryChar with
    | ([], _) => .ok (.wordBoundary, cs)
    | (name, '\x7D' :: rest) =>
      match namedBoundary? name with
      | some a => .ok (a, rest)
      | none => .error .badEscape
    | _ => .error .badEscape
  | _ => .ok (.wordBoundary, cs)

/-! ### Escapes -/

/-- What an escape stands for. -/
inductive Escaped
  | char (c : Char) (fold : Bool)
  | set (s : CharSet)
  /-- The digits of hexadecimal numbers, or all other characters. -/
  | hexDigits (negated : Bool)
  | reference (group : Nat) (numbered : Bool)
  | other (e : Expr)

/-- A reference after `\k`. -/
def namedReference (g : GroupTable) : List Char → Except Fault (Nat × List Char)
  | '\'' :: cs => groupReference g true '\'' cs
  | '<' :: cs => groupReference g true '>' cs
  | _ => .error .badGroupName

/-- What the escape whose backslash stands before `cs` means, inside or outside a class. -/
def escape (flags : Flags) (g : GroupTable) (inClass : Bool) :
    List Char → Except Fault (Escaped × List Char)
  | [] => .error .trailingBackslash
  | c :: cs =>
    if c.isDigit then
      match number? (c :: cs) with
      | some (i, rest) => .ok (.reference i true, rest)
      | none => .error .badReference
    else if c = 'k' && !inClass then do
      let (i, rest) ← namedReference g cs
      return (.reference i false, rest)
    else if c = 'b' && !inClass then do
      let (a, rest) ← boundary cs
      return (.other (.assertion a), rest)
    else if c = 'B' && !inClass && cs.head? = some '\x7B' then .error .badEscape
    else match if inClass then none else exprEscape? c with
      | some e => .ok (.other e, cs)
      | none =>
        match setEscape? c with
        | some s => .ok (.set s, cs)
        | none =>
          if c = 'h' || c = 'H' then .ok (.hexDigits (c = 'H'), cs)
          else if c = 'x' || c = 'u' || c = 'U' then
            let count := if c = 'x' then 2 else if c = 'u' then 4 else 8
            match codePoint? flags.extended count cs with
            | some (d, rest) => .ok (.char d flags.fold, rest)
            | none => .error .badEscape
          else if c = 'p' || c = 'P' then do
            let (s, rest) ← propertySet flags.fold (c = 'P') cs
            return (.set s, rest)
          else match controlEscape? c with
            | some d => .ok (.char d false, cs)
            | none =>
              if c.isAlpha && !(inClass && ['k', 'A', 'z', 'B', 'K', 'G'].contains c) then
                .error .badEscape
              else .ok (.char c false, cs)

end Listfile.Regex
