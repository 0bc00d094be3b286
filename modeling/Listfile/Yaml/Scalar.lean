import Listfile.Text.Digits
import Listfile.Yaml.Token

/-!
# Scalars

How the text of a scalar is read in each of the styles.

* `readPlain`, `readQuoted`, `readBlock`: the text of a plain, quoted and block scalar, and the place
  behind it.
-/

namespace Listfile.Yaml

/-! ### Blanks between words -/

/-- The blanks and line breaks between two words of a scalar. -/
structure Gap where
  spaces : List Char
  /-- The first line break, empty if it was escaped or did not occur. -/
  first : List Char
  more : List Char
  /-- Has there been a line break? -/
  broken : Bool
deriving Inhabited

namespace Gap

/-- Nothing yet. -/
def empty : Gap := ⟨[], [], [], false⟩

/-- Behind an escaped line break. -/
def escaped : Gap := ⟨[], [], [], true⟩

/-- The text that stands for the gap: a single line break is folded into a space, and of several the
first is dropped. -/
def text (g : Gap) : List Char :=
  if !g.broken then g.spaces
  else if g.first = ['\n'] then (if g.more.isEmpty then [' '] else g.more)
  else g.first ++ g.more

end Gap

/-- Read the blanks and line breaks of a gap. In a plain scalar that is indented by `indent`, a tab must
not stand in the indentation. -/
def readGap (indent : Option Nat) : Nat → Gap → Reader → Except Fault (Gap × Reader)
  | 0, g, r => .ok (g, r)
  | fuel + 1, g, r =>
    match r.rest with
    | c :: _ =>
      if isSpace c then
        if g.broken then
          if c == '\t' && indent.any (r.column < ·) then .error .badIndentation
          else readGap indent fuel g (r.skip 1)
        else readGap indent fuel { g with spaces := g.spaces ++ [c] } (r.skip 1)
      else if isBreak c then
        let (b, r) := r.takeBreak
        readGap indent fuel
          (if g.broken then { g with more := g.more ++ b } else ⟨[], b, [], true⟩) r
      else .ok (g, r)
    | [] => .ok (g, r)

/-! ### Plain scalars -/

/-- The characters that end a word within flow collections. -/
def isFlowEnd (c : Char) : Bool :=
  c == ',' || c == '[' || c == ']' || c == '\x7B' || c == '\x7D'

/-- The word of a plain scalar at the front of a text. -/
def plainWord (flow : Bool) : List Char → Except Fault (List Char)
  | [] => .ok []
  | c :: cs =>
    if isSpace c || isBreak c then .ok []
    else if flow && c == ':' && cs.head?.any (fun d => isFlowEnd d || d == '?') then
      .error .colonInFlow
    else if (c == ':' && blankAt 0 cs) || (flow && isFlowEnd c) then .ok []
    else do return c :: (← plainWord flow cs)

/-- Read the words of a plain scalar; `text` holds those before the gap. The result tells whether the
scalar was followed by a line break. -/
def readWords (flow : Bool) (indent : Nat) :
    Nat → List Char → Gap → Reader → Except Fault (List Char × Bool × Reader)
  | 0, text, g, r => .ok (text, g.broken, r)
  | fuel + 1, text, g, r => do
    if r.atMarker || r.rest.head? == some '#' then return (text, g.broken, r)
    let word ← plainWord flow r.rest
    if word.isEmpty then return (text, g.broken, r)
    let text := text ++ g.text ++ word
    let r := r.skip word.length
    if !r.rest.head?.any (fun c => isSpace c || isBreak c) then return (text, false, r)
    let (g, r) ← readGap (some indent) r.rest.length .empty r
    if !flow && r.column < indent then return (text, g.broken, r)
    readWords flow indent fuel text g r

/-- Read a plain scalar. Outside flow collections its lines are indented by `indent` at least. -/
def readPlain (flow : Bool) (indent : Nat) (r : Reader) :
    Except Fault (List Char × Bool × Reader) :=
  readWords flow indent (r.rest.length + 1) [] .empty r

/-! ### Quoted scalars -/

/-- The character whose number is given by exactly `n` hexadecimal digits. -/
def codePoint? (n : Nat) (cs : List Char) : Option Char :=
  if n ≤ cs.length then charOfHex? (cs.take n) else none

/-- The escapes that stand for a character by themselves. -/
def simpleEscape? : Char → Option Char
  | '0' => some '\x00'
  | 'a' => some '\x07'
  | 'b' => some '\x08'
  | 't' | '\t' => some '\t'
  | 'n' => some '\n'
  | 'v' => some '\x0B'
  | 'f' => some '\x0C'
  | 'r' => some '\r'
  | 'e' => some '\x1B'
  | ' ' => some ' '
  | '"' => some '"'
  | '/' => some '/'
  | '\\' => some '\\'
  | 'N' => some '\u0085'
  | '_' => some '\u00A0'
  | 'L' => some '\u2028'
  | 'P' => some '\u2029'
  | _ => none

/-- The character that an escape stands for, and how many characters are written behind the
backslash. -/
def readEscape : List Char → Except Fault (Char × Nat)
  | [] => .error .badEscape
  | c :: cs =>
    match simpleEscape? c with
    | some d => .ok (d, 1)
    | none =>
      let digits := if c == 'x' then 2 else if c == 'u' then 4 else if c == 'U' then 8 else 0
      match if digits = 0 then none else codePoint? digits cs with
      | some d => .ok (d, digits + 1)
      | none => .error .badEscape

/-- Read a quoted scalar behind its opening quote; `text` holds what has been read, newest first. -/
def readQuotedFrom (single : Bool) : Nat → List Char → Reader → Except Fault (List Char × Reader)
  | 0, _, _ => .error .unclosedQuote
  | fuel + 1, text, r => do
    if r.atMarker then throw .documentMarker
    match single, r.rest with
    | _, [] => throw .unclosedQuote
    | true, '\'' :: '\'' :: _ => readQuotedFrom single fuel ('\'' :: text) (r.skip 2)
    | true, '\'' :: _ => return (text.reverse, r.skip 1)
    | false, '"' :: _ => return (text.reverse, r.skip 1)
    | false, '\\' :: c :: cs =>
      if isBreak c then
        let (g, r) ← readGap none r.rest.length .escaped (r.skip 1).takeBreak.2
        readQuotedFrom single fuel (g.text.reverse ++ text) r
      else
        let (d, n) ← readEscape (c :: cs)
        readQuotedFrom single fuel (d :: text) (r.skip (n + 1))
    | _, c :: _ =>
      if isSpace c || isBreak c then
        let (g, r) ← readGap none r.rest.length .empty r
        readQuotedFrom single fuel (g.text.reverse ++ text) r
      else readQuotedFrom single fuel (c :: text) (r.skip 1)

/-- Read a quoted scalar at its opening quote. -/
def readQuoted (single : Bool) (r : Reader) : Except Fault (List Char × Reader) :=
  readQuotedFrom single (r.rest.length + 1) [] (r.skip 1)

/-! ### Block scalars -/

/-- What becomes of the line breaks at the end of a block scalar. -/
inductive Chomping
  | strip
  | clip
  | keep
deriving DecidableEq

/-- The header of a block scalar: chomping and indentation indicators in any order. -/
def blockHeader (cs : List Char) : Except Fault (Chomping × Option Nat × Nat) :=
  let chomp? : Char → Option Chomping
    | '+' => some .keep
    | '-' => some .strip
    | _ => none
  let digit? (c : Char) : Option Nat := if c.isDigit then digitValue? c else none
  let checked (r : Chomping × Option Nat × Nat) : Except Fault (Chomping × Option Nat × Nat) :=
    if r.2.1 = some 0 then .error .badBlockHeader else .ok r
  match cs with
  | c :: rest =>
    match chomp? c, digit? c with
    | some chomping, _ =>
      match rest.head?.bind digit? with
      | some n => checked (chomping, some n, 2)
      | none => .ok (chomping, none, 1)
    | _, some n =>
      match rest.head?.bind chomp? with
      | some chomping => checked (chomping, some n, 2)
      | none => checked (.clip, some n, 1)
    | _, _ => .ok (.clip, none, 0)
  | [] => .ok (.clip, none, 0)

/-- Read the indentation and the empty lines before a line of a block scalar. Without a known indentation,
`widest` is the greatest column reached. The result holds the breaks read. -/
def readBlockGap (indent : Option Nat) :
    Nat → (widest : Nat) → List Char → Reader → Except Fault (Nat × List Char × Reader)
  | 0, widest, breaks, r => .ok (widest, breaks, r)
  | fuel + 1, widest, breaks, r =>
    let indenting (column : Nat) := indent.all (column < ·)
    match r.rest with
    | c :: _ =>
      if c == ' ' && indenting r.column then
        readBlockGap indent fuel (max widest (r.column + 1)) breaks (r.skip 1)
      else if c == '\t' && indenting r.column then .error .badIndentation
      else if isBreak c then
        let (b, r) := r.takeBreak
        readBlockGap indent fuel widest (breaks ++ b) r
      else .ok (widest, breaks, r)
    | [] => .ok (widest, breaks, r)

/-- Read the lines of a block scalar that is indented by `indent`. `breaks` are the line breaks before the
line: the one that ended the line before, and those of empty lines. -/
def readBlockLines (folded : Bool) (indent : Nat) : Nat → (text : List Char) →
    (first more : List Char) → (afterBlank : Bool) → Reader →
    Except Fault (List Char × List Char × List Char × Reader)
  | 0, text, first, more, _, r => .ok (text, first, more, r)
  | fuel + 1, text, first, more, afterBlank, r => do
    if r.column ≠ indent || r.rest.isEmpty then return (text, first, more, r)
    let blank := r.rest.head?.any isSpace
    let joint :=
      if folded && first == ['\n'] && !afterBlank && !blank then
        if more.isEmpty then [' '] else []
      else first
    let (line, r) := r.takeWhile (!isBreak ·)
    let (first, r) := r.takeBreak
    let text := text ++ joint ++ more ++ line
    let (_, more, r) ← readBlockGap (some indent) (r.rest.length + 1) 0 [] r
    readBlockLines folded indent fuel text first more blank r

/-- Read a block scalar at its indicator, within a block that is indented by `outer`, or by nothing at
the top. -/
def readBlock (folded : Bool) (outer : Option Nat) (r : Reader) :
    Except Fault (List Char × Reader) := do
  let r := r.skip 1
  let (chomping, increment, n) ← blockHeader r.rest
  let r := (r.skip n).skipWhile isSpace
  let r := if r.rest.head? == some '#' then r.skipToBreak else r
  if !blankAt 0 r.rest then throw .badBlockHeader
  let r := r.takeBreak.2
  let given := increment.map fun n => outer.getD 0 + n
  let (widest, more, r) ← readBlockGap given (r.rest.length + 1) 0 [] r
  let least := (outer.map (· + 1)).getD 0
  let indent := given.getD (max (max widest least) 1)
  let (text, first, more, r) ← readBlockLines folded indent (r.rest.length + 1) [] [] more false r
  let text := if chomping = .strip then text else text ++ first
  return (if chomping = .keep then text ++ more else text, r)

end Listfile.Yaml
